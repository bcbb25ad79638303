import CrawlAudit.Proofs.SampledLinks

/-!
# The ranking of domains

The domains that are listed are the first ones of the list of all domains with a follow link,
strictly ordered by their counts and by the positions of their first links, each described by
exactly its links.
-/

namespace CrawlAudit.Outlink

open Std

/-- The distinct pairs of a source and a url among the follow links. -/
def followPairs (links : List Outlink) : Finset (Int64 × String) :=
  ((links.filter isFollow).map fun link => (link.source, link.url)).toFinset

/-- More distinct follow links come first, then more follow links. -/
def countOrder (domain? : Outlink → Option String) (links : List Outlink) (d e : String) :
    Ordering :=
  (Order.integers (followPairs (linksOf domain? links e)).card
    (followPairs (linksOf domain? links d)).card).then
  (Order.integers ((linksOf domain? links e).filter isFollow).length
    ((linksOf domain? links d).filter isFollow).length)

/-- The order by the counts, ties by the positions of the first links. -/
def domainOrder (domain? : Outlink → Option String) (links : List Outlink) :
    String → String → Ordering :=
  compareLex (countOrder domain? links)
    fun d e => Order.integers (firstPosition domain? links d) (firstPosition domain? links e)

/-- The order of entries by their domains. -/
def entryOrder (domain? : Outlink → Option String) (links : List Outlink)
    (e f : RankedDomain Int64) : Ordering :=
  domainOrder domain? links e.2.domain f.2.domain

/-- An entry counts and samples exactly some links: those that are to be followed and the others,
with repetitions, and of the former also the distinct pairs of a source and a url. -/
structure DescribesLinks (links : List Outlink) (sampling : Sampling)
    (entry : RankedDomain Int64) : Prop where
  count : entry.1 = (followPairs links).card
  uniqueFollow : entry.2.uniqueFollow = (followPairs links).card
  follow : entry.2.follow = (links.filter isFollow).length
  nofollow : entry.2.nofollow = (links.filter fun link => !link.isFollow).length
  followSample : IsSample (links.filter isFollow) sampling entry.2.followSample
  nofollowSample :
    IsSample (links.filter fun link => !link.isFollow) sampling entry.2.nofollowSample

/-- Each domain with a follow link has one entry, which describes exactly the links of the domain,
and the entries are in order. -/
structure ListsDomains (domain? : Outlink → Option String) (links : List Outlink)
    (sampling : Sampling) (entries : List (RankedDomain Int64)) : Prop where
  mem_iff : ∀ domain, domain ∈ entries.map (fun e => e.2.domain) ↔
    ∃ link ∈ links, domain? link = some domain ∧ link.isFollow = true
  nodup : (entries.map fun e => e.2.domain).Nodup
  describes : ∀ e ∈ entries, DescribesLinks (linksOf domain? links e.2.domain) sampling e
  ordered : entries.Pairwise fun e f => entryOrder domain? links e f = .lt

/-- The domains with a follow link. -/
def followed (domain? : Outlink → Option String) (links : List Outlink) : List String :=
  (domainsOf domain? links).filter fun d => (linksOf domain? links d).any isFollow

/-- The domains with a follow link in the order in which they are listed. -/
def rankedDomains (domain? : Outlink → Option String) (links : List Outlink) : List String :=
  Order.sort (domainOrder domain? links) (followed domain? links)

/-- The entry that is listed for a domain. -/
def listedEntry (domain? : Outlink → Option String) (links : List Outlink) (sampling : Sampling)
    (domain : String) : RankedDomain Int64 :=
  ((followPairs (linksOf domain? links domain)).card,
    describe domain (linksOf domain? links domain) sampling)

section

variable (domain? : Outlink → Option String)

instance : TransCmp rankOrder :=
  Order.transCmp_then (fun m n => Order.integers n m) (fun m n => Order.integers n m)
    (fun a : RankedDomain Int64 => (a.1 : Int)) fun a => (a.2.follow : Int)

theorem uniqueFollow_describe (domain : String) (links : List Outlink) (sampling : Sampling) :
    (describe domain links sampling).uniqueFollow = (followPairs links).card := by
  rw [describe, uniqueCount, Distinct.length_eraseDups]
  rfl

theorem follow_describe_pos (domain : String) (links : List Outlink) (sampling : Sampling) :
    0 < (describe domain links sampling).follow ↔ links.any isFollow = true := by
  rw [describe, List.length_pos_iff, ne_eq, List.filter_eq_nil_iff, List.any_eq_true]
  simp

theorem ranked_eq (links : List Outlink) (sampling : Sampling) :
    (((groupByDomain domain? links).map fun g => describe g.1 g.2 sampling).filter
        fun stats => 0 < stats.follow).map (fun stats => (stats.uniqueFollow, stats)) =
      (followed domain? links).map (listedEntry domain? links sampling) := by
  rw [groupByDomain_eq, List.map_map, List.filter_map, List.map_map, followed]
  have hfilter : (domainsOf domain? links).filter
        ((fun stats : DomainStats Int64 => decide (0 < stats.follow)) ∘
          (fun g => describe g.1 g.2 sampling) ∘ fun d => (d, linksOf domain? links d)) =
      (domainsOf domain? links).filter fun d => (linksOf domain? links d).any isFollow :=
    List.filter_congr fun d _ => by
      rw [Bool.eq_iff_iff, ← follow_describe_pos d _ sampling]
      exact decide_eq_true_iff
  rw [hfilter]
  refine List.map_congr_left fun d _ => ?_
  rw [listedEntry, ← uniqueFollow_describe d _ sampling]
  rfl

theorem pairwise_followed (links : List Outlink) :
    (followed domain? links).Pairwise fun d e =>
      Order.integers (firstPosition domain? links d) (firstPosition domain? links e) = .lt :=
  ((pairwise_firstPosition domain? links).filter _).imp fun hlt =>
    Order.integers_eq_lt.mpr (Int.ofNat_lt.mpr hlt)

theorem mem_followed {links : List Outlink} {domain : String} :
    domain ∈ followed domain? links ↔
      ∃ link ∈ links, domain? link = some domain ∧ link.isFollow = true := by
  rw [followed, List.mem_filter, mem_domainsOf, List.any_eq_true]
  simp only [linksOf, List.mem_filter, decide_eq_true_eq]
  constructor
  · rintro ⟨-, link, ⟨hlink, hdomain⟩, hfollow⟩
    exact ⟨link, hlink, hdomain, hfollow⟩
  · rintro ⟨link, hlink, hdomain, hfollow⟩
    exact ⟨⟨link, hlink, hdomain⟩, link, ⟨hlink, hdomain⟩, hfollow⟩

theorem nodup_followed (links : List Outlink) : (followed domain? links).Nodup :=
  (nodup_domainsOf domain? links).filter _

theorem countOrder_eq (links : List Outlink) (sampling : Sampling) :
    countOrder domain? links = fun d e =>
      rankOrder (listedEntry domain? links sampling d) (listedEntry domain? links sampling e) :=
  rfl

instance (links : List Outlink) : TransCmp (countOrder domain? links) :=
  Order.transCmp_on rankOrder (listedEntry domain? links ⟨0, 0⟩)

instance (links : List Outlink) : TransCmp (domainOrder domain? links) := by
  have hposition := Order.transCmp_on Order.integers
    fun d => (firstPosition domain? links d : Int)
  exact inferInstanceAs (TransCmp (compareLex (countOrder domain? links) _))

instance (links : List Outlink) : TransCmp (entryOrder domain? links) :=
  Order.transCmp_on (domainOrder domain? links) fun e : RankedDomain Int64 => e.2.domain

theorem pairwise_sort_countOrder (links : List Outlink) :
    (Order.sort (countOrder domain? links) (followed domain? links)).Pairwise
      fun d e => domainOrder domain? links d e = .lt :=
  Order.pairwise_sort_compareLex (pairwise_followed domain? links)

theorem sort_countOrder (links : List Outlink) :
    Order.sort (countOrder domain? links) (followed domain? links) =
      rankedDomains domain? links :=
  (Order.sort_eq_of_pairwise (pairwise_sort_countOrder domain? links) (Order.perm_sort _ _)).symm

theorem nodup_rankedDomains (links : List Outlink) : (rankedDomains domain? links).Nodup :=
  (Order.perm_sort _ _).nodup_iff.mpr (nodup_followed domain? links)

theorem mem_rankedDomains {links : List Outlink} {domain : String} :
    domain ∈ rankedDomains domain? links ↔ domain ∈ followed domain? links :=
  Order.mem_sort

theorem topDomains_eq_take (links : List Outlink) (n : Nat) (sampling : Sampling) :
    topDomains domain? links n sampling =
      ((rankedDomains domain? links).map (listedEntry domain? links sampling)).take n := by
  rw [topDomains, ranked_eq, Order.sort_map, ← countOrder_eq, sort_countOrder]

theorem describesLinks_describe (domain : String) (links : List Outlink) (sampling : Sampling) :
    DescribesLinks links sampling ((followPairs links).card, describe domain links sampling) where
  count := rfl
  uniqueFollow := uniqueFollow_describe domain links sampling
  follow := rfl
  nofollow := rfl
  followSample := isSample_sampleDestinations _ sampling
  nofollowSample := isSample_sampleDestinations _ sampling

theorem DescribesLinks.eq {links : List Outlink} {sampling : Sampling} {e f : RankedDomain Int64}
    (he : DescribesLinks links sampling e) (hf : DescribesLinks links sampling f)
    (hdomain : e.2.domain = f.2.domain) : e = f := by
  have hfollowSample := he.followSample.eq hf.followSample
  have hnofollowSample := he.nofollowSample.eq hf.nofollowSample
  have hcount := he.count.trans hf.count.symm
  have huniqueFollow := he.uniqueFollow.trans hf.uniqueFollow.symm
  have hfollow := he.follow.trans hf.follow.symm
  have hnofollow := he.nofollow.trans hf.nofollow.symm
  obtain ⟨_, _, _, _, _, _, _⟩ := e
  obtain ⟨_, _, _, _, _, _, _⟩ := f
  simp_all

theorem map_domain_listedEntry (links : List Outlink) (sampling : Sampling)
    (domains : List String) :
    (domains.map (listedEntry domain? links sampling)).map (fun e => e.2.domain) = domains := by
  rw [List.map_map]
  exact List.map_id domains

theorem listsDomains_rankedDomains (links : List Outlink) (sampling : Sampling) :
    ListsDomains domain? links sampling
      ((rankedDomains domain? links).map (listedEntry domain? links sampling)) := by
  constructor
  case mem_iff =>
    intro domain
    rw [map_domain_listedEntry, mem_rankedDomains, mem_followed]
  case nodup =>
    rw [map_domain_listedEntry]
    exact nodup_rankedDomains domain? links
  case describes =>
    rw [List.forall_mem_map]
    intro domain _
    exact describesLinks_describe domain _ sampling
  case ordered =>
    rw [List.pairwise_map, ← sort_countOrder]
    exact pairwise_sort_countOrder domain? links

variable {domain?}

theorem ListsDomains.subset {links : List Outlink} {sampling : Sampling}
    {es fs : List (RankedDomain Int64)} (hes : ListsDomains domain? links sampling es)
    (hfs : ListsDomains domain? links sampling fs) : es ⊆ fs := by
  intro e he
  have hdomain : e.2.domain ∈ fs.map fun f => f.2.domain :=
    (hfs.mem_iff _).mpr ((hes.mem_iff _).mp (List.mem_map_of_mem he))
  obtain ⟨f, hf, hfe⟩ := List.mem_map.mp hdomain
  have hdescribes := hfs.describes f hf
  rw [hfe] at hdescribes
  rwa [(hes.describes e he).eq hdescribes hfe.symm]

/-- There is one such list. -/
theorem ListsDomains.eq {links : List Outlink} {sampling : Sampling}
    {es fs : List (RankedDomain Int64)} (hes : ListsDomains domain? links sampling es)
    (hfs : ListsDomains domain? links sampling fs) : es = fs :=
  Order.eq_of_mem_iff (entryOrder domain? links) hes.ordered hfs.ordered fun _ =>
    ⟨fun he => hes.subset hfs he, fun hf => hfs.subset hes hf⟩

variable (domain?)

theorem perm_flatMap_domainsOf (links : List Outlink) :
    ((domainsOf domain? links).flatMap (linksOf domain? links)).Perm
      (links.filter fun link => (domain? link).isSome) := by
  refine (perm_flatMap_linksOf domain? links (nodup_domainsOf domain? links)).trans (.of_eq ?_)
  refine List.filter_congr fun link hlink => ?_
  cases hdomain : domain? link with
  | none => rfl
  | some d =>
      have hmem : d ∈ domainsOf domain? links :=
        (mem_domainsOf domain?).mpr ⟨link, hlink, hdomain⟩
      simp [hmem]

/-- The listed entries are the front of the one list of all domains with a follow link, which counts
every link of such a domain in that domain alone. No domain is listed twice, and every link with a
domain is one of those of its domain. -/
theorem topDomains_eq (links : List Outlink) (n : Nat) (sampling : Sampling) :
    (∃! entries, ListsDomains domain? links sampling entries) ∧
      (∀ entries, ListsDomains domain? links sampling entries →
        topDomains domain? links n sampling = entries.take n ∧
          ((entries.map fun e => e.2.domain).flatMap (linksOf domain? links)).Perm
            (links.filter fun link =>
              (domain? link).any (· ∈ entries.map fun e => e.2.domain))) ∧
      ((topDomains domain? links n sampling).map fun e => e.2.domain).Nodup ∧
      ((domainsOf domain? links).flatMap (linksOf domain? links)).Perm
        (links.filter fun link => (domain? link).isSome) := by
  have hlists := listsDomains_rankedDomains domain? links sampling
  refine ⟨⟨_, hlists, fun entries h => h.eq hlists⟩, fun entries h => ⟨?_, ?_⟩, ?_,
    perm_flatMap_domainsOf domain? links⟩
  · rw [topDomains_eq_take, h.eq hlists]
  · exact perm_flatMap_linksOf domain? links h.nodup
  · rw [topDomains_eq_take, List.map_take]
    exact hlists.nodup.sublist (List.take_sublist _ _)

/-- Two hosts with equally many distinct follow links, a third one that is cut, one without a follow
link, and a link without a host. -/
theorem topDomains_eq_of_ties :
    let link (source follow : Int64) (url : String) : Outlink := ⟨source, "a", follow, -1, url⟩
    let links := [link 1 1 "git://d.test/", link 1 0 "git://a.test/", link 2 0 "git://a.test/",
      link 1 0 "git://b.test/", link 1 4 "git://b.test/", link 2 0 "git://b.test/x",
      link 3 1 "git://b.test/", link 1 0 "/local", link 5 0 "git://c.test/"]
    let listed : List (RankedDomain Int64) :=
      [(2, ⟨"b.test", 3, 1, 2, [⟨"git://b.test/", 1, [1]⟩], [⟨"git://b.test/", 1, [3]⟩]⟩),
        (2, ⟨"a.test", 2, 0, 2, [⟨"git://a.test/", 2, [1]⟩], []⟩)]
    topDomains fullDomain? links 2 ⟨1, 1⟩ = listed ∧
      ∃ entries, ListsDomains fullDomain? links ⟨1, 1⟩ entries ∧ entries.take 2 = listed := by
  intro link links listed
  have hlisted : topDomains fullDomain? links 2 ⟨1, 1⟩ = listed := by
    simp only [topDomains, describe, sampleDestinations_eq_insertionSort,
      Order.sort_eq_insertionSort]
    decide +kernel
  obtain ⟨⟨entries, hentries, -⟩, htop, -⟩ := topDomains_eq fullDomain? links 2 ⟨1, 1⟩
  exact ⟨hlisted, entries, hentries, (htop entries hentries).1.symm.trans hlisted⟩

end

end CrawlAudit.Outlink
