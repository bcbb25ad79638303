import CrawlAudit.Outlink.Domain
import CrawlAudit.Proofs.DomainRanking

/-!
# Domains on two levels

The follow links to a domain are those to the hosts under it. A url leads to one host, so that also
the distinct links of the hosts add up to those of the domain, and the rankings on both levels
agree.
-/

namespace CrawlAudit.Outlink

/-- The entries of a ranking that lie under a domain. -/
def entriesUnder (parent? : String → Option String) (entries : List (RankedDomain Int64))
    (domain : String) : List (RankedDomain Int64) :=
  entries.filter fun e => parent? e.2.domain = some domain

/-- A ranking one level above another one: its entries are the parents of the entries below, each
of them once, and they count what the entries under them count together. -/
structure AddsUp (parent? : String → Option String)
    (lower upper : List (RankedDomain Int64)) : Prop where
  ne_nil : ∀ e ∈ upper, entriesUnder parent? lower e.2.domain ≠ []
  follow : ∀ e ∈ upper,
    e.2.follow = ((entriesUnder parent? lower e.2.domain).map fun f => f.2.follow).sum
  uniqueFollow : ∀ e ∈ upper,
    e.2.uniqueFollow = ((entriesUnder parent? lower e.2.domain).map fun f => f.2.uniqueFollow).sum
  count : ∀ e ∈ upper, e.1 = ((entriesUnder parent? lower e.2.domain).map fun f => f.1).sum
  parent : ∀ f ∈ lower, ∃ e, (upper.filter fun e => parent? f.2.domain = some e.2.domain) = [e]

section

variable (domain? : Outlink → Option String) (parent? : String → Option String)

/-- The domain of a link one level up. -/
def parentDomain? (link : Outlink) : Option String :=
  (domain? link).bind parent?

/-- The domains with a follow link under a domain. -/
def followedUnder (links : List Outlink) (domain : String) : List String :=
  (followed domain? links).filter fun d => parent? d = some domain

theorem mem_followed_parentDomain? {links : List Outlink} {domain : String} :
    domain ∈ followed (parentDomain? domain? parent?) links ↔
      ∃ d ∈ followed domain? links, parent? d = some domain := by
  simp only [mem_followed, parentDomain?, Option.bind_eq_some_iff]
  constructor
  · rintro ⟨link, hlink, ⟨d, hd, hdomain⟩, hfollow⟩
    exact ⟨d, ⟨link, hlink, hd, hfollow⟩, hdomain⟩
  · rintro ⟨d, ⟨link, hlink, hd, hfollow⟩, hdomain⟩
    exact ⟨link, hlink, ⟨d, hd, hdomain⟩, hfollow⟩

theorem length_followed_parentDomain?_le (links : List Outlink) :
    (followed (parentDomain? domain? parent?) links).length ≤ (followed domain? links).length := by
  have hsub : followed (parentDomain? domain? parent?) links ⊆
      (followed domain? links).filterMap parent? := fun domain hdomain => by
    obtain ⟨d, hd, hparent⟩ := (mem_followed_parentDomain? domain? parent?).mp hdomain
    exact List.mem_filterMap.mpr ⟨d, hd, hparent⟩
  exact ((nodup_followed _ links).subperm hsub).length_le.trans (List.length_filterMap_le _ _)

/-- The follow links to a domain are those to the domains under it. -/
theorem perm_followLinks (links : List Outlink) (domain : String) :
    ((followedUnder domain? parent? links domain).flatMap fun d =>
        (linksOf domain? links d).filter isFollow).Perm
      ((linksOf (parentDomain? domain? parent?) links domain).filter isFollow) := by
  have hnodup : (followedUnder domain? parent? links domain).Nodup :=
    (nodup_followed domain? links).filter _
  have hperm := (perm_flatMap_linksOf domain? links hnodup).filter isFollow
  rw [List.filter_flatMap] at hperm
  refine hperm.trans (.of_eq ?_)
  rw [linksOf, List.filter_filter, List.filter_filter]
  refine List.filter_congr fun link hlink => ?_
  cases hfollow : link.isFollow with
  | false => rfl
  | true =>
      rw [Bool.true_and, Bool.true_and, parentDomain?]
      cases hdomain : domain? link with
      | none => rfl
      | some d =>
          have hmem : d ∈ followed domain? links :=
            (mem_followed domain?).mpr ⟨link, hlink, hdomain, hfollow⟩
          simp [followedUnder, hmem]

theorem length_followLinks (links : List Outlink) (domain : String) :
    ((linksOf (parentDomain? domain? parent?) links domain).filter isFollow).length =
      ((followedUnder domain? parent? links domain).map fun d =>
        ((linksOf domain? links d).filter isFollow).length).sum := by
  rw [← (perm_followLinks domain? parent? links domain).length_eq, List.length_flatMap]

theorem linksOf_filter (p : Outlink → Bool) (links : List Outlink) :
    linksOf domain? (links.filter p) = fun d => (linksOf domain? links d).filter p := by
  funext d
  exact List.filter_comm _ _ links

theorem card_followPairs
    (hurl : ∀ l l' : Outlink, l.url = l'.url → domain? l = domain? l')
    (links : List Outlink) (domain : String) :
    (followPairs (linksOf (parentDomain? domain? parent?) links domain)).card =
      ((followedUnder domain? parent? links domain).map fun d =>
        (followPairs (linksOf domain? links d)).card).sum := by
  have hnodup : (followedUnder domain? parent? links domain).Nodup :=
    (nodup_followed domain? links).filter _
  have hperm := (perm_followLinks domain? parent? links domain).map fun l => (l.source, l.url)
  have hcard := card_pairs_flatMap domain? hurl (links.filter isFollow) hnodup
  rw [linksOf_filter] at hcard
  rw [followPairs, ← List.toFinset_eq_of_perm _ _ hperm, hcard]
  rfl

theorem topDomains_of_length_le {links : List Outlink} {n : Nat}
    (hn : (followed domain? links).length ≤ n) (sampling : Sampling) :
    topDomains domain? links n sampling =
      (rankedDomains domain? links).map (listedEntry domain? links sampling) := by
  rw [topDomains_eq_take]
  refine List.take_of_length_le ?_
  rw [List.length_map, rankedDomains, (Order.perm_sort _ _).length_eq]
  exact hn

theorem filter_rankedDomains {links : List Outlink} {domain : String}
    (h : domain ∈ rankedDomains domain? links) :
    ((rankedDomains domain? links).filter fun d => some domain = some d) = [domain] := by
  have hsame : (fun d => decide (some domain = some d)) = fun d => decide (d = domain) :=
    funext fun d => decide_eq_decide.mpr (Option.some_inj.trans eq_comm)
  rw [hsame, List.filter_eq, List.count_eq_one_of_mem (nodup_rankedDomains domain? links) h]
  rfl

theorem sum_entriesUnder (links : List Outlink) (sampling : Sampling) (domain : String)
    (value : RankedDomain Int64 → Nat) :
    ((entriesUnder parent? ((rankedDomains domain? links).map (listedEntry domain? links sampling))
        domain).map value).sum =
      ((followedUnder domain? parent? links domain).map fun d =>
        value (listedEntry domain? links sampling d)).sum := by
  rw [entriesUnder, List.filter_map, List.map_map]
  exact (((Order.perm_sort _ _).filter _).map _).sum_eq

theorem addsUp_topDomains
    (hurl : ∀ l l' : Outlink, l.url = l'.url → domain? l = domain? l')
    (hparent : ∀ link d, domain? link = some d → ∃ domain, parent? d = some domain)
    {links : List Outlink} {n : Nat} (hn : (followed domain? links).length ≤ n)
    (sampling sampling' : Sampling) :
    AddsUp parent? (topDomains domain? links n sampling)
      (topDomains (parentDomain? domain? parent?) links n sampling') := by
  have hn' := (length_followed_parentDomain?_le domain? parent? links).trans hn
  rw [topDomains_of_length_le domain? hn, topDomains_of_length_le _ hn']
  constructor
  case ne_nil =>
    rw [List.forall_mem_map]
    intro domain hdomain
    obtain ⟨d, hd, heq⟩ := (mem_followed_parentDomain? domain? parent?).mp
      ((mem_rankedDomains _).mp hdomain)
    exact List.ne_nil_of_mem (List.mem_filter.mpr
      ⟨List.mem_map_of_mem ((mem_rankedDomains _).mpr hd), decide_eq_true heq⟩)
  case follow =>
    rw [List.forall_mem_map]
    intro domain _
    rw [sum_entriesUnder]
    exact length_followLinks domain? parent? links domain
  case uniqueFollow =>
    rw [List.forall_mem_map]
    intro domain _
    rw [sum_entriesUnder]
    simp only [listedEntry, uniqueFollow_describe]
    exact card_followPairs domain? parent? hurl links domain
  case count =>
    rw [List.forall_mem_map]
    intro domain _
    rw [sum_entriesUnder]
    exact card_followPairs domain? parent? hurl links domain
  case parent =>
    rw [List.forall_mem_map]
    intro d hd
    have hfollowed := (mem_rankedDomains _).mp hd
    obtain ⟨link, -, hlink, -⟩ := (mem_followed domain?).mp hfollowed
    obtain ⟨domain, hdomain⟩ := hparent link d hlink
    have hmem := (mem_rankedDomains _).mpr
      ((mem_followed_parentDomain? domain? parent?).mpr ⟨d, hfollowed, hdomain⟩)
    refine ⟨listedEntry (parentDomain? domain? parent?) links sampling' domain, ?_⟩
    rw [List.filter_map]
    change ((rankedDomains _ links).filter fun e => parent? d = some e).map _ = _
    rw [hdomain, filter_rankedDomains _ hmem, List.map_singleton]

end

theorem exists_splitOn_reverse {separator : Char} {text : List Char} (h : separator ∈ text) :
    ∃ last second rest, (text.splitOn separator).reverse = last :: second :: rest := by
  obtain ⟨front, back, rfl⟩ := List.append_of_mem h
  obtain ⟨second, firsts, hfront⟩ := List.exists_cons_of_ne_nil
    (List.reverse_ne_nil_iff.mpr (List.splitOn_ne_nil separator front))
  obtain ⟨last, lasts, hback⟩ := List.exists_cons_of_ne_nil
    (List.reverse_ne_nil_iff.mpr (List.splitOn_ne_nil separator back))
  rw [List.splitOn_append_cons_self, List.reverse_append, hback, hfront]
  cases lasts with
  | nil => exact ⟨last, second, firsts, rfl⟩
  | cons piece lasts => exact ⟨last, piece, lasts ++ second :: firsts, rfl⟩

theorem exists_lastTwoLabels? {url host : String} (h : dottedHost? url = some host) :
    ∃ domain, lastTwoLabels? host = some domain := by
  have hdot : '.' ∈ host.toList := by
    simpa using (Option.filter_eq_some_iff.mp h).2
  obtain ⟨last, second, rest, hlabels⟩ := exists_splitOn_reverse hdot
  exact ⟨_, by rw [lastTwoLabels?, hlabels]⟩

/-- The rankings of the whole hosts and of the second level domains agree, if none of them is
cut. -/
theorem addsUp_secondLevel (links : List Outlink) (n : Nat) (sampling sampling' : Sampling)
    (hn : (followed fullDomain? links).length ≤ n) :
    AddsUp lastTwoLabels? (topDomains fullDomain? links n sampling)
      (topDomains secondLevelDomain? links n sampling') :=
  addsUp_topDomains fullDomain? lastTwoLabels? (fun _ _ => congrArg dottedHost?)
    (fun _ _ => exists_lastTwoLabels?) hn sampling sampling'

/-- Two hosts under one domain, with a link that occurs twice, beside a host without a follow link
and a link without a host. -/
theorem addsUp_secondLevel_of_shared_domain :
    let link (source follow : Int64) (url : String) : Outlink := ⟨source, "a", follow, -1, url⟩
    let links := [link 1 0 "git://a.example.org/x", link 1 0 "git://b.example.org/x",
      link 2 4 "git://a.example.org/x", link 1 0 "git://a.example.org/x",
      link 3 1 "git://c.example.org/", link 3 0 "git://other.test/", link 3 0 "/local"]
    let full := topDomains fullDomain? links 3 ⟨1, 1⟩
    let second := topDomains secondLevelDomain? links 3 ⟨1, 1⟩
    let counts := fun e : RankedDomain Int64 => (e.2.domain, e.2.follow, e.2.uniqueFollow)
    full.map counts = [("a.example.org", 3, 2), ("b.example.org", 1, 1), ("other.test", 1, 1)] ∧
      second.map counts = [("example.org", 4, 3), ("other.test", 1, 1)] ∧
      AddsUp lastTwoLabels? full second := by
  intro link links full second counts
  have hfull : full.map counts =
      [("a.example.org", 3, 2), ("b.example.org", 1, 1), ("other.test", 1, 1)] := by
    simp only [full, topDomains, Order.sort_eq_insertionSort]
    decide +kernel
  have hsecond : second.map counts = [("example.org", 4, 3), ("other.test", 1, 1)] := by
    simp only [second, topDomains, Order.sort_eq_insertionSort]
    decide +kernel
  exact ⟨hfull, hsecond, addsUp_secondLevel _ 3 ⟨1, 1⟩ ⟨1, 1⟩ (by decide +kernel)⟩

end CrawlAudit.Outlink
