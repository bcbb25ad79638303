import CrawlAudit.Proofs.LinkGroups
import CrawlAudit.Proofs.StableSort
import Mathlib.Algebra.BigOperators.Group.List.Basic

/-!
# The samples of linked urls

A sample is the front of a list that has each url once: the urls that more pages link to come
first, and of those with equally many the one that was linked to first. Without a cut its counts sum
to the number of distinct links.
-/

namespace CrawlAudit.Outlink

/-- A link grouped by its whole url. -/
abbrev wholeUrl? (link : Outlink) : Option String :=
  some link.url

/-- The sources of the links to a url, each of them once, in order of appearance. -/
def sourcesOf (links : List Outlink) (url : String) : List Int64 :=
  ((links.filter fun link => link.url == url).map source).eraseDups

/-- More sources come first. -/
def sourceCountOrder (e f : Destination Int64) : Ordering :=
  Order.integers f.uniqueLinks e.uniqueLinks

/-- The order by the number of sources, ties by the positions of the first links. -/
def destinationOrder (links : List Outlink) :
    Destination Int64 → Destination Int64 → Ordering :=
  compareLex sourceCountOrder fun e f =>
    Order.integers (firstPosition wholeUrl? links e.url) (firstPosition wholeUrl? links f.url)

/-- Each url of some links has one entry, with the number of its sources and the first of them, and
the entries are in order. -/
structure ListsUrls (links : List Outlink) (sources : Nat) (entries : List (Destination Int64)) :
    Prop where
  mem_iff : ∀ url, url ∈ entries.map Destination.url ↔ ∃ link ∈ links, link.url = url
  nodup : (entries.map Destination.url).Nodup
  uniqueLinks : ∀ e ∈ entries,
    e.uniqueLinks = ((links.filter fun link => link.url == e.url).map source).toFinset.card
  sources : ∀ e ∈ entries, e.sources = (sourcesOf links e.url).take sources
  ordered : entries.Pairwise fun e f => destinationOrder links e f = .lt

/-- A sample is the front of the list of all urls. -/
def IsSample (links : List Outlink) (sampling : Sampling) (sample : List (Destination Int64)) :
    Prop :=
  ∃ entries, ListsUrls links sampling.sources entries ∧
    sample = entries.take sampling.destinations

instance : Std.TransCmp sourceCountOrder :=
  Order.transCmp_on (fun m n => Order.integers n m)
    fun e : Destination Int64 => (e.uniqueLinks : Int)

instance (links : List Outlink) : Std.TransCmp (destinationOrder links) := by
  have hposition := Order.transCmp_on Order.integers
    fun e : Destination Int64 => (firstPosition wholeUrl? links e.url : Int)
  exact inferInstanceAs (Std.TransCmp (compareLex sourceCountOrder _))

theorem enterSource_eq {limit : Nat} {sources : List Int64} (link : Outlink) :
    enterSource limit ⟨sources, sources.take limit⟩ link =
      if link.source ∈ sources then ⟨sources, sources.take limit⟩
      else ⟨sources ++ [link.source], (sources ++ [link.source]).take limit⟩ := by
  rw [enterSource]
  simp only [List.contains_iff_mem]
  congr 2
  rcases Nat.lt_or_ge sources.length limit with hroom | hfull
  · rw [if_pos (by simpa using hroom), List.take_of_length_le hroom.le,
      List.take_of_length_le (by rw [List.length_append]; exact hroom)]
  · rw [if_neg (by simpa using hfull), List.take_append_of_le_length hfull]

theorem sampleSources_eq (limit : Nat) (links : List Outlink) :
    sampleSources limit links =
      ⟨(links.map source).eraseDups, (links.map source).eraseDups.take limit⟩ := by
  induction links using List.reverseRecOn with
  | nil => simp [sampleSources]
  | append_singleton links link ih =>
      rw [sampleSources] at ih ⊢
      rw [List.foldl_append, ih, List.foldl_cons, List.foldl_nil, enterSource_eq, List.map_append,
        List.map_singleton, Distinct.eraseDups_concat]
      simp only [List.mem_eraseDups]
      split_ifs <;> rfl

theorem linksOf_wholeUrl? (links : List Outlink) (url : String) :
    linksOf wholeUrl? links url = links.filter fun link => link.url == url := by
  apply List.filter_congr
  intro link _
  rw [Bool.eq_iff_iff]
  simp

theorem destination_eq (links : List Outlink) (sources : Nat) (url : String) :
    destination links sources url =
      ⟨url, (sourcesOf links url).length, (sourcesOf links url).take sources⟩ := by
  rw [destination, sampleSources_eq]
  rfl

theorem destination_linksOf (links : List Outlink) (sources : Nat) (url : String) :
    destination (linksOf wholeUrl? links url) sources url = destination links sources url := by
  rw [destination, linksOf_wholeUrl?, List.filter_filter]
  simp only [Bool.and_self]
  rfl

theorem length_sourcesOf (links : List Outlink) (url : String) :
    (sourcesOf links url).length =
      ((links.filter fun link => link.url == url).map source).toFinset.card :=
  Distinct.length_eraseDups _

/-- The destinations in the order in which a sample is taken from them. -/
def rankedDestinations (links : List Outlink) (sources : Nat) : List (Destination Int64) :=
  Order.sort sourceCountOrder ((domainsOf wholeUrl? links).map (destination links sources))

theorem sampleDestinations_eq (links : List Outlink) (sampling : Sampling) :
    sampleDestinations links sampling =
      (rankedDestinations links sampling.sources).take sampling.destinations := by
  rw [sampleDestinations, groupByDomain_eq, List.map_map, rankedDestinations]
  simp only [Function.comp_def, destination_linksOf]
  rfl

theorem sampleDestinations_eq_insertionSort (links : List Outlink) (sampling : Sampling) :
    sampleDestinations links sampling =
      (((groupByDomain (fun link => some link.url) links).map fun g =>
        destination g.2 sampling.sources g.1).insertionSort fun a b =>
          (sourceCountOrder a b).isLE).take sampling.destinations :=
  congrArg (List.take _) (@Order.sort_eq_insertionSort _ sourceCountOrder _ _)

theorem length_domainsOf_wholeUrl? (links : List Outlink) :
    (domainsOf wholeUrl? links).length = (links.map url).toFinset.card := by
  rw [domainsOf, Distinct.length_eraseDups, show wholeUrl? = some ∘ url from rfl,
    List.filterMap_eq_map]

theorem mem_rankedDestinations {links : List Outlink} {sources : Nat} {e : Destination Int64}
    (h : e ∈ rankedDestinations links sources) :
    e.uniqueLinks = (sourcesOf links e.url).length ∧
      e.sources = (sourcesOf links e.url).take sources := by
  rw [rankedDestinations, Order.mem_sort] at h
  obtain ⟨url, -, rfl⟩ := List.mem_map.mp h
  simp [destination_eq]

theorem listsUrls_rankedDestinations (links : List Outlink) (sources : Nat) :
    ListsUrls links sources (rankedDestinations links sources) := by
  have hperm : ((rankedDestinations links sources).map Destination.url).Perm
      (domainsOf wholeUrl? links) := by
    refine ((Order.perm_sort _ _).map Destination.url).trans (.of_eq ?_)
    rw [List.map_map]
    exact (List.map_congr_left fun url _ => by simp [destination_eq]).trans (List.map_id _)
  constructor
  case mem_iff =>
    intro url
    rw [hperm.mem_iff, mem_domainsOf]
    simp
  case nodup =>
    exact hperm.nodup_iff.mpr (nodup_domainsOf wholeUrl? links)
  case uniqueLinks =>
    intro e he
    rw [(mem_rankedDestinations he).1, length_sourcesOf]
  case sources =>
    intro e he
    exact (mem_rankedDestinations he).2
  case ordered =>
    apply Order.pairwise_sort_compareLex
    rw [List.pairwise_map]
    refine (pairwise_firstPosition wholeUrl? links).imp fun hlt => ?_
    simpa [destination_eq, Order.integers_eq_lt] using hlt

theorem ListsUrls.subset {links : List Outlink} {sources : Nat} {es fs : List (Destination Int64)}
    (hes : ListsUrls links sources es) (hfs : ListsUrls links sources fs) : es ⊆ fs := by
  intro e he
  have hurl : e.url ∈ fs.map Destination.url :=
    (hfs.mem_iff e.url).mpr ((hes.mem_iff e.url).mp (List.mem_map_of_mem he))
  obtain ⟨f, hf, hfe⟩ := List.mem_map.mp hurl
  obtain rfl : f = e := by
    have hcount := hfs.uniqueLinks f hf
    have hsources := hfs.sources f hf
    rw [hfe, ← hes.uniqueLinks e he] at hcount
    rw [hfe, ← hes.sources e he] at hsources
    cases e
    cases f
    simp_all
  exact hf

/-- There is one such list. -/
theorem ListsUrls.eq {links : List Outlink} {sources : Nat} {es fs : List (Destination Int64)}
    (hes : ListsUrls links sources es) (hfs : ListsUrls links sources fs) : es = fs :=
  Order.eq_of_mem_iff (destinationOrder links) hes.ordered hfs.ordered fun _ =>
    ⟨fun he => hes.subset hfs he, fun hf => hfs.subset hes hf⟩

theorem isSample_sampleDestinations (links : List Outlink) (sampling : Sampling) :
    IsSample links sampling (sampleDestinations links sampling) :=
  ⟨_, listsUrls_rankedDestinations links sampling.sources, sampleDestinations_eq links sampling⟩

theorem IsSample.eq {links : List Outlink} {sampling : Sampling}
    {sample sample' : List (Destination Int64)} (h : IsSample links sampling sample)
    (h' : IsSample links sampling sample') : sample = sample' := by
  obtain ⟨entries, hentries, rfl⟩ := h
  obtain ⟨entries', hentries', rfl⟩ := h'
  rw [hentries.eq hentries']

theorem perm_flatMap_wholeUrl? (links : List Outlink) :
    ((domainsOf wholeUrl? links).flatMap (linksOf wholeUrl? links)).Perm links := by
  refine (perm_flatMap_linksOf wholeUrl? links (nodup_domainsOf wholeUrl? links)).trans
    (.of_eq (List.filter_eq_self.mpr fun link hlink => ?_))
  have hmem : link.url ∈ domainsOf wholeUrl? links :=
    (mem_domainsOf wholeUrl?).mpr ⟨link, hlink, rfl⟩
  simpa using hmem

theorem card_pairs_wholeUrl? (links : List Outlink) (url : String) :
    ((linksOf wholeUrl? links url).map fun l => (l.source, l.url)).toFinset.card =
      (sourcesOf links url).length := by
  have hpairs : ((linksOf wholeUrl? links url).map fun l => (l.source, l.url)).toFinset =
      ((linksOf wholeUrl? links url).map source).toFinset.image (·, url) := by
    ext p
    simp only [linksOf_wholeUrl?, List.mem_toFinset, List.mem_map, List.mem_filter, beq_iff_eq,
      Finset.mem_image, exists_exists_and_eq_and]
    constructor
    · rintro ⟨l, ⟨hl, rfl⟩, rfl⟩
      exact ⟨l, ⟨hl, rfl⟩, rfl⟩
    · rintro ⟨l, ⟨hl, rfl⟩, rfl⟩
      exact ⟨l, ⟨hl, rfl⟩, rfl⟩
  rw [hpairs, Finset.card_image_of_injective _ (Prod.mk_left_injective url), length_sourcesOf,
    linksOf_wholeUrl?]

theorem uniqueCount_eq_sum (links : List Outlink) :
    uniqueCount links =
      ((domainsOf wholeUrl? links).map fun url => (sourcesOf links url).length).sum := by
  have hperm := (perm_flatMap_wholeUrl? links).map fun l => (l.source, l.url)
  have hcard := card_pairs_flatMap wholeUrl? (fun _ _ => congrArg some) links
    (nodup_domainsOf wholeUrl? links)
  simp only [card_pairs_wholeUrl?] at hcard
  rw [uniqueCount, Distinct.length_eraseDups, ← List.toFinset_eq_of_perm _ _ hperm, hcard]

theorem sum_sampleDestinations {links : List Outlink} {sampling : Sampling}
    (h : (links.map url).toFinset.card ≤ sampling.destinations) :
    ((sampleDestinations links sampling).map Destination.uniqueLinks).sum = uniqueCount links := by
  have hperm : (rankedDestinations links sampling.sources).Perm
      ((domainsOf wholeUrl? links).map (destination links sampling.sources)) := Order.perm_sort _ _
  have hlength : (rankedDestinations links sampling.sources).length ≤ sampling.destinations := by
    rwa [hperm.length_eq, List.length_map, length_domainsOf_wholeUrl?]
  rw [sampleDestinations_eq, List.take_of_length_le hlength,
    (hperm.map Destination.uniqueLinks).sum_eq, List.map_map, uniqueCount_eq_sum]
  simp only [Function.comp_def, destination_eq]

/-- A sample is the front of the one list of all urls. If it is not cut, its counts sum to the
number of distinct links, which for the follow links of a domain is what the domain is ranked by. -/
theorem sampleDestinations_eq_take (links : List Outlink) (sampling : Sampling) :
    (∃! entries, ListsUrls links sampling.sources entries) ∧
      (∀ entries, ListsUrls links sampling.sources entries →
        sampleDestinations links sampling = entries.take sampling.destinations) ∧
      ((links.map url).toFinset.card ≤ sampling.destinations →
        ((sampleDestinations links sampling).map Destination.uniqueLinks).sum =
          uniqueCount links) ∧
      ∀ domain, ((links.filter isFollow).map url).toFinset.card ≤ sampling.destinations →
        (describe domain links sampling).uniqueFollow =
          ((describe domain links sampling).followSample.map Destination.uniqueLinks).sum := by
  have hlists := listsUrls_rankedDestinations links sampling.sources
  refine ⟨⟨_, hlists, fun entries h => h.eq hlists⟩, fun entries h => ?_,
    sum_sampleDestinations, fun domain h => ?_⟩
  · rw [sampleDestinations_eq, h.eq hlists]
  · exact (sum_sampleDestinations h).symm

/-- Three urls, of which two have equally many sources, with a link that occurs twice and one that
is not to be followed. -/
theorem sampleDestinations_eq_take_of_ties :
    let link (source follow : Int64) (url : String) : Outlink := ⟨source, "a", follow, -1, url⟩
    let links := [link 1 0 "x", link 2 0 "y", link 2 0 "y", link 3 0 "z", link 1 1 "z",
      link 1 0 "y"]
    ListsUrls links 1 [⟨"y", 2, [2]⟩, ⟨"z", 2, [3]⟩, ⟨"x", 1, [1]⟩] ∧
      sampleDestinations links ⟨2, 1⟩ = [⟨"y", 2, [2]⟩, ⟨"z", 2, [3]⟩] ∧
      ((sampleDestinations links ⟨3, 1⟩).map Destination.uniqueLinks).sum = 5 ∧
      (describe "d" links ⟨3, 0⟩).uniqueFollow =
        ((describe "d" links ⟨3, 0⟩).followSample.map Destination.uniqueLinks).sum := by
  intro link links
  have hlists : ListsUrls links 1 [⟨"y", 2, [2]⟩, ⟨"z", 2, [3]⟩, ⟨"x", 1, [1]⟩] := by
    constructor
    case mem_iff =>
      intro url
      simp only [List.map_cons, List.map_nil, List.mem_cons, links, link]
      grind
    case nodup => decide
    case uniqueLinks => decide +kernel
    case sources => decide +kernel
    case ordered => decide +kernel
  obtain ⟨-, htake, -, -⟩ := sampleDestinations_eq_take links ⟨2, 1⟩
  obtain ⟨-, -, hsum, -⟩ := sampleDestinations_eq_take links ⟨3, 1⟩
  obtain ⟨-, -, -, hdomain⟩ := sampleDestinations_eq_take links ⟨3, 0⟩
  exact ⟨hlists, htake _ hlists, (hsum (by decide)).trans (by decide +kernel),
    hdomain "d" (by decide)⟩

end CrawlAudit.Outlink
