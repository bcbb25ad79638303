import CrawlAudit.Proofs.DetectorRecords
import CrawlAudit.Proofs.MergeJoin

/-!
# Duplicates as classes of urls

The records of two streams are read off the streams: the urls are the ids of the one, the contents
of a url are the rows of the other with its id, and a mandatory content is shared by the urls whose
first content of that kind has the same hash.
-/

namespace CrawlAudit.DuplicateRecord

open Std
open Detector (Observation entriesOf hashes slots mandatoryHash? classOf map_fst_entriesOf)

/-- The ids of a stream, each once, in ascending order. -/
def idsOf (rows : List Row) : List Int64 :=
  Order.sort Order.int64s (rows.filterMap fun row => row.integer? 0).eraseDups

/-- A stream with ascending ids, rows without one first. -/
abbrev AscendingById (rows : List Row) : Prop :=
  Ascending JoinKey.order (fun row => row.integer? 0) rows

/-- The contents of a url. -/
def contentsOf (contents : List Row) (url : Int64) : List (Int64 × Int64) :=
  (contents.filter fun row => row.integer? 0 = some url).filterMap content?

/-- The hashes of the contents of one kind. -/
def hashesOf (contents : List (Int64 × Int64)) (kind : ContentKind) : List Int64 :=
  contents.filterMap fun c => if ContentKind.ofId? c.1 = some kind then some c.2 else none

/-- The urls whose first content of a kind has the hash of the first one of the given url. -/
def sharingUrls (patterns contents : List Row) (url : Int64) (kind : ContentKind) : List Int64 :=
  (idsOf patterns).filter fun v =>
    (hashesOf (contentsOf contents v) kind).head? = (hashesOf (contentsOf contents url) kind).head?

/-- The record of one kind of content on a url. -/
def expected (patterns contents : List Row) (sampleSize : Nat) (url : Int64)
    (kind : ContentKind) : DuplicateRecord :=
  let filled := (hashesOf (contentsOf contents url) kind).length
  if kind.isMandatory then
    let urls := sharingUrls patterns contents url kind
    { urlId := url
      kind := kind
      filled := filled
      duplicates := urls.length
      isFirst := urls.all fun v => url ≤ v
      others := (urls.filter (· != url)).take sampleSize }
  else
    { urlId := url
      kind := kind
      filled := filled
      duplicates := 0
      isFirst := true
      others := [] }

/-- The kinds of content that occur on a url. -/
def kindsOf (contents : List Row) (url : Int64) : List ContentKind :=
  ContentKind.all.filter fun kind => hashesOf (contentsOf contents url) kind ≠ []

/-- All records: the urls with a mandatory content in ascending order, and on each the kinds that
occur. -/
def allExpected (patterns contents : List Row) (sampleSize : Nat) : List DuplicateRecord :=
  ((idsOf patterns).filter fun url =>
    (kindsOf contents url).any ContentKind.isMandatory).flatMap fun url =>
      (kindsOf contents url).map (expected patterns contents sampleSize url)

theorem mem_idsOf {rows : List Row} {url : Int64} :
    url ∈ idsOf rows ↔ ∃ row ∈ rows, row.integer? 0 = some url := by
  rw [idsOf, Order.mem_sort, List.mem_eraseDups, List.mem_filterMap]

theorem pairwise_idsOf (rows : List Row) :
    (idsOf rows).Pairwise fun u v => Order.int64s u v = .lt :=
  Order.pairwise_lt_sort (Distinct.nodup_eraseDups _)

/-- What is observed when the rows of a stream of urls are visited, given the key of the row
before: the contents of a url with the first of its rows. -/
def visits (contents : List Row) : Option JoinKey → List Row → List Observation
  | _, [] => []
  | previous, row :: rows =>
    match row.integer? 0 with
    | none => visits contents (some none) rows
    | some url =>
      (url, if previous = some (some url) then [] else contentsOf contents url) ::
        visits contents (some (some url)) rows

theorem map_fst_visits (contents : List Row) (previous : Option JoinKey) (patterns : List Row) :
    (visits contents previous patterns).map Prod.fst =
      patterns.filterMap fun row => row.integer? 0 := by
  induction patterns generalizing previous with
  | nil => rfl
  | cons row rows ih =>
      cases hrow : row.integer? 0 with
      | none => simp [visits, hrow, ih]
      | some url => simp [visits, hrow, ih]

/-- The observation of a row with the contents it is joined to. -/
def observation? (row : Row) (matched : List Row) : Option Observation :=
  (row.integer? 0).map fun url => (url, matched.filterMap content?)

theorem observeJoined_eq (detector : Detector) (j : Joined Row JoinKey) :
    observeJoined detector j =
      match observation? j.primary (j.matches "contents") with
      | some o => detector.observe o.1 o.2
      | none => detector := by
  rw [observeJoined, observation?]
  cases j.primary.integer? 0 <;> rfl

theorem rowsNamed_contents (contents : List Row) (url : Int64) :
    (Cursor.rowsNamed JoinKey.order [(contentsSecondary contents).cursor] "contents"
      (some url)).filterMap content? = contentsOf contents url := by
  change (contents.filter fun row => JoinKey.order (row.integer? 0) (some url) == .eq).filterMap
    content? = _
  rw [contentsOf]
  congr 1
  refine List.filter_congr fun row _ => ?_
  rw [Bool.eq_iff_iff, beq_iff_eq, LawfulEqCmp.compare_eq_iff_eq, decide_eq_true_iff]

theorem filterMap_nestedLoop (contents : List Row) (previous : Option JoinKey)
    (patterns : List Row) :
    (nestedLoop JoinKey.order (fun row => row.integer? 0) [(contentsSecondary contents).cursor]
        previous patterns).filterMap (fun j => observation? j.2.1 (j.2.2 "contents")) =
      visits contents previous patterns := by
  induction patterns generalizing previous with
  | nil => rfl
  | cons row rows ih =>
      rw [nestedLoop, visits]
      cases hrow : row.integer? 0 with
      | none =>
          rw [List.filterMap_cons_none (by simp [observation?, hrow]), ih]
      | some url =>
          have hsame : (previous.any fun p => JoinKey.order p (some url) == .eq) =
              decide (previous = some (some url)) := by
            cases previous with
            | none => rfl
            | some p =>
                rw [Bool.eq_iff_iff, Option.any_some, beq_iff_eq, LawfulEqCmp.compare_eq_iff_eq,
                  decide_eq_true_iff, Option.some_inj]
          rw [List.filterMap_cons_some (by rw [observation?, hrow, Option.map_some]), ih]
          congr 2
          simp only [hsame, decide_eq_true_iff]
          split
          · rfl
          · exact rowsNamed_contents contents url

theorem foldl_observeJoined_eq (joins : List (Joined Row JoinKey)) :
    joins.foldl observeJoined Detector.empty =
      Detector.observing
        (joins.filterMap fun j => observation? j.primary (j.matches "contents")) := by
  rw [Detector.observing, List.foldl_filterMap]
  congr 1
  funext detector j
  rw [observeJoined_eq]
  cases observation? j.primary (j.matches "contents") <;> rfl

theorem foldl_observeJoined {patterns contents : List Row}
    (hpatterns : AscendingById patterns)
    (hcontents : AscendingById contents) :
    (join 0 patterns [contentsSecondary contents]).foldl observeJoined Detector.empty =
      Detector.observing (visits contents none patterns) := by
  have hcursors : ∀ c ∈ [contentsSecondary contents].map Secondary.cursor,
      Ascending JoinKey.order c.key c.rows := by
    simpa [contentsSecondary, Secondary.cursor] using hcontents
  have hmerge := merge_eq (fun row => row.integer? 0) hpatterns hcursors
  rw [foldl_observeJoined_eq, ← filterMap_nestedLoop]
  change _ = Detector.observing ((nestedLoop JoinKey.order (fun row => row.integer? 0)
    ([contentsSecondary contents].map Secondary.cursor) none patterns).filterMap _)
  rw [← hmerge, List.filterMap_map, join]
  rfl

theorem hashes_entriesOf (o : Observation) (url : Int64) (kind : ContentKind) :
    hashes (entriesOf o) (url, kind) = if o.1 = url then hashesOf o.2 kind else [] := by
  rw [hashes, entriesOf, List.filter_filterMap, List.map_filterMap, hashesOf]
  by_cases hurl : o.1 = url
  · rw [if_pos hurl]
    refine List.filterMap_congr fun c _ => ?_
    cases ContentKind.ofId? c.1 with
    | none => rfl
    | some kind' =>
        by_cases hkind : kind' = kind
        · simp [hurl, hkind]
        · simp [hkind]
  · rw [if_neg hurl, List.filterMap_eq_nil_iff]
    intro c _
    cases ContentKind.ofId? c.1 with
    | none => rfl
    | some kind' => simp [hurl]

/-- The contents of a url are observed with the first of its rows, those of other urls never. -/
theorem hashes_visits (contents : List Row) (url : Int64) (kind : ContentKind)
    {previous : Option JoinKey} {patterns : List Row}
    (hpatterns : AscendingById patterns)
    (hprevious : ∀ p ∈ previous, ∀ row ∈ patterns, (JoinKey.order p (row.integer? 0)).isLE) :
    hashes ((visits contents previous patterns).flatMap entriesOf) (url, kind) =
      if previous ≠ some (some url) ∧ some url ∈ patterns.map (fun row => row.integer? 0) then
        hashesOf (contentsOf contents url) kind
      else [] := by
  induction patterns generalizing previous with
  | nil => simp [visits, hashes]
  | cons row rows ih =>
      obtain ⟨hrow, hrows⟩ : (∀ b ∈ rows, (JoinKey.order (row.integer? 0) (b.integer? 0)).isLE) ∧
        AscendingById rows :=
        List.pairwise_cons.mp hpatterns
      have hnext : ∀ p ∈ some (row.integer? 0), ∀ b ∈ rows,
          (JoinKey.order p (b.integer? 0)).isLE := by
        rintro p hp b hb
        cases hp
        exact hrow b hb
      have hrest := ih hrows hnext
      -- a url that was visited does not come back after another key
      have hback : previous = some (some url) → row.integer? 0 ≠ some url →
          some url ∉ rows.map fun row => row.integer? 0 := by
        intro hprev hne hmem
        obtain ⟨b, hb, heq⟩ := List.mem_map.mp hmem
        have hle := hprevious _ hprev row (List.mem_cons_self ..)
        have hge := hrow b hb
        rw [heq] at hge
        exact hne (LawfulEqCmp.eq_of_compare (OrientedCmp.isLE_antisymm hge hle))
      rw [visits]
      cases hkey : row.integer? 0 with
      | none =>
          rw [hkey] at hrest hback
          simp only [hrest, List.map_cons, List.mem_cons, hkey]
          by_cases hprev : previous = some (some url)
          · simp [hprev, hback hprev]
          · simp [hprev]
      | some v =>
          rw [hkey] at hrest hback
          simp only [List.flatMap_cons, Detector.hashes_append, hrest, hashes_entriesOf,
            List.map_cons, List.mem_cons, hkey]
          by_cases hv : v = url
          · subst hv
            by_cases hprev : previous = some (some v)
            · simp [hprev, hashesOf]
            · simp [hprev]
          · have hne : some v ≠ some url := fun h => hv (Option.some_inj.mp h)
            by_cases hprev : previous = some (some url)
            · simp [hv, hprev, hback hprev hne]
            · simp [hv, hprev, Ne.symm hv]

section

variable {patterns : List Row} (contents : List Row)

/-- The contents of known kinds that are observed. -/
def observed (patterns contents : List Row) : List Detector.Entry :=
  (visits contents none patterns).flatMap entriesOf

theorem represents_visits (patterns contents : List Row) :
    Detector.Represents (observed patterns contents)
      (Detector.observing (visits contents none patterns)) :=
  Detector.represents_observing _

theorem hashes_observed (hpatterns : AscendingById patterns) (url : Int64) (kind : ContentKind) :
    hashes (observed patterns contents) (url, kind) =
      if url ∈ idsOf patterns then hashesOf (contentsOf contents url) kind else [] := by
  rw [observed, hashes_visits contents url kind hpatterns (by nofun)]
  simp only [mem_idsOf, List.mem_map, ne_eq, reduceCtorEq, not_false_eq_true, true_and]

theorem mem_slots_observed (hpatterns : AscendingById patterns) (url : Int64)
    (kind : ContentKind) :
    (url, kind) ∈ slots (observed patterns contents) ↔
      url ∈ idsOf patterns ∧ kind ∈ kindsOf contents url := by
  rw [Detector.mem_slots, hashes_observed contents hpatterns, kindsOf, List.mem_filter]
  by_cases hurl : url ∈ idsOf patterns
  · simp [hurl, ContentKind.mem_all]
  · simp [hurl]

theorem pairwise_map_fst_visits (hpatterns : AscendingById patterns) :
    ((visits contents none patterns).map Prod.fst).Pairwise fun u v =>
      (Order.int64s u v).isLE := by
  rw [map_fst_visits]
  refine List.pairwise_filterMap.mpr (hpatterns.imp ?_)
  intro a b hab u hu v hv
  change (JoinKey.order (a.integer? 0) (b.integer? 0)).isLE at hab
  rw [hu, hv] at hab
  exact hab

theorem pairwise_slots_observed (hpatterns : AscendingById patterns) :
    (slots (observed patterns contents)).Pairwise fun s t =>
      s.2 = t.2 → Order.int64s s.1 t.1 = .lt := by
  have hentries : ((observed patterns contents).map Prod.fst).Pairwise fun s t =>
      (Order.int64s s.1 t.1).isLE := by
    refine List.pairwise_map.mpr (List.pairwise_flatMap.mpr ⟨fun o _ => ?_, ?_⟩)
    · refine List.pairwise_of_forall_mem_list fun d hd e he => ?_
      rw [map_fst_entriesOf hd, map_fst_entriesOf he]
      exact Order.isLE_int64s.mpr (Int64.le_refl o.1)
    · refine (List.pairwise_map.mp (pairwise_map_fst_visits contents hpatterns)).imp ?_
      intro o o' hle d hd e he
      rwa [map_fst_entriesOf hd, map_fst_entriesOf he]
  have hslots := (hentries.sublist (Distinct.eraseDups_sublist _)).and
    (Detector.nodup_slots (observed patterns contents))
  refine hslots.imp ?_
  rintro ⟨u, k⟩ ⟨v, k'⟩ ⟨hle, hne⟩ hkind
  obtain rfl : k = k' := hkind
  cases ho : Order.int64s u v with
  | lt => rfl
  | eq => exact absurd (congrArg (·, k) (LawfulEqCmp.eq_of_compare ho)) hne
  | gt =>
      rw [ho] at hle
      contradiction

theorem classOf_observed (hpatterns : AscendingById patterns) {url : Int64} {kind : ContentKind}
    (hslot : (url, kind) ∈ slots (observed patterns contents))
    (hmandatory : kind.isMandatory = true) :
    classOf (observed patterns contents) (url, kind) = sharingUrls patterns contents url kind := by
  obtain ⟨hash, hhash⟩ := Detector.mandatoryHash?_of_mem hslot hmandatory
  have hfirst : ∀ v ∈ idsOf patterns, mandatoryHash? (observed patterns contents) (v, kind) =
      (hashesOf (contentsOf contents v) kind).head? := by
    intro v hv
    rw [mandatoryHash?, if_pos hmandatory, hashes_observed contents hpatterns, if_pos hv]
  have hurl := (mem_slots_observed contents hpatterns url kind).mp hslot
  refine Order.eq_of_mem_iff Order.int64s ?_ ((pairwise_idsOf patterns).filter _) fun v => ?_
  · refine List.pairwise_map.mpr (List.pairwise_filter.mpr ?_)
    refine (pairwise_slots_observed contents hpatterns).imp fun hlt hs ht => hlt ?_
    simp only [decide_eq_true_eq] at hs ht
    rw [hs.1, ht.1]
  · simp only [classOf, sharingUrls, List.mem_map, List.mem_filter, decide_eq_true_eq]
    rw [← hfirst url hurl.1]
    constructor
    · rintro ⟨⟨w, k⟩, ⟨hmem, hkind, heq⟩, hw⟩
      obtain rfl : w = v := hw
      obtain rfl : k = kind := hkind
      have hv := ((mem_slots_observed contents hpatterns w k).mp hmem).1
      exact ⟨hv, by rw [← hfirst w hv, heq]⟩
    · rintro ⟨hv, heq⟩
      rw [← hfirst v hv] at heq
      refine ⟨(v, kind), ⟨?_, rfl, heq⟩, rfl⟩
      rw [Detector.mem_slots]
      intro hnil
      rw [hhash, mandatoryHash?, if_pos hmandatory, hnil] at heq
      contradiction

theorem recordOf_observed (hpatterns : AscendingById patterns) (sampleSize : Nat)
    {url : Int64} {kind : ContentKind}
    (hslot : (url, kind) ∈ slots (observed patterns contents)) :
    Detector.recordOf (observed patterns contents) sampleSize (url, kind) =
      expected patterns contents sampleSize url kind := by
  have hurl := ((mem_slots_observed contents hpatterns url kind).mp hslot).1
  rw [Detector.recordOf, expected, hashes_observed contents hpatterns, if_pos hurl]
  by_cases hmandatory : kind.isMandatory = true
  · rw [if_pos hmandatory, if_pos hmandatory,
      classOf_observed contents hpatterns hslot hmandatory]
  · rw [if_neg hmandatory, if_neg hmandatory]

/-- The slots with records: the urls with a mandatory content, each with the kinds that occur. -/
def expectedSlots (patterns contents : List Row) : List Slot :=
  ((idsOf patterns).filter fun url =>
    (kindsOf contents url).any ContentKind.isMandatory).flatMap fun url =>
      (kindsOf contents url).map fun kind => (url, kind)

theorem mem_expectedSlots {url : Int64} {kind : ContentKind} :
    (url, kind) ∈ expectedSlots patterns contents ↔
      (url ∈ idsOf patterns ∧ (kindsOf contents url).any ContentKind.isMandatory) ∧
        kind ∈ kindsOf contents url := by
  simp only [expectedSlots, List.mem_flatMap, List.mem_filter, List.mem_map, Prod.mk.injEq]
  constructor
  · rintro ⟨u, hu, k, hk, rfl, rfl⟩
    exact ⟨hu, hk⟩
  · rintro ⟨hurl, hkind⟩
    exact ⟨url, hurl, kind, hkind, rfl, rfl⟩

theorem pairwise_expectedSlots (patterns contents : List Row) :
    (expectedSlots patterns contents).Pairwise fun s t => Slot.order s t = .lt := by
  refine List.pairwise_flatMap.mpr ⟨fun url _ => ?_, ?_⟩
  · have hall : ContentKind.all.Pairwise fun k k' =>
        Order.integers k.id k'.id = .lt := by decide
    refine List.pairwise_map.mpr ((hall.filter _).imp fun hlt => ?_)
    rw [Slot.order, (ReflCmp.compare_self : Order.int64s url url = .eq)]
    exact hlt
  · refine ((pairwise_idsOf patterns).filter _).imp fun {u v} hlt s hs t ht => ?_
    obtain ⟨k, _, rfl⟩ := List.mem_map.mp hs
    obtain ⟨k', _, rfl⟩ := List.mem_map.mp ht
    rw [Slot.order, hlt]
    rfl

theorem filter_slots_observed (hpatterns : AscendingById patterns) :
    ((Order.sort Slot.order (slots (observed patterns contents))).filter fun s =>
        (Detector.observing (visits contents none patterns)).inRange s.1 &&
          (Detector.observing (visits contents none patterns)).hasMandatory s.1) =
      expectedSlots patterns contents := by
  have hsorted : (Order.sort Slot.order (slots (observed patterns contents))).Pairwise
      fun s t => Slot.order s t = .lt :=
    Order.pairwise_lt_sort (Detector.nodup_slots (observed patterns contents))
  refine Order.eq_of_mem_iff Slot.order (hsorted.filter _)
    (pairwise_expectedSlots patterns contents) ?_
  rintro ⟨url, kind⟩
  rw [List.mem_filter, Order.mem_sort, Bool.and_eq_true,
    (represents_visits patterns contents).hasMandatory_iff,
    mem_expectedSlots, mem_slots_observed contents hpatterns, List.any_eq_true]
  change _ ∧ _ ∧ (∃ k, k.isMandatory = true ∧ (url, k) ∈ slots (observed patterns contents)) ↔ _
  simp only [mem_slots_observed contents hpatterns]
  constructor
  · rintro ⟨⟨hurl, hkind⟩, -, k, hmandatory, -, hk⟩
    exact ⟨⟨hurl, k, hk, hmandatory⟩, hkind⟩
  · rintro ⟨⟨hurl, k, hk, hmandatory⟩, hkind⟩
    refine ⟨⟨hurl, hkind⟩, ?_, k, hmandatory, hurl, hk⟩
    refine Detector.inRange_observing (.of_pairwise (pairwise_map_fst_visits contents hpatterns)) ?_
    rw [map_fst_visits, List.mem_filterMap]
    exact mem_idsOf.mp hurl

/-- The records of two ascending streams are those of the urls and contents in them. -/
theorem ofStreams_eq_allExpected (patterns contents : List Row) (sampleSize : Nat)
    (hpatterns : AscendingById patterns)
    (hcontents : AscendingById contents) :
    ((idsOf patterns).Pairwise (· < ·) ∧
        ∀ url, url ∈ idsOf patterns ↔ ∃ row ∈ patterns, row.integer? 0 = some url) ∧
      ofStreams patterns contents sampleSize = allExpected patterns contents sampleSize := by
  refine ⟨⟨(pairwise_idsOf patterns).imp Order.int64s_eq_lt.mp, fun url => mem_idsOf⟩, ?_⟩
  rw [ofStreams, foldl_observeJoined hpatterns hcontents,
    (represents_visits patterns contents).finish_eq, filter_slots_observed contents hpatterns,
    expectedSlots, List.map_flatMap, allExpected]
  refine List.flatMap_congr fun url hurl => ?_
  rw [List.map_map]
  refine List.map_congr_left fun kind hkind => ?_
  exact recordOf_observed contents hpatterns sampleSize
    ((mem_slots_observed contents hpatterns url kind).mpr ⟨(List.mem_filter.mp hurl).1, hkind⟩)

end

/-- Repeated and missing ids, an id without urls, repeated kinds and a kind that is unknown. -/
theorem ofStreams_eq_of_repeated_ids :
    let row (id : Cell) (kind hash : Int64) : Row := [id, .int kind, .int hash]
    let patterns : List Row := [[.null], [.int 1], [.int 1], [.int 2], [.int 4]]
    let contents : List Row :=
      [row .null 1 9, row (.int 1) 1 9, row (.int 1) 1 8, row (.int 1) 3 9, row (.int 2) 1 8,
        row (.int 2) 7 9, row (.int 3) 1 9, row (.int 4) 5 9, row (.int 4) 1 9]
    let records : List DuplicateRecord :=
      [⟨1, .title, 2, 2, true, [4]⟩, ⟨1, .h2, 1, 0, true, []⟩, ⟨2, .title, 1, 1, true, []⟩,
        ⟨4, .title, 1, 2, false, [1]⟩, ⟨4, .h3, 1, 0, true, []⟩]
    AscendingById patterns ∧
      AscendingById contents ∧
      ofStreams patterns contents 2 = records ∧ allExpected patterns contents 2 = records := by
  intro row patterns contents records
  have hpatterns : AscendingById patterns := by decide
  have hcontents : AscendingById contents := by decide
  have hrecords : ofStreams patterns contents 2 = records := by decide +kernel
  have hsame := (ofStreams_eq_allExpected patterns contents 2 hpatterns hcontents).2
  exact ⟨hpatterns, hcontents, hrecords, hsame.symm.trans hrecords⟩

end CrawlAudit.DuplicateRecord
