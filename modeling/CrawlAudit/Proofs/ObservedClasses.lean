import CrawlAudit.Proofs.DetectorRecords

/-!
# Classes of the urls observed

In whatever order urls are observed between the smallest and the largest one, the records of a
mandatory kind fall into classes by first hash. A class is described as a whole: each of its urls
has one record that tells how large it is, the smallest url is the first one, and the others are
listed in the order of their first contents.
-/

namespace CrawlAudit.Detector

open Std

/-- The position of the first content of a slot. -/
def firstContent (entries : List Entry) (slot : Slot) : Nat :=
  (entries.map Prod.fst).idxOf slot

/-- The urls whose first content of a kind has a hash, in the order of these contents. -/
structure IsClass (entries : List Entry) (kind : ContentKind) (hash : Int64) (urls : List Int64) :
    Prop where
  mem_iff : ∀ u, u ∈ urls ↔ (hashes entries (u, kind)).head? = some hash
  ordered : urls.Pairwise fun u v =>
    firstContent entries (u, kind) < firstContent entries (v, kind)

/-- Whether a record tells of the kind on one of some urls. -/
def isOf (kind : ContentKind) (urls : List Int64) (record : DuplicateRecord) : Bool :=
  record.kind == kind && urls.contains record.urlId

/-- The records of a kind describe a class. -/
structure DescribesClass (records : List DuplicateRecord) (sampleSize : Nat) (kind : ContentKind)
    (urls : List Int64) : Prop where
  one_record : ∀ u ∈ urls, ∃ r, records.filter (isOf kind [u]) = [r]
  duplicates : ∀ r ∈ records.filter (isOf kind urls), r.duplicates = urls.length
  one_first : ∃ r, (records.filter (isOf kind urls)).filter DuplicateRecord.isFirst = [r] ∧
    r.urlId ∈ urls ∧ ∀ u ∈ urls, r.urlId ≤ u
  others : ∀ r ∈ records.filter (isOf kind urls),
    r.others = (urls.filter (· != r.urlId)).take sampleSize
  symmetric : urls.length ≤ sampleSize → ∀ r ∈ records.filter (isOf kind urls),
    ∀ s ∈ records.filter (isOf kind urls), (s.urlId ∈ r.others ↔ r.urlId ∈ s.others)

section

variable {entries : List Entry} {kind : ContentKind} {hash : Int64} {urls : List Int64}

theorem mem_sharing (hmandatory : kind.isMandatory = true) {u : Int64} :
    u ∈ sharing entries kind hash ↔ (hashes entries (u, kind)).head? = some hash := by
  have hhash : mandatoryHash? entries (u, kind) = (hashes entries (u, kind)).head? :=
    if_pos hmandatory
  simp only [sharing, List.mem_map, List.mem_filter, decide_eq_true_eq]
  constructor
  · rintro ⟨⟨v, k⟩, ⟨-, rfl, hk⟩, rfl⟩
    rwa [← hhash]
  · intro h
    refine ⟨(u, kind), ⟨mem_slots.mpr ?_, rfl, hhash.trans h⟩, rfl⟩
    intro hnil
    simp [hnil] at h

theorem isClass_sharing (hmandatory : kind.isMandatory = true) :
    IsClass entries kind hash (sharing entries kind hash) := by
  refine ⟨fun u => mem_sharing hmandatory, ?_⟩
  rw [sharing, List.pairwise_map]
  refine ((Distinct.pairwise_idxOf _).filter _).imp_of_mem ?_
  rintro ⟨u, k⟩ ⟨v, k'⟩ hu hv hlt
  simp only [List.mem_filter, decide_eq_true_eq] at hu hv
  obtain ⟨-, rfl, -⟩ := hu
  obtain ⟨-, rfl, -⟩ := hv
  exact hlt

theorem IsClass.eq {urls' : List Int64} (h : IsClass entries kind hash urls)
    (h' : IsClass entries kind hash urls') : urls = urls' := by
  let order (u v : Int64) : Ordering :=
    Order.integers (firstContent entries (u, kind)) (firstContent entries (v, kind))
  have : TransCmp order := Order.transCmp_on Order.integers
    fun u : Int64 => (firstContent entries (u, kind) : Int)
  have hlt {m n : Nat} (h : m < n) : Order.integers m n = .lt :=
    Order.integers_eq_lt.mpr (Int.ofNat_lt.mpr h)
  refine Order.eq_of_mem_iff order (h.ordered.imp hlt) (h'.ordered.imp hlt) fun u => ?_
  rw [h.mem_iff, h'.mem_iff]

theorem classOf_eq_sharing {s : Slot} (hhash : mandatoryHash? entries s = some hash) :
    classOf entries s = sharing entries s.2 hash := by
  rw [classOf, hhash, sharing]

theorem recordOf_of_isClass (hmandatory : kind.isMandatory = true)
    (h : IsClass entries kind hash urls) (sampleSize : Nat) {u : Int64} (hu : u ∈ urls) :
    recordOf entries sampleSize (u, kind) =
      { urlId := u
        kind := kind
        filled := (hashes entries (u, kind)).length
        duplicates := urls.length
        isFirst := urls.all fun v => u ≤ v
        others := (urls.filter (· != u)).take sampleSize } := by
  have hhash : mandatoryHash? entries (u, kind) = some hash :=
    (if_pos hmandatory).trans ((h.mem_iff u).mp hu)
  rw [recordOf, if_pos hmandatory, classOf_eq_sharing hhash, (isClass_sharing hmandatory).eq h]

end

@[simp] theorem urlId_recordOf (entries : List Entry) (sampleSize : Nat) (s : Slot) :
    (recordOf entries sampleSize s).urlId = s.1 := by
  rw [recordOf]
  split_ifs <;> rfl

@[simp] theorem kind_recordOf (entries : List Entry) (sampleSize : Nat) (s : Slot) :
    (recordOf entries sampleSize s).kind = s.2 := by
  rw [recordOf]
  split_ifs <;> rfl

section

variable {observations : List Observation}

/-- The slots with records, in order. -/
def recordedSlots (observations : List Observation) : List Slot :=
  (Order.sort Slot.order (slots (observations.flatMap entriesOf))).filter fun s =>
    (observing observations).hasMandatory s.1

theorem slotOrder_eq_lt {s t : Slot} :
    Slot.order s t = .lt ↔ s.1 < t.1 ∨ s.1 = t.1 ∧ s.2.id < t.2.id := by
  rw [Slot.order, Ordering.then_eq_lt, Order.int64s_eq_lt, LawfulEqCmp.compare_eq_iff_eq,
    Order.integers_eq_lt, Int.ofNat_lt]

theorem pairwise_recordedSlots (observations : List Observation) :
    (recordedSlots observations).Pairwise fun s t => Slot.order s t = .lt :=
  (Order.pairwise_lt_sort (nodup_slots _)).filter _

theorem nodup_recordedSlots (observations : List Observation) :
    (recordedSlots observations).Nodup :=
  ((Order.perm_sort _ _).nodup_iff.mpr (nodup_slots _)).filter _

theorem mem_recordedSlots {url : Int64} {kind : ContentKind}
    (hmandatory : kind.isMandatory = true) :
    (url, kind) ∈ recordedSlots observations ↔
      hashes (observations.flatMap entriesOf) (url, kind) ≠ [] := by
  rw [recordedSlots, List.mem_filter, Order.mem_sort, (represents_observing _).hasMandatory_iff,
    mem_slots]
  refine and_iff_left_of_imp fun hslot => ?_
  exact ⟨kind, hmandatory, mem_slots.mpr hslot⟩

theorem mem_urls_of_mem_slots {s : Slot} (hs : s ∈ slots (observations.flatMap entriesOf)) :
    s.1 ∈ observations.map Prod.fst := by
  rw [slots, List.mem_eraseDups] at hs
  obtain ⟨e, he, rfl⟩ := List.mem_map.mp hs
  obtain ⟨o, ho, heo⟩ := List.mem_flatMap.mp he
  rw [map_fst_entriesOf heo]
  exact List.mem_map_of_mem ho

theorem finish_observing (h : SpansRange (observations.map Prod.fst)) (sampleSize : Nat) :
    (observing observations).finish sampleSize =
      (recordedSlots observations).map
        (recordOf (observations.flatMap entriesOf) sampleSize) := by
  rw [(represents_observing observations).finish_eq, recordedSlots]
  congr 1
  refine List.filter_congr fun s hs => ?_
  rw [inRange_observing h (mem_urls_of_mem_slots (Order.mem_sort.mp hs)), Bool.true_and]

variable {kind : ContentKind} {hash : Int64} {urls : List Int64}

theorem isOf_iff {record : DuplicateRecord} :
    isOf kind urls record = true ↔ record.kind = kind ∧ record.urlId ∈ urls := by
  rw [isOf, Bool.and_eq_true, beq_iff_eq, List.contains_iff_mem]

theorem filter_isOf_singleton (h : SpansRange (observations.map Prod.fst)) (sampleSize : Nat)
    {url : Int64} (hslot : (url, kind) ∈ recordedSlots observations) :
    ((observing observations).finish sampleSize).filter (isOf kind [url]) =
      [recordOf (observations.flatMap entriesOf) sampleSize (url, kind)] := by
  have hsame : isOf kind [url] ∘ recordOf (observations.flatMap entriesOf) sampleSize =
      fun s => decide (s = (url, kind)) := by
    funext s
    rw [Bool.eq_iff_iff, Function.comp_apply, isOf_iff, urlId_recordOf, kind_recordOf,
      List.mem_singleton, decide_eq_true_iff, Prod.ext_iff, and_comm]
  rw [finish_observing h, List.filter_map, hsame, List.filter_eq,
    List.count_eq_one_of_mem (nodup_recordedSlots observations) hslot]
  rfl

theorem fields_of_mem_filter (h : SpansRange (observations.map Prod.fst)) {sampleSize : Nat}
    (hmandatory : kind.isMandatory = true)
    (hclass : IsClass (observations.flatMap entriesOf) kind hash urls) {r : DuplicateRecord}
    (hr : r ∈ ((observing observations).finish sampleSize).filter (isOf kind urls)) :
    r.urlId ∈ urls ∧ r.duplicates = urls.length ∧ (r.isFirst = urls.all fun v => r.urlId ≤ v) ∧
      r.others = (urls.filter (· != r.urlId)).take sampleSize := by
  obtain ⟨hr, hof⟩ := List.mem_filter.mp hr
  rw [finish_observing h] at hr
  obtain ⟨⟨u, k⟩, -, rfl⟩ := List.mem_map.mp hr
  obtain ⟨hkind, hu⟩ := isOf_iff.mp hof
  rw [kind_recordOf] at hkind
  rw [urlId_recordOf] at hu
  subst hkind
  rw [recordOf_of_isClass hmandatory hclass sampleSize hu]
  exact ⟨hu, rfl, rfl, rfl⟩

theorem filter_isFirst (h : SpansRange (observations.map Prod.fst)) (sampleSize : Nat)
    (hmandatory : kind.isMandatory = true)
    (hclass : IsClass (observations.flatMap entriesOf) kind hash urls) {m : Int64} (hm : m ∈ urls)
    (hle : ∀ u ∈ urls, m ≤ u) :
    (((observing observations).finish sampleSize).filter (isOf kind urls)).filter
        DuplicateRecord.isFirst =
      ((observing observations).finish sampleSize).filter (isOf kind [m]) := by
  rw [List.filter_filter]
  refine List.filter_congr fun r hr => ?_
  rw [Bool.eq_iff_iff, Bool.and_eq_true]
  constructor
  · rintro ⟨hfirst, hof⟩
    obtain ⟨hu, -, hall, -⟩ :=
      fields_of_mem_filter h hmandatory hclass (List.mem_filter.mpr ⟨hr, hof⟩)
    rw [hfirst, eq_comm, List.all_eq_true] at hall
    have heq : r.urlId = m :=
      Int64.le_antisymm (of_decide_eq_true (hall m hm)) (hle r.urlId hu)
    exact isOf_iff.mpr ⟨(isOf_iff.mp hof).1, List.mem_singleton.mpr heq⟩
  · intro hof
    obtain ⟨hkind, heq⟩ := isOf_iff.mp hof
    rw [List.mem_singleton] at heq
    have hof : isOf kind urls r = true := isOf_iff.mpr ⟨hkind, heq ▸ hm⟩
    obtain ⟨-, -, hall, -⟩ :=
      fields_of_mem_filter h hmandatory hclass (List.mem_filter.mpr ⟨hr, hof⟩)
    rw [hall, heq, List.all_eq_true]
    exact ⟨fun v hv => decide_eq_true (hle v hv), hof⟩

/-- The records describe every class that is not empty. -/
theorem describesClass_finish (h : SpansRange (observations.map Prod.fst)) (sampleSize : Nat)
    (hmandatory : kind.isMandatory = true)
    (hclass : IsClass (observations.flatMap entriesOf) kind hash urls) (hne : urls ≠ []) :
    DescribesClass ((observing observations).finish sampleSize) sampleSize kind urls := by
  have hslot : ∀ u ∈ urls, (u, kind) ∈ recordedSlots observations := by
    intro u hu
    rw [mem_recordedSlots hmandatory]
    intro hnil
    simpa [hnil] using (hclass.mem_iff u).mp hu
  constructor
  case one_record =>
    intro u hu
    exact ⟨_, filter_isOf_singleton h sampleSize (hslot u hu)⟩
  case duplicates =>
    intro r hr
    exact (fields_of_mem_filter h hmandatory hclass hr).2.1
  case one_first =>
    obtain ⟨m, hm⟩ : ∃ m, least? urls = some m := by
      obtain ⟨u, us, rfl⟩ := List.exists_cons_of_ne_nil hne
      exact ⟨_, rfl⟩
    obtain ⟨hmem, hle⟩ := least?_eq_some_iff.mp hm
    refine ⟨recordOf (observations.flatMap entriesOf) sampleSize (m, kind), ?_, ?_, ?_⟩
    · rw [filter_isFirst h sampleSize hmandatory hclass hmem hle,
        filter_isOf_singleton h sampleSize (hslot m hmem)]
    · rwa [urlId_recordOf]
    · rwa [urlId_recordOf]
  case others =>
    intro r hr
    exact (fields_of_mem_filter h hmandatory hclass hr).2.2.2
  case symmetric =>
    intro hsize r hr s hs
    have hall (u : Int64) : (urls.filter (· != u)).take sampleSize = urls.filter (· != u) :=
      List.take_of_length_le ((List.length_filter_le _ _).trans hsize)
    obtain ⟨hru, -, -, hrothers⟩ := fields_of_mem_filter h hmandatory hclass hr
    obtain ⟨hsu, -, -, hsothers⟩ := fields_of_mem_filter h hmandatory hclass hs
    rw [hrothers, hsothers, hall, hall, List.mem_filter, List.mem_filter]
    simp [hru, hsu, ne_comm]

/-- Records are in the order of their urls and kinds. The urls with one first hash of a mandatory
kind are a class that its records describe, and every record of a mandatory kind is in one. -/
theorem finish_describesClasses (observations : List Observation) (sampleSize : Nat)
    (h : SpansRange (observations.map Prod.fst)) :
    let entries := observations.flatMap entriesOf
    let records := (observing observations).finish sampleSize
    (records.Pairwise fun r s =>
        r.urlId < s.urlId ∨ r.urlId = s.urlId ∧ r.kind.id < s.kind.id) ∧
      ∀ kind : ContentKind, kind.isMandatory = true →
        (∀ hash, ∃! urls, IsClass entries kind hash urls) ∧
        (∀ hash urls, IsClass entries kind hash urls → urls ≠ [] →
          DescribesClass records sampleSize kind urls) ∧
        ∀ r ∈ records, r.kind = kind →
          ∃ hash urls, IsClass entries kind hash urls ∧ r.urlId ∈ urls := by
  intro entries records
  refine ⟨?_, fun kind hmandatory => ⟨fun hash => ?_, fun hash urls hclass hne => ?_,
    fun r hr hkind => ?_⟩⟩
  · rw [show records = _ from finish_observing h sampleSize, List.pairwise_map]
    refine (pairwise_recordedSlots observations).imp fun hlt => ?_
    simpa using slotOrder_eq_lt.mp hlt
  · have hclass : IsClass entries kind hash (sharing entries kind hash) :=
      isClass_sharing hmandatory
    exact ⟨_, hclass, fun urls h => h.eq hclass⟩
  · exact describesClass_finish h sampleSize hmandatory hclass hne
  · rw [show records = _ from finish_observing h sampleSize] at hr
    obtain ⟨s, hs, rfl⟩ := List.mem_map.mp hr
    rw [kind_recordOf] at hkind
    subst hkind
    have hslot := (mem_recordedSlots hmandatory).mp hs
    obtain ⟨hash, hhash⟩ := Option.isSome_iff_exists.mp (List.isSome_head?.mpr hslot)
    refine ⟨hash, _, isClass_sharing hmandatory, ?_⟩
    rwa [urlId_recordOf, mem_sharing hmandatory]

/-- Two urls between the smallest and the largest one, observed out of order and more than once. -/
theorem finish_describesClasses_of_interleaved_urls :
    let observations : List Observation := [(1, [(1, 9), (5, 1)]), (4, [(1, 8), (7, 9)]),
      (3, [(1, 9), (3, 9)]), (2, []), (4, [(1, 9)]), (2, [(1, 9), (1, 8)]), (5, [(4, 9), (1, 9)])]
    let entries := observations.flatMap entriesOf
    let records := (observing observations).finish 2
    SpansRange (observations.map Prod.fst) ∧ IsClass entries .title 9 [1, 3, 2, 5] ∧
      DescribesClass records 2 .title [1, 3, 2, 5] ∧
      records.map (fun r => (r.urlId, r.kind, r.isFirst, r.others)) =
        [(1, .title, true, [3, 2]), (1, .h3, true, []), (2, .title, false, [1, 3]),
          (3, .title, false, [1, 2]), (3, .h2, true, []), (4, .title, true, []),
          (5, .title, false, [1, 3]), (5, .description, true, [])] := by
  intro observations entries records
  have hspans : SpansRange (observations.map Prod.fst) := by decide
  have hclass : IsClass entries .title 9 [1, 3, 2, 5] := by
    constructor
    case mem_iff =>
      intro u
      constructor
      · intro hu
        have hall : ([1, 3, 2, 5] : List Int64).all (fun v =>
            (hashes entries (v, .title)).head? == some 9) = true := by decide +kernel
        exact eq_of_beq (List.all_eq_true.mp hall u hu)
      · intro hhash
        have hurl : u ∈ observations.map Prod.fst := by
          refine mem_urls_of_mem_slots (s := (u, .title)) (mem_slots.mpr fun hnil => ?_)
          simp [entries, hnil] at hhash
        have hall : (observations.map Prod.fst).all (fun v =>
            (hashes entries (v, .title)).head? != some 9 || [1, 3, 2, 5].contains v) = true := by
          decide +kernel
        simpa [hhash] using List.all_eq_true.mp hall u hurl
    case ordered => decide +kernel
  obtain ⟨-, hkinds⟩ := finish_describesClasses observations 2 hspans
  exact ⟨hspans, hclass, (hkinds .title rfl).2.1 9 _ hclass (by simp), by decide +kernel⟩

end

end CrawlAudit.Detector
