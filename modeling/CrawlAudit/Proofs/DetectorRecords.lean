import CrawlAudit.Proofs.DetectorRun

/-!
# Records of the detector

The records after a run of observations: one for each slot with contents, on the urls that have a
mandatory content and lie in the range observed, in the order of the slots.
-/

namespace CrawlAudit.Detector

open Std

theorem least?_eq_min? (urls : List Int64) : least? urls = urls.min? := by
  have hmin : (fun m v : Int64 => if v.toInt < m.toInt then v else m) = min := by
    funext m v
    by_cases h : v < m
    · rw [if_pos (Int64.lt_iff_toInt_lt.mp h), Std.min_eq_if, if_neg (Std.not_le.mpr h)]
    · rw [if_neg fun hlt => h (Int64.lt_iff_toInt_lt.mpr hlt), Std.min_eq_if,
        if_pos (Std.not_lt.mp h)]
  cases urls with
  | nil => rfl
  | cons u us => rw [least?, List.min?_cons', hmin]

theorem least?_eq_some_iff {urls : List Int64} {m : Int64} :
    least? urls = some m ↔ m ∈ urls ∧ ∀ v ∈ urls, m ≤ v := by
  rw [least?_eq_min?, List.min?_eq_some_iff]

theorem foldl_observeContent_range (detector : Detector) (url : Int64)
    (contents : List (Int64 × Int64)) :
    (contents.foldl (observeContent url) detector).firstUrl = detector.firstUrl ∧
      (contents.foldl (observeContent url) detector).lastUrl = detector.lastUrl := by
  induction contents generalizing detector with
  | nil => exact ⟨rfl, rfl⟩
  | cons content contents ih =>
      obtain ⟨hfirst, hlast⟩ := ih (detector.observeContent url content)
      rw [List.foldl_cons, hfirst, hlast, observeContent]
      split
      · exact ⟨rfl, rfl⟩
      · dsimp only
        split <;> exact ⟨rfl, rfl⟩

theorem observing_range (observations : List Observation) :
    (observing observations).firstUrl = (observations.map Prod.fst).head? ∧
      (observing observations).lastUrl = (observations.map Prod.fst).getLast? := by
  induction observations using List.reverseRecOn with
  | nil => exact ⟨rfl, rfl⟩
  | append_singleton observations o ih =>
      rw [observing_concat, observe, (foldl_observeContent_range ..).1,
        (foldl_observeContent_range ..).2, ih.1, List.map_append, List.map_singleton,
        List.head?_append, List.getLast?_concat]
      exact ⟨rfl, rfl⟩

/-- The first url is the smallest and the last one the largest. -/
def SpansRange (urls : List Int64) : Prop :=
  (∀ first ∈ urls.head?, ∀ u ∈ urls, first ≤ u) ∧ ∀ last ∈ urls.getLast?, ∀ u ∈ urls, u ≤ last

instance (urls : List Int64) : Decidable (SpansRange urls) :=
  decidable_of_iff ((urls.head?.all fun first => urls.all fun u => first ≤ u) = true ∧
    (urls.getLast?.all fun last => urls.all fun u => u ≤ last) = true) <| by
      simp [SpansRange, Option.all_eq_true]

theorem SpansRange.of_pairwise {urls : List Int64}
    (h : urls.Pairwise fun u v => (Order.int64s u v).isLE) : SpansRange urls := by
  constructor
  · intro first hfirst u hu
    obtain ⟨rest, rfl⟩ := List.head?_eq_some_iff.mp hfirst
    rcases List.mem_cons.mp hu with rfl | hmem
    · exact Int64.le_refl _
    · exact Order.isLE_int64s.mp ((List.pairwise_cons.mp h).1 u hmem)
  · intro last hlast u hu
    obtain ⟨front, rfl⟩ := List.getLast?_eq_some_iff.mp hlast
    rcases List.mem_append.mp hu with hmem | hmem
    · exact Order.isLE_int64s.mp
        ((List.pairwise_append.mp h).2.2 u hmem last (List.mem_singleton_self last))
    · rw [List.mem_singleton.mp hmem]
      exact Int64.le_refl _

theorem inRange_observing {observations : List Observation}
    (hurls : SpansRange (observations.map Prod.fst)) {url : Int64}
    (hurl : url ∈ observations.map Prod.fst) : (observing observations).inRange url = true := by
  obtain ⟨hfirst, hlast⟩ := observing_range observations
  rw [inRange, hfirst, hlast]
  generalize observations.map Prod.fst = urls at hurls hurl
  obtain ⟨first, hhead⟩ := Option.isSome_iff_exists.mp
    (List.isSome_head?.mpr (List.ne_nil_of_mem hurl))
  obtain ⟨last, hend⟩ := Option.isSome_iff_exists.mp
    (List.getLast?_isSome.mpr (List.ne_nil_of_mem hurl))
  have hle : first ≤ url := hurls.1 first hhead url hurl
  have hge : url ≤ last := hurls.2 last hend url hurl
  rw [hhead, hend]
  simp [Int64.le_iff_toInt_le.mp hle, Int64.le_iff_toInt_le.mp hge]

/-- The urls whose first content of the kind of a slot has the same hash as that of the slot. -/
def classOf (entries : List Entry) (s : Slot) : List Int64 :=
  ((slots entries).filter fun t =>
    t.2 = s.2 ∧ mandatoryHash? entries t = mandatoryHash? entries s).map Prod.fst

/-- The record of a slot as a function of the contents observed. -/
def recordOf (entries : List Entry) (sampleSize : Nat) (s : Slot) : DuplicateRecord :=
  if s.2.isMandatory then
    { urlId := s.1
      kind := s.2
      filled := (hashes entries s).length
      duplicates := (classOf entries s).length
      isFirst := (classOf entries s).all fun v => s.1 ≤ v
      others := ((classOf entries s).filter (· != s.1)).take sampleSize }
  else
    { urlId := s.1
      kind := s.2
      filled := (hashes entries s).length
      duplicates := 0
      isFirst := true
      others := [] }

theorem mandatoryHash?_of_mem {entries : List Entry} {s : Slot} (hs : s ∈ slots entries)
    (hmandatory : s.2.isMandatory = true) : ∃ hash, mandatoryHash? entries s = some hash := by
  rw [mandatoryHash?, if_pos hmandatory]
  exact Option.isSome_iff_exists.mp (List.isSome_head?.mpr (mem_slots.mp hs))

theorem mem_classOf_self {entries : List Entry} {s : Slot} (hs : s ∈ slots entries) :
    s.1 ∈ classOf entries s :=
  List.mem_map_of_mem (List.mem_filter.mpr ⟨hs, by simp⟩)

namespace Represents

variable {entries : List Entry} {detector : Detector}

theorem group?_eq (h : Represents entries detector) {s : Slot} (hs : s ∈ slots entries)
    (hmandatory : s.2.isMandatory = true) :
    (detector.hash? s).bind (detector.group? s.2) = some (classOf entries s) := by
  obtain ⟨hash, hhash⟩ := mandatoryHash?_of_mem hs hmandatory
  have hgroup : sharing entries s.2 hash = classOf entries s := by
    rw [sharing, classOf, hhash]
  obtain ⟨u, us, hcons⟩ := List.exists_cons_of_ne_nil
    (List.ne_nil_of_mem (mem_classOf_self hs))
  rw [h.firstHash, hhash, Option.bind_some, group?, h.groups, hgroup, hcons]
  rfl

theorem record?_eq (h : Represents entries detector) (sampleSize : Nat) {s : Slot}
    (hs : s ∈ slots entries) :
    detector.record? sampleSize s (hashes entries s).length =
      some (recordOf entries sampleSize s) := by
  rw [record?, recordOf]
  by_cases hmandatory : s.2.isMandatory = true
  · have hfirst : (least? (classOf entries s) == some s.1) =
        (classOf entries s).all fun v => s.1 ≤ v := by
      rw [Bool.eq_iff_iff, beq_iff_eq, least?_eq_some_iff, List.all_eq_true]
      simp [mem_classOf_self hs]
    rw [if_pos hmandatory, if_pos hmandatory, h.group?_eq hs hmandatory, Option.map_some, hfirst]
  · rw [if_neg hmandatory, if_neg hmandatory]

theorem hasMandatory_iff (h : Represents entries detector) (url : Int64) :
    detector.hasMandatory url = true ↔
      ∃ kind : ContentKind, kind.isMandatory = true ∧ (url, kind) ∈ slots entries := by
  rw [hasMandatory, List.any_eq_true]
  constructor
  · rintro ⟨e, he, hurl⟩
    obtain rfl := eq_of_beq hurl
    have hhash : mandatoryHash? entries e.1 = some e.2 := by
      rw [← h.firstHash]
      exact (Sorted.find?_eq_some_iff h.isSorted_firstHash e.1 e.2).mpr he
    rw [mandatoryHash?] at hhash
    split at hhash
    · rename_i hmandatory
      refine ⟨e.1.2, hmandatory, mem_slots.mpr ?_⟩
      intro hnil
      simp [hnil] at hhash
    · contradiction
  · rintro ⟨kind, hmandatory, hslot⟩
    obtain ⟨hash, hhash⟩ := mandatoryHash?_of_mem hslot hmandatory
    rw [← h.firstHash] at hhash
    exact ⟨((url, kind), hash), (Sorted.find?_eq_some_iff h.isSorted_firstHash _ _).mp hhash,
      by simp⟩

theorem filled_eq (h : Represents entries detector) :
    detector.filled =
      (Order.sort Slot.order (slots entries)).map fun s => (s, (hashes entries s).length) := by
  have hentry : TransCmp fun a b : Slot × Nat => Slot.order a.1 b.1 :=
    Order.transCmp_on Slot.order Prod.fst
  have hslots : (Order.sort Slot.order (slots entries)).Pairwise fun s t =>
      Slot.order s t = .lt := Order.pairwise_lt_sort (nodup_slots entries)
  refine Order.eq_of_mem_iff (fun a b : Slot × Nat => Slot.order a.1 b.1) h.isSorted_filled
    (List.pairwise_map.mpr hslots) ?_
  rintro ⟨s, n⟩
  rw [← Sorted.find?_eq_some_iff h.isSorted_filled, h.filled]
  simp only [List.mem_map, Order.mem_sort, mem_slots, Prod.mk.injEq]
  constructor
  · intro hn
    refine ⟨s, ?_, rfl, ?_⟩
    · intro hnil
      simp [hnil, nonempty?] at hn
    · rw [← getD_length_nonempty?, hn, Option.getD_some]
  · rintro ⟨s, hs, rfl, rfl⟩
    obtain ⟨a, as, has⟩ := List.exists_cons_of_ne_nil hs
    rw [has]
    rfl

theorem finish_eq (h : Represents entries detector) (sampleSize : Nat) :
    detector.finish sampleSize =
      ((Order.sort Slot.order (slots entries)).filter fun s =>
        detector.inRange s.1 && detector.hasMandatory s.1).map (recordOf entries sampleSize) := by
  rw [finish, h.filled_eq, List.filterMap_map, ← List.filterMap_eq_map, List.filterMap_filter]
  refine List.filterMap_congr fun s hs => ?_
  rw [Function.comp_apply, h.record?_eq sampleSize (Order.mem_sort.mp hs)]
  rfl

end Represents

end CrawlAudit.Detector
