import CrawlAudit.Duplicate.Detector
import CrawlAudit.Proofs.Distinct
import CrawlAudit.Proofs.SortedMap

/-!
# Runs of the detector

After a sequence of observations the maps of a detector are functions of the contents observed: how
many a slot has, which one was first, and which urls share a first content.
-/

namespace CrawlAudit

open Std

namespace ContentKind

theorem id_inj {k k' : ContentKind} (h : (k.id : Int) = k'.id) : k = k' := by
  revert h
  cases k <;> cases k' <;> decide

theorem mem_all (k : ContentKind) : k ∈ all := by
  cases k <;> decide

end ContentKind

instance : TransCmp Slot.order :=
  Order.transCmp_then Order.int64s Order.integers Prod.fst fun s : Slot => (s.2.id : Int)

instance : LawfulEqCmp Slot.order :=
  Order.lawfulEqCmp_then Order.int64s Order.integers fun _ _ hurl hkind =>
    Prod.ext hurl (ContentKind.id_inj hkind)

namespace Detector

instance : TransCmp groupOrder :=
  Order.transCmp_then Order.integers Order.int64s
    (fun s : ContentKind × Int64 => (s.1.id : Int)) Prod.snd

instance : LawfulEqCmp groupOrder :=
  Order.lawfulEqCmp_then Order.integers Order.int64s fun _ _ hkind hhash =>
    Prod.ext (ContentKind.id_inj hkind) hhash

/-- A url with contents, each given by the number of its kind and its hash. -/
abbrev Observation :=
  Int64 × List (Int64 × Int64)

/-- The detector after some observations. -/
def observing (observations : List Observation) : Detector :=
  observations.foldl (fun detector o => detector.observe o.1 o.2) empty

/-- A content of a known kind. -/
abbrev Entry :=
  Slot × Int64

/-- The contents of known kinds in an observation. -/
def entriesOf (o : Observation) : List Entry :=
  o.2.filterMap fun c => (ContentKind.ofId? c.1).map fun kind => ((o.1, kind), c.2)

theorem map_fst_entriesOf {o : Observation} {e : Entry} (he : e ∈ entriesOf o) :
    e.1.1 = o.1 := by
  obtain ⟨c, _, hc⟩ := List.mem_filterMap.mp he
  obtain ⟨kind, _, rfl⟩ := Option.map_eq_some_iff.mp hc
  rfl

/-- The hashes of the contents of a slot. -/
def hashes (entries : List Entry) (slot : Slot) : List Int64 :=
  (entries.filter fun e => e.1 = slot).map Prod.snd

/-- The first hash of a slot of a mandatory kind. -/
def mandatoryHash? (entries : List Entry) (slot : Slot) : Option Int64 :=
  if slot.2.isMandatory then (hashes entries slot).head? else none

/-- The slots in order of their first contents. -/
def slots (entries : List Entry) : List Slot :=
  (entries.map Prod.fst).eraseDups

/-- The urls whose first content of a mandatory kind has the hash, in order of these contents. -/
def sharing (entries : List Entry) (kind : ContentKind) (hash : Int64) : List Int64 :=
  ((slots entries).filter fun s => s.2 = kind ∧ mandatoryHash? entries s = some hash).map Prod.fst

/-- A list that has elements. -/
def nonempty? {α : Type} : List α → Option (List α)
  | [] => none
  | a :: as => some (a :: as)

/-- The maps of a detector as functions of the contents observed. -/
structure Represents (entries : List Entry) (detector : Detector) : Prop where
  isSorted_filled : Sorted.IsSorted Slot.order detector.filled
  isSorted_firstHash : Sorted.IsSorted Slot.order detector.firstHash
  isSorted_groups : Sorted.IsSorted groupOrder detector.groups
  filled (slot : Slot) :
    Sorted.find? Slot.order slot detector.filled =
      (nonempty? (hashes entries slot)).map List.length
  firstHash (slot : Slot) : detector.hash? slot = mandatoryHash? entries slot
  groups (kind : ContentKind) (hash : Int64) :
    Sorted.find? groupOrder (kind, hash) detector.groups =
      nonempty? (sharing entries kind hash)

theorem hashes_append (entries entries' : List Entry) (slot : Slot) :
    hashes (entries ++ entries') slot = hashes entries slot ++ hashes entries' slot := by
  rw [hashes, List.filter_append, List.map_append, hashes, hashes]

theorem hashes_concat (entries : List Entry) (s slot : Slot) (hash : Int64) :
    hashes (entries ++ [(s, hash)]) slot =
      hashes entries slot ++ if s = slot then [hash] else [] := by
  rw [hashes_append]
  congr 1
  by_cases h : s = slot
  · simp [hashes, h]
  · simp [hashes, h]

theorem mem_slots {entries : List Entry} {slot : Slot} :
    slot ∈ slots entries ↔ hashes entries slot ≠ [] := by
  rw [slots, List.mem_eraseDups, hashes, Ne, List.map_eq_nil_iff, List.filter_eq_nil_iff]
  constructor
  · intro h hnone
    obtain ⟨e, he, rfl⟩ := List.mem_map.mp h
    exact hnone e he (by simp)
  · intro h
    by_contra hnot
    exact h fun e he heq => hnot (List.mem_map.mpr ⟨e, he, by simpa using heq⟩)

theorem nodup_slots (entries : List Entry) : (slots entries).Nodup :=
  Distinct.nodup_eraseDups _

theorem slots_concat (entries : List Entry) (s : Slot) (hash : Int64) :
    slots (entries ++ [(s, hash)]) =
      if s ∈ slots entries then slots entries else slots entries ++ [s] := by
  rw [slots, List.map_append, List.map_singleton, Distinct.eraseDups_concat]
  simp only [slots, List.mem_eraseDups]

theorem mandatoryHash?_concat_of_mem {entries : List Entry} {slot : Slot}
    (h : slot ∈ slots entries) (s : Slot) (hash : Int64) :
    mandatoryHash? (entries ++ [(s, hash)]) slot = mandatoryHash? entries slot := by
  rw [mandatoryHash?, mandatoryHash?, hashes_concat,
    List.head?_append_of_ne_nil _ (mem_slots.mp h)]

theorem mandatoryHash?_concat_of_ne (entries : List Entry) {slot s : Slot} (h : s ≠ slot)
    (hash : Int64) :
    mandatoryHash? (entries ++ [(s, hash)]) slot = mandatoryHash? entries slot := by
  rw [mandatoryHash?, mandatoryHash?, hashes_concat, if_neg h, List.append_nil]

theorem mandatoryHash?_concat_self {entries : List Entry} {s : Slot} (h : s ∉ slots entries)
    (hash : Int64) :
    mandatoryHash? (entries ++ [(s, hash)]) s = if s.2.isMandatory then some hash else none := by
  have hnil : hashes entries s = [] := by simpa [mem_slots] using h
  rw [mandatoryHash?, hashes_concat, hnil, if_pos rfl]
  rfl

theorem sharing_filter_congr (entries : List Entry) (s : Slot) (hash : Int64) (kind : ContentKind)
    (hash' : Int64) :
    ((slots entries).filter fun t => t.2 = kind ∧
        mandatoryHash? (entries ++ [(s, hash)]) t = some hash') =
      (slots entries).filter fun t => t.2 = kind ∧ mandatoryHash? entries t = some hash' :=
  List.filter_congr fun t ht => by rw [mandatoryHash?_concat_of_mem ht]

theorem sharing_concat_of_mem {entries : List Entry} {s : Slot}
    (h : s ∈ slots entries ∨ s.2.isMandatory = false) (hash : Int64) (kind : ContentKind)
    (hash' : Int64) :
    sharing (entries ++ [(s, hash)]) kind hash' = sharing entries kind hash' := by
  rw [sharing, slots_concat]
  split
  · rw [sharing_filter_congr, sharing]
  · rename_i hnew
    have hoptional : s.2.isMandatory = false := h.resolve_left hnew
    have hnone : mandatoryHash? (entries ++ [(s, hash)]) s = none := by
      rw [mandatoryHash?, hoptional]
      rfl
    rw [List.filter_append, sharing_filter_congr, sharing]
    simp [hnone]

theorem sharing_concat_of_new {entries : List Entry} {s : Slot} (hnew : s ∉ slots entries)
    (hmandatory : s.2.isMandatory = true) (hash : Int64) (kind : ContentKind) (hash' : Int64) :
    sharing (entries ++ [(s, hash)]) kind hash' =
      sharing entries kind hash' ++ if (kind, hash') = (s.2, hash) then [s.1] else [] := by
  have hfirst : mandatoryHash? (entries ++ [(s, hash)]) s = some hash := by
    rw [mandatoryHash?_concat_self hnew, if_pos hmandatory]
  rw [sharing, slots_concat, if_neg hnew, List.filter_append, sharing_filter_congr,
    List.map_append, sharing]
  congr 1
  by_cases h : (kind, hash') = (s.2, hash)
  · obtain ⟨rfl, rfl⟩ := Prod.mk.inj h
    simp [hfirst]
  · have hnot : ¬(s.2 = kind ∧ hash = hash') := fun hs => h (Prod.ext hs.1.symm hs.2.symm)
    simp [hfirst, h, hnot]

@[simp] theorem nonempty?_concat {α : Type} (xs : List α) (a : α) :
    nonempty? (xs ++ [a]) = some (xs ++ [a]) := by
  cases xs <;> rfl

@[simp] theorem getD_nonempty? {α : Type} (xs : List α) : (nonempty? xs).getD [] = xs := by
  cases xs <;> rfl

@[simp] theorem getD_length_nonempty? {α : Type} (xs : List α) :
    ((nonempty? xs).map List.length).getD 0 = xs.length := by
  cases xs <;> rfl

namespace Represents

variable {entries : List Entry} {detector : Detector}

theorem isNew_iff (h : Represents entries detector) (slot : Slot) :
    (slot.2.isMandatory && (detector.hash? slot).isNone) = true ↔
      slot.2.isMandatory = true ∧ slot ∉ slots entries := by
  rw [Bool.and_eq_true, h.firstHash, mem_slots]
  refine and_congr_right fun hmandatory => ?_
  rw [mandatoryHash?, if_pos hmandatory, Option.isNone_iff_eq_none, List.head?_eq_none_iff, not_not]

theorem filled_count (h : Represents entries detector) (s : Slot) (hash : Int64) (slot : Slot) :
    Sorted.find? Slot.order slot (detector.count s).filled =
      (nonempty? (hashes (entries ++ [(s, hash)]) slot)).map List.length := by
  rw [count, Sorted.find?_alter s slot _ h.isSorted_filled, h.filled, h.filled, hashes_concat]
  by_cases heq : s = slot
  · rw [if_pos heq.symm, if_pos heq, heq, getD_length_nonempty?, nonempty?_concat]
    simp
  · rw [if_neg (Ne.symm heq), if_neg heq, List.append_nil]

theorem isSorted_count (h : Represents entries detector) (s : Slot) :
    Sorted.IsSorted Slot.order (detector.count s).filled :=
  Sorted.isSorted_alter s _ h.isSorted_filled

theorem count (h : Represents entries detector) {s : Slot}
    (hold : s ∈ slots entries ∨ s.2.isMandatory = false) (hash : Int64) :
    Represents (entries ++ [(s, hash)]) (detector.count s) where
  isSorted_filled := h.isSorted_count s
  isSorted_firstHash := h.isSorted_firstHash
  isSorted_groups := h.isSorted_groups
  filled := h.filled_count s hash
  firstHash slot := by
    refine (h.firstHash slot).trans ?_
    by_cases heq : s = slot
    · subst heq
      rcases hold with hmem | hoptional
      · rw [mandatoryHash?_concat_of_mem hmem]
      · rw [mandatoryHash?, mandatoryHash?, hoptional]
        rfl
    · rw [mandatoryHash?_concat_of_ne entries heq]
  groups kind hash' := by
    rw [sharing_concat_of_mem hold]
    exact h.groups kind hash'

theorem enter (h : Represents entries detector) {s : Slot} (hnew : s ∉ slots entries)
    (hmandatory : s.2.isMandatory = true) (hash : Int64) :
    Represents (entries ++ [(s, hash)]) ((detector.count s).enter s hash) where
  isSorted_filled := h.isSorted_count s
  isSorted_firstHash := Sorted.isSorted_alter s _ h.isSorted_firstHash
  isSorted_groups := Sorted.isSorted_alter (s.2, hash) _ h.isSorted_groups
  filled := h.filled_count s hash
  firstHash slot := by
    refine (Sorted.find?_alter s slot _ h.isSorted_firstHash).trans ?_
    by_cases heq : s = slot
    · subst heq
      rw [if_pos rfl, mandatoryHash?_concat_self hnew, if_pos hmandatory]
    · rw [if_neg (Ne.symm heq), mandatoryHash?_concat_of_ne entries heq]
      exact h.firstHash slot
  groups kind hash' := by
    refine (Sorted.find?_alter (s.2, hash) (kind, hash') _ h.isSorted_groups).trans ?_
    rw [sharing_concat_of_new hnew hmandatory, h.groups, h.groups]
    by_cases heq : (kind, hash') = (s.2, hash)
    · obtain ⟨rfl, rfl⟩ := Prod.mk.inj heq
      simp
    · rw [if_neg heq, if_neg heq, List.append_nil]

/-- What one content preserves. -/
theorem observeContent (h : Represents entries detector) (url : Int64) (content : Int64 × Int64) :
    Represents (entries ++ entriesOf (url, [content])) (detector.observeContent url content) := by
  rw [Detector.observeContent]
  cases hkind : ContentKind.ofId? content.1 with
  | none =>
      have hentries : entriesOf (url, [content]) = [] := by simp [entriesOf, hkind]
      rwa [hentries, List.append_nil]
  | some kind =>
      have hentries : entriesOf (url, [content]) = [((url, kind), content.2)] := by
        simp [entriesOf, hkind]
      rw [hentries]
      by_cases hnew : (kind.isMandatory && (detector.hash? (url, kind)).isNone) = true
      · obtain ⟨hmandatory, hslot⟩ := (h.isNew_iff (url, kind)).mp hnew
        simp only [hnew, if_true]
        exact h.enter hslot hmandatory content.2
      · have hold : (url, kind) ∈ slots entries ∨ kind.isMandatory = false := by
          rw [h.isNew_iff (url, kind)] at hnew
          grind
        simp only [hnew]
        exact h.count hold content.2

theorem foldl_observeContent (h : Represents entries detector) (url : Int64)
    (contents : List (Int64 × Int64)) :
    Represents (entries ++ entriesOf (url, contents))
      (contents.foldl (Detector.observeContent url) detector) := by
  induction contents generalizing entries detector with
  | nil => simpa [entriesOf] using h
  | cons content contents ih =>
      have hentries : entriesOf (url, content :: contents) =
          entriesOf (url, [content]) ++ entriesOf (url, contents) :=
        List.filterMap_append (l := [content])
      rw [hentries, ← List.append_assoc]
      exact ih (h.observeContent url content)

end Represents

theorem represents_empty : Represents [] empty where
  isSorted_filled := Sorted.isSorted_nil
  isSorted_firstHash := Sorted.isSorted_nil
  isSorted_groups := Sorted.isSorted_nil
  filled _ := rfl
  firstHash _ := (ite_self none).symm
  groups _ _ := rfl

theorem observing_concat (observations : List Observation) (o : Observation) :
    observing (observations ++ [o]) = (observing observations).observe o.1 o.2 := by
  rw [observing, List.foldl_append]
  rfl

theorem represents_observing (observations : List Observation) :
    Represents (observations.flatMap entriesOf) (observing observations) := by
  induction observations using List.reverseRecOn with
  | nil => exact represents_empty
  | append_singleton observations o ih =>
      rw [List.flatMap_append, List.flatMap_singleton, observing_concat]
      -- the range of urls that is also kept says nothing about the maps
      have hrange : Represents (observations.flatMap entriesOf)
          { observing observations with
            firstUrl := (observing observations).firstUrl.or (some o.1)
            lastUrl := some o.1 } := { ih with }
      exact hrange.foldl_observeContent o.1 o.2

end Detector

end CrawlAudit
