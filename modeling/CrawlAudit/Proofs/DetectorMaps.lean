import CrawlAudit.Proofs.ObservedClasses

/-!
# The maps of the detector

After every run of observations the groups are the first hashes the other way round, and a slot of
a mandatory kind has a first hash exactly if it was counted. So no url and no slot is passed over
for want of an entry when records are made, and the contents of a url may be observed in one call
or in several.
-/

namespace CrawlAudit.Detector

/-- How many contents of a slot were counted, if any were. -/
def filled? (detector : Detector) (slot : Slot) : Option Nat :=
  Sorted.find? Slot.order slot detector.filled

/-- The maps of a detector agree with the contents observed and with each other. -/
structure IsConsistent (entries : List Entry) (detector : Detector) : Prop where
  filled : ∀ slot n, detector.filled? slot = some n ↔ n = (hashes entries slot).length ∧ n ≠ 0
  firstHash : ∀ slot hash, detector.hash? slot = some hash ↔
    slot.2.isMandatory = true ∧ (hashes entries slot).head? = some hash
  counted : ∀ slot : Slot, slot.2.isMandatory = true →
    ((detector.filled? slot).isSome ↔ (detector.hash? slot).isSome)
  grouped : ∀ kind hash, (detector.group? kind hash).isSome ↔
    ∃ url, detector.hash? (url, kind) = some hash
  group : ∀ kind hash urls, detector.group? kind hash = some urls →
    kind.isMandatory = true ∧ urls.Nodup ∧
      ∀ url, url ∈ urls ↔ detector.hash? (url, kind) = some hash

/-- Every url with a first hash was counted, and every slot that was counted has a record. -/
structure SkipsNothing (detector : Detector) : Prop where
  urls : ∀ url, detector.hasMandatory url = true → ∃ e ∈ detector.filled, e.1.1 = url
  slots : ∀ sampleSize, ∀ e ∈ detector.filled, (detector.record? sampleSize e.1 e.2).isSome
  records : ∀ sampleSize,
    (detector.finish sampleSize).map (fun r => ((r.urlId, r.kind), r.filled)) =
      detector.filled.filter fun e => detector.inRange e.1.1 && detector.hasMandatory e.1.1

theorem nonempty?_eq_some_iff {α : Type} {xs ys : List α} :
    nonempty? xs = some ys ↔ xs = ys ∧ xs ≠ [] := by
  cases xs <;> simp [nonempty?]

namespace Represents

variable {entries : List Entry} {detector : Detector}

theorem filled?_eq_some_iff (h : Represents entries detector) {slot : Slot} {n : Nat} :
    detector.filled? slot = some n ↔ n = (hashes entries slot).length ∧ n ≠ 0 := by
  rw [filled?, h.filled, Option.map_eq_some_iff]
  simp only [nonempty?_eq_some_iff]
  constructor
  · rintro ⟨_, ⟨rfl, hne⟩, rfl⟩
    exact ⟨rfl, fun hlength => hne (List.length_eq_zero_iff.mp hlength)⟩
  · rintro ⟨rfl, hne⟩
    exact ⟨_, ⟨rfl, fun hnil => hne (List.length_eq_zero_iff.mpr hnil)⟩, rfl⟩

theorem hash?_eq_some_iff (h : Represents entries detector) {slot : Slot} {hash : Int64} :
    detector.hash? slot = some hash ↔
      slot.2.isMandatory = true ∧ (hashes entries slot).head? = some hash := by
  rw [h.firstHash, mandatoryHash?, Option.ite_none_right_eq_some]

theorem group?_eq_some_iff (h : Represents entries detector) {kind : ContentKind} {hash : Int64}
    {urls : List Int64} :
    detector.group? kind hash = some urls ↔ sharing entries kind hash = urls ∧ urls ≠ [] := by
  rw [group?, h.groups, nonempty?_eq_some_iff]
  exact and_congr_right fun hurls => by rw [hurls]

theorem mem_sharing_iff (h : Represents entries detector) {kind : ContentKind} {hash url : Int64} :
    url ∈ sharing entries kind hash ↔ detector.hash? (url, kind) = some hash := by
  rw [h.hash?_eq_some_iff]
  by_cases hmandatory : kind.isMandatory = true
  · rw [mem_sharing hmandatory, and_iff_right hmandatory]
  · refine iff_of_false ?_ fun hfirst => hmandatory hfirst.1
    simp only [sharing, List.mem_map, List.mem_filter, decide_eq_true_eq]
    rintro ⟨slot, ⟨-, rfl, hhash⟩, -⟩
    rw [mandatoryHash?, if_neg hmandatory] at hhash
    cases hhash

theorem isConsistent (h : Represents entries detector) : IsConsistent entries detector where
  filled _ _ := h.filled?_eq_some_iff
  firstHash _ _ := h.hash?_eq_some_iff
  counted slot hmandatory := by
    have hhash : detector.hash? slot = (hashes entries slot).head? :=
      (h.firstHash slot).trans (if_pos hmandatory)
    rw [hhash, List.isSome_head?, filled?, h.filled]
    cases hashes entries slot <;> simp [nonempty?]
  grouped kind hash := by
    have hgroup : (detector.group? kind hash).isSome ↔ sharing entries kind hash ≠ [] := by
      rw [Option.isSome_iff_exists]
      simp only [h.group?_eq_some_iff]
      constructor
      · rintro ⟨_, rfl, hne⟩
        exact hne
      · intro hne
        exact ⟨_, rfl, hne⟩
    rw [hgroup]
    constructor
    · intro hne
      obtain ⟨url, hurl⟩ := List.exists_mem_of_ne_nil _ hne
      exact ⟨url, h.mem_sharing_iff.mp hurl⟩
    · rintro ⟨url, hhash⟩
      exact List.ne_nil_of_mem (h.mem_sharing_iff.mpr hhash)
  group kind hash urls hurls := by
    obtain ⟨rfl, hne⟩ := h.group?_eq_some_iff.mp hurls
    obtain ⟨url, hurl⟩ := List.exists_mem_of_ne_nil _ hne
    have hmandatory := (h.hash?_eq_some_iff.mp (h.mem_sharing_iff.mp hurl)).1
    have hnodup : (sharing entries kind hash).Nodup := by
      refine (isClass_sharing hmandatory).ordered.imp ?_
      rintro u _ hlt rfl
      exact Nat.lt_irrefl _ hlt
    exact ⟨hmandatory, hnodup, fun _ => h.mem_sharing_iff⟩

theorem slot_recordOf (entries : List Entry) (sampleSize : Nat) (s : Slot) :
    let record := recordOf entries sampleSize s
    ((record.urlId, record.kind), record.filled) = (s, (hashes entries s).length) := by
  rw [recordOf]
  split_ifs <;> rfl

theorem skipsNothing (h : Represents entries detector) : SkipsNothing detector where
  urls url hurl := by
    obtain ⟨kind, -, hslot⟩ := (h.hasMandatory_iff url).mp hurl
    rw [h.filled_eq]
    exact ⟨_, List.mem_map_of_mem (Order.mem_sort.mpr hslot), rfl⟩
  slots sampleSize e he := by
    rw [h.filled_eq] at he
    obtain ⟨s, hs, rfl⟩ := List.mem_map.mp he
    rw [h.record?_eq sampleSize (Order.mem_sort.mp hs)]
    rfl
  records sampleSize := by
    rw [h.finish_eq, h.filled_eq, List.map_map, List.filter_map]
    exact List.map_congr_left fun s _ => slot_recordOf entries sampleSize s

end Represents

theorem observe_eq_foldl {detector : Detector} {url : Int64} (hfirst : detector.firstUrl.isSome)
    (hlast : detector.lastUrl = some url) (contents : List (Int64 × Int64)) :
    detector.observe url contents = contents.foldl (observeContent url) detector := by
  obtain ⟨first, hfirst⟩ := Option.isSome_iff_exists.mp hfirst
  rw [observe, hfirst, Option.some_or, ← hfirst, ← hlast]

theorem observe_observe (detector : Detector) (url : Int64) (first second : List (Int64 × Int64)) :
    (detector.observe url first).observe url second = detector.observe url (first ++ second) := by
  obtain ⟨hfirst, hlast⟩ := foldl_observeContent_range
    { detector with firstUrl := detector.firstUrl.or (some url), lastUrl := some url } url first
  have hsome : (detector.observe url first).firstUrl.isSome := by
    rw [observe, hfirst, Option.isSome_or]
    exact Bool.or_true _
  rw [observe_eq_foldl hsome hlast, observe, observe, List.foldl_append]

theorem foldl_observe (detector : Detector) (url : Int64) (part : List (Int64 × Int64))
    (parts : List (List (Int64 × Int64))) :
    (part :: parts).foldl (fun d contents => d.observe url contents) detector =
      detector.observe url (part :: parts).flatten := by
  induction parts generalizing part with
  | nil => rw [List.flatten_singleton, List.foldl_cons, List.foldl_nil]
  | cons next parts ih =>
      have hmerged := ih (part ++ next)
      rw [List.foldl_cons] at hmerged
      rw [List.foldl_cons, List.foldl_cons, observe_observe, hmerged, List.flatten_cons,
        List.flatten_cons, List.flatten_cons, List.append_assoc]

theorem observing_flatten (observations later : List Observation) (url : Int64)
    (part : List (Int64 × Int64)) (parts : List (List (Int64 × Int64))) :
    observing (observations ++ (part :: parts).map (Prod.mk url) ++ later) =
      observing (observations ++ (url, (part :: parts).flatten) :: later) := by
  have hparts := foldl_observe (observing observations) url part parts
  rw [observing] at hparts ⊢
  rw [observing, List.foldl_append, List.foldl_append, List.foldl_append, List.foldl_cons,
    List.foldl_map, hparts]

/-- After every run of observations the maps agree with the contents and with each other, so that
nothing is skipped when records are made. They do not tell in how many calls the contents of a url
were observed. -/
theorem isConsistent_observing (observations : List Observation) :
    IsConsistent (observations.flatMap entriesOf) (observing observations) ∧
      SkipsNothing (observing observations) ∧
      ∀ url part parts later,
        observing (observations ++ (part :: parts).map (Prod.mk url) ++ later) =
          observing (observations ++ (url, (part :: parts).flatten) :: later) := by
  have hmaps := represents_observing observations
  refine ⟨hmaps.isConsistent, hmaps.skipsNothing, ?_⟩
  intro url part parts later
  exact observing_flatten observations later url part parts

end CrawlAudit.Detector
