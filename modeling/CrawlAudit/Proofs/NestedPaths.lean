import CrawlAudit.Proofs.SeparatedTexts
import CrawlAudit.Proofs.SortedMap
import CrawlAudit.Query.Catalog
import CrawlAudit.Query.Nesting
import Mathlib.Data.List.Basic
import Mathlib.Data.List.Induction

/-!
# Values at paths

A value that is put at a path is found there, and stays there as long as nothing is put above or
below it.
-/

namespace CrawlAudit.Nesting

/-- What a path leads to in nested objects. -/
def at? : List String → Json.Members → Option Json
  | [], _ => none
  | [key], members => Json.member? key members
  | key :: rest, members => at? rest (membersIn (Json.member? key members))

/-- Neither of two paths leads on from the other, nor are they the same. -/
def Apart (path other : List String) : Prop :=
  ¬path <+: other ∧ ¬other <+: path

theorem Apart.tail {key : String} {path other : List String}
    (h : Apart (key :: path) (key :: other)) : Apart path other := by
  refine ⟨fun hprefix => h.1 ?_, fun hprefix => h.2 ?_⟩
  · exact (List.prefix_cons_inj key).mpr hprefix
  · exact (List.prefix_cons_inj key).mpr hprefix

theorem member?_insertMember (key k : String) (value : Json) (members : Json.Members) :
    Json.member? k (Json.insertMember key value members) =
      if k = key then some value else Json.member? k members :=
  Sorted.lookup_insert key k value members

theorem at?_cons_cons (key next : String) (rest : List String) (members : Json.Members) :
    at? (key :: next :: rest) members = at? (next :: rest) (membersIn (Json.member? key members)) :=
  rfl

theorem at?_cons_congr {key : String} {rest : List String} {members members' : Json.Members}
    (h : Json.member? key members = Json.member? key members') :
    at? (key :: rest) members = at? (key :: rest) members' := by
  cases rest with
  | nil => exact h
  | cons next rest => rw [at?_cons_cons, at?_cons_cons, h]

theorem at?_put_self (value : Json) (key : String) (rest : List String) (members : Json.Members) :
    at? (key :: rest) (put value (key :: rest) members) = some value := by
  induction rest generalizing key members with
  | nil =>
      change Json.member? key (Json.insertMember key value members) = _
      rw [member?_insertMember, if_pos rfl]
  | cons next rest ih =>
      rw [at?_cons_cons, put]
      · rw [member?_insertMember, if_pos rfl]
        exact ih next _
      · simp

theorem at?_put_of_apart (value : Json) {path other : List String} (h : Apart path other)
    (members : Json.Members) : at? other (put value path members) = at? other members := by
  induction path generalizing other members with
  | nil => exact absurd List.nil_prefix h.1
  | cons key rest ih =>
      cases other with
      | nil => exact absurd List.nil_prefix h.2
      | cons k others =>
          by_cases hk : k = key
          · subst hk
            cases rest with
            | nil => exact absurd (List.prefix_append [k] others) h.1
            | cons next rest =>
                cases others with
                | nil => exact absurd (List.prefix_append [k] (next :: rest)) h.2
                | cons next' others =>
                    have hput : put value (k :: next :: rest) members =
                        Json.insertMember k (.object (put value (next :: rest)
                          (membersIn (Json.member? k members)))) members := rfl
                    rw [at?_cons_cons, hput, member?_insertMember, if_pos rfl]
                    exact ih h.tail _
          · apply at?_cons_congr
            cases rest with
            | nil =>
                change Json.member? k (Json.insertMember key value members) = _
                rw [member?_insertMember, if_neg hk]
            | cons next rest =>
                change Json.member? k (Json.insertMember key _ members) = _
                rw [member?_insertMember, if_neg hk]

theorem exists_segments_eq_cons (path : String) : ∃ key rest, segments path = key :: rest := by
  apply List.exists_cons_of_ne_nil
  simp [segments]

theorem segments_injective {path other : String} (h : segments path = segments other) :
    path = other := by
  have hsplit : path.toList.splitOn '.' = other.toList.splitOn '.' :=
    List.map_injective_iff.mpr (fun _ _ h => String.ofList_injective h) h
  apply String.toList_inj.mp
  calc path.toList
    _ = ['.'].intercalate (path.toList.splitOn '.') := (List.intercalate_splitOn '.').symm
    _ = other.toList := by rw [hsplit, List.intercalate_splitOn]

theorem prefix_segments_iff {path other : String} :
    segments path <+: segments other ↔
      path = other ∨ FieldCatalog.isUnder path other = true := by
  rw [FieldCatalog.isUnder, List.isPrefixOf_iff_prefix]
  constructor
  · rintro ⟨more, hmore⟩
    obtain ⟨front, back, hsplit, hfront, -⟩ := List.map_eq_append_iff.mp hmore.symm
    have heq : front = path.toList.splitOn '.' :=
      List.map_injective_iff.mpr (fun _ _ h => String.ofList_injective h) hfront
    have hpath : ['.'].intercalate front = path.toList := by
      rw [heq]
      exact List.intercalate_splitOn '.'
    have hother : ['.'].intercalate (front ++ back) = other.toList := by
      rw [← hsplit]
      exact List.intercalate_splitOn '.'
    cases back with
    | nil =>
        rw [List.append_nil, hpath] at hother
        exact Or.inl (String.toList_inj.mp hother)
    | cons piece back =>
        have hne : front ≠ [] := heq ▸ List.splitOn_ne_nil '.' path.toList
        rw [SeparatedText.intercalate_append hne (List.cons_ne_nil piece back), hpath,
          ← List.singleton_append, ← List.append_assoc] at hother
        exact Or.inr ⟨_, hother⟩
  · rintro (rfl | ⟨rest, hrest⟩)
    · exact List.prefix_rfl
    · rw [segments, segments, ← hrest, List.append_assoc, List.singleton_append,
        List.splitOn_append_cons_self, List.map_append]
      exact List.prefix_append ..

theorem apart_segments {path other : String} (hne : path ≠ other)
    (hunder : FieldCatalog.isUnder path other = false)
    (hover : FieldCatalog.isUnder other path = false) :
    Apart (segments path) (segments other) := by
  have hnot {p q : String} (hpq : p ≠ q) (h : FieldCatalog.isUnder p q = false) :
      ¬segments p <+: segments q := by
    intro hprefix
    rcases prefix_segments_iff.mp hprefix with heq | h'
    · exact hpq heq
    · simp [h] at h'
  exact ⟨hnot hne hunder, hnot hne.symm hover⟩

theorem nest_concat (pairs : List (String × Json)) (pair : String × Json) :
    nest (pairs ++ [pair]) = put pair.2 (segments pair.1) (nest pairs) := by
  rw [nest, List.foldl_append]
  rfl

/-- Where no other path leads to or on from a path, it leads to its value. -/
theorem at?_nest (value : String → Json) {paths : List String} {path : String} (h : path ∈ paths)
    (hapart : ∀ other ∈ paths, FieldCatalog.isUnder path other = false ∧
      FieldCatalog.isUnder other path = false) :
    at? (segments path) (nest (paths.map fun p => (p, value p))) = some (value path) := by
  induction paths using List.reverseRecOn with
  | nil => contradiction
  | append_singleton paths last ih =>
      obtain ⟨hpaths, hlast⟩ := List.forall_mem_append.mp hapart
      rw [List.map_append, List.map_singleton, nest_concat]
      by_cases heq : last = path
      · obtain ⟨key, rest, hsegments⟩ := exists_segments_eq_cons path
        rw [heq, hsegments]
        exact at?_put_self (value path) key rest _
      · obtain ⟨hunder, hover⟩ := hlast last (List.mem_singleton_self last)
        have hmem : path ∈ paths := by simpa [Ne.symm heq] using h
        rw [at?_put_of_apart _ (apart_segments heq hover hunder)]
        exact ih hmem hpaths

end CrawlAudit.Nesting
