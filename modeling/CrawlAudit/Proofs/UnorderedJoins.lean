import CrawlAudit.Proofs.MergeJoin
import Mathlib.Data.List.Forall2
import Mathlib.Data.List.Induction

/-!
# Joins of streams in any order

Whatever the order of its streams, a join attaches rows of equal keys only, each row at most once
and in the order of its stream. An ascending stream gives a primary row all the rows of its key or
none, and none only after a primary row whose key was as great.
-/

namespace CrawlAudit

open Std

variable {τ κ : Type} {order : κ → κ → Ordering}

namespace Cursor

theorem takeMatching_sublist (order : κ → κ → Ordering) (key : τ → κ) (wanted : κ)
    (rows : List τ) :
    ((takeMatching order key wanted rows).1 ++ (takeMatching order key wanted rows).2).Sublist
      rows := by
  induction rows with
  | nil => exact .slnil
  | cons row rows ih =>
      cases ho : order (key row) wanted with
      | lt =>
          simp only [takeMatching, ho]
          exact ih.cons row
      | eq =>
          simp only [takeMatching, ho]
          exact ih.cons_cons row
      | gt =>
          simp only [takeMatching, ho]
          exact .refl _

theorem order_key_of_mem_takeMatching {key : τ → κ} {wanted : κ} {rows : List τ} {row : τ}
    (h : row ∈ (takeMatching order key wanted rows).1) : order (key row) wanted = .eq := by
  induction rows with
  | nil => cases h
  | cons first rows ih =>
      cases ho : order (key first) wanted with
      | lt =>
          simp only [takeMatching, ho] at h
          exact ih h
      | eq =>
          simp only [takeMatching, ho] at h
          rcases List.mem_cons.mp h with rfl | h
          · exact ho
          · exact ih h
      | gt =>
          simp only [takeMatching, ho] at h
          cases h

/-- A stream after the rows for some keys have been taken from it, one key after the other. -/
def afterAll (order : κ → κ → Ordering) (cursor : Cursor τ κ) (keys : List κ) : Cursor τ κ :=
  keys.foldl (after order) cursor

/-- The rows that a stream gives for some keys, one key after the other. -/
def taken (order : κ → κ → Ordering) (cursor : Cursor τ κ) : List κ → List (List τ)
  | [] => []
  | key :: keys => cursor.found order key :: (cursor.after order key).taken order keys

theorem length_taken (cursor : Cursor τ κ) (keys : List κ) :
    (cursor.taken order keys).length = keys.length := by
  induction keys generalizing cursor with
  | nil => rfl
  | cons key keys ih => exact congrArg Nat.succ (ih (cursor.after order key))

theorem taken_append (cursor : Cursor τ κ) (keys later : List κ) :
    cursor.taken order (keys ++ later) =
      cursor.taken order keys ++ (cursor.afterAll order keys).taken order later := by
  induction keys generalizing cursor with
  | nil => rfl
  | cons key keys ih => exact congrArg (List.cons _) (ih (cursor.after order key))

theorem flatten_taken_sublist (cursor : Cursor τ κ) (keys : List κ) :
    (cursor.taken order keys).flatten.Sublist cursor.rows := by
  induction keys generalizing cursor with
  | nil => exact List.nil_sublist _
  | cons key keys ih =>
      have hrest := ih (cursor.after order key)
      exact (hrest.append_left _).trans (takeMatching_sublist order cursor.key key cursor.rows)

theorem forall₂_taken (order : κ → κ → Ordering) (cursor : Cursor τ κ) (keys : List κ) :
    List.Forall₂ (fun key rows => ∀ row ∈ rows, order (cursor.key row) key = .eq) keys
      (cursor.taken order keys) := by
  induction keys generalizing cursor with
  | nil => exact .nil
  | cons key keys ih =>
      refine .cons ?_ (ih (cursor.after order key))
      intro row hrow
      exact order_key_of_mem_takeMatching hrow

/-- A stream without the rows whose keys are not greater than all of some keys. -/
def beyond (order : κ → κ → Ordering) (cursor : Cursor τ κ) (keys : List κ) : Cursor τ κ :=
  { cursor with
    rows := cursor.rows.filter fun row => keys.all fun k => order (cursor.key row) k == .gt }

variable [TransCmp order] {cursor : Cursor τ κ}

theorem afterAll_eq_beyond (hcursor : Ascending order cursor.key cursor.rows) (keys : List κ) :
    cursor.afterAll order keys = cursor.beyond order keys := by
  induction keys using List.reverseRecOn with
  | nil => simp [afterAll, beyond]
  | append_singleton keys key ih =>
      have hlast : cursor.afterAll order (keys ++ [key]) =
          (cursor.afterAll order keys).after order key := List.foldl_concat ..
      rw [hlast, ih, after]
      simp only [beyond]
      rw [takeMatching_eq_filter cursor.key key (hcursor.filter _), List.filter_filter]
      simp [Bool.and_comm]

theorem found_beyond (hcursor : Ascending order cursor.key cursor.rows) (keys : List κ)
    (wanted : κ) :
    (cursor.beyond order keys).found order wanted =
      if keys.any fun k => (order k wanted).isGE then [] else cursor.rowsWith order wanted := by
  rw [found]
  simp only [beyond]
  rw [takeMatching_eq_filter cursor.key wanted (hcursor.filter _), List.filter_filter]
  dsimp only
  split
  · rename_i hpassed
    obtain ⟨k, hk, hge⟩ := List.any_eq_true.mp hpassed
    refine List.filter_eq_nil_iff.mpr fun row _ => ?_
    simp only [Bool.and_eq_true, beq_iff_eq, List.all_eq_true, not_and]
    intro heq hall
    have hgt := hall k hk
    rw [TransCmp.congr_left heq] at hgt
    have hlt : order k wanted = .lt := OrientedCmp.lt_of_gt hgt
    rw [hlt] at hge
    cases hge
  · rename_i hnone
    refine List.filter_congr fun row _ => ?_
    rw [Bool.eq_iff_iff, Bool.and_eq_true, beq_iff_eq, and_iff_left_iff_imp]
    intro heq
    refine List.all_eq_true.mpr fun k hk => ?_
    have hlt : order k wanted = .lt := by
      have hnot := mt (fun hge => List.any_eq_true.mpr ⟨k, hk, hge⟩) hnone
      cases ho : order k wanted <;> simp_all
    rw [TransCmp.congr_left heq, OrientedCmp.gt_of_lt hlt]
    rfl

end Cursor

theorem map_merge (order : κ → κ → Ordering) (key : τ → κ) (primary : List τ)
    (cursors : List (Cursor τ κ)) :
    (merge order key primary cursors).map (fun j => (j.key, j.primary)) =
      primary.map fun row => (key row, row) := by
  induction primary generalizing cursors with
  | nil => rfl
  | cons row rows ih => exact congrArg (List.cons _) (ih _)

theorem matches_merge_eq_taken (order : κ → κ → Ordering) (key : τ → κ) (primary : List τ)
    {cursors : List (Cursor τ κ)} {name : String} {cursor : Cursor τ κ}
    (h : Cursor.lastNamed? name cursors = some cursor) :
    (merge order key primary cursors).map (fun j => j.matches name) =
      cursor.taken order (primary.map key) := by
  induction primary generalizing cursors cursor with
  | nil => rfl
  | cons row rows ih =>
      have hnext : Cursor.lastNamed? name (cursors.map fun c => c.after order (key row)) =
          some (cursor.after order (key row)) := by
        rw [Cursor.lastNamed?_map (fun c => c.after order (key row)) (fun _ => rfl), h]
        rfl
      rw [merge, List.map_cons, Joined.matches_mk, h, ih hnext]
      rfl

/-- A join has one record for each primary row. The rows under a name have the key of the record and
come, over all records, in the order of their stream. If that stream is ascending, a record has all
its rows of the key unless an earlier record had a key at least as great, and then it has none. -/
theorem merge_of_any_order [TransCmp order] (key : τ → κ) (primary : List τ)
    (cursors : List (Cursor τ κ)) (name : String) (cursor : Cursor τ κ)
    (hname : Cursor.lastNamed? name cursors = some cursor) :
    let joined := merge order key primary cursors
    joined.map (fun j => (j.key, j.primary)) = primary.map (fun row => (key row, row)) ∧
      (∀ j ∈ joined, ∀ row ∈ j.matches name, order (cursor.key row) j.key = .eq) ∧
      (joined.flatMap fun j => j.matches name).Sublist cursor.rows ∧
      (Ascending order cursor.key cursor.rows → ∀ before j after, joined = before ++ j :: after →
        j.matches name =
          if before.any fun earlier => (order earlier.key j.key).isGE then []
          else cursor.rowsWith order j.key) := by
  intro joined
  have hjoined := map_merge order key primary cursors
  have hkeys : primary.map key = joined.map Joined.key := by
    have hfirst := congrArg (List.map Prod.fst) hjoined
    rw [List.map_map, List.map_map] at hfirst
    exact hfirst.symm
  have htaken : joined.map (fun j => j.matches name) =
      cursor.taken order (joined.map Joined.key) := by
    rw [← hkeys]
    exact matches_merge_eq_taken order key primary hname
  refine ⟨hjoined, ?_, ?_, ?_⟩
  · have hall := cursor.forall₂_taken order (joined.map Joined.key)
    rw [← htaken, List.forall₂_map_left_iff, List.forall₂_map_right_iff, List.forall₂_same] at hall
    exact hall
  · rw [List.flatMap_def, htaken]
    exact cursor.flatten_taken_sublist _
  · intro hcursor before j after hsplit
    rw [hsplit, List.map_append, List.map_append, Cursor.taken_append] at htaken
    have hlength : (before.map fun j => j.matches name).length =
        (cursor.taken order (before.map Joined.key)).length := by
      rw [Cursor.length_taken, List.length_map, List.length_map]
    have hrest := (List.append_inj htaken hlength).2
    rw [List.map_cons, List.map_cons, Cursor.taken] at hrest
    rw [(List.cons.inj hrest).1, Cursor.afterAll_eq_beyond hcursor, Cursor.found_beyond hcursor,
      List.any_map]
    rfl

/-- A primary row that comes too late finds none of the rows of its key. -/
theorem merge_of_any_order_of_late_row :
    let primary : List (Int × String) := [(2, "p"), (1, "q"), (3, "r")]
    let numbers : Cursor (Int × String) Int := ⟨"n", Prod.fst, [(1, "a"), (2, "b"), (3, "c")]⟩
    let streams := [⟨"m", Prod.fst, [(3, "d"), (2, "e")]⟩, numbers]
    let joined := merge Order.integers Prod.fst primary streams
    Cursor.lastNamed? "n" streams = some numbers ∧
      Ascending Order.integers numbers.key numbers.rows ∧
      (joined.flatMap fun j => j.matches "n").Sublist numbers.rows ∧
      joined.map (fun j => j.matches "n") = [[(2, "b")], [], [(3, "c")]] := by
  intro primary numbers streams joined
  have hname : Cursor.lastNamed? "n" streams = some numbers := rfl
  have hnumbers : Ascending Order.integers numbers.key numbers.rows := by decide
  obtain ⟨-, -, hsublist, hlaw⟩ :=
    @merge_of_any_order _ _ Order.integers _ Prod.fst primary streams "n" numbers hname
  have hfirst := hlaw hnumbers [] joined[0] [joined[1], joined[2]] rfl
  have hlate := hlaw hnumbers [joined[0]] joined[1] [joined[2]] rfl
  have hlast := hlaw hnumbers [joined[0], joined[1]] joined[2] [] rfl
  refine ⟨hname, hnumbers, hsublist, ?_⟩
  change [joined[0].matches "n", joined[1].matches "n", joined[2].matches "n"] = _
  rw [hfirst, hlate, hlast]
  decide

end CrawlAudit
