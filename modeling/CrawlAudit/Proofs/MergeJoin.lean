import CrawlAudit.Proofs.OrderLaws

/-!
# The join as a nested loop

A join in one pass over ascending streams finds the rows that a nested loop finds: for the first
row of each run of equal keys all rows with its key, for the later rows of the run none.
-/

namespace CrawlAudit

open Std

variable {τ κ : Type} {order : κ → κ → Ordering}

/-- A stream is ascending when no row has a greater key than a later one. -/
def Ascending (order : κ → κ → Ordering) (key : τ → κ) (rows : List τ) : Prop :=
  rows.Pairwise fun a b => (order (key a) (key b)).isLE

instance (order : κ → κ → Ordering) (key : τ → κ) (rows : List τ) :
    Decidable (Ascending order key rows) :=
  inferInstanceAs (Decidable (rows.Pairwise _))

namespace Cursor

/-- All rows of a stream with a key. -/
def rowsWith (order : κ → κ → Ordering) (cursor : Cursor τ κ) (wanted : κ) : List τ :=
  cursor.rows.filter fun row => order (cursor.key row) wanted == .eq

/-- The last stream registered under a name. -/
def lastNamed? (name : String) (cursors : List (Cursor τ κ)) : Option (Cursor τ κ) :=
  (cursors.filter fun c => c.name == name).getLast?

/-- What a nested loop finds for a name and a key. -/
def rowsNamed (order : κ → κ → Ordering) (cursors : List (Cursor τ κ)) (name : String)
    (wanted : κ) : List τ :=
  match lastNamed? name cursors with
  | some c => c.rowsWith order wanted
  | none => []

end Cursor

/-- The join by a nested loop, given the key of the row before: each primary row with its key and
the rows it is joined to by the name of their stream. -/
def nestedLoop (order : κ → κ → Ordering) (key : τ → κ) (cursors : List (Cursor τ κ)) :
    Option κ → List τ → List (κ × τ × (String → List τ))
  | _, [] => []
  | previous, row :: rows =>
    (key row, row, fun name =>
      if previous.any fun p => order p (key row) == .eq then []
      else Cursor.rowsNamed order cursors name (key row)) ::
        nestedLoop order key cursors (some (key row)) rows

namespace Cursor

theorem takeMatching_eq_filter [TransCmp order] (key : τ → κ) (wanted : κ) {rows : List τ}
    (hrows : Ascending order key rows) :
    takeMatching order key wanted rows =
      (rows.filter fun row => order (key row) wanted == .eq,
        rows.filter fun row => order (key row) wanted == .gt) := by
  induction rows with
  | nil => rfl
  | cons row rows ih =>
      obtain ⟨hrow, hrest⟩ := List.pairwise_cons.mp hrows
      cases ho : order (key row) wanted with
      | lt => simp [takeMatching, ho, ih hrest]
      | eq => simp [takeMatching, ho, ih hrest]
      | gt =>
          have hgt : ∀ b ∈ rows, order (key b) wanted = .gt := fun b hb =>
            TransCmp.gt_of_isGE_of_gt (OrientedCmp.isGE_of_isLE (hrow b hb)) ho
          have hnone : rows.filter (fun b => order (key b) wanted == .eq) = [] :=
            List.filter_eq_nil_iff.mpr fun b hb => by simp [hgt b hb]
          have hall : rows.filter (fun b => order (key b) wanted == .gt) = rows :=
            List.filter_eq_self.mpr fun b hb => by simp [hgt b hb]
          simp [takeMatching, ho, hnone, hall]

/-- The stream as a join leaves it after a primary row with the given key. -/
def past (order : κ → κ → Ordering) (previous : Option κ) (cursor : Cursor τ κ) : Cursor τ κ :=
  match previous with
  | none => cursor
  | some p => { cursor with rows := cursor.rows.filter fun row => order (cursor.key row) p == .gt }

@[simp] theorem past_none (cursor : Cursor τ κ) : cursor.past order none = cursor :=
  rfl

@[simp] theorem name_past (previous : Option κ) (cursor : Cursor τ κ) :
    (cursor.past order previous).name = cursor.name := by
  cases previous <;> rfl

@[simp] theorem key_past (previous : Option κ) (cursor : Cursor τ κ) :
    (cursor.past order previous).key = cursor.key := by
  cases previous <;> rfl

theorem ascending_past {cursor : Cursor τ κ} (hcursor : Ascending order cursor.key cursor.rows)
    (previous : Option κ) :
    Ascending order cursor.key (cursor.past order previous).rows := by
  cases previous with
  | none => exact hcursor
  | some p => exact hcursor.filter _

theorem found_past [TransCmp order] {cursor : Cursor τ κ}
    (hcursor : Ascending order cursor.key cursor.rows) {previous : Option κ} {wanted : κ}
    (hprevious : ∀ p ∈ previous, (order p wanted).isLE) :
    (cursor.past order previous).found order wanted =
      if previous.any fun p => order p wanted == .eq then []
      else cursor.rowsWith order wanted := by
  rw [found, key_past, takeMatching_eq_filter _ _ (ascending_past hcursor previous)]
  cases previous with
  | none => rfl
  | some p =>
      have hp : (order p wanted).isLE := hprevious p rfl
      simp only [past, List.filter_filter, Option.any_some, rowsWith]
      split
      · rename_i heq
        have hpw : order p wanted = .eq := by simpa using heq
        refine List.filter_eq_nil_iff.mpr fun row _ => ?_
        simp only [Bool.and_eq_true, beq_iff_eq, not_and]
        intro h
        simp [TransCmp.congr_right hpw, h]
      · rename_i hne
        refine List.filter_congr fun row _ => ?_
        cases h : order (cursor.key row) wanted with
        | lt => rfl
        | gt => rfl
        | eq =>
            have hlt : order p wanted = .lt := by
              cases hpw : order p wanted <;> simp_all
            have hgt : order (cursor.key row) p = .gt := by
              rw [TransCmp.congr_left h]
              exact OrientedCmp.gt_of_lt hlt
            simp [hgt]

theorem after_past [TransCmp order] {cursor : Cursor τ κ}
    (hcursor : Ascending order cursor.key cursor.rows) {previous : Option κ} {wanted : κ}
    (hprevious : ∀ p ∈ previous, (order p wanted).isLE) :
    (cursor.past order previous).after order wanted = cursor.past order (some wanted) := by
  rw [after, key_past, takeMatching_eq_filter _ _ (ascending_past hcursor previous)]
  cases previous with
  | none => rfl
  | some p =>
      have hp : (order p wanted).isLE := hprevious p rfl
      simp only [past, List.filter_filter, mk.injEq, true_and]
      refine List.filter_congr fun row _ => ?_
      cases h : order (cursor.key row) wanted with
      | lt => rfl
      | eq => rfl
      | gt =>
          have hgt : order (cursor.key row) p = .gt :=
            TransCmp.gt_of_gt_of_isGE h (OrientedCmp.isGE_of_isLE hp)
          simp [hgt]

theorem lastNamed?_map (f : Cursor τ κ → Cursor τ κ) (hf : ∀ c, (f c).name = c.name)
    (name : String) (cursors : List (Cursor τ κ)) :
    lastNamed? name (cursors.map f) = (lastNamed? name cursors).map f := by
  simp only [lastNamed?, List.filter_map, List.getLast?_map]
  congr 3
  funext c
  exact congrArg (· == name) (hf c)

end Cursor

theorem Joined.matches_mk (k : κ) (row : τ) (rows : Cursor τ κ → List τ)
    (cursors : List (Cursor τ κ)) (name : String) :
    (Joined.mk k row (cursors.map fun c => (c.name, rows c))).matches name =
      ((Cursor.lastNamed? name cursors).map rows).getD [] := by
  simp only [Joined.matches, Cursor.lastNamed?, ← List.map_reverse,
    List.getLast?_eq_head?_reverse, ← List.filter_reverse, List.head?_filter]
  congr 1
  induction cursors.reverse with
  | nil => rfl
  | cons c cursors ih =>
      rw [List.map_cons, List.lookup_cons, List.find?_cons, Bool.beq_comm (a := name)]
      cases hc : c.name == name with
      | true => rfl
      | false => simpa using ih

/-- The join from any point on: every stream stands past the key of the row before. -/
theorem merge_past [TransCmp order] (key : τ → κ) {cursors : List (Cursor τ κ)}
    (hcursors : ∀ c ∈ cursors, Ascending order c.key c.rows) {previous : Option κ}
    {primary : List τ} (hprimary : Ascending order key primary)
    (hprevious : ∀ p ∈ previous, ∀ row ∈ primary, (order p (key row)).isLE) :
    (merge order key primary (cursors.map (Cursor.past order previous))).map
        (fun j => (j.key, j.primary, j.matches)) =
      nestedLoop order key cursors previous primary := by
  induction primary generalizing previous with
  | nil => rfl
  | cons row rows ih =>
      obtain ⟨hrow, hrest⟩ := List.pairwise_cons.mp hprimary
      have hle : ∀ p ∈ previous, (order p (key row)).isLE :=
        fun p hp => hprevious p hp row (List.mem_cons_self ..)
      have hfound : (cursors.map (Cursor.past order previous)).map
            (fun c => (c.name, c.found order (key row))) =
          cursors.map fun c => (c.name,
            if previous.any fun p => order p (key row) == .eq then []
            else c.rowsWith order (key row)) := by
        rw [List.map_map]
        refine List.map_congr_left fun c hc => ?_
        rw [Function.comp_apply, Cursor.name_past, Cursor.found_past (hcursors c hc) hle]
      have hafter : (cursors.map (Cursor.past order previous)).map
            (fun c => c.after order (key row)) =
          cursors.map (Cursor.past order (some (key row))) := by
        rw [List.map_map]
        exact List.map_congr_left fun c hc => Cursor.after_past (hcursors c hc) hle
      have hnext : ∀ p ∈ some (key row), ∀ b ∈ rows, (order p (key b)).isLE := by
        rintro p hp b hb
        cases hp
        exact hrow b hb
      rw [merge, hfound, hafter, List.map_cons, ih hrest hnext, nestedLoop]
      congr 3
      funext name
      rw [Joined.matches_mk, Cursor.rowsNamed]
      cases Cursor.lastNamed? name cursors <;> simp

theorem merge_eq [TransCmp order] (key : τ → κ) {primary : List τ}
    {cursors : List (Cursor τ κ)} (hprimary : Ascending order key primary)
    (hcursors : ∀ c ∈ cursors, Ascending order c.key c.rows) :
    (merge order key primary cursors).map (fun j => (j.key, j.primary, j.matches)) =
      nestedLoop order key cursors none primary := by
  have hpast : cursors.map (Cursor.past order none) = cursors :=
    List.map_id'' Cursor.past_none cursors
  have hprevious : ∀ p ∈ (none : Option κ), ∀ row ∈ primary, (order p (key row)).isLE := by
    intro p hp
    contradiction
  rw [← merge_past key hcursors hprimary hprevious, hpast]

/-- What a stream contributes to each row of a primary stream that it is joined to alone. -/
def Cursor.contributions (order : κ → κ → Ordering) (key : τ → κ) (cursor : Cursor τ κ)
    (primary : List τ) : List (List τ) :=
  (merge order key primary [cursor]).map fun j => j.matches cursor.name

theorem matches_merge (order : κ → κ → Ordering) (key : τ → κ) (primary : List τ)
    (cursors : List (Cursor τ κ)) (name : String) :
    (merge order key primary cursors).map (fun j => j.matches name) =
      match Cursor.lastNamed? name cursors with
      | some c => c.contributions order key primary
      | none => primary.map fun _ => [] := by
  induction primary generalizing cursors with
  | nil => cases h : Cursor.lastNamed? name cursors <;> rfl
  | cons row rows ih =>
      rw [merge, List.map_cons, Joined.matches_mk, ih,
        Cursor.lastNamed?_map (fun c => c.after order (key row)) (fun _ => rfl)]
      cases Cursor.lastNamed? name cursors with
      | none => rfl
      | some c =>
          have hself : Cursor.lastNamed? c.name [c] = some c := by simp [Cursor.lastNamed?]
          have hfirst := Joined.matches_mk (key row) row (fun c => c.found order (key row)) [c]
            c.name
          rw [hself] at hfirst
          exact congrArg (List.cons · _) hfirst.symm

/-- The join by one pass equals the join by a nested loop, and what a stream contributes is what it
contributes alone. -/
theorem merge_eq_nestedLoop [TransCmp order] (key : τ → κ) (primary : List τ)
    (cursors : List (Cursor τ κ)) (hprimary : Ascending order key primary)
    (hcursors : ∀ c ∈ cursors, Ascending order c.key c.rows) :
    (merge order key primary cursors).map (fun j => (j.key, j.primary, j.matches)) =
        nestedLoop order key cursors none primary ∧
      ∀ name, (merge order key primary cursors).map (fun j => j.matches name) =
        match Cursor.lastNamed? name cursors with
        | some c => c.contributions order key primary
        | none => primary.map fun _ => [] :=
  ⟨merge_eq key hprimary hcursors, matches_merge order key primary cursors⟩

/-- Keys repeated on both sides, a gap on both sides, and two streams of one name. -/
theorem merge_eq_nestedLoop_of_repeated_keys :
    let primary : List (Int × String) := [(1, "p"), (1, "q"), (3, "r"), (4, "t")]
    let streams : List (Cursor (Int × String) Int) :=
      [⟨"s", Prod.fst, [(1, "a")]⟩, ⟨"s", Prod.fst, [(0, "b"), (1, "c"), (1, "d"), (4, "e")]⟩]
    Ascending Order.integers Prod.fst primary ∧
      (∀ c ∈ streams, Ascending Order.integers c.key c.rows) ∧
      (merge Order.integers Prod.fst primary streams).map
          (fun j => (j.key, j.primary, j.matches)) =
        nestedLoop Order.integers Prod.fst streams none primary ∧
      (merge Order.integers Prod.fst primary streams).map (fun j => j.matches "s") =
        [[(1, "c"), (1, "d")], [], [], [(4, "e")]] := by
  intro primary streams
  have hprimary : Ascending Order.integers Prod.fst primary := by decide
  have hstreams : ∀ c ∈ streams, Ascending Order.integers c.key c.rows := by decide
  have h := merge_eq_nestedLoop Prod.fst primary streams hprimary hstreams
  exact ⟨hprimary, hstreams, h.1, (h.2 "s").trans (by decide)⟩

end CrawlAudit
