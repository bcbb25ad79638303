import CrawlAudit.Order
import CrawlAudit.Stream.Join

/-!
# Laws of the orders

Every order by which the library sorts is total and transitive. Those on integers, texts and keys
also tell different elements apart.
-/

namespace CrawlAudit.Order

open Std

variable {α ε : Type}

theorem integers_eq_compare : integers = (compare : Int → Int → Ordering) :=
  rfl

instance : TransCmp integers :=
  inferInstanceAs (TransCmp (compare : Int → Int → Ordering))

instance : LawfulEqCmp integers :=
  inferInstanceAs (LawfulEqCmp (compare : Int → Int → Ordering))

theorem integers_eq_lt {a b : Int} : integers a b = .lt ↔ a < b := by
  rw [integers_eq_compare]
  exact Int.compare_eq_lt

theorem isLE_integers {a b : Int} : (integers a b).isLE ↔ a ≤ b := by
  rw [integers_eq_compare]
  exact Int.isLE_compare

theorem transCmp_on {β : Type} (order : β → β → Ordering) [TransCmp order] (view : α → β) :
    TransCmp fun a b => order (view a) (view b) where
  eq_swap := OrientedCmp.eq_swap
  isLE_trans hab hbc := TransCmp.isLE_trans hab hbc

theorem lawfulEqCmp_on {β : Type} (order : β → β → Ordering) [LawfulEqCmp order] {view : α → β}
    (hview : Function.Injective view) : LawfulEqCmp fun a b => order (view a) (view b) where
  compare_self := ReflCmp.compare_self
  eq_of_compare h := hview (LawfulEqCmp.eq_of_compare h)

theorem transCmp_then {β γ : Type} (order : β → β → Ordering) [TransCmp order]
    (later : γ → γ → Ordering) [TransCmp later] (view : α → β) (view' : α → γ) :
    TransCmp fun a b => (order (view a) (view b)).then (later (view' a) (view' b)) := by
  have hview := transCmp_on order view
  have hview' := transCmp_on later view'
  exact inferInstanceAs (TransCmp (compareLex (fun a b => order (view a) (view b))
    fun a b => later (view' a) (view' b)))

theorem lawfulEqCmp_then {β γ : Type} (order : β → β → Ordering) [LawfulEqCmp order]
    (later : γ → γ → Ordering) [LawfulEqCmp later] {view : α → β} {view' : α → γ}
    (hviews : ∀ a b, view a = view b → view' a = view' b → a = b) :
    LawfulEqCmp fun a b => (order (view a) (view b)).then (later (view' a) (view' b)) where
  compare_self {a} := by
    rw [(ReflCmp.compare_self : order (view a) (view a) = .eq)]
    exact ReflCmp.compare_self
  eq_of_compare {a b} h := by
    obtain ⟨hab, hab'⟩ := Ordering.then_eq_eq.mp h
    exact hviews a b (LawfulEqCmp.eq_of_compare hab) (LawfulEqCmp.eq_of_compare hab')

instance : TransCmp int64s :=
  transCmp_on integers Int64.toInt

instance : LawfulEqCmp int64s :=
  lawfulEqCmp_on integers fun _ _ => Int64.toInt_inj.mp

theorem int64s_eq_lt {a b : Int64} : int64s a b = .lt ↔ a < b := by
  rw [int64s, integers_eq_lt, Int64.lt_iff_toInt_lt]

theorem isLE_int64s {a b : Int64} : (int64s a b).isLE ↔ a ≤ b := by
  rw [int64s, isLE_integers, Int64.le_iff_toInt_le]

theorem lists_eq_compareLex (order : α → α → Ordering) :
    lists order = List.compareLex order := by
  funext as bs
  induction as generalizing bs with
  | nil => cases bs <;> rfl
  | cons a as ih =>
      cases bs with
      | nil => rfl
      | cons b bs => rw [lists, ih, List.compareLex_cons_cons]

instance (order : α → α → Ordering) [TransCmp order] : TransCmp (lists order) := by
  rw [lists_eq_compareLex]
  infer_instance

instance (order : α → α → Ordering) [LawfulEqCmp order] : LawfulEqCmp (lists order) := by
  rw [lists_eq_compareLex]
  infer_instance

instance : TransCmp characters :=
  transCmp_on integers fun c : Char => (c.toNat : Int)

instance : LawfulEqCmp characters :=
  lawfulEqCmp_on integers fun _ _ h => Char.toNat_inj.mp (Int.ofNat_inj.mp h)

instance : TransCmp texts :=
  transCmp_on (lists characters) String.toList

instance : LawfulEqCmp texts :=
  lawfulEqCmp_on (lists characters) fun _ _ => String.toList_inj.mp

instance (order : α → α → Ordering) [TransCmp order] : TransCmp (optional order) where
  eq_swap {a b} := by
    rcases a with _ | a <;> rcases b with _ | b
    case some.some => exact (OrientedCmp.eq_swap : order a b = (order b a).swap)
    all_goals rfl
  isLE_trans {a b c} hab hbc := by
    rcases a with _ | a <;> rcases b with _ | b <;> rcases c with _ | c
    case some.some.some =>
      change (order a c).isLE
      exact TransCmp.isLE_trans (show (order a b).isLE from hab) hbc
    all_goals first | rfl | contradiction

instance (order : α → α → Ordering) [LawfulEqCmp order] : LawfulEqCmp (optional order) where
  compare_self {a} := by
    rcases a with _ | a
    · rfl
    · exact (ReflCmp.compare_self : order a a = .eq)
  eq_of_compare {a b} h := by
    rcases a with _ | a <;> rcases b with _ | b
    case some.some =>
      have h' : order a b = .eq := h
      exact congrArg some (LawfulEqCmp.eq_of_compare h')
    all_goals first | rfl | contradiction

instance : TransCmp JoinKey.order :=
  inferInstanceAs (TransCmp (optional int64s))

instance : LawfulEqCmp JoinKey.order :=
  inferInstanceAs (LawfulEqCmp (optional int64s))

@[simp] theorem lexicographic_nil (order : ε → α → α → Ordering) (a b : α) :
    lexicographic order [] a b = .eq :=
  rfl

theorem lexicographic_cons (order : ε → α → α → Ordering) (e : ε) (entries : List ε) :
    lexicographic order (e :: entries) = compareLex (order e) (lexicographic order entries) :=
  rfl

theorem lexicographic_eq_eq (order : ε → α → α → Ordering) (entries : List ε) (a b : α) :
    lexicographic order entries a b = .eq ↔ ∀ e ∈ entries, order e a b = .eq := by
  induction entries with
  | nil => simp
  | cons e entries ih =>
      rw [lexicographic_cons, compareLex_eq_eq, ih, List.forall_mem_cons]

theorem lexicographic_congr {β : Type} {order : ε → α → α → Ordering}
    {order' : ε → β → β → Ordering} {entries : List ε} {a b : α} {c d : β}
    (h : ∀ e ∈ entries, order e a b = order' e c d) :
    lexicographic order entries a b = lexicographic order' entries c d := by
  induction entries with
  | nil => rfl
  | cons e entries ih =>
      obtain ⟨he, hentries⟩ := List.forall_mem_cons.mp h
      rw [lexicographic_cons, lexicographic_cons, compareLex, compareLex, he, ih hentries]

theorem lexicographic_map {β : Type} (f : β → ε) (order : ε → α → α → Ordering)
    (entries : List β) :
    lexicographic order (entries.map f) = lexicographic (fun e => order (f e)) entries := by
  funext a b
  exact List.foldr_map

instance transCmp_lexicographic (order : ε → α → α → Ordering) [h : ∀ e, TransCmp (order e)]
    (entries : List ε) : TransCmp (lexicographic order entries) := by
  induction entries with
  | nil =>
      exact { eq_swap := rfl, isLE_trans := fun _ _ => rfl }
  | cons e entries ih =>
      rw [lexicographic_cons]
      infer_instance

end CrawlAudit.Order
