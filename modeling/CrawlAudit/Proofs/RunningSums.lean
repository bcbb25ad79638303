import CrawlAudit.Proofs.IntegerSums
import Mathlib.Data.List.TakeWhile

/-!
# Sums as they run

What a sum of cells is where cells of several kinds meet. As long as no double overflows, a sum is
null, an integer, a finite double or a list after every cell, and nulls, texts, NaNs and infinities
leave it as it is. So numbers are summed from the left and lists are joined, whatever else stands
between them.
-/

namespace CrawlAudit.Cell

/-- A null, a text, a NaN or an infinity. -/
def isSkipped : Cell → Bool
  | .null | .text _ => true
  | .float x => !x.isFinite
  | _ => false

/-- The numbers and lists among some cells. -/
def kept (cells : List Cell) : List Cell :=
  cells.filter fun c => !c.isSkipped

/-- What a sum of cells may be after every cell. -/
def isTotal : Cell → Bool
  | .null | .int _ | .list _ => true
  | .float x => x.isFinite
  | _ => false

/-- No double overflows while some cells are added to a total. -/
def StaysFinite (total : Cell) (cells : List Cell) : Prop :=
  ∀ x, .float x ∈ runningSums total cells → x.isFinite = true

instance (total : Cell) (cells : List Cell) : Decidable (StaysFinite total cells) :=
  decidable_of_iff (∀ c ∈ runningSums total cells, c.isFloat = true → c.isCountable = true)
    ⟨fun h _ hx => h _ hx rfl, fun h c hc hfloat => match c, hfloat with
      | .float _, _ => h _ hc⟩

/-- A number as an integer: a truth value is 0 or 1. -/
def asInteger (c : Cell) : Int64 :=
  c.integer?.getD 0

def asDouble (c : Cell) : Binary64 :=
  c.number?.getD .zero

def saturatingAdd (m n : Int64) : Int64 :=
  Int64.ofIntClamp (m.toInt + n.toInt)

/-- The sum of some integers and the doubles after them from the left, null if there are none.
Integers saturate at the ends of the 64 bit range. -/
def numericTotal (integers : List Int64) (doubles : List Binary64) : Cell :=
  let total := integers.foldl saturatingAdd 0
  match integers, doubles with
  | [], [] => .null
  | _, [] => .int total
  | [], x :: xs => .float (xs.foldl Binary64.add x)
  | _, xs => .float (xs.foldl Binary64.add (Binary64.ofInt total.toInt))

/-- The sum of the numbers among some cells: an integer up to the first double, and a double from
there on. -/
def numericSum (cells : List Cell) : Cell :=
  let numbers := cells.filter isCountable
  numericTotal ((numbers.takeWhile fun c => !c.isFloat).map asInteger)
    ((numbers.dropWhile fun c => !c.isFloat).map asDouble)

def items : Cell → List Cell
  | .list cells => cells
  | _ => []

/-- The lists among some cells joined in order; null if there are none. -/
def joinedLists (cells : List Cell) : Cell :=
  match cells.filter isList with
  | [] => .null
  | lists => .list (lists.flatMap items)

theorem sumNumbers_eq (a b : Cell) :
    sumNumbers a b = if a.isFloat || b.isFloat then .float (a.asDouble.add b.asDouble)
      else .int (saturatingAdd a.asInteger b.asInteger) := by
  cases a <;> cases b <;> rfl

theorem add_eq_sumNumbers {total c : Cell} (htotal : total.isCountable = true)
    (hc : c.isCountable = true) : total.add c = sumNumbers total c := by
  simp only [add, htotal, hc]

theorem add_of_isSkipped {total c : Cell} (htotal : total.isTotal = true)
    (hc : c.isSkipped = true) : total.add c = total := by
  cases total <;> cases c <;> simp_all [isTotal, isSkipped, add, isCountable, counted]

theorem isSkipped_eq (c : Cell) : c.isSkipped = (!c.isCountable && !c.isList) := by
  cases c <;> simp [isSkipped, isCountable, isList]

theorem isTotal_counted {c : Cell} (hc : c.isCountable = true) : c.counted.isTotal = true := by
  cases c <;> simp_all [isCountable, counted, isTotal]

theorem isTotal_sumNumbers {a b : Cell} (h : ∀ x, sumNumbers a b = .float x → x.isFinite = true) :
    (sumNumbers a b).isTotal = true := by
  rw [sumNumbers_eq] at h ⊢
  split at h
  · next hfloat => rw [if_pos hfloat]; exact h _ rfl
  · next hfloat => rw [if_neg hfloat]; rfl

/-- What one more cell makes of a sum, unless a double overflows. -/
theorem isTotal_add {total c : Cell} (h : ∀ x, total.add c = .float x → x.isFinite = true) :
    (total.add c).isTotal = true := by
  cases htotal : total.isCountable <;> cases hc : c.isCountable
  case false.false =>
    simp only [add, htotal, hc]
    cases total <;> cases c <;> rfl
  case false.true =>
    rw [add_of_not_isCountable htotal hc]
    exact isTotal_counted hc
  case true.false =>
    simp only [add, htotal, hc]
    exact isTotal_counted htotal
  case true.true =>
    rw [add_eq_sumNumbers htotal hc] at h ⊢
    exact isTotal_sumNumbers h

theorem staysFinite_cons {total c : Cell} {cells : List Cell} :
    StaysFinite total (c :: cells) ↔
      (∀ x, total.add c = .float x → x.isFinite = true) ∧ StaysFinite (total.add c) cells := by
  simp only [StaysFinite, runningSums, List.mem_cons, or_imp, forall_and, eq_comm]

theorem staysFinite_append {total : Cell} {as bs : List Cell} :
    StaysFinite total (as ++ bs) ↔ StaysFinite total as ∧ StaysFinite (as.foldl add total) bs := by
  induction as generalizing total with
  | nil => simp [StaysFinite, runningSums]
  | cons c as ih =>
      rw [List.cons_append, staysFinite_cons, staysFinite_cons, ih, and_assoc, List.foldl_cons]

section Neutral

variable {IsSum : Cell → Prop} {neutral : Cell → Bool} {total : Cell}

theorem staysFinite_filter
    (hstep : ∀ {t c}, IsSum t → (∀ x, t.add c = .float x → x.isFinite = true) → IsSum (t.add c))
    (hneutral : ∀ {t c}, IsSum t → neutral c = true → t.add c = t)
    (hfloat : ∀ {x}, IsSum (.float x) → x.isFinite = true) (htotal : IsSum total)
    (cells : List Cell) :
    StaysFinite total (cells.filter fun c => !neutral c) ↔ StaysFinite total cells := by
  induction cells generalizing total with
  | nil => rfl
  | cons c cells ih =>
      cases hc : neutral c with
      | true =>
          have hfinite : ∀ x, total = .float x → x.isFinite = true := by
            rintro x rfl
            exact hfloat htotal
          rw [List.filter_cons_of_neg (by simp [hc]), ih htotal, staysFinite_cons,
            hneutral htotal hc]
          exact (and_iff_right hfinite).symm
      | false =>
          rw [List.filter_cons_of_pos (by simp [hc]), staysFinite_cons, staysFinite_cons]
          exact and_congr_right fun h => ih (hstep htotal h)

theorem foldl_add_filter
    (hstep : ∀ {t c}, IsSum t → (∀ x, t.add c = .float x → x.isFinite = true) → IsSum (t.add c))
    (hneutral : ∀ {t c}, IsSum t → neutral c = true → t.add c = t) (htotal : IsSum total)
    {cells : List Cell} (hfinite : StaysFinite total cells) :
    (cells.filter fun c => !neutral c).foldl add total = cells.foldl add total := by
  induction cells generalizing total with
  | nil => rfl
  | cons c cells ih =>
      obtain ⟨hsum, htail⟩ := staysFinite_cons.mp hfinite
      -- cells are neutral on what a sum can be only, so this is carried along
      have ih := ih (hstep htotal hsum) htail
      cases hc : neutral c with
      | true =>
          rw [List.filter_cons_of_neg (by simp [hc]), List.foldl_cons, ← ih, hneutral htotal hc]
      | false =>
          rw [List.filter_cons_of_pos (by simp [hc]), List.foldl_cons, ih, List.foldl_cons]

end Neutral

theorem staysFinite_kept {total : Cell} (htotal : total.isTotal = true) (cells : List Cell) :
    StaysFinite total (kept cells) ↔ StaysFinite total cells :=
  staysFinite_filter (fun _ => isTotal_add) add_of_isSkipped id htotal cells

theorem foldl_add_kept {total : Cell} {cells : List Cell} (htotal : total.isTotal = true)
    (hfinite : StaysFinite total cells) :
    (kept cells).foldl add total = cells.foldl add total :=
  foldl_add_filter (fun _ => isTotal_add) add_of_isSkipped htotal hfinite

theorem sum_kept {cells : List Cell} (hfinite : StaysFinite .null cells) :
    sum (kept cells) = sum cells :=
  foldl_add_kept rfl hfinite

theorem sum_eq_of_kept_eq {as bs : List Cell} (hfinite : StaysFinite .null bs)
    (h : kept as = kept bs) : sum as = sum bs := by
  have hkept : StaysFinite .null (kept as) := h ▸ (staysFinite_kept rfl bs).mpr hfinite
  rw [← sum_kept hfinite, ← h, sum_kept ((staysFinite_kept rfl as).mp hkept)]

theorem foldl_add_int {n : Int64} {cells : List Cell} (hcount : ∀ c ∈ cells, c.isCountable = true)
    (hfloat : ∀ c ∈ cells, c.isFloat = false) :
    cells.foldl add (.int n) = .int ((cells.map asInteger).foldl saturatingAdd n) := by
  induction cells generalizing n with
  | nil => rfl
  | cons c cells ih =>
      obtain ⟨hc, hcells⟩ := List.forall_mem_cons.mp hcount
      obtain ⟨hcfloat, hfloats⟩ := List.forall_mem_cons.mp hfloat
      have hadd : (Cell.int n).add c = .int (saturatingAdd n c.asInteger) := by
        rw [add_eq_sumNumbers rfl hc, sumNumbers_eq, hcfloat]
        rfl
      rw [List.foldl_cons, hadd, ih hcells hfloats, List.map_cons, List.foldl_cons]

theorem foldl_add_float {x : Binary64} {cells : List Cell} (hx : x.isFinite = true)
    (hcount : ∀ c ∈ cells, c.isCountable = true) (hfinite : StaysFinite (.float x) cells) :
    cells.foldl add (.float x) = .float ((cells.map asDouble).foldl Binary64.add x) := by
  induction cells generalizing x with
  | nil => rfl
  | cons c cells ih =>
      obtain ⟨hc, hcells⟩ := List.forall_mem_cons.mp hcount
      obtain ⟨hsum, htail⟩ := staysFinite_cons.mp hfinite
      have htotal : (Cell.float x).isCountable = true := hx
      have hadd : (Cell.float x).add c = .float (x.add c.asDouble) := by
        rw [add_eq_sumNumbers htotal hc, sumNumbers_eq]
        rfl
      rw [hadd] at htail
      rw [List.foldl_cons, hadd, ih (hsum _ hadd) hcells htail, List.map_cons, List.foldl_cons]

theorem foldl_add_list {xs : List Cell} {cells : List Cell} (h : ∀ c ∈ cells, c.isList = true) :
    cells.foldl add (.list xs) = .list (xs ++ cells.flatMap items) := by
  induction cells generalizing xs with
  | nil => simp
  | cons c cells ih =>
      obtain ⟨hc, hcells⟩ := List.forall_mem_cons.mp h
      cases c with
      | list ys =>
          have hadd : (Cell.list xs).add (.list ys) = .list (xs ++ ys) := rfl
          rw [List.foldl_cons, hadd, ih hcells, List.flatMap_cons, List.append_assoc]
          rfl
      | _ => contradiction

theorem saturatingAdd_zero (n : Int64) : saturatingAdd 0 n = n := by
  change Int64.ofIntClamp (0 + n.toInt) = n
  rw [Int.zero_add, Int64.ofIntClamp_toInt]

theorem counted_eq_int {c : Cell} (hc : c.isCountable = true) (hfloat : c.isFloat = false) :
    c.counted = .int c.asInteger := by
  cases c <;> simp_all [isCountable, isFloat, counted, asInteger, integer?]

theorem counted_eq_float {c : Cell} (hfloat : c.isFloat = true) :
    c.counted = .float c.asDouble := by
  cases c <;> first | contradiction | rfl

theorem null_add {c : Cell} (hc : c.isCountable = true) : Cell.null.add c = c.counted :=
  add_of_not_isCountable rfl hc

theorem foldl_add_doubles {total d : Cell} {cells : List Cell} {x : Binary64}
    (hcount : ∀ c ∈ cells, c.isCountable = true) (hadd : total.add d = .float x)
    (hfinite : StaysFinite total (d :: cells)) :
    (d :: cells).foldl add total = .float ((cells.map asDouble).foldl Binary64.add x) := by
  obtain ⟨hsum, htail⟩ := staysFinite_cons.mp hfinite
  rw [hadd] at htail
  rw [List.foldl_cons, hadd, foldl_add_float (hsum x hadd) hcount htail]

theorem foldl_add_integers {i : Cell} {cells : List Cell}
    (hcount : ∀ c ∈ i :: cells, c.isCountable = true)
    (hfloat : ∀ c ∈ i :: cells, c.isFloat = false) :
    (i :: cells).foldl add .null = .int (((i :: cells).map asInteger).foldl saturatingAdd 0) := by
  obtain ⟨hi, hcells⟩ := List.forall_mem_cons.mp hcount
  obtain ⟨hifloat, hfloats⟩ := List.forall_mem_cons.mp hfloat
  rw [List.foldl_cons, null_add hi, counted_eq_int hi hifloat, foldl_add_int hcells hfloats,
    List.map_cons, List.foldl_cons, saturatingAdd_zero]

/-- Numbers are summed as integers up to the first double, and as doubles from there on. -/
theorem sum_append_numbers {integers doubles : List Cell}
    (hcount : ∀ c ∈ integers ++ doubles, c.isCountable = true)
    (hinteger : ∀ c ∈ integers, c.isFloat = false)
    (hdouble : ∀ c ∈ doubles.head?, c.isFloat = true)
    (hfinite : StaysFinite .null (integers ++ doubles)) :
    sum (integers ++ doubles) =
      numericTotal (integers.map asInteger) (doubles.map asDouble) := by
  obtain ⟨hintegers, hdoubles⟩ := List.forall_mem_append.mp hcount
  rw [staysFinite_append] at hfinite
  rw [sum, List.foldl_append]
  cases integers with
  | nil =>
      cases doubles with
      | nil => rfl
      | cons d doubles =>
          obtain ⟨hd, htail⟩ := List.forall_mem_cons.mp hdoubles
          have hadd : Cell.null.add d = .float d.asDouble :=
            (null_add hd).trans (counted_eq_float (hdouble d rfl))
          exact foldl_add_doubles htail hadd hfinite.2
  | cons i integers =>
      rw [foldl_add_integers hintegers hinteger] at hfinite ⊢
      cases doubles with
      | nil => rfl
      | cons d doubles =>
          obtain ⟨hd, htail⟩ := List.forall_mem_cons.mp hdoubles
          -- the first double takes up the integers before it
          set n := ((i :: integers).map asInteger).foldl saturatingAdd 0
          have hadd : (Cell.int n).add d = .float ((Binary64.ofInt n.toInt).add d.asDouble) := by
            rw [add_eq_sumNumbers rfl hd, sumNumbers_eq, hdouble d rfl]
            rfl
          exact foldl_add_doubles htail hadd hfinite.2

theorem sum_filter_isCountable {cells : List Cell}
    (hfinite : StaysFinite .null (cells.filter isCountable)) :
    sum (cells.filter isCountable) = numericSum cells := by
  rw [numericSum]
  set numbers := cells.filter isCountable
  have hcount : ∀ c ∈ numbers, c.isCountable = true := fun c hc => (List.mem_filter.mp hc).2
  have hsplit := List.takeWhile_append_dropWhile (p := fun c => !isFloat c) (l := numbers)
  have hinteger : ∀ c ∈ numbers.takeWhile fun c => !isFloat c, c.isFloat = false := by
    intro c hc
    simpa using List.mem_takeWhile_imp hc
  have hdouble : ∀ c ∈ (numbers.dropWhile fun c => !isFloat c).head?, c.isFloat = true := by
    intro c hc
    have hnot := List.head?_dropWhile_not (fun c => !isFloat c) numbers
    rw [hc] at hnot
    simpa using hnot
  rw [← sum_append_numbers (by rwa [hsplit]) hinteger hdouble (by rwa [hsplit]), hsplit]

theorem sum_filter_isList (cells : List Cell) : sum (cells.filter isList) = joinedLists cells := by
  have hlists : ∀ c ∈ cells.filter isList, c.isList = true := fun c hc => (List.mem_filter.mp hc).2
  rw [joinedLists]
  cases hfilter : cells.filter isList with
  | nil => rfl
  | cons c lists =>
      rw [hfilter] at hlists
      obtain ⟨hc, hrest⟩ := List.forall_mem_cons.mp hlists
      cases c with
      | list xs => exact foldl_add_list hrest
      | _ => contradiction

theorem kept_eq_filter_isCountable {cells : List Cell} (h : ∀ c ∈ cells, c.isList = false) :
    kept cells = cells.filter isCountable := by
  refine List.filter_congr fun c hc => ?_
  simp [isSkipped_eq, h c hc]

theorem kept_eq_filter_isList {cells : List Cell} (h : ∀ c ∈ cells, c.isCountable = false) :
    kept cells = cells.filter isList := by
  refine List.filter_congr fun c hc => ?_
  simp [isSkipped_eq, h c hc]

/-- As long as no double overflows, cells without lists sum to the sum of their numbers and cells
without numbers to their lists in one. In any case the cells that count as nothing may be left out
or put in wherever they are. -/
theorem sum_running {cells : List Cell} (hfinite : StaysFinite .null cells) :
    ((∀ c ∈ cells, c.isList = false) → sum cells = numericSum cells) ∧
      ((∀ c ∈ cells, c.isCountable = false) → sum cells = joinedLists cells) ∧
      ∀ cells', kept cells' = kept cells → sum cells' = sum cells := by
  refine ⟨fun hlist => ?_, fun hcount => ?_, fun cells' h => sum_eq_of_kept_eq hfinite h⟩
  · have hnumbers := (staysFinite_kept rfl cells).mpr hfinite
    rw [kept_eq_filter_isCountable hlist] at hnumbers
    rw [← sum_kept hfinite, kept_eq_filter_isCountable hlist, sum_filter_isCountable hnumbers]
  · rw [← sum_kept hfinite, kept_eq_filter_isList hcount, sum_filter_isList]

/-- An integer saturates before the first double comes, and lists stand apart. -/
theorem sum_running_of_mixed_cells :
    let numbers : List Cell := [.text "1", .int Int64.maxValue, .bool true, .float .nan,
      .float .one, .null, .int 1, .float (.infinity true)]
    let lists : List Cell := [.null, .list [.int 1], .float .nan, .list [.text "1", .null]]
    (StaysFinite .null numbers ∧ StaysFinite .null lists) ∧
      sum numbers = .float (Binary64.ofInt (2 ^ 63)) ∧
      sum [.int Int64.maxValue, .text "2", .bool true, .float .one, .int 1] = sum numbers ∧
      sum lists = .list [.int 1, .text "1", .null] := by
  intro numbers lists
  have hnumbers : StaysFinite .null numbers := by decide +kernel
  have hlists : StaysFinite .null lists := by decide +kernel
  obtain ⟨hsum, -, hkept⟩ := sum_running hnumbers
  obtain ⟨-, hjoined, -⟩ := sum_running hlists
  refine ⟨⟨hnumbers, hlists⟩, ?_, hkept _ ?_, ?_⟩
  · have hdoubles : [asDouble (.float .one), asDouble (.int 1)].foldl Binary64.add
        (Binary64.ofInt Int64.maxValue.toInt) = Binary64.ofInt (2 ^ 63) := by decide +kernel
    have hparts : numericSum numbers =
        numericTotal [Int64.maxValue, 1] [asDouble (.float .one), asDouble (.int 1)] := rfl
    rw [hsum (by decide +kernel), hparts]
    exact congrArg Cell.float hdoubles
  · rfl
  · rw [hjoined (by decide +kernel)]
    rfl

end CrawlAudit.Cell
