import CrawlAudit.Json.Reader
import CrawlAudit.Json.Writer
import Mathlib.Data.List.Basic
import Mathlib.Data.List.TakeDrop

/-!
# Scalars read back

A text, a number or a word of a document is read back as it was written, whatever follows it: a
text ends with its quote, and a number or a word before a mark that closes or separates. Nothing
that is written of them is a control character.
-/

namespace CrawlAudit

theorem mapM_map_eq_some {α β : Type} {read? : β → Option α} {write : α → β} {values : List α}
    (h : ∀ a ∈ values, read? (write a) = some a) :
    (values.map write).mapM read? = some values := by
  induction values with
  | nil => rfl
  | cons a values ih =>
      obtain ⟨ha, hvalues⟩ := List.forall_mem_cons.mp h
      rw [List.map_cons, List.mapM_cons, ha, ih hvalues]
      rfl

theorem Hexadecimal.digit?_digitChar {d : Nat} (h : d < 16) :
    digit? (Nat.digitChar d) = some d := by
  revert d
  decide

namespace Json

/-- No character is a control character, so all stand on one line. -/
def HasNoControl (cs : List Char) : Prop :=
  ∀ c ∈ cs, 0x20 ≤ c.toNat

instance (cs : List Char) : Decidable (HasNoControl cs) :=
  List.decidableBAll (fun c : Char => 0x20 ≤ c.toNat) cs

namespace Quoted

variable (rest : List Char)

theorem read?_of_step {place next : Place} {c : Char} {given : List Char}
    (h : step place c = some (given, next)) (hopen : place = .plain → c ≠ '"') :
    read? place (c :: rest) = (read? next rest).map fun r => (given ++ r.1, r.2) := by
  rw [read?, h]
  exact hopen

theorem read?_of_pass {place next : Place} {c : Char} (h : step place c = some ([], next))
    (hopen : place = .plain → c ≠ '"') : read? place (c :: rest) = read? next rest := by
  rw [read?_of_step rest h hopen]
  exact Option.map_id_fun' ▸ rfl

theorem read?_backslash : read? .plain ('\\' :: rest) = read? (.escape none) rest :=
  read?_of_pass rest rfl fun _ => by decide

theorem read?_fourDigits : read? (.escape none) ('u' :: rest) = read? (.digits 0 4 none) rest :=
  read?_of_pass rest rfl nofun

theorem read?_escape {c e : Char} (h : escaped? e = some c) :
    read? .plain ('\\' :: e :: rest) = (read? .plain rest).map fun r => (c :: r.1, r.2) := by
  have hstep : step (.escape none) e = some ([c], .plain) := by
    rw [step, if_neg, h]
    · rfl
    · rintro rfl
      cases h
  rw [read?_backslash]
  exact read?_of_step rest hstep nofun

theorem read?_digit {c : Char} {d value owed : Nat} (h : Hexadecimal.digit? c = some d)
    (howed : owed ≠ 1) :
    read? (.digits value owed none) (c :: rest) =
      read? (.digits (value * 16 + d) (owed - 1) none) rest := by
  apply read?_of_pass rest
  · rw [step, h, Option.bind_some, if_neg howed]
  · nofun

theorem read?_lastDigit {c : Char} {d value : Nat} (h : Hexadecimal.digit? c = some d)
    (hbound : value * 16 + d < 0xD800) :
    read? (.digits value 1 none) (c :: rest) =
      (read? .plain rest).map fun r => (Char.ofNat (value * 16 + d) :: r.1, r.2) := by
  have hfinish : finishEscape (value * 16 + d) none =
      some ([Char.ofNat (value * 16 + d)], .plain) := by
    have hhigh : isHighSurrogate (value * 16 + d) = false := by
      simp only [isHighSurrogate, Bool.and_eq_false_iff, decide_eq_false_iff_not]
      omega
    have hlow : isLowSurrogate (value * 16 + d) = false := by
      simp only [isLowSurrogate, Bool.and_eq_false_iff, decide_eq_false_iff_not]
      omega
    rw [finishEscape, hhigh, hlow]
    rfl
  have hstep : step (.digits value 1 none) c =
      some ([Char.ofNat (value * 16 + d)], .plain) := by
    rw [step, h, Option.bind_some, if_pos rfl, hfinish]
  exact read?_of_step rest hstep nofun

theorem read?_hexDigits {n : Nat} (h : n < 0xD800) :
    read? .plain ('\\' :: 'u' :: hexDigits n ++ rest) =
      (read? .plain rest).map fun r => (Char.ofNat n :: r.1, r.2) := by
  have hdigit {d : Nat} (hd : d < 16) : Hexadecimal.digit? (Nat.digitChar d) = some d :=
    Hexadecimal.digit?_digitChar hd
  have hvalue : (((0 * 16 + n / 4096) * 16 + n / 256 % 16) * 16 + n / 16 % 16) * 16 + n % 16 =
      n := by
    omega
  simp only [hexDigits, List.map_cons, List.map_nil, List.cons_append, List.nil_append]
  rw [read?_backslash, read?_fourDigits, read?_digit _ (hdigit (by omega)) (by decide),
    read?_digit _ (hdigit (by omega)) (by decide), read?_digit _ (hdigit (by omega)) (by decide),
    read?_lastDigit rest (hdigit (by omega)) (by omega), hvalue]

theorem read?_encodeChar (c : Char) :
    read? .plain (encodeChar c ++ rest) =
      (read? .plain rest).map fun r => (c :: r.1, r.2) := by
  rw [encodeChar.eq_def]
  split
  iterate 7 exact read?_escape rest rfl
  rename_i hquote hbackslash _ _ _ _ _
  split
  · rename_i hcontrol
    have hdigits := read?_hexDigits rest (n := c.toNat) (by omega)
    rwa [Char.ofNat_toNat] at hdigits
  · rename_i hcontrol
    have hstep : step .plain c = some ([c], .plain) := by
      rw [step, if_neg hbackslash, if_neg hcontrol]
    exact read?_of_step rest hstep fun _ => hquote

theorem read?_flatMap_encodeChar (cs : List Char) :
    read? .plain (cs.flatMap encodeChar ++ '"' :: rest) = some (cs, rest) := by
  induction cs with
  | nil => rfl
  | cons c cs ih =>
      rw [List.flatMap_cons, List.append_assoc, read?_encodeChar, ih]
      rfl

theorem hasNoControl_encodeChar (c : Char) : HasNoControl (encodeChar c) := by
  rw [encodeChar.eq_def]
  split
  iterate 7 decide
  split
  · have hdigit : ∀ d < 16, 0x20 ≤ (Nat.digitChar d).toNat := by decide
    intro x hx
    simp only [hexDigits, List.map_cons, List.map_nil, List.mem_cons, List.not_mem_nil,
      or_false] at hx
    rcases hx with rfl | rfl | rfl | rfl | rfl | rfl
    · decide
    · decide
    all_goals exact hdigit _ (by omega)
  · rename_i hcontrol
    exact List.forall_mem_singleton.mpr (Nat.le_of_not_lt hcontrol)

theorem hasNoControl_encode (s : String) : HasNoControl (encode s) := by
  intro c hc
  simp only [encode, List.cons_append, List.mem_cons, List.mem_append, List.not_mem_nil, or_false,
    List.mem_flatMap] at hc
  rcases hc with rfl | ⟨x, -, hc⟩ | rfl
  · decide
  · exact hasNoControl_encodeChar x c hc
  · decide

end Quoted

namespace Number

/-- What may follow a number: the end of the text, a comma or a closing mark. -/
def IsDelimited (rest : List Char) : Prop :=
  ∀ c ∈ rest.head?, c = ',' ∨ c = ']' ∨ c = '\x7d'

theorem isDelimited_nil : IsDelimited [] := nofun

theorem isDelimited_cons {c : Char} (h : c = ',' ∨ c = ']' ∨ c = '\x7d') (rest : List Char) :
    IsDelimited (c :: rest) := by
  rintro _ ⟨⟩
  exact h

theorem isDigit_of_mem_digits {n : Nat} {c : Char} (h : c ∈ Decimal.digits n) :
    Decimal.isDigit c = true :=
  Nat.isDigit_of_mem_toDigits (by decide) (by decide) h

theorem splitDigits_append {ds rest : List Char} (hds : ∀ d ∈ ds, Decimal.isDigit d = true)
    (hrest : IsDelimited rest) : splitDigits (ds ++ rest) = (ds, rest) := by
  rw [splitDigits, List.span_eq_takeWhile_dropWhile, List.takeWhile_append_of_pos hds,
    List.dropWhile_append_of_pos hds]
  cases rest with
  | nil => simp
  | cons c rest =>
      have hc : Decimal.isDigit c = false := by
        rcases hrest c rfl with rfl | rfl | rfl <;> decide
      rw [List.takeWhile_cons_of_neg (by simp [hc]), List.dropWhile_cons_of_neg (by simp [hc]),
        List.append_nil]

theorem le_ofDigitChars (ds : List Char) (n : Nat) : n ≤ Nat.ofDigitChars 10 ds n := by
  induction ds generalizing n with
  | nil => exact Nat.le_refl n
  | cons d ds ih =>
      rw [Nat.ofDigitChars_cons]
      exact Nat.le_trans (by omega) (ih _)

theorem gather_eq {ds : List Char} {n : Nat} (h : Nat.ofDigitChars 10 ds n < Nat.pow 2 64) :
    gather n ds = (Nat.ofDigitChars 10 ds n, 0) := by
  induction ds generalizing n with
  | nil => rfl
  | cons d ds ih =>
      -- each prefix of the digits stands for no more than all of them, so each fits
      rw [Nat.ofDigitChars_cons, Nat.mul_comm] at h
      have hnext := Nat.lt_of_le_of_lt (le_ofDigitChars ds _) h
      rw [gather, if_pos hnext, ih h, Nat.ofDigitChars_cons, Nat.mul_comm]

theorem exists_cons_digits (n : Nat) :
    ∃ d ds, Decimal.digits n = d :: ds ∧ Decimal.isDigit d = true := by
  obtain ⟨d, ds, hds⟩ := List.exists_cons_of_ne_nil (@Nat.toDigits_ne_nil n 10)
  exact ⟨d, ds, hds, isDigit_of_mem_digits (hds ▸ List.mem_cons_self ..)⟩

theorem ofDigitChars_digits (n : Nat) : Nat.ofDigitChars 10 (Decimal.digits n) 0 = n :=
  Nat.ofDigitChars_toDigits (by decide) (by decide)

theorem head?_digits {n : Nat} (h : 0 < n) : (Decimal.digits n).head? ≠ some '0' := by
  induction n using Nat.strongRecOn with
  | ind n ih =>
      have hdigit : ∀ d < 10, 0 < d → [Nat.digitChar d].head? ≠ some '0' := by decide
      rw [Decimal.digits, Nat.toDigits_eq_if (by decide)]
      split
      · rename_i hlt
        exact hdigit n hlt h
      · rw [List.head?_append_of_ne_nil _ Nat.toDigits_ne_nil]
        exact ih (n / 10) (by omega) (by omega)

theorem exponent?_of_isDelimited {rest : List Char} (h : IsDelimited rest) :
    exponent? rest = some (none, rest) := by
  cases rest with
  | nil => rfl
  | cons c rest =>
      have hc : ¬(c = 'e' ∨ c = 'E') := by
        rcases h c rfl with rfl | rfl | rfl <;> decide
      simp only [exponent?, if_neg hc]

theorem numeral?_digits (n : Nat) {rest : List Char} (hrest : IsDelimited rest) :
    numeral? (Decimal.digits n ++ rest) = some (⟨Decimal.digits n, [], none⟩, rest) := by
  have hempty : (Decimal.digits n).isEmpty = false :=
    List.isEmpty_eq_false_iff.mpr Nat.toDigits_ne_nil
  have hzero : ((Decimal.digits n).head? == some '0' && 1 < (Decimal.digits n).length) =
      false := by
    cases n with
    | zero => rfl
    | succ n => rw [beq_eq_false_iff_ne.mpr (head?_digits n.succ_pos), Bool.false_and]
  -- without a point the reader is left with the whole part alone
  have hpoint (r : List Char) : rest ≠ '.' :: r := by
    rintro rfl
    rcases hrest _ rfl with h | h | h <;> cases h
  simp only [numeral?, splitDigits_append (fun _ => isDigit_of_mem_digits) hrest, hempty, hzero,
    exponent?_of_isDelimited hrest, Bool.or_false, Bool.false_eq_true, if_false]
  rfl

theorem gather_digits {n : Nat} (h : n < Nat.pow 2 64) : gather 0 (Decimal.digits n) = (n, 0) := by
  rw [gather_eq (by rwa [ofDigitChars_digits]), ofDigitChars_digits]

theorem value?_digits {n : Nat} (h : n < Nat.pow 2 64) :
    Numeral.value? false ⟨Decimal.digits n, [], none⟩ = some (.int n) := by
  rw [Numeral.value?, gather_digits h]
  rfl

theorem value?_negative {n : Nat} (hpos : 0 < n) (h : n ≤ Nat.pow 2 63) :
    Numeral.value? true ⟨Decimal.digits n, [], none⟩ = some (.int (-(n : Int))) := by
  have hrange : ¬(n = 0 ∨ Nat.pow 2 63 < n) := by omega
  have hlt : n < Nat.pow 2 64 := Nat.lt_of_le_of_lt h (by decide)
  simp only [Numeral.value?, gather_digits hlt, List.isEmpty_nil, BEq.rfl, Bool.and_self,
    Bool.not_true, Bool.false_eq_true, if_true, if_false, if_neg hrange]

end Number

/-- The integers that a number can stand for without becoming a double. -/
def IsWord (n : Int) : Prop :=
  -(Nat.pow 2 63 : Int) ≤ n ∧ n < Nat.pow 2 64

theorem isWord_toInt (n : Int64) : IsWord n.toInt := by
  have hlow := Int64.le_toInt n
  have hhigh := Int64.toInt_lt n
  have hsigned : (Nat.pow 2 63 : Int) = 2 ^ 63 := rfl
  have hunsigned : (Nat.pow 2 64 : Int) = 2 ^ 64 := rfl
  rw [IsWord]
  omega

namespace Token

/-- The characters that a number starts with. -/
def startsNumber (c : Char) : Bool :=
  c == '-' || Decimal.isDigit c

theorem exists_cons_ofInt (n : Int) : ∃ c t, Decimal.ofInt n = c :: t ∧ startsNumber c = true := by
  rw [Decimal.ofInt]
  split
  · exact ⟨'-', _, rfl, rfl⟩
  · obtain ⟨d, ds, hds, hdigit⟩ := Number.exists_cons_digits n.natAbs
    exact ⟨d, ds, hds, by rw [startsNumber, hdigit, Bool.or_true]⟩

theorem eq_of_isSpace {c : Char} (h : isSpace c = true) :
    c = ' ' ∨ c = '\n' ∨ c = '\t' ∨ c = '\r' := by
  simpa only [isSpace, Bool.or_eq_true, beq_iff_eq, or_assoc] using h

theorem isSpace_of_startsNumber {c : Char} (h : startsNumber c = true) : isSpace c = false := by
  rw [Bool.eq_false_iff]
  intro hspace
  rcases eq_of_isSpace hspace with rfl | rfl | rfl | rfl <;> exact absurd h (by decide)

theorem mark?_of_startsNumber {c : Char} (h : startsNumber c = true) : mark? c = none := by
  rw [mark?.eq_def]
  split <;> first | rfl | exact absurd h (by decide)

theorem word?_of_startsNumber {c : Char} (h : startsNumber c = true) (t : List Char) :
    word? (c :: t) = none := by
  have hne (x : Char) (hx : startsNumber x = false) : x ≠ c := by
    rintro rfl
    rw [h] at hx
    cases hx
  simp [word?, words, hne 'n' rfl, hne 't' rfl, hne 'f' rfl]

theorem number?_negative {n : Nat} (hpos : 0 < n) (h : n ≤ Nat.pow 2 63) {rest : List Char}
    (hrest : Number.IsDelimited rest) :
    number? ('-' :: Decimal.digits n ++ rest) = some (.int (-(n : Int)), rest) := by
  have hvalue := Number.value?_negative hpos h
  rw [List.cons_append, number?]
  exact Option.bind_eq_some_iff.mpr
    ⟨_, Number.numeral?_digits n hrest, Option.bind_eq_some_iff.mpr ⟨_, hvalue, rfl⟩⟩

theorem number?_digits {n : Nat} (h : n < Nat.pow 2 64) {rest : List Char}
    (hrest : Number.IsDelimited rest) :
    number? (Decimal.digits n ++ rest) = some (.int n, rest) := by
  have hminus : ∀ cs, Decimal.digits n ++ rest ≠ '-' :: cs := by
    obtain ⟨d, ds, hds, hdigit⟩ := Number.exists_cons_digits n
    intro cs hcs
    rw [hds] at hcs
    cases hcs
    cases hdigit
  have hvalue := Number.value?_digits h
  rw [number?]
  · exact Option.bind_eq_some_iff.mpr
      ⟨_, Number.numeral?_digits n hrest, Option.bind_eq_some_iff.mpr ⟨_, hvalue, rfl⟩⟩
  · exact hminus

theorem number?_ofInt {n : Int} (h : IsWord n) {rest : List Char}
    (hrest : Number.IsDelimited rest) :
    number? (Decimal.ofInt n ++ rest) = some (.int n, rest) := by
  obtain ⟨hlow, hhigh⟩ := h
  rw [Decimal.ofInt]
  split
  · have habs : n = -(n.natAbs : Int) := by omega
    rw [number?_negative (by omega) (by omega) hrest, ← habs]
  · have habs : n = (n.natAbs : Int) := by omega
    rw [number?_digits (by omega) hrest, ← habs]

theorem scalar?_ofInt {n : Int} (h : IsWord n) {rest : List Char}
    (hrest : Number.IsDelimited rest) :
    scalar? (Decimal.ofInt n ++ rest) = some (.int n, rest) := by
  have hnumber := number?_ofInt h hrest
  obtain ⟨c, t, hc, hstart⟩ := exists_cons_ofInt n
  rw [hc, List.cons_append] at hnumber ⊢
  rw [scalar?, word?_of_startsNumber hstart, hnumber]
  · rfl
  · intro cs hcs
    cases hcs
    cases hstart

theorem scalar?_encode (s : String) (rest : List Char) :
    scalar? (Quoted.encode s ++ rest) = some (.text s, rest) := by
  have hread := Quoted.read?_flatMap_encodeChar rest s.toList
  rw [Quoted.encode, List.append_assoc, List.cons_append, List.singleton_append, scalar?, hread,
    Option.map_some, String.ofList_toList]

theorem hasNoControl_ofInt (n : Int) : HasNoControl (Decimal.ofInt n) := by
  have hdigits : HasNoControl (Decimal.digits n.natAbs) := by
    intro c hc
    have hdigit := Number.isDigit_of_mem_digits hc
    simp only [Decimal.isDigit, Bool.and_eq_true, decide_eq_true_eq] at hdigit
    exact Nat.le_trans (by decide) (hdigit.1 : '0'.toNat ≤ c.toNat)
  rw [Decimal.ofInt]
  split
  · exact List.forall_mem_cons.mpr ⟨by decide, hdigits⟩
  · exact hdigits

/-- A scalar in front of some text becomes the first token. -/
theorem ofText?_scalar {c : Char} {t rest : List Char} {value : Json}
    (hspace : isSpace c = false) (hmark : mark? c = none)
    (hscalar : scalar? (c :: t ++ rest) = some (value, rest)) :
    ofText? (c :: t ++ rest) = (ofText? rest).map (.scalar value :: ·) := by
  rw [List.cons_append] at hscalar ⊢
  have hle : rest.length ≤ (t ++ rest).length := by simp
  rw [ofText?, hspace, hmark, hscalar]
  exact if_pos hle

theorem ofText?_mark {c : Char} {token : Token} (hmark : mark? c = some token)
    (rest : List Char) : ofText? (c :: rest) = (ofText? rest).map (token :: ·) := by
  have hspace : isSpace c = false := by
    rw [Bool.eq_false_iff]
    intro hspace
    rcases eq_of_isSpace hspace with rfl | rfl | rfl | rfl <;> cases hmark
  rw [ofText?, hspace, hmark]
  rfl

end Token

end Json

end CrawlAudit
