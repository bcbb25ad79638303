import CrawlAudit.Json.Reader
import CrawlAudit.Proofs.SortedMap

/-!
# Ordered documents

A document that was read from a text has the members of each of its objects in strictly ascending
order of their keys.
-/

namespace CrawlAudit.Json

/-- Neither an array nor an object. -/
def IsScalar (document : Json) : Prop :=
  document.items? = none ∧ document.members? = none

/-- All objects in a document have their keys in strictly ascending order. -/
inductive IsOrdered : Json → Prop where
  | scalar {document : Json} (h : document.IsScalar) : IsOrdered document
  | array {items : List Json} (h : ∀ item ∈ items, IsOrdered item) : IsOrdered (.array items)
  | object {members : Members} (hkeys : Sorted.IsSorted Order.texts members)
      (h : ∀ m ∈ members, IsOrdered m.2) : IsOrdered (.object members)

theorem IsOrdered.of_object {members : Members} (h : IsOrdered (.object members)) :
    Sorted.IsSorted Order.texts members ∧ ∀ m ∈ members, IsOrdered m.2 := by
  cases h with
  | scalar h => cases h.2
  | object hkeys h => exact ⟨hkeys, h⟩

namespace Number

theorem isScalar_signed_of_scale {negative : Bool} {significand : Nat} {exponent : Int}
    {document : Json} (h : (scale significand exponent).map (signed negative) = some document) :
    document.IsScalar := by
  obtain ⟨x, -, rfl⟩ := Option.map_eq_some_iff.mp h
  exact ⟨rfl, rfl⟩

theorem isScalar_value? {negative : Bool} {numeral : Numeral} {document : Json}
    (h : numeral.value? negative = some document) : document.IsScalar := by
  simp only [Numeral.value?] at h
  split at h
  · split at h
    · split at h
      · cases h
        exact ⟨rfl, rfl⟩
      · split at h
        · cases h
          exact ⟨rfl, rfl⟩
        · cases h
          exact ⟨rfl, rfl⟩
    · exact isScalar_signed_of_scale h
  · split at h
    · split at h
      · cases h
      · cases h
        exact ⟨rfl, rfl⟩
    · exact isScalar_signed_of_scale h

end Number

namespace Token

/-- A token that has a document has a scalar. -/
def HoldsScalar : Token → Prop
  | .scalar value => value.IsScalar
  | _ => True

theorem isScalar_word? {cs rest : List Char} {document : Json}
    (h : word? cs = some (document, rest)) : document.IsScalar := by
  obtain ⟨word, hword, hfound⟩ := List.exists_of_findSome?_eq_some h
  have hscalars : ∀ word ∈ words, word.2.IsScalar := by simp [words, IsScalar, items?, members?]
  split at hfound
  · cases hfound
    exact hscalars word hword
  · cases hfound

theorem isScalar_number? {cs rest : List Char} {document : Json}
    (h : number? cs = some (document, rest)) : document.IsScalar := by
  rw [number?.eq_def] at h
  split at h
  all_goals
    simp only [Option.bind_eq_bind, Option.bind_eq_some_iff] at h
    obtain ⟨⟨numeral, after⟩, -, value, hvalue, hpair⟩ := h
    cases hpair
    exact Number.isScalar_value? hvalue

theorem isScalar_scalar? {cs rest : List Char} {document : Json}
    (h : scalar? cs = some (document, rest)) : document.IsScalar := by
  rw [scalar?.eq_def] at h
  split at h
  · obtain ⟨quoted, -, hpair⟩ := Option.map_eq_some_iff.mp h
    cases hpair
    exact ⟨rfl, rfl⟩
  · rcases Option.or_eq_some_iff.mp h with h | ⟨-, h⟩
    · exact isScalar_word? h
    · exact isScalar_number? h

theorem holdsScalar_mark? {c : Char} {token : Token} (h : mark? c = some token) :
    token.HoldsScalar := by
  rw [mark?.eq_def] at h
  split at h <;> cases h <;> trivial

theorem holdsScalar_ofText? {cs : List Char} {tokens : List Token}
    (h : ofText? cs = some tokens) : ∀ token ∈ tokens, token.HoldsScalar := by
  fun_induction ofText? cs generalizing tokens with
  | case1 =>
      cases h
      exact List.forall_mem_nil _
  | case2 c rest hspace ih => exact ih h
  | case3 c rest hspace token hmark ih =>
      obtain ⟨later, hlater, rfl⟩ := Option.map_eq_some_iff.mp h
      exact List.forall_mem_cons.mpr ⟨holdsScalar_mark? hmark, ih hlater⟩
  | case4 => cases h
  | case5 c rest hspace hmark value after hscalar hle ih =>
      obtain ⟨later, hlater, rfl⟩ := Option.map_eq_some_iff.mp h
      exact List.forall_mem_cons.mpr ⟨isScalar_scalar? hscalar, ih hlater⟩
  | case6 => cases h

end Token

/-- What has been read so far of an array or an object is ordered. -/
def Frame.IsOrdered : Frame → Prop
  | .array reversed => ∀ item ∈ reversed, item.IsOrdered
  | .object members _ => (Json.object members).IsOrdered

namespace Progress

/-- What has been read so far is ordered. -/
def IsOrdered : Progress → Prop
  | .value stack => ∀ f ∈ stack, f.IsOrdered
  | .firstItem stack => ∀ f ∈ stack, f.IsOrdered
  | .memberKey members _ stack => (Json.object members).IsOrdered ∧ ∀ f ∈ stack, f.IsOrdered
  | .colon members _ stack => (Json.object members).IsOrdered ∧ ∀ f ∈ stack, f.IsOrdered
  | .separator frame stack => frame.IsOrdered ∧ ∀ f ∈ stack, f.IsOrdered
  | .finished document => document.IsOrdered

end Progress

theorem isOrdered_insertMember {members : Members} (h : (Json.object members).IsOrdered)
    {value : Json} (hvalue : value.IsOrdered) (key : String) :
    (Json.object (insertMember key value members)).IsOrdered := by
  obtain ⟨hkeys, hmembers⟩ := h.of_object
  refine .object (Sorted.isSorted_alter key _ hkeys) fun m hm => ?_
  rcases Sorted.mem_insert hm with rfl | hm
  · exact hvalue
  · exact hmembers m hm

namespace Progress

theorem isOrdered_complete {value : Json} (hvalue : value.IsOrdered) {stack : List Frame}
    (hstack : ∀ f ∈ stack, f.IsOrdered) : (complete value stack).IsOrdered := by
  cases stack with
  | nil => exact hvalue
  | cons frame stack =>
      obtain ⟨hframe, hrest⟩ := List.forall_mem_cons.mp hstack
      cases frame with
      | array xs => exact ⟨List.forall_mem_cons.mpr ⟨hvalue, hframe⟩, hrest⟩
      | object members key => exact ⟨isOrdered_insertMember hframe hvalue key, hrest⟩

theorem isOrdered_empty : (Json.object []).IsOrdered :=
  .object Sorted.isSorted_nil (List.forall_mem_nil _)

theorem isOrdered_beginValue {limit : Nat} {stack : List Frame} {token : Token} {next : Progress}
    (hstack : ∀ f ∈ stack, f.IsOrdered) (htoken : token.HoldsScalar)
    (h : beginValue limit stack token = some next) : next.IsOrdered := by
  cases token with
  | scalar value =>
      cases h
      exact isOrdered_complete (.scalar htoken) hstack
  | arrayOpen =>
      rw [beginValue] at h
      split at h
      · cases h
        exact hstack
      · cases h
  | objectOpen =>
      rw [beginValue] at h
      split at h
      · cases h
        exact ⟨isOrdered_empty, hstack⟩
      · cases h
  | _ => cases h

theorem isOrdered_step {limit : Nat} {progress next : Progress} {token : Token}
    (hprogress : progress.IsOrdered) (htoken : token.HoldsScalar)
    (h : progress.step limit token = some next) : next.IsOrdered := by
  rw [step.eq_def] at h
  split at h
  · exact isOrdered_beginValue hprogress htoken h
  · cases h
    exact isOrdered_complete (.array (List.forall_mem_nil _)) hprogress
  · have hopened : (Frame.array []).IsOrdered := List.forall_mem_nil _
    exact isOrdered_beginValue (List.forall_mem_cons.mpr ⟨hopened, hprogress⟩) htoken h
  · cases h
    exact isOrdered_complete hprogress.1 hprogress.2
  · cases h
    exact hprogress
  · cases h
    exact List.forall_mem_cons.mpr hprogress
  · cases h
    exact List.forall_mem_cons.mpr hprogress
  · cases h
    refine isOrdered_complete (.array fun item hitem => ?_) hprogress.2
    exact hprogress.1 item (List.mem_reverse.mp hitem)
  · cases h
    exact hprogress
  · cases h
    exact isOrdered_complete hprogress.1 hprogress.2
  · cases h

end Progress

theorem isOrdered_resume? {limit : Nat} {progress : Progress} {tokens : List Token}
    {document : Json} (hprogress : progress.IsOrdered) (htokens : ∀ t ∈ tokens, t.HoldsScalar)
    (h : resume? limit progress tokens = some document) : document.IsOrdered := by
  induction tokens generalizing progress with
  | nil =>
      cases progress <;> cases h
      exact hprogress
  | cons token tokens ih =>
      obtain ⟨htoken, htokens⟩ := List.forall_mem_cons.mp htokens
      rw [resume?] at h
      split at h
      · rename_i next hstep
        exact ih (Progress.isOrdered_step hprogress htoken hstep) htokens h
      · cases h

/-- A document that was read from a text is ordered. -/
theorem isOrdered_of_read? {text : String} {document : Json} (h : read? text = some document) :
    document.IsOrdered := by
  obtain ⟨tokens, htokens, hresume⟩ := Option.bind_eq_some_iff.mp h
  have hstart : (Progress.value []).IsOrdered := List.forall_mem_nil _
  exact isOrdered_resume? hstart (Token.holdsScalar_ofText? htokens) hresume

end CrawlAudit.Json
