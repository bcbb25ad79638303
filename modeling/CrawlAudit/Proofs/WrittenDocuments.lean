import CrawlAudit.Proofs.WrittenScalars

/-!
# Documents read back

A document without doubles that is written in the compact form is read back as itself, with the
members of its objects in order. What is written stands on one line.
-/

namespace CrawlAudit.Json

/-- Documents without doubles, with integers of 64 bits and at most `depth` arrays and objects
around anything. -/
inductive IsPlain : Nat → Json → Prop where
  | null {depth : Nat} : IsPlain depth .null
  | bool {depth : Nat} (b : Bool) : IsPlain depth (.bool b)
  | int {depth : Nat} {n : Int} (h : IsWord n) : IsPlain depth (.int n)
  | text {depth : Nat} (s : String) : IsPlain depth (.text s)
  | array {depth : Nat} {items : List Json} (h : ∀ item ∈ items, IsPlain depth item) :
      IsPlain (depth + 1) (.array items)
  | object {depth : Nat} {members : Members} (h : ∀ m ∈ members, IsPlain depth m.2) :
      IsPlain (depth + 1) (.object members)

mutual

/-- The document with the members of every object in order of their keys. -/
def ordered : Json → Json
  | .array items => .array (orderedItems items)
  | .object members => ofMembers (orderedMembers members)
  | .null => .null
  | .bool b => .bool b
  | .int n => .int n
  | .float x => .float x
  | .text s => .text s

def orderedItems : List Json → List Json
  | [] => []
  | x :: xs => ordered x :: orderedItems xs

def orderedMembers : List (String × Json) → List (String × Json)
  | [] => []
  | (k, v) :: ms => (k, ordered v) :: orderedMembers ms

end

theorem orderedItems_eq_map (items : List Json) : orderedItems items = items.map ordered := by
  induction items with
  | nil => rfl
  | cons x xs ih => rw [orderedItems, ih, List.map_cons]

theorem orderedMembers_eq_map (members : Members) :
    orderedMembers members = members.map fun m => (m.1, m.2.ordered) := by
  induction members with
  | nil => rfl
  | cons m ms ih => rw [orderedMembers, ih, List.map_cons]

theorem ordered_array (items : List Json) :
    (Json.array items).ordered = .array (items.map ordered) := by
  rw [ordered, orderedItems_eq_map]

namespace Token

theorem ofText?_null (rest : List Char) :
    ofText? (compactChars .null ++ rest) = (ofText? rest).map (.scalar .null :: ·) :=
  ofText?_scalar (c := 'n') rfl rfl rfl

theorem ofText?_bool (b : Bool) (rest : List Char) :
    ofText? (compactChars (.bool b) ++ rest) = (ofText? rest).map (.scalar (.bool b) :: ·) := by
  cases b with
  | false => exact ofText?_scalar (c := 'f') rfl rfl rfl
  | true => exact ofText?_scalar (c := 't') rfl rfl rfl

theorem ofText?_encode (s : String) (rest : List Char) :
    ofText? (Quoted.encode s ++ rest) = (ofText? rest).map (.scalar (.text s) :: ·) :=
  ofText?_scalar rfl rfl (scalar?_encode s rest)

theorem ofText?_ofInt {n : Int} (h : IsWord n) {rest : List Char}
    (hrest : Number.IsDelimited rest) :
    ofText? (Decimal.ofInt n ++ rest) = (ofText? rest).map (.scalar (.int n) :: ·) := by
  have hscalar := scalar?_ofInt h hrest
  obtain ⟨c, t, hc, hstart⟩ := exists_cons_ofInt n
  rw [hc] at hscalar ⊢
  exact ofText?_scalar (isSpace_of_startsNumber hstart) (mark?_of_startsNumber hstart) hscalar

end Token

/-- Reads on from some progress. -/
def readFrom (limit : Nat) (progress : Progress) (cs : List Char) : Option Json :=
  (Token.ofText? cs).bind (resume? limit progress)

section

variable {limit : Nat} {progress : Progress}

theorem resume?_cons (limit : Nat) (progress : Progress) (token : Token) (tokens : List Token) :
    resume? limit progress (token :: tokens) =
      (progress.step limit token).bind fun next => resume? limit next tokens := by
  rw [resume?]
  cases progress.step limit token <;> rfl

theorem readFrom_of_ofText? {cs rest : List Char} {token : Token} {next : Progress}
    (hcs : Token.ofText? cs = (Token.ofText? rest).map (token :: ·))
    (hstep : progress.step limit token = some next) :
    readFrom limit progress cs = readFrom limit next rest := by
  rw [readFrom, readFrom, hcs, Option.bind_map]
  refine congrArg _ (funext fun tokens => ?_)
  rw [Function.comp_apply, resume?_cons, hstep, Option.bind_some]

theorem readFrom_mark {c : Char} {token : Token} {next : Progress}
    (hmark : Token.mark? c = some token) (hstep : progress.step limit token = some next)
    (rest : List Char) : readFrom limit progress (c :: rest) = readFrom limit next rest :=
  readFrom_of_ofText? (Token.ofText?_mark hmark rest) hstep

/-- A value is due on top of the stack. -/
def Progress.Awaits (limit : Nat) (stack : List Frame) (progress : Progress) : Prop :=
  ∀ token, token ≠ .arrayClose → progress.step limit token = beginValue limit stack token

theorem Progress.awaits_value (limit : Nat) (stack : List Frame) :
    (value stack).Awaits limit stack :=
  fun _ _ => rfl

theorem Progress.awaits_firstItem (limit : Nat) (stack : List Frame) :
    (firstItem stack).Awaits limit (.array [] :: stack) := by
  intro token htoken
  cases token with
  | arrayClose => exact absurd rfl htoken
  | _ => rfl

variable {stack : List Frame}

theorem readFrom_scalar {cs rest : List Char} {document : Json}
    (hprogress : progress.Awaits limit stack)
    (hcs : Token.ofText? cs = (Token.ofText? rest).map (.scalar document :: ·)) :
    readFrom limit progress cs = readFrom limit (.complete document stack) rest :=
  readFrom_of_ofText? hcs (hprogress _ nofun)

/-- The document is read wherever a value is due. -/
def ReadsBack (limit depth : Nat) (document : Json) : Prop :=
  ∀ {progress : Progress} {stack : List Frame}, progress.Awaits limit stack →
    stack.length + depth ≤ limit → ∀ {rest : List Char}, Number.IsDelimited rest →
      readFrom limit progress (document.compactChars ++ rest) =
        readFrom limit (.complete document.ordered stack) rest

theorem joinWith_cons_cons (separator x y : List Char) (xs : List (List Char)) :
    joinWith separator (x :: y :: xs) = x ++ separator ++ joinWith separator (y :: xs) :=
  rfl

theorem readFrom_items {depth : Nat} {item : Json} {items reversed : List Json}
    (h : ∀ x ∈ item :: items, ReadsBack limit depth x)
    (hprogress : progress.Awaits limit (.array reversed :: stack))
    (hlimit : stack.length + 1 + depth ≤ limit) (rest : List Char) :
    readFrom limit progress (joinWith [','] (compactItems (item :: items)) ++ ']' :: rest) =
      readFrom limit
        (.complete (.array (reversed.reverse ++ orderedItems (item :: items))) stack) rest := by
  induction items generalizing item reversed progress with
  | nil =>
      have hitem := h item (List.mem_singleton_self item) hprogress hlimit
        (Number.isDelimited_cons (c := ']') (by decide) rest)
      have hclose : (Progress.complete item.ordered (.array reversed :: stack)).step limit
          .arrayClose = some (.complete (.array (item.ordered :: reversed).reverse) stack) := rfl
      rw [List.reverse_cons] at hclose
      exact hitem.trans (readFrom_mark rfl hclose rest)
  | cons next items ih =>
      obtain ⟨hitem, hitems⟩ := List.forall_mem_cons.mp h
      have hcomma : (Progress.complete item.ordered (.array reversed :: stack)).step limit
          .comma = some (.value (.array (item.ordered :: reversed) :: stack)) := rfl
      have hrest := ih hitems
        (Progress.awaits_value limit (.array (item.ordered :: reversed) :: stack))
      rw [List.reverse_cons, List.append_assoc] at hrest
      rw [compactItems, compactItems, joinWith_cons_cons, List.append_assoc, List.append_assoc]
      refine (hitem hprogress hlimit (Number.isDelimited_cons (c := ',') (by decide) _)).trans ?_
      exact (readFrom_mark rfl hcomma _).trans hrest

theorem readFrom_member {depth : Nat} {value : Json} (hvalue : ReadsBack limit depth value)
    (key : String) (read : Members) (first : Bool) (hlimit : stack.length + 1 + depth ≤ limit)
    {rest : List Char} (hrest : Number.IsDelimited rest) :
    readFrom limit (.memberKey read first stack)
        (Quoted.encode key ++ ':' :: compactChars value ++ rest) =
      readFrom limit (.separator (.object (insertMember key value.ordered read) key) stack)
        rest := by
  have hkey : (Progress.memberKey read first stack).step limit (.scalar (.text key)) =
      some (.colon read key stack) := by
    cases first <;> rfl
  have hcolon : (Progress.colon read key stack).step limit .colon =
      some (.value (.object read key :: stack)) := rfl
  rw [List.append_assoc, readFrom_of_ofText? (Token.ofText?_encode key _) hkey, List.cons_append,
    readFrom_mark rfl hcolon]
  exact hvalue (Progress.awaits_value limit (.object read key :: stack)) hlimit hrest

theorem readFrom_members {depth : Nat} {member : String × Json} {members read : Members}
    (h : ∀ m ∈ member :: members, ReadsBack limit depth m.2) (first : Bool)
    (hlimit : stack.length + 1 + depth ≤ limit) (rest : List Char) :
    readFrom limit (.memberKey read first stack)
        (joinWith [','] (compactMembers (member :: members)) ++ '\x7d' :: rest) =
      readFrom limit (.complete (.object ((orderedMembers (member :: members)).foldl
        (fun sorted m => insertMember m.1 m.2 sorted) read)) stack) rest := by
  induction members generalizing member read first with
  | nil =>
      have hmember := readFrom_member (h member (List.mem_singleton_self member)) member.1 read
        first hlimit (Number.isDelimited_cons (c := '\x7d') (by decide) rest)
      exact hmember.trans (readFrom_mark rfl rfl rest)
  | cons next members ih =>
      obtain ⟨hmember, hmembers⟩ := List.forall_mem_cons.mp h
      rw [compactMembers, compactMembers, joinWith_cons_cons, List.append_assoc, List.append_assoc]
      refine (readFrom_member hmember member.1 read first hlimit
        (Number.isDelimited_cons (c := ',') (by decide) _)).trans ?_
      exact (readFrom_mark rfl rfl _).trans (ih hmembers false)

/-- A plain document that fits the limit is read back wherever a value is due. -/
theorem IsPlain.readsBack {depth : Nat} {document : Json} (h : document.IsPlain depth)
    (limit : Nat) : ReadsBack limit depth document := by
  -- an item is read above the frame of its array, so the claim is about every stack
  induction h with
  | null =>
      intro progress stack hprogress _ rest _
      exact readFrom_scalar hprogress (Token.ofText?_null rest)
  | bool b =>
      intro progress stack hprogress _ rest _
      exact readFrom_scalar hprogress (Token.ofText?_bool b rest)
  | int hword =>
      intro progress stack hprogress _ rest hrest
      exact readFrom_scalar hprogress (Token.ofText?_ofInt hword hrest)
  | text s =>
      intro progress stack hprogress _ rest _
      exact readFrom_scalar hprogress (Token.ofText?_encode s rest)
  | @array depth items _ ih =>
      intro progress stack hprogress hlimit rest _
      have hopen : progress.step limit .arrayOpen = some (.firstItem stack) := by
        rw [hprogress .arrayOpen nofun]
        exact if_pos (by omega)
      rw [compactChars, List.cons_append, List.cons_append, List.append_assoc,
        readFrom_mark rfl hopen]
      cases items with
      | nil => exact readFrom_mark rfl rfl rest
      | cons item items =>
          exact readFrom_items ih (Progress.awaits_firstItem limit stack) (by omega) rest
  | @object depth members _ ih =>
      intro progress stack hprogress hlimit rest _
      have hopen : progress.step limit .objectOpen = some (.memberKey [] true stack) := by
        rw [hprogress .objectOpen nofun]
        exact if_pos (by omega)
      rw [compactChars, List.cons_append, List.cons_append, List.append_assoc,
        readFrom_mark rfl hopen]
      cases members with
      | nil => exact readFrom_mark rfl rfl rest
      | cons member members => exact readFrom_members ih true (by omega) rest

end

/-- A plain document is read back with its members in order. -/
theorem read?_compact {depth : Nat} {document : Json} (h : document.IsPlain depth)
    (hdepth : depth ≤ nestingLimit) : read? document.compact = some document.ordered := by
  have hread := h.readsBack nestingLimit (Progress.awaits_value nestingLimit [])
    (by rwa [List.length_nil, Nat.zero_add]) Number.isDelimited_nil
  have hend : readFrom nestingLimit (.complete document.ordered []) [] =
      some document.ordered := by
    rw [readFrom, Token.ofText?]
    rfl
  rw [List.append_nil, hend] at hread
  rw [read?, readWithin?, compact, String.toList_ofList]
  exact hread

theorem compactItems_eq_map (items : List Json) : compactItems items = items.map compactChars := by
  induction items with
  | nil => rfl
  | cons x xs ih => rw [compactItems, ih, List.map_cons]

theorem compactMembers_eq_map (members : Members) :
    compactMembers members =
      members.map fun m => Quoted.encode m.1 ++ ':' :: compactChars m.2 := by
  induction members with
  | nil => rfl
  | cons m ms ih => rw [compactMembers, ih, List.map_cons]

theorem hasNoControl_joinWith {separator : List Char} {xs : List (List Char)}
    (hseparator : HasNoControl separator) (h : ∀ x ∈ xs, HasNoControl x) :
    HasNoControl (joinWith separator xs) := by
  induction xs with
  | nil => exact List.forall_mem_nil _
  | cons x xs ih =>
      obtain ⟨hx, hxs⟩ := List.forall_mem_cons.mp h
      cases xs with
      | nil => exact hx
      | cons y xs =>
          rw [joinWith_cons_cons]
          exact List.forall_mem_append.mpr ⟨List.forall_mem_append.mpr ⟨hx, hseparator⟩, ih hxs⟩

theorem hasNoControl_block {first last : Char} {xs : List (List Char)} (hfirst : 0x20 ≤ first.toNat)
    (hlast : 0x20 ≤ last.toNat) (h : ∀ x ∈ xs, HasNoControl x) :
    HasNoControl (first :: joinWith [','] xs ++ [last]) := by
  have hjoined : HasNoControl (joinWith [','] xs) :=
    hasNoControl_joinWith (List.forall_mem_singleton.mpr (by decide)) h
  exact List.forall_mem_append.mpr
    ⟨List.forall_mem_cons.mpr ⟨hfirst, hjoined⟩, List.forall_mem_singleton.mpr hlast⟩

theorem IsPlain.hasNoControl {depth : Nat} {document : Json} (h : document.IsPlain depth) :
    HasNoControl document.compactChars := by
  induction h with
  | null => decide
  | bool b => cases b <;> decide
  | int hword => exact Token.hasNoControl_ofInt _
  | text s => exact Quoted.hasNoControl_encode s
  | array _ ih =>
      rw [compactChars, compactItems_eq_map]
      exact hasNoControl_block (by decide) (by decide) (List.forall_mem_map.mpr ih)
  | object _ ih =>
      rw [compactChars, compactMembers_eq_map]
      refine hasNoControl_block (by decide) (by decide) (List.forall_mem_map.mpr fun m hm => ?_)
      exact List.forall_mem_append.mpr ⟨Quoted.hasNoControl_encode m.1,
        List.forall_mem_cons.mpr ⟨by decide, ih m hm⟩⟩

end CrawlAudit.Json
