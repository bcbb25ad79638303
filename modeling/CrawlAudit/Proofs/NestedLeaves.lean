import CrawlAudit.Proofs.NestedPaths

/-!
# Leaves of nested objects

Values are put at their paths one after the other. A value ends whatever stood above or below its
path, so that a path leads to a value if this value was the last one put at the path, above it or
below it. Every object on the way holds some value, and where no path leads on from another one all
values stay and their order does not matter.
-/

namespace CrawlAudit.Nesting

open Std

/-- A path of keys leads from the members of an object through nested objects to a document. -/
inductive Leads : List String → Json.Members → Json → Prop where
  | here {key : String} {members : Json.Members} {value : Json} (h : (key, value) ∈ members) :
      Leads [key] members value
  | inside {key : String} {members inner : Json.Members} {path : List String} {value : Json}
      (h : (key, .object inner) ∈ members) (hpath : Leads path inner value) :
      Leads (key :: path) members value

/-- The keys are in ascending order, here and in all nested objects, and no nested object is
empty. -/
inductive IsNested : Json.Members → Prop where
  | intro {members : Json.Members} (keys : Sorted.IsSorted Order.texts members)
      (nonempty : ∀ key inner, (key, .object inner) ∈ members → inner ≠ [])
      (deep : ∀ key inner, (key, .object inner) ∈ members → IsNested inner) : IsNested members

/-- A path is the path of a pair or leads on from it or to it. -/
def meets (path : List String) (pair : String × Json) : Bool :=
  path.isPrefixOf (segments pair.1) || (segments pair.1).isPrefixOf path

/-- The document at a path, if it is no object. -/
def leaf? (path : List String) (members : Json.Members) : Option Json :=
  (at? path members).filter fun value => value.members?.isNone

theorem isNested_nil : IsNested [] :=
  ⟨Sorted.isSorted_nil, fun _ _ h => absurd h List.not_mem_nil,
    fun _ _ h => absurd h List.not_mem_nil⟩

theorem at?_nil (path : List String) : at? path [] = none := by
  induction path with
  | nil => rfl
  | cons key rest ih =>
      cases rest with
      | nil => rfl
      | cons next rest => exact ih

theorem membersIn_of_members?_eq_none {value : Json} (h : value.members? = none) :
    membersIn (some value) = [] := by
  cases value <;> first | rfl | cases h

/-- What takes the place of a member when a value is put at the rest of its path. -/
def replaced (value : Json) (rest : List String) (old : Option Json) : Json :=
  match rest with
  | [] => value
  | next :: rest => .object (put value (next :: rest) (membersIn old))

theorem put_cons (value : Json) (key : String) (rest : List String) (members : Json.Members) :
    put value (key :: rest) members =
      Json.insertMember key (replaced value rest (Json.member? key members)) members := by
  cases rest <;> rfl

theorem put_cons_ne_nil (value : Json) (key : String) (rest : List String)
    (members : Json.Members) : put value (key :: rest) members ≠ [] := by
  intro h
  have hmember := member?_insertMember key key (replaced value rest (Json.member? key members))
    members
  rw [← put_cons, h, if_pos rfl] at hmember
  cases hmember

theorem IsNested.membersIn_member? {members : Json.Members} (h : IsNested members) (key : String) :
    IsNested (membersIn (Json.member? key members)) := by
  obtain ⟨keys, -, deep⟩ := h
  cases hmember : Json.member? key members with
  | none => exact isNested_nil
  | some value =>
      cases value with
      | object inner => exact deep key inner ((Sorted.lookup_eq_some_iff keys).mp hmember)
      | _ => exact isNested_nil

theorem isNested_put {value : Json} (hvalue : value.members? = none) (path : List String)
    {members : Json.Members} (h : IsNested members) : IsNested (put value path members) := by
  induction path generalizing members with
  | nil => exact h
  | cons key rest ih =>
      have hinner := h.membersIn_member? key
      obtain ⟨keys, nonempty, deep⟩ := h
      have hnew : ∀ inner, replaced value rest (Json.member? key members) = .object inner →
          inner ≠ [] ∧ IsNested inner := by
        intro inner heq
        cases rest with
        | nil =>
            obtain rfl : value = .object inner := heq
            cases hvalue
        | cons next rest =>
            obtain rfl := Json.object.inj heq
            exact ⟨put_cons_ne_nil value next rest _, ih hinner⟩
      rw [put_cons]
      refine ⟨Sorted.isSorted_alter key _ keys, fun k inner hk => ?_, fun k inner hk => ?_⟩
      · rcases Sorted.mem_insert hk with heq | hk
        · exact (hnew inner (Prod.mk.inj heq).2.symm).1
        · exact nonempty k inner hk
      · rcases Sorted.mem_insert hk with heq | hk
        · exact (hnew inner (Prod.mk.inj heq).2.symm).2
        · exact deep k inner hk

theorem isNested_nest {pairs : List (String × Json)}
    (hvalues : ∀ p ∈ pairs, p.2.members? = none) : IsNested (nest pairs) := by
  induction pairs using List.reverseRecOn with
  | nil => exact isNested_nil
  | append_singleton pairs pair ih =>
      obtain ⟨hpairs, hpair⟩ := List.forall_mem_append.mp hvalues
      rw [nest_concat]
      exact isNested_put (hpair pair (List.mem_singleton_self pair)) _ (ih hpairs)

theorem leads_iff_at? {path : List String} {members : Json.Members} (h : IsNested members)
    {value : Json} : Leads path members value ↔ at? path members = some value := by
  induction path generalizing members with
  | nil =>
      constructor
      · intro hleads
        cases hleads
      · intro hat
        cases hat
  | cons key rest ih =>
      obtain ⟨keys, -, deep⟩ := h
      have hmember {found : Json} : Json.member? key members = some found ↔
          (key, found) ∈ members := Sorted.lookup_eq_some_iff keys
      cases rest with
      | nil =>
          constructor
          · intro hleads
            cases hleads with
            | here hmem => exact hmember.mpr hmem
            | inside _ hpath => cases hpath
          · intro hat
            exact .here (hmember.mp hat)
      | cons next rest =>
          rw [at?_cons_cons]
          constructor
          · intro hleads
            cases hleads with
            | inside hmem hpath =>
                rw [hmember.mpr hmem]
                exact (ih (deep _ _ hmem)).mp hpath
          · intro hat
            cases hfound : Json.member? key members with
            | none => simp [hfound, membersIn, at?_nil] at hat
            | some found =>
                cases found with
                | object inner =>
                    have hmem := hmember.mp hfound
                    rw [hfound] at hat
                    exact .inside hmem ((ih (deep _ _ hmem)).mpr hat)
                | _ => simp [hfound, membersIn, at?_nil] at hat

theorem leads_iff_leaf? {path : List String} {members : Json.Members} (h : IsNested members)
    {value : Json} (hvalue : value.members? = none) :
    Leads path members value ↔ leaf? path members = some value := by
  rw [leads_iff_at? h, leaf?, Option.filter_eq_some_iff, hvalue]
  simp

theorem IsNested.exists_leads {members : Json.Members} (h : IsNested members)
    (hne : members ≠ []) : ∃ path value, value.members? = none ∧ Leads path members value := by
  induction h with
  | intro keys nonempty deep ih =>
      obtain ⟨⟨key, value⟩, rest, rfl⟩ := List.exists_cons_of_ne_nil hne
      have hmem := List.mem_cons_self (a := (key, value)) (l := rest)
      cases hvalue : value.members? with
      | none => exact ⟨[key], value, hvalue, .here hmem⟩
      | some inner =>
          obtain rfl : value = .object inner := by
            cases value with
            | object members => exact congrArg Json.object (Option.some.inj hvalue)
            | _ => cases hvalue
          obtain ⟨path, leaf, hleaf, hpath⟩ := ih key inner hmem (nonempty key inner hmem)
          exact ⟨key :: path, leaf, hleaf, .inside hmem hpath⟩

theorem leaf?_put_self {value : Json} (hvalue : value.members? = none) (key : String)
    (rest : List String) (members : Json.Members) :
    leaf? (key :: rest) (put value (key :: rest) members) = some value := by
  rw [leaf?, at?_put_self, Option.filter_some, hvalue, Option.isNone_none, if_pos rfl]

theorem at?_put_of_prefix {value : Json} (hvalue : value.members? = none) {path : List String}
    (hpath : path ≠ []) {more : List String} (hmore : more ≠ []) (members : Json.Members) :
    at? (path ++ more) (put value path members) = none := by
  induction path generalizing members with
  | nil => exact absurd rfl hpath
  | cons key rest ih =>
      obtain ⟨next, more, rfl⟩ := List.exists_cons_of_ne_nil hmore
      cases rest with
      | nil =>
          change at? (next :: more) (membersIn (Json.member? key
            (Json.insertMember key value members))) = none
          rw [member?_insertMember, if_pos rfl, membersIn_of_members?_eq_none hvalue, at?_nil]
      | cons second rest =>
          change at? (second :: rest ++ next :: more) (membersIn (Json.member? key
            (put value (key :: second :: rest) members))) = none
          rw [put_cons, member?_insertMember, if_pos rfl]
          exact ih (List.cons_ne_nil second rest) _

theorem exists_at?_put_eq_object (value : Json) {path : List String} (hpath : path ≠ [])
    {more : List String} (hmore : more ≠ []) (members : Json.Members) :
    ∃ inner, at? path (put value (path ++ more) members) = some (.object inner) := by
  induction path generalizing members with
  | nil => exact absurd rfl hpath
  | cons key rest ih =>
      obtain ⟨next, more, rfl⟩ := List.exists_cons_of_ne_nil hmore
      cases rest with
      | nil =>
          refine ⟨put value (next :: more) (membersIn (Json.member? key members)), ?_⟩
          change Json.member? key (put value (key :: next :: more) members) = _
          rw [put_cons, member?_insertMember, if_pos rfl]
          rfl
      | cons second rest =>
          rw [at?_cons_cons, List.cons_append, put_cons, member?_insertMember, if_pos rfl]
          exact ih (List.cons_ne_nil second rest) _

theorem leaf?_put_of_meets {value : Json} (hvalue : value.members? = none)
    {path other : List String} (hpath : path ≠ []) (hne : path ≠ other)
    (hmeets : other <+: path ∨ path <+: other) (members : Json.Members) :
    leaf? other (put value path members) = none := by
  rcases hmeets with ⟨more, rfl⟩ | ⟨more, rfl⟩
  · have hmore : more ≠ [] := by
      rintro rfl
      exact hne (List.append_nil other)
    cases other with
    | nil => rfl
    | cons key rest =>
        obtain ⟨inner, hinner⟩ := exists_at?_put_eq_object value (List.cons_ne_nil key rest) hmore
          members
        rw [leaf?, hinner]
        rfl
  · have hmore : more ≠ [] := by
      rintro rfl
      exact hne (List.append_nil path).symm
    rw [leaf?, at?_put_of_prefix hvalue hpath hmore]
    rfl

theorem meets_eq_true {path : List String} {pair : String × Json} :
    meets path pair = true ↔ path <+: segments pair.1 ∨ segments pair.1 <+: path := by
  rw [meets, Bool.or_eq_true, List.isPrefixOf_iff_prefix, List.isPrefixOf_iff_prefix]

/-- A path leads to a value if the last pair that meets it has this path and this value. -/
theorem leaf?_nest {pairs : List (String × Json)} (hvalues : ∀ p ∈ pairs, p.2.members? = none)
    (path : List String) :
    leaf? path (nest pairs) = (pairs.filter (meets path)).getLast?.bind fun pair =>
      if segments pair.1 = path then some pair.2 else none := by
  induction pairs using List.reverseRecOn with
  | nil => rw [leaf?, nest, List.foldl_nil, at?_nil]; rfl
  | append_singleton pairs pair ih =>
      obtain ⟨hpairs, hpair⟩ := List.forall_mem_append.mp hvalues
      have hvalue := hpair pair (List.mem_singleton_self pair)
      obtain ⟨key, rest, hsegments⟩ := exists_segments_eq_cons pair.1
      rw [nest_concat, List.filter_append, List.filter_singleton]
      -- the last pair decides on every path that it meets, and on no other
      cases hmeets : meets path pair with
      | false =>
          have hapart : Apart (segments pair.1) path := by
            have hnot := mt meets_eq_true.mpr (Bool.eq_false_iff.mp hmeets)
            exact ⟨fun h => hnot (Or.inr h), fun h => hnot (Or.inl h)⟩
          rw [cond_false, List.append_nil, leaf?, at?_put_of_apart _ hapart, ← leaf?]
          exact ih hpairs
      | true =>
          rw [cond_true, List.getLast?_concat, Option.bind_some]
          split_ifs with heq
          · rw [← heq, hsegments]
            exact leaf?_put_self hvalue key rest _
          · exact leaf?_put_of_meets hvalue (hsegments ▸ List.cons_ne_nil key rest) heq
              (meets_eq_true.mp hmeets) _

theorem filter_meets_eq {pairs : List (String × Json)} {path : String}
    (hapart : ∀ p ∈ pairs, p.1 ≠ path → Apart (segments p.1) (segments path)) :
    pairs.filter (meets (segments path)) = pairs.filter fun p => p.1 == path := by
  refine List.filter_congr fun p hp => ?_
  rw [Bool.eq_iff_iff, meets_eq_true, beq_iff_eq]
  constructor
  · intro hprefix
    by_contra hne
    exact hprefix.elim (hapart p hp hne).2 (hapart p hp hne).1
  · rintro rfl
    exact Or.inl (List.prefix_refl _)

theorem put_comm (value other : Json) {path path' : List String} (h : Apart path path')
    (members : Json.Members) :
    put value path (put other path' members) = put other path' (put value path members) := by
  induction path generalizing path' members with
  | nil => exact absurd List.nil_prefix h.1
  | cons key rest ih =>
      cases path' with
      | nil => exact absurd List.nil_prefix h.2
      | cons key' rest' =>
          rw [put_cons, put_cons, put_cons, put_cons, member?_insertMember, member?_insertMember]
          by_cases hkey : key = key'
          · subst hkey
            rw [if_pos rfl, if_pos rfl]
            cases rest with
            | nil => exact absurd (List.prefix_append [key] rest') h.1
            | cons next rest =>
                cases rest' with
                | nil => exact absurd (List.prefix_append [key] (next :: rest)) h.2
                | cons next' rest' =>
                    have hinner := ih h.tail (membersIn (Json.member? key members))
                    rw [Json.insertMember, Json.insertMember, Json.insertMember, Json.insertMember,
                      Sorted.insert_insert_self, Sorted.insert_insert_self]
                    exact congrArg (fun inner =>
                      Sorted.insert Order.texts key (Json.object inner) members) hinner
          · rw [if_neg hkey, if_neg (Ne.symm hkey)]
            exact Sorted.insert_comm (fun heq => hkey (LawfulEqCmp.eq_of_compare heq)) _ _ members

section Folds

variable {α β κ : Type} (step : β → α → β)

theorem foldl_of_comm {a : α} {front : List α}
    (hcomm : ∀ b ∈ front, ∀ s, step (step s b) a = step (step s a) b) (start : β) :
    step (front.foldl step start) a = front.foldl step (step start a) := by
  induction front generalizing start with
  | nil => rfl
  | cons b front ih =>
      obtain ⟨hb, hfront⟩ := List.forall_mem_cons.mp hcomm
      rw [List.foldl_cons, List.foldl_cons, ih hfront, hb]

variable [BEq κ] [LawfulBEq κ] {key : α → κ} {xs ys : List α}

theorem mem_of_filter_eq (h : ∀ k, ys.filter (fun a => key a == k) = xs.filter fun a => key a == k)
    {b : α} (hb : b ∈ ys) : b ∈ xs := by
  have hmem : b ∈ xs.filter fun c => key c == key b := by
    rw [← h (key b)]
    simpa using hb
  exact (List.mem_filter.mp hmem).1

/-- A fold in which only elements of one key depend on their order gives the same for every list
with the same elements of each key in the same order. -/
theorem foldl_eq_of_filter_eq
    (hcomm : ∀ a ∈ xs, ∀ b ∈ xs, key a ≠ key b → ∀ s, step (step s a) b = step (step s b) a)
    (h : ∀ k, ys.filter (fun a => key a == k) = xs.filter fun a => key a == k) (start : β) :
    ys.foldl step start = xs.foldl step start := by
  induction xs generalizing ys start with
  | nil =>
      have hnil : ys = [] := List.eq_nil_iff_forall_not_mem.mpr fun b hb =>
        List.not_mem_nil (mem_of_filter_eq h hb)
      rw [hnil]
  | cons a xs ih =>
      have hkey := (h (key a)).trans (List.filter_cons_of_pos (by simp))
      obtain ⟨front, back, rfl, hfront, -, hback⟩ := List.filter_eq_cons_iff.mp hkey
      have hother : ∀ b ∈ front, key b ≠ key a := by simpa using hfront
      -- the first element of its key in the other list is taken before those in front of it
      have hfirst : step (front.foldl step start) a = front.foldl step (step start a) := by
        refine foldl_of_comm step (fun b hb => ?_) start
        have hb' := mem_of_filter_eq h (List.mem_append_left (a :: back) hb)
        exact hcomm b hb' a (List.mem_cons_self ..) (hother b hb)
      have hrest : ∀ k, (front ++ back).filter (fun b => key b == k) =
          xs.filter fun b => key b == k := by
        intro k
        have hk := h k
        rw [List.filter_append] at hk ⊢
        by_cases heq : key a = k
        · have hnone : front.filter (fun b => key b == k) = [] := by
            simpa [List.filter_eq_nil_iff, ← heq] using hother
          rw [hnone, List.nil_append, ← heq, hback]
        · rw [List.filter_cons_of_neg (by simpa using heq),
            List.filter_cons_of_neg (by simpa using heq)] at hk
          exact hk
      rw [List.foldl_append, List.foldl_cons, hfirst, ← List.foldl_append, List.foldl_cons]
      refine ih (fun b hb c hc => ?_) hrest (step start a)
      exact hcomm b (List.mem_cons_of_mem a hb) c (List.mem_cons_of_mem a hc)

end Folds

theorem IsNested.of_leads {path : List String} {members inner : Json.Members}
    (h : IsNested members) (hleads : Leads path members (.object inner)) :
    inner ≠ [] ∧ IsNested inner := by
  induction path generalizing members with
  | nil => cases hleads
  | cons key rest ih =>
      obtain ⟨-, nonempty, deep⟩ := h
      cases hleads with
      | here hmem => exact ⟨nonempty key inner hmem, deep key inner hmem⟩
      | inside hmem hpath => exact ih (deep key _ hmem) hpath

/-- In nested objects a path leads to a value exactly if the last of the pairs that meet it has this
path and this value, and every object on the way leads to a value. Where no path leads on from
another one, the last value of every path is found, and values of different paths may be put in any
order. -/
theorem leads_nest_iff (pairs : List (String × Json))
    (hvalues : ∀ p ∈ pairs, p.2.members? = none) :
    (∀ path value, value.members? = none → (Leads path (nest pairs) value ↔
      ∃ pair, (pairs.filter (meets path)).getLast? = some pair ∧ segments pair.1 = path ∧
        pair.2 = value)) ∧
    (∀ path inner, Leads path (nest pairs) (.object inner) →
      ∃ rest value, value.members? = none ∧ Leads rest inner value) ∧
    ((∀ p ∈ pairs, ∀ q ∈ pairs, p.1 ≠ q.1 → Apart (segments p.1) (segments q.1)) →
      (∀ path pair, (pairs.filter fun p => p.1 == path).getLast? = some pair →
        Leads (segments path) (nest pairs) pair.2) ∧
      ∀ pairs' : List (String × Json),
        (∀ path, (pairs'.filter fun p => p.1 == path) = pairs.filter fun p => p.1 == path) →
          nest pairs' = nest pairs) := by
  have hnested := isNested_nest hvalues
  have hleads : ∀ path value, value.members? = none → (Leads path (nest pairs) value ↔
      ∃ pair, (pairs.filter (meets path)).getLast? = some pair ∧ segments pair.1 = path ∧
        pair.2 = value) := by
    intro path value hvalue
    rw [leads_iff_leaf? hnested hvalue, leaf?_nest hvalues, Option.bind_eq_some_iff]
    simp only [ite_eq_iff, Option.some.injEq, reduceCtorEq, and_false, or_false]
  refine ⟨hleads, fun path inner hinner => ?_, fun hapart => ⟨fun path pair hpair => ?_,
    fun pairs' hsame => ?_⟩⟩
  · obtain ⟨hne, hdeep⟩ := hnested.of_leads hinner
    exact hdeep.exists_leads hne
  · have hmem := List.mem_filter.mp (List.mem_of_getLast? hpair)
    obtain rfl : pair.1 = path := by simpa using hmem.2
    refine (hleads _ _ (hvalues pair hmem.1)).mpr ⟨pair, ?_, rfl, rfl⟩
    rw [filter_meets_eq fun p hp => hapart p hp pair hmem.1, hpair]
  · refine foldl_eq_of_filter_eq _ (fun p hp q hq hne members => ?_) hsame []
    exact put_comm q.2 p.2 (hapart q hq p hp (Ne.symm hne)) members

/-- A value below which another one was put and that is put again, and one that is lost; and the
values of apart paths in two orders, one of the paths with an empty key. -/
theorem leads_nest_of_conflicts :
    let conflicts : List (String × Json) :=
      [("a.b", .int 1), ("c", .null), ("a", .int 2), ("c.d", .int 3), ("a.e", .int 4)]
    let apart : List (String × Json) := [("a.b", .int 1), ("c..d", .null), ("a.b", .int 2)]
    (∀ p ∈ conflicts, p.2.members? = none) ∧ Leads ["a", "e"] (nest conflicts) (.int 4) ∧
      ¬Leads ["a", "b"] (nest conflicts) (.int 1) ∧ ¬Leads ["c"] (nest conflicts) .null ∧
      Leads ["a", "b"] (nest apart) (.int 2) ∧
      nest [("c..d", .null), ("a.b", .int 1), ("a.b", .int 2)] = nest apart := by
  intro conflicts apart
  have hconflicts : ∀ p ∈ conflicts, p.2.members? = none := by simp [conflicts, Json.members?]
  have hvalues : ∀ p ∈ apart, p.2.members? = none := by simp [apart, Json.members?]
  obtain ⟨hleads, -, -⟩ := leads_nest_iff conflicts hconflicts
  have hnot (path : List String) (value : Json) (hvalue : value.members? = none)
      (pair : String × Json) (hlast : (conflicts.filter (meets path)).getLast? = some pair)
      (hpath : segments pair.1 ≠ path) : ¬Leads path (nest conflicts) value := by
    intro h
    obtain ⟨pair', hlast', hpath', -⟩ := (hleads path value hvalue).mp h
    obtain rfl := Option.some.inj (hlast.symm.trans hlast')
    exact hpath hpath'
  have hunder : ∀ p ∈ apart, ∀ q ∈ apart, p.1 ≠ q.1 →
      FieldCatalog.isUnder p.1 q.1 = false ∧ FieldCatalog.isUnder q.1 p.1 = false := by decide
  obtain ⟨hlasts, hfree⟩ := (leads_nest_iff apart hvalues).2.2 fun p hp q hq hne =>
    apart_segments hne (hunder p hp q hq hne).1 (hunder p hp q hq hne).2
  refine ⟨hconflicts, (hleads _ _ rfl).mpr ⟨("a.e", .int 4), rfl, by decide, rfl⟩,
    hnot _ _ rfl ("a", .int 2) rfl (by decide), hnot _ _ rfl ("c.d", .int 3) rfl (by decide),
    hlasts "a.b" ("a.b", .int 2) rfl, hfree _ fun path => ?_⟩
  rcases eq_or_ne path "c..d" with rfl | hne
  · rfl
  · simp [apart, List.filter_cons, hne.symm]

end CrawlAudit.Nesting
