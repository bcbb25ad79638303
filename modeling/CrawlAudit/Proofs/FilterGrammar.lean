import CrawlAudit.Proofs.FilterTrees
import CrawlAudit.Proofs.OrderedDocuments
import CrawlAudit.Proofs.PredicateNames

/-!
# The grammar of filters

Which documents are filters is stated on its own, by the members of tests and by the operators and
lists around them. Reading succeeds exactly on these documents and reports every other one as a
malformed filter. The pattern of each test by pattern has been read when a filter has.
-/

namespace CrawlAudit

open Std

namespace Json

/-- The value under a name in any case: that of the member with the least key among those whose
keys are the name in some case. -/
def HasMember (name : String) (members : Members) (value : Json) : Prop :=
  ∃ key, (key, value) ∈ members ∧ Predicate.foldCase key = name ∧
    ∀ m ∈ members, Predicate.foldCase m.1 = name → (Order.texts key m.1).isLE

def LacksMember (name : String) (members : Members) : Prop :=
  ∀ m ∈ members, Predicate.foldCase m.1 ≠ name

/-- The predicate of a test is a name that stands for a predicate. -/
def HasPredicate (members : Members) (p : Predicate) : Prop :=
  ∃ name, HasMember "predicate" members (.text name) ∧ Lowercase.text name = p.name

/-- The members of a test. The value of a test by pattern is a pattern of the language. -/
structure IsTest (patterns : PatternLanguage) (members : Members) : Prop where
  field : ∃ s, HasMember "field" members (.text s)
  value : ∃ v, HasMember "value" members v
  predicate : LacksMember "predicate" members ∨ HasMember "predicate" members .null ∨
    ∃ p, HasPredicate members p
  negation : LacksMember "not" members ∨ HasMember "not" members .null ∨
    ∃ b, HasMember "not" members (.bool b)
  pattern : HasPredicate members .re →
    ∃ s, HasMember "value" members (.text s) ∧ (patterns s).isSome

/-- The documents that are filters. A test has two members or more, so that no object is of both
forms. -/
inductive IsFilter (patterns : PatternLanguage) : Json → Prop where
  | joined {key : String} {items : List Json}
      (hkey : Predicate.foldCase key = "and" ∨ Predicate.foldCase key = "or")
      (hitems : ∀ item ∈ items, IsFilter patterns item) :
      IsFilter patterns (.object [(key, .array items)])
  | test {members : Members} (h : IsTest patterns members) : IsFilter patterns (.object members)
  | list {items : List Json} (hne : items ≠ []) (hitems : ∀ item ∈ items, IsFilter patterns item) :
      IsFilter patterns (.array items)

variable {patterns : PatternLanguage} {name : String} {members : Members} {value value' : Json}

theorem hasMember_of_find? (hkeys : Sorted.IsSorted Order.texts members)
    (h : FilterLeaf.find? name members = some value) : HasMember name members value := by
  obtain ⟨m, hfound, rfl⟩ := Option.map_eq_some_iff.mp h
  obtain ⟨hname, before, after, rfl, hbefore⟩ := List.find?_eq_some_iff_append.mp hfound
  refine ⟨m.1, by simp, eq_of_beq hname, fun m' hm' hname' => ?_⟩
  rcases List.mem_append.mp hm' with hm' | hm'
  · have hfalse := hbefore m' hm'
    simp [hname'] at hfalse
  · rcases List.mem_cons.mp hm' with rfl | hm'
    · exact ReflCmp.isLE_rfl
    · have hlater := (List.pairwise_cons.mp (List.pairwise_append.mp hkeys).2.1).1
      rw [hlater m' hm']
      rfl

theorem HasMember.unique (hkeys : Sorted.IsSorted Order.texts members)
    (h : HasMember name members value) (h' : HasMember name members value') : value = value' := by
  obtain ⟨key, hmem, hname, hleast⟩ := h
  obtain ⟨key', hmem', hname', hleast'⟩ := h'
  have heq : key = key' :=
    LawfulEqCmp.eq_of_compare (OrientedCmp.isLE_antisymm (hleast _ hmem' hname')
      (hleast' _ hmem hname))
  subst heq
  have hfound := (Sorted.find?_eq_some_iff hkeys key value).mpr hmem
  exact Option.some.inj (hfound.symm.trans ((Sorted.find?_eq_some_iff hkeys key value').mpr hmem'))

theorem find?_eq_none_iff : FilterLeaf.find? name members = none ↔ LacksMember name members := by
  rw [FilterLeaf.find?, Option.map_eq_none_iff, List.find?_eq_none, LacksMember]
  simp only [beq_iff_eq]

theorem find?_eq_some_iff (hkeys : Sorted.IsSorted Order.texts members) :
    FilterLeaf.find? name members = some value ↔ HasMember name members value := by
  refine ⟨hasMember_of_find? hkeys, fun h => ?_⟩
  cases hfound : FilterLeaf.find? name members with
  | none =>
      obtain ⟨key, hmem, hname, -⟩ := h
      have hne := find?_eq_none_iff.mp hfound (key, value) hmem
      exact absurd hname hne
  | some value' => rw [h.unique hkeys (hasMember_of_find? hkeys hfound)]

theorem hasPredicate_iff (hkeys : Sorted.IsSorted Order.texts members) {p : Predicate} :
    HasPredicate members p ↔
      ∃ name, FilterLeaf.find? "predicate" members = some (.text name) ∧
        Predicate.ofName? name = some p := by
  simp only [HasPredicate, ← find?_eq_some_iff hkeys, Predicate.ofName?_eq_some_iff]

theorem isFilter_array {items : List Json} :
    IsFilter patterns (.array items) ↔ items ≠ [] ∧ ∀ item ∈ items, IsFilter patterns item := by
  constructor
  · intro h
    cases h with
    | list hne hitems => exact ⟨hne, hitems⟩
  · rintro ⟨hne, hitems⟩
    exact .list hne hitems

theorem IsScalar.not_isFilter {document : Json} (h : document.IsScalar) :
    ¬document.IsFilter patterns := by
  intro hfilter
  cases hfilter with
  | joined => cases h.2
  | test => cases h.2
  | list => cases h.1

theorem not_isTest_singleton (m : String × Json) : ¬IsTest patterns [m] := by
  intro h
  obtain ⟨s, key, hmem, hname, -⟩ := h.field
  obtain ⟨v, key', hmem', hname', -⟩ := h.value
  rw [List.mem_singleton] at hmem hmem'
  have hkeys : key = key' := by rw [← hmem'] at hmem; exact congrArg Prod.fst hmem
  rw [← hkeys, hname] at hname'
  exact absurd hname' (by decide)

theorem isSome_ofKey?_iff {key : String} :
    (Operator.ofKey? key).isSome ↔
      Predicate.foldCase key = "and" ∨ Predicate.foldCase key = "or" := by
  simp [Operator.ofKey?, List.find?_isSome, Operator.name]

theorem isFilter_singleton {key : String} {value : Json} :
    IsFilter patterns (.object [(key, value)]) ↔
      (Operator.ofKey? key).isSome ∧
        ∃ items, value = .array items ∧ ∀ item ∈ items, IsFilter patterns item := by
  rw [isSome_ofKey?_iff]
  constructor
  · intro h
    cases h with
    | joined hkey hitems => exact ⟨hkey, _, rfl, hitems⟩
    | test h => exact absurd h (not_isTest_singleton _)
  · rintro ⟨hkey, items, rfl, hitems⟩
    exact .joined hkey hitems

theorem isFilter_object (hne : ∀ m, members ≠ [m]) :
    IsFilter patterns (.object members) ↔ IsTest patterns members := by
  constructor
  · intro h
    cases h with
    | joined => exact absurd rfl (hne _)
    | test h => exact h
  · exact .test

end Json

/-- A reading that succeeds exactly where a condition holds, with a result that has a property, and
reports a malformed filter elsewhere. -/
structure ReadsExactly {α : Type} (condition : Prop) (property : α → Prop)
    (reading : Except Fault α) : Prop where
  ok : condition → ∃ a, reading = .ok a ∧ property a
  error : ¬condition → ∃ fault, reading = .error (.malformedFilter fault)

namespace ReadsExactly

variable {α β : Type} {condition condition' : Prop} {property : α → Prop} {property' : β → Prop}
variable {reading : Except Fault α}

theorem of_ok {a : α} (hcondition : condition) (ha : property a) :
    ReadsExactly condition property (.ok a) :=
  ⟨fun _ => ⟨a, rfl, ha⟩, fun h => absurd hcondition h⟩

theorem of_error {fault : FilterFault} (hcondition : ¬condition) :
    ReadsExactly condition property (.error (.malformedFilter fault)) :=
  ⟨fun h => absurd h hcondition, fun _ => ⟨fault, rfl⟩⟩

theorem congr (h : ReadsExactly condition property reading) (hcondition : condition' ↔ condition) :
    ReadsExactly condition' property reading := by
  rwa [propext hcondition]

theorem bind {next : α → Except Fault β} (h : ReadsExactly condition property reading)
    (hnext : ∀ a, property a → ReadsExactly condition' property' (next a)) :
    ReadsExactly (condition ∧ condition') property' (reading >>= next) := by
  by_cases hcondition : condition
  · obtain ⟨a, rfl, ha⟩ := h.ok hcondition
    exact (hnext a ha).congr (and_iff_right hcondition)
  · obtain ⟨fault, rfl⟩ := h.error hcondition
    exact of_error fun h => hcondition h.1

theorem bind_pure {f : α → β} (h : ReadsExactly condition property reading)
    (hproperty : ∀ a, property a → property' (f a)) :
    ReadsExactly condition property' (reading >>= fun a => pure (f a)) := by
  by_cases hcondition : condition
  · obtain ⟨a, rfl, ha⟩ := h.ok hcondition
    exact of_ok hcondition (hproperty a ha)
  · obtain ⟨fault, rfl⟩ := h.error hcondition
    exact of_error hcondition

theorem of_eq_ok {a : α} (h : ReadsExactly condition property reading) (ha : reading = .ok a) :
    condition ∧ property a := by
  by_cases hcondition : condition
  · obtain ⟨a', ha', hproperty⟩ := h.ok hcondition
    cases ha'.symm.trans ha
    exact ⟨hcondition, hproperty⟩
  · obtain ⟨fault, hfault⟩ := h.error hcondition
    cases hfault.symm.trans ha

theorem exists_ok_iff (h : ReadsExactly condition property reading) :
    (∃ a, reading = .ok a) ↔ condition := by
  constructor
  · rintro ⟨a, ha⟩
    exact (h.of_eq_ok ha).1
  · intro hcondition
    obtain ⟨a, ha, -⟩ := h.ok hcondition
    exact ⟨a, ha⟩

end ReadsExactly

/-- A test by pattern has the pattern that its value stands for, and no other test has one. -/
def FilterLeaf.IsCompiled (patterns : PatternLanguage) (test : FilterLeaf) : Prop :=
  (test.predicate = .re →
    ∃ s isFound, test.value = .text s ∧ patterns s = some isFound ∧
      test.pattern = some isFound) ∧
  (test.predicate ≠ .re → test.pattern = none)

def FilterNode.IsCompiled (patterns : PatternLanguage) (node : FilterNode) : Prop :=
  ∀ test, node.HasTest test → test.IsCompiled patterns

namespace FilterLeaf

open Json

variable {patterns : PatternLanguage} {members : Json.Members}

theorem reads_field (hkeys : Sorted.IsSorted Order.texts members) :
    ReadsExactly (∃ s, HasMember "field" members (.text s)) (fun _ => True)
      (readField members) := by
  simp only [← find?_eq_some_iff hkeys]
  rw [readField]
  cases hfound : find? "field" members with
  | none => exact .of_error (by simp)
  | some value =>
      cases value with
      | text s => exact .of_ok ⟨s, rfl⟩ trivial
      | _ => exact .of_error (by simp)

theorem reads_value (hkeys : Sorted.IsSorted Order.texts members) :
    ReadsExactly (∃ v, HasMember "value" members v) (HasMember "value" members)
      (readValue members) := by
  simp only [← find?_eq_some_iff hkeys]
  rw [readValue]
  cases hfound : find? "value" members with
  | none => exact .of_error (by simp)
  | some value => exact .of_ok ⟨value, rfl⟩ ((find?_eq_some_iff hkeys).mp hfound)

theorem reads_predicate (hkeys : Sorted.IsSorted Order.texts members) (value : Json) :
    ReadsExactly
      (LacksMember "predicate" members ∨ HasMember "predicate" members .null ∨
        ∃ p, HasPredicate members p)
      (fun p => p = .re ↔ HasPredicate members .re)
      (readPredicate value (find? "predicate" members)) := by
  simp only [hasPredicate_iff hkeys, ← find?_eq_some_iff hkeys, ← find?_eq_none_iff]
  have hdefault : (if value.items?.isSome then Predicate.among else .eq) ≠ .re := by
    split <;> decide
  rcases hfound : find? "predicate" members with _ | found
  · exact .of_ok (by simp) (by simp [hdefault])
  · cases found with
    | null => exact .of_ok (by simp) (by simp [hdefault])
    | text name =>
        simp only [readPredicate, Predicate.ofName]
        cases hname : Predicate.ofName? name with
        | none => exact .of_error (by simp [hname])
        | some p => exact .of_ok (by simp [hname]) (by simp [hname])
    | _ => exact .of_error (by simp)

theorem reads_negation (hkeys : Sorted.IsSorted Order.texts members) :
    ReadsExactly
      (LacksMember "not" members ∨ HasMember "not" members .null ∨
        ∃ b, HasMember "not" members (.bool b))
      (fun _ => True) (readNegation (find? "not" members)) := by
  simp only [← find?_eq_some_iff hkeys, ← find?_eq_none_iff]
  rcases find? "not" members with _ | found
  · exact .of_ok (by simp) trivial
  · cases found with
    | null => exact .of_ok (by simp) trivial
    | bool b => exact .of_ok (by simp) trivial
    | _ => exact .of_error (by simp)

theorem text?_ofJson_eq_some_iff {document : Json} {s : String} :
    (Cell.ofJson document).text? = some s ↔ document = .text s := by
  cases document with
  | int n =>
      rw [Cell.ofJson]
      split <;> simp [Cell.text?]
  | _ => simp [Cell.ofJson, Cell.text?]

theorem reads_pattern (hkeys : Sorted.IsSorted Order.texts members) {raw : Json} {p : Predicate}
    (hraw : HasMember "value" members raw) (hp : p = .re ↔ HasPredicate members .re) :
    ReadsExactly
      (HasPredicate members .re →
        ∃ s, HasMember "value" members (.text s) ∧ (patterns s).isSome)
      (fun pattern => ∀ field negate,
        IsCompiled patterns ⟨field, p, Cell.ofJson raw, negate, pattern⟩)
      (readPattern patterns p (Cell.ofJson raw)) := by
  rw [← hp, readPattern]
  by_cases hre : p = .re
  · rw [if_pos hre]
    cases htext : (Cell.ofJson raw).text? with
    | none =>
        refine .of_error fun h => ?_
        obtain ⟨s, hs, -⟩ := h hre
        rw [text?_ofJson_eq_some_iff.mpr (hraw.unique hkeys hs)] at htext
        cases htext
    | some s =>
        obtain rfl := text?_ofJson_eq_some_iff.mp htext
        dsimp only
        cases hread : patterns s with
        | none =>
            refine .of_error fun h => ?_
            obtain ⟨t, ht, hsome⟩ := h hre
            cases hraw.unique hkeys ht
            rw [hread] at hsome
            cases hsome
        | some pattern =>
            refine .of_ok (fun _ => ⟨s, hraw, by rw [hread]; rfl⟩) fun field negate => ?_
            exact ⟨fun _ => ⟨s, pattern, by rw [Cell.ofJson], hread, rfl⟩, fun h => absurd hre h⟩
  · rw [if_neg hre]
    exact .of_ok (fun h => absurd h hre) fun _ _ => ⟨fun h => absurd h hre, fun _ => rfl⟩

/-- The members of a test, and no others, are read as a test. -/
theorem reads_test (hkeys : Sorted.IsSorted Order.texts members) :
    ReadsExactly (IsTest patterns members) (IsCompiled patterns) (read patterns members) := by
  refine ((reads_field hkeys).bind fun field _ => (reads_value hkeys).bind fun raw hraw =>
    (reads_predicate hkeys raw).bind fun p hp => (reads_negation hkeys).bind fun negate _ =>
    (reads_pattern hkeys hraw hp).bind_pure fun pattern hpattern => ?_).congr ?_
  · exact hpattern field negate
  · constructor
    · rintro ⟨hfield, hvalue, hpredicate, hnegation, hpattern⟩
      exact ⟨hfield, hvalue, hpredicate, hnegation, hpattern⟩
    · rintro ⟨hfield, hvalue, hpredicate, hnegation, hpattern⟩
      exact ⟨hfield, hvalue, hpredicate, hnegation, hpattern⟩

end FilterLeaf

namespace FilterNode

open Json

/-- A document is read as far as its outermost operator where it is a filter. -/
def ReadsHead (patterns : PatternLanguage) (document : Json) : Prop :=
  ReadsExactly (document.IsFilter patterns) (fun head => head.node.IsCompiled patterns)
    (readHead patterns document)

variable {patterns : PatternLanguage}

theorem isCompiled_leaf {test : FilterLeaf} :
    (leaf test).IsCompiled patterns ↔ test.IsCompiled patterns := by
  constructor
  · intro h
    exact h test .leaf
  · intro h test' htest'
    rw [hasTest_leaf.mp htest']
    exact h

theorem isCompiled_join {op : Operator} {children : List FilterNode} :
    (op.join children).IsCompiled patterns ↔ ∀ child ∈ children, child.IsCompiled patterns := by
  constructor
  · intro h child hchild test htest
    exact h test (hasTest_join.mpr ⟨child, hchild, htest⟩)
  · intro h test htest
    obtain ⟨child, hchild, hchildTest⟩ := hasTest_join.mp htest
    exact h child hchild test hchildTest

theorem isCompiled_extend {head : FilterHead} {others : List FilterNode}
    (hhead : head.node.IsCompiled patterns) (hothers : ∀ node ∈ others, node.IsCompiled patterns) :
    (head.extend others).IsCompiled patterns := by
  cases head with
  | joined op children =>
      refine isCompiled_join.mpr fun child hchild => ?_
      rcases List.mem_append.mp hchild with hchild | hchild
      · exact isCompiled_join.mp hhead child hchild
      · exact hothers child hchild
  | single node =>
      have hjoined : (Operator.disjunction.join (node :: others)).IsCompiled patterns :=
        isCompiled_join.mpr (List.forall_mem_cons.mpr ⟨hhead, hothers⟩)
      exact hjoined

theorem reads_all {items : List Json} (h : ∀ item ∈ items, ReadsHead patterns item) :
    ReadsExactly (∀ item ∈ items, item.IsFilter patterns)
      (fun nodes => ∀ node ∈ nodes, node.IsCompiled patterns) (readAll patterns items) := by
  induction items with
  | nil =>
      rw [readAll]
      exact .of_ok (List.forall_mem_nil _) (List.forall_mem_nil _)
  | cons item items ih =>
      obtain ⟨hitem, hitems⟩ := List.forall_mem_cons.mp h
      rw [readAll, List.forall_mem_cons]
      refine hitem.bind fun head hhead => (ih hitems).bind_pure fun nodes hnodes => ?_
      exact List.forall_mem_cons.mpr ⟨hhead, hnodes⟩

theorem reads_list {items : List Json} (h : ∀ item ∈ items, ReadsHead patterns item) :
    ReadsExactly (items ≠ [] ∧ ∀ item ∈ items, item.IsFilter patterns)
      (fun head => head.node.IsCompiled patterns) (readList patterns items) := by
  cases items with
  | nil =>
      rw [readList]
      exact .of_error fun h => h.1 rfl
  | cons first rest =>
      obtain ⟨hfirst, hrest⟩ := List.forall_mem_cons.mp h
      -- the first element is read after the others
      rw [readList, and_iff_right (List.cons_ne_nil first rest), List.forall_mem_cons, and_comm]
      refine (reads_all hrest).bind fun others hothers => hfirst.bind_pure fun head hhead => ?_
      exact isCompiled_extend hhead hothers

theorem reads_leaf {members : Members} (hkeys : Sorted.IsSorted Order.texts members) :
    ReadsExactly (IsTest patterns members) (fun head => head.node.IsCompiled patterns) (do
      let test ← FilterLeaf.read patterns members
      return FilterHead.single (.leaf test)) :=
  (FilterLeaf.reads_test hkeys).bind_pure fun _ htest => isCompiled_leaf.mpr htest

theorem reads_member {key : String} {value : Json}
    (h : ∀ items, value = .array items → ∀ item ∈ items, ReadsHead patterns item) :
    ReadsExactly (IsFilter patterns (.object [(key, value)]))
      (fun head => head.node.IsCompiled patterns) (readMember patterns (key, value)) := by
  rw [isFilter_singleton, readMember]
  cases Operator.ofKey? key with
  | none =>
      refine (reads_leaf (List.pairwise_singleton _ _)).congr ?_
      exact iff_of_false (by simp) (not_isTest_singleton _)
  | some op =>
      cases value with
      | array items =>
          have hoperands : readOperands patterns op (.array items) = readAll patterns items := by
            rw [readOperands]
          rw [Option.isSome_some, and_iff_right rfl]
          dsimp only
          rw [hoperands]
          refine ((reads_all (h items rfl)).bind_pure fun children hchildren => ?_).congr (by simp)
          exact isCompiled_join.mpr hchildren
      | _ => exact .of_error (by simp)

theorem readsHead_of_isScalar {document : Json} (h : document.IsScalar) :
    ReadsHead patterns document := by
  have hread : ∃ fault, readHead patterns document = .error (.malformedFilter fault) := by
    cases document with
    | array => cases h.1
    | object => cases h.2
    | _ =>
        rw [readHead]
        · exact ⟨_, rfl⟩
        all_goals
          intro _ hshape
          cases hshape
  obtain ⟨fault, hfault⟩ := hread
  rw [ReadsHead, hfault]
  exact .of_error h.not_isFilter

theorem readsHead_object {members : Members} (hkeys : Sorted.IsSorted Order.texts members)
    (h : ∀ m ∈ members, ∀ items, m.2 = .array items → ∀ item ∈ items, ReadsHead patterns item) :
    ReadsHead patterns (.object members) := by
  rw [ReadsHead, readHead]
  by_cases hone : ∃ m, members = [m]
  · obtain ⟨⟨key, value⟩, rfl⟩ := hone
    rw [readObject]
    exact reads_member (h _ (List.mem_singleton_self _))
  · have hne : ∀ m, members ≠ [m] := not_exists.mp hone
    rw [isFilter_object hne, readObject.eq_2 patterns members hne]
    exact reads_leaf hkeys

theorem readsHead_of_isOrdered {document : Json} (h : document.IsOrdered) :
    ReadsHead patterns document ∧
      ∀ items, document = .array items → ∀ item ∈ items, ReadsHead patterns item := by
  -- an operator reads the elements of the list in its one member, so the hypothesis must say of a
  -- list what holds of its elements
  induction h with
  | scalar h =>
      refine ⟨readsHead_of_isScalar h, ?_⟩
      rintro items rfl
      cases h.1
  | array h ih =>
      have hitems := fun item hitem => (ih item hitem).1
      refine ⟨?_, ?_⟩
      · rw [ReadsHead, isFilter_array, readHead]
        exact reads_list hitems
      · rintro _ ⟨⟩
        exact hitems
  | object hkeys h ih =>
      refine ⟨readsHead_object hkeys fun m hm => (ih m hm).2, ?_⟩
      rintro _ ⟨⟩

/-- A document without repeated keys, whose keys stand in order, is read as a filter where it is
one, and as a malformed filter elsewhere, whatever the patterns are. In a filter that has been read
each test by pattern has its pattern, at any depth. -/
theorem read_exactly (patterns : PatternLanguage) {document : Json} (h : document.IsOrdered) :
    ((∃ node, read patterns document = .ok node) ↔ document.IsFilter patterns) ∧
      (¬document.IsFilter patterns →
        ∃ fault, read patterns document = .error (.malformedFilter fault)) ∧
      ∀ node, read patterns document = .ok node →
        ∀ test, node.HasTest test → test.IsCompiled patterns := by
  have hread : ReadsExactly (document.IsFilter patterns) (IsCompiled patterns)
      (read patterns document) := by
    rw [read]
    exact (readsHead_of_isOrdered h).1.bind_pure fun _ h => h
  exact ⟨hread.exists_ok_iff, hread.error, fun node hnode => (hread.of_eq_ok hnode).2⟩

/-- A list that an operator in capital letters leads, with a test whose keys collide, and the same
with a pattern that is none. -/
theorem read_exactly_of_pattern_in_list :
    let listWith (pattern : String) : Json := .array [
      .object [("OR", .array [.object [("Predicate", .text "Re"), ("VALUE", .text pattern),
        ("field", .text "url"), ("value", .null)]])],
      .object [("and", .array [])]]
    let text (pattern : String) : String :=
      "[\x7b\"OR\": [\x7b\"field\": \"url\", \"value\": null, \"VALUE\": \"" ++ pattern ++
        "\", \"Predicate\": \"Re\"\x7d]\x7d, \x7b\"and\": []\x7d]"
    Json.read? (text "^a") = some (listWith "^a") ∧ Json.read? (text "(a") = some (listWith "(a") ∧
      (listWith "^a").IsFilter Pattern.language ∧ ¬(listWith "(a").IsFilter Pattern.language ∧
      (∃ isFound, Pattern.language "^a" = some isFound ∧ isFound "ab" ∧ ¬isFound "ba" ∧
        read Pattern.language (listWith "^a") =
          .ok (.any [.leaf ⟨"url", .re, .text "^a", false, some isFound⟩, .all []])) ∧
      ∃ fault, read Pattern.language (listWith "(a") = .error (.malformedFilter fault) := by
  intro listWith text
  have hgood : Json.read? (text "^a") = some (listWith "^a") := by decide +kernel
  have hbad : Json.read? (text "(a") = some (listWith "(a") := by decide +kernel
  obtain ⟨isFound, hpattern⟩ :=
    Option.isSome_iff_exists.mp (by decide +kernel : (Pattern.language "^a").isSome = true)
  have hnone : Pattern.language "(a" = none :=
    Option.isNone_iff_eq_none.mp (by decide +kernel)
  have hfound : (Pattern.language "^a").map (fun found => (found "ab", found "ba")) =
      some (true, false) := by
    decide +kernel
  rw [hpattern, Option.map_some, Option.some.injEq, Prod.mk.injEq] at hfound
  -- the reading up to the pattern, which is the same for both texts
  have hread (pattern : String) : read Pattern.language (listWith pattern) =
      (FilterLeaf.readPattern Pattern.language .re (.text pattern)).map fun found =>
        .any [.leaf ⟨"url", .re, .text pattern, false, found⟩, .all []] := by
    let members : Json.Members := [("Predicate", .text "Re"), ("VALUE", .text pattern),
      ("field", .text "url"), ("value", .null)]
    obtain ⟨hpredicate, hvalue, hfield, hlower⟩ : Predicate.foldCase "Predicate" = "predicate" ∧
        Predicate.foldCase "VALUE" = "value" ∧ Predicate.foldCase "field" = "field" ∧
          Predicate.foldCase "value" = "value" := by
      decide +kernel
    have hname : Predicate.ofName? "Re" = some .re := by decide +kernel
    have hfields : FilterLeaf.find? "field" members = some (.text "url") ∧
        FilterLeaf.find? "value" members = some (.text pattern) ∧
        FilterLeaf.find? "predicate" members = some (.text "Re") ∧
        FilterLeaf.find? "not" members = none := by
      simp [FilterLeaf.find?, members, hpredicate, hvalue, hfield, hlower]
    obtain ⟨hurl, htext, hre, hnegate⟩ := hfields
    have hleaf := @FilterLeaf.read_eq_map Pattern.language members "url" (.text pattern) .re false
      hurl htext (by rw [hre, FilterLeaf.readPredicate, Predicate.ofName, hname])
      (by rw [hnegate]; rfl)
    have hor : Operator.ofKey? "OR" = some .disjunction := by decide +kernel
    have hand : Operator.ofKey? "and" = some .conjunction := by decide +kernel
    rw [Cell.ofJson] at hleaf
    simp only [listWith, read, readHead, readList, readAll, readObject, readMember, hor, hand,
      readOperands]
    rw [hleaf]
    cases FilterLeaf.readPattern Pattern.language .re (.text pattern) <;> rfl
  obtain ⟨hfilter, -, -⟩ := read_exactly Pattern.language (isOrdered_of_read? hgood)
  obtain ⟨hfilter', hfault, -⟩ := read_exactly Pattern.language (isOrdered_of_read? hbad)
  have hnode : read Pattern.language (listWith "^a") =
      .ok (.any [.leaf ⟨"url", .re, .text "^a", false, some isFound⟩, .all []]) := by
    rw [hread, FilterLeaf.readPattern_of_eq_some hpattern]
    rfl
  have hnot : ¬(listWith "(a").IsFilter Pattern.language := by
    rw [← hfilter', hread, FilterLeaf.readPattern_of_eq_none hnone]
    rintro ⟨node, hnode⟩
    cases hnode
  exact ⟨hgood, hbad, hfilter.mp ⟨_, hnode⟩, hnot,
    ⟨isFound, hpattern, hfound.1, Bool.eq_false_iff.mp hfound.2, hnode⟩, hfault hnot⟩

end FilterNode

end CrawlAudit
