import CrawlAudit.Filter.Reader

/-!
# Filters that are read and run

Documents of filters that are joined read as the nodes they read as on their own, and a joined
filter accepts what all of its nodes accept.
-/

namespace CrawlAudit

namespace FilterLeaf

variable {patterns : PatternLanguage}

/-- Once its other members are known, reading a test is reading its pattern. -/
theorem read_eq_map {members : Json.Members} {field : String} {raw : Json} {predicate : Predicate}
    {negate : Bool} (hfield : find? "field" members = some (.text field))
    (hvalue : find? "value" members = some raw)
    (hpredicate : readPredicate raw (find? "predicate" members) = .ok predicate)
    (hnegate : readNegation (find? "not" members) = .ok negate) :
    read patterns members = (readPattern patterns predicate (Cell.ofJson raw)).map
      (FilterLeaf.mk field predicate (Cell.ofJson raw) negate) := by
  have hread : read patterns members =
      readPredicate raw (find? "predicate" members) >>= fun predicate =>
        readNegation (find? "not" members) >>= fun negate =>
          (readPattern patterns predicate (Cell.ofJson raw)).map
            (FilterLeaf.mk field predicate (Cell.ofJson raw) negate) := by
    rw [read, readField, hfield, readValue, hvalue]
    rfl
  rw [hread, hpredicate, hnegate]
  rfl

theorem readPattern_of_eq_some {text : String} {isFound : String → Bool}
    (h : patterns text = some isFound) :
    readPattern patterns .re (.text text) = .ok (some isFound) := by
  simp only [readPattern, if_pos, Cell.text?, h]

theorem readPattern_of_eq_none {text : String} (h : patterns text = none) :
    readPattern patterns .re (.text text) = .error (.malformedFilter .invalidPattern) := by
  simp only [readPattern, if_pos, Cell.text?, h]

theorem foldCase_names : Predicate.foldCase "field" = "field" ∧
    Predicate.foldCase "predicate" = "predicate" ∧ Predicate.foldCase "value" = "value" := by
  decide

/-- The members of a test by equality. -/
def equalityMembers (field : String) (value : Json) : Json.Members :=
  [("field", .text field), ("predicate", .text "eq"), ("value", value)]

/-- The test whether a field equals the cell of a value. -/
def equality (field : String) (value : Json) : FilterLeaf :=
  ⟨field, .eq, Cell.ofJson value, false, none⟩

theorem find?_equalityMembers (field : String) (value : Json) :
    find? "field" (equalityMembers field value) = some (.text field) ∧
      find? "value" (equalityMembers field value) = some value ∧
      find? "predicate" (equalityMembers field value) = some (.text "eq") ∧
      find? "not" (equalityMembers field value) = none := by
  obtain ⟨hfield, hpredicate, hvalue⟩ := foldCase_names
  simp [find?, equalityMembers, hfield, hpredicate, hvalue]

theorem read_equalityMembers (field : String) (value : Json) :
    read patterns (equalityMembers field value) = .ok (equality field value) := by
  obtain ⟨hfield, hvalue, hpredicate, hnot⟩ := find?_equalityMembers field value
  have hname : Predicate.ofName? "eq" = some .eq := by decide
  rw [read_eq_map hfield hvalue (by rw [hpredicate, readPredicate, Predicate.ofName, hname])
    (by rw [hnot]; rfl)]
  rfl

/-- A test without a predicate compares in the way its value asks for. -/
theorem read_field_value (field : String) (value : Json) :
    read patterns [("field", .text field), ("value", value)] =
      .ok ⟨field, if value.items?.isSome then .among else .eq, Cell.ofJson value, false, none⟩ := by
  obtain ⟨hfield, -, hvalue⟩ := foldCase_names
  have hfields : find? "field" [("field", .text field), ("value", value)] = some (.text field) ∧
      find? "value" [("field", .text field), ("value", value)] = some value ∧
      find? "predicate" [("field", .text field), ("value", value)] = none ∧
      find? "not" [("field", .text field), ("value", value)] = none := by
    simp [find?, hfield, hvalue]
  obtain ⟨hname, hraw, hpredicate, hnegate⟩ := hfields
  rw [read_eq_map hname hraw (by rw [hpredicate]; rfl) (by rw [hnegate]; rfl)]
  cases value.items? <;> rfl

end FilterLeaf

namespace FilterNode

variable {patterns : PatternLanguage}

theorem read_eq_ok_iff {document : Json} {node : FilterNode} :
    read patterns document = .ok node ↔
      ∃ head, readHead patterns document = .ok head ∧ head.node = node := by
  have hread : read patterns document = readHead patterns document >>= fun head =>
    pure head.node := rfl
  simp only [hread, Fault.bind_eq_ok, Fault.pure_eq_ok]

theorem read_test {m n : String × Json} {members : Json.Members} {test : FilterLeaf}
    (h : FilterLeaf.read patterns (m :: n :: members) = .ok test) :
    read patterns (.object (m :: n :: members)) = .ok (.leaf test) := by
  simp only [read, readHead, readObject, h]
  rfl

theorem readAll_cons_eq_ok_iff {item : Json} {items : List Json} {nodes : List FilterNode} :
    readAll patterns (item :: items) = .ok nodes ↔ ∃ node others,
      read patterns item = .ok node ∧ readAll patterns items = .ok others ∧
        node :: others = nodes := by
  simp only [readAll, Fault.bind_eq_ok, Fault.pure_eq_ok, read_eq_ok_iff]
  constructor
  · rintro ⟨head, hhead, others, hothers, rfl⟩
    exact ⟨head.node, others, ⟨head, hhead, rfl⟩, hothers, rfl⟩
  · rintro ⟨_, others, ⟨head, hhead, rfl⟩, hothers, rfl⟩
    exact ⟨head, hhead, others, hothers, rfl⟩

theorem readAll_cons {item : Json} {items : List Json} {node : FilterNode}
    {nodes : List FilterNode} (h : read patterns item = .ok node)
    (hitems : readAll patterns items = .ok nodes) :
    readAll patterns (item :: items) = .ok (node :: nodes) :=
  readAll_cons_eq_ok_iff.mpr ⟨node, nodes, h, hitems, rfl⟩

theorem read_operation {key : String} {op : Operator} {items : List Json}
    {nodes : List FilterNode} (hkey : Operator.ofKey? key = some op)
    (h : readAll patterns items = .ok nodes) :
    read patterns (.object [(key, .array items)]) = .ok (op.join nodes) := by
  simp only [read, readHead, readObject, readMember, hkey, readOperands, h]
  rfl

theorem acceptsAll_eq_all (lookup : String → Cell) (nodes : List FilterNode) :
    acceptsAll lookup nodes = nodes.all (accepts lookup) := by
  induction nodes with
  | nil => rfl
  | cons node nodes ih => rw [acceptsAll, ih, List.all_cons]

theorem fieldsOfAll_eq_flatMap (nodes : List FilterNode) :
    fieldsOfAll nodes = nodes.flatMap fields := by
  induction nodes with
  | nil => rfl
  | cons node nodes ih => rw [fieldsOfAll, ih, List.flatMap_cons]

end FilterNode

namespace Filter

/-- The filter by one test by equality, with its document. -/
def equality (field : String) (value : Json) : Filter where
  document := .object (FilterLeaf.equalityMembers field value)
  root := .leaf (FilterLeaf.equality field value)

/-- Filters joined by `and`, with their document. -/
def conjunction (parts : List Filter) : Filter where
  document := .object [("and", .array (parts.map document))]
  root := .all (parts.map root)

variable {patterns : PatternLanguage}

theorem read_eq_ok_iff {filter : Filter} :
    read filter.document patterns = .ok filter ↔
      FilterNode.read patterns filter.document = .ok filter.root := by
  rw [read]
  cases hroot : FilterNode.read patterns filter.document with
  | error fault => exact iff_of_false nofun nofun
  | ok root =>
      constructor
      · intro h
        exact congrArg Except.ok (congrArg Filter.root (Except.ok.inj h))
      · intro h
        rw [Except.ok.inj h]
        rfl

theorem read_equality (field : String) (value : Json) :
    read (equality field value).document patterns = .ok (equality field value) := by
  rw [read_eq_ok_iff]
  exact FilterNode.read_test (FilterLeaf.read_equalityMembers field value)

theorem readAll_documents {parts : List Filter}
    (h : ∀ p ∈ parts, read p.document patterns = .ok p) :
    FilterNode.readAll patterns (parts.map document) = .ok (parts.map root) := by
  induction parts with
  | nil => simp only [List.map_nil, FilterNode.readAll]
  | cons p parts ih =>
      obtain ⟨hp, hparts⟩ := List.forall_mem_cons.mp h
      exact FilterNode.readAll_cons (read_eq_ok_iff.mp hp) (ih hparts)

/-- Filters that read back on their own read back joined. -/
theorem read_conjunction {parts : List Filter}
    (h : ∀ p ∈ parts, read p.document patterns = .ok p) :
    read (conjunction parts).document patterns = .ok (conjunction parts) := by
  have hkey : Operator.ofKey? "and" = some .conjunction := by decide
  exact read_eq_ok_iff.mpr (FilterNode.read_operation hkey (readAll_documents h))

theorem accepts_conjunction (lookup : String → Cell) (parts : List Filter) :
    (conjunction parts).root.accepts lookup = parts.all fun p => p.root.accepts lookup := by
  change FilterNode.acceptsAll lookup (parts.map root) = _
  rw [FilterNode.acceptsAll_eq_all, List.all_map]
  rfl

theorem accepts_equality (lookup : String → Cell) (field : String) (value : Json) :
    (equality field value).root.accepts lookup =
      (lookup field).looselySame (Cell.ofJson value) := by
  change (FilterLeaf.holds _ _ != false) = _
  rw [Bool.bne_false]
  rfl

theorem fields_conjunction (parts : List Filter) :
    (conjunction parts).root.fields = parts.flatMap fun p => p.root.fields := by
  change FilterNode.fieldsOfAll (parts.map root) = _
  rw [FilterNode.fieldsOfAll_eq_flatMap, List.flatMap_map]

end Filter

end CrawlAudit
