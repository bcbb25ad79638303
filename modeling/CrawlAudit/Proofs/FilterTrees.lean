import CrawlAudit.Proofs.FilterReading

/-!
# Trees of filters

What a joined filter accepts and names in terms of its children. The fields of a tree are those of
its tests at any depth, and no other cell of a row decides whether the tree accepts it.
-/

namespace CrawlAudit

/-- How an operator joins the answers of the children of a node. -/
def Operator.combine : Operator → List Bool → Bool
  | .conjunction, answers => answers.all id
  | .disjunction, answers => answers.any id

namespace FilterNode

/-- A test that stands in a tree, at any depth. -/
inductive HasTest (test : FilterLeaf) : FilterNode → Prop where
  | leaf : HasTest test (.leaf test)
  | all {child : FilterNode} {children : List FilterNode} (hchild : child ∈ children)
      (h : HasTest test child) : HasTest test (.all children)
  | any {child : FilterNode} {children : List FilterNode} (hchild : child ∈ children)
      (h : HasTest test child) : HasTest test (.any children)

theorem join_induction {motive : FilterNode → Prop} (leaf : ∀ test, motive (.leaf test))
    (join : ∀ (op : Operator) (children : List FilterNode), (∀ child ∈ children, motive child) →
      motive (op.join children))
    (node : FilterNode) : motive node := by
  cases node with
  | leaf test => exact leaf test
  | all children => exact join .conjunction children fun child _ => join_induction leaf join child
  | any children => exact join .disjunction children fun child _ => join_induction leaf join child

theorem acceptsAny_eq_any (lookup : String → Cell) (nodes : List FilterNode) :
    acceptsAny lookup nodes = nodes.any (accepts lookup) := by
  induction nodes with
  | nil => rfl
  | cons node nodes ih => rw [acceptsAny, ih, List.any_cons]

theorem accepts_leaf (lookup : String → Cell) (test : FilterLeaf) :
    accepts lookup (.leaf test) = test.matchesCell (lookup test.field) := by
  rw [accepts]

theorem accepts_join (lookup : String → Cell) (op : Operator) (children : List FilterNode) :
    accepts lookup (op.join children) = op.combine (children.map (accepts lookup)) := by
  cases op with
  | conjunction =>
      rw [Operator.join, accepts, acceptsAll_eq_all, Operator.combine, List.all_map]
      rfl
  | disjunction =>
      rw [Operator.join, accepts, acceptsAny_eq_any, Operator.combine, List.any_map]
      rfl

theorem fields_join (op : Operator) (children : List FilterNode) :
    fields (op.join children) = children.flatMap fields := by
  cases op with
  | conjunction => rw [Operator.join, fields, fieldsOfAll_eq_flatMap]
  | disjunction => rw [Operator.join, fields, fieldsOfAll_eq_flatMap]

theorem hasTest_leaf {test test' : FilterLeaf} : HasTest test (.leaf test') ↔ test = test' := by
  constructor
  · intro h
    cases h
    rfl
  · rintro rfl
    exact .leaf

theorem hasTest_join {test : FilterLeaf} {op : Operator} {children : List FilterNode} :
    HasTest test (op.join children) ↔ ∃ child ∈ children, HasTest test child := by
  cases op with
  | conjunction =>
      constructor
      · intro h
        cases h with
        | all hchild h => exact ⟨_, hchild, h⟩
      · rintro ⟨child, hchild, h⟩
        exact .all hchild h
  | disjunction =>
      constructor
      · intro h
        cases h with
        | any hchild h => exact ⟨_, hchild, h⟩
      · rintro ⟨child, hchild, h⟩
        exact .any hchild h

theorem mem_fields_iff {node : FilterNode} {field : String} :
    field ∈ node.fields ↔ ∃ test, HasTest test node ∧ test.field = field := by
  induction node using join_induction with
  | leaf test =>
      rw [fields, List.mem_singleton]
      constructor
      · rintro rfl
        exact ⟨test, .leaf, rfl⟩
      · rintro ⟨test', h, rfl⟩
        rw [hasTest_leaf.mp h]
  | join op children ih =>
      rw [fields_join, List.mem_flatMap]
      constructor
      · rintro ⟨child, hchild, hfield⟩
        obtain ⟨test, htest, heq⟩ := (ih child hchild).mp hfield
        exact ⟨test, hasTest_join.mpr ⟨child, hchild, htest⟩, heq⟩
      · rintro ⟨test, h, heq⟩
        obtain ⟨child, hchild, htest⟩ := hasTest_join.mp h
        exact ⟨child, hchild, (ih child hchild).mpr ⟨test, htest, heq⟩⟩

theorem accepts_congr {lookup lookup' : String → Cell} {node : FilterNode}
    (h : ∀ f ∈ node.fields, lookup f = lookup' f) : accepts lookup node = accepts lookup' node := by
  induction node using join_induction with
  | leaf test =>
      have hfield : test.field ∈ fields (.leaf test) := by
        rw [fields]
        exact List.mem_singleton_self _
      rw [accepts_leaf, accepts_leaf, h test.field hfield]
  | join op children ih =>
      rw [fields_join] at h
      rw [accepts_join, accepts_join]
      refine congrArg op.combine (List.map_congr_left fun child hchild => ih child hchild ?_)
      exact fun f hf => h f (List.mem_flatMap_of_mem hchild hf)

end FilterNode

end CrawlAudit
