import CrawlAudit.Proofs.FilterTrees
import Mathlib.Logic.Relation

/-!
# Rewriting filters

Filters can be reordered, flattened and have their tests by membership spread out without a change
to the rows they accept. The dual of a filter accepts exactly the other rows.
-/

namespace CrawlAudit

namespace Operator

def swap : Operator → Operator
  | .conjunction => .disjunction
  | .disjunction => .conjunction

variable {op : Operator}

theorem combine_of_perm {answers answers' : List Bool} (h : answers.Perm answers') :
    op.combine answers = op.combine answers' := by
  cases op with
  | conjunction => exact h.all_eq
  | disjunction => exact h.any_eq

theorem combine_append_cons_combine (before inner after : List Bool) :
    op.combine (before ++ op.combine inner :: after) = op.combine (before ++ inner ++ after) := by
  cases op with
  | conjunction => simp [combine]
  | disjunction => simp [combine]

theorem combine_swap_map_not (answers : List Bool) :
    op.swap.combine (answers.map not) = !op.combine answers := by
  cases op with
  | conjunction =>
      rw [swap, combine, combine, List.not_all_eq_any_not, List.any_map]
      rfl
  | disjunction =>
      rw [swap, combine, combine, List.not_any_eq_all_not, List.all_map]
      rfl

end Operator

namespace FilterLeaf

/-- The test by equality with an item, on the same field and negated alike. -/
def equalTo (test : FilterLeaf) (item : Cell) : FilterLeaf :=
  { test with predicate := .eq, value := item }

def flip (test : FilterLeaf) : FilterLeaf :=
  { test with negate := !test.negate }

theorem matchesCell_flip (test : FilterLeaf) (cell : Cell) :
    test.flip.matchesCell cell = !test.matchesCell cell := by
  change (test.holds cell != !test.negate) = !(test.holds cell != test.negate)
  cases test.holds cell <;> cases test.negate <;> rfl

end FilterLeaf

namespace FilterNode

/-- A test by membership as tests by equality with each of the items: one of them holds, or none
does where the test is negated. -/
def spread (test : FilterLeaf) (items : List Cell) : FilterNode :=
  (if test.negate then Operator.conjunction else .disjunction).join
    (items.map fun item => .leaf (test.equalTo item))

/-- One rewriting of a tree, at the root or inside. -/
inductive Rewrites : FilterNode → FilterNode → Prop where
  | permute {op : Operator} {children children' : List FilterNode} (h : children.Perm children') :
      Rewrites (op.join children) (op.join children')
  | flatten (op : Operator) (before inner after : List FilterNode) :
      Rewrites (op.join (before ++ op.join inner :: after)) (op.join (before ++ inner ++ after))
  | spread {test : FilterLeaf} {items : List Cell} (hpredicate : test.predicate = .among)
      (hvalue : test.value = .list items) : Rewrites (.leaf test) (spread test items)
  | inside (op : Operator) (before after : List FilterNode) {child child' : FilterNode}
      (h : Rewrites child child') :
      Rewrites (op.join (before ++ child :: after)) (op.join (before ++ child' :: after))

mutual

/-- The tree with its operators swapped and every test negated once more. -/
def dual : FilterNode → FilterNode
  | .leaf test => .leaf test.flip
  | .all children => .any (dualAll children)
  | .any children => .all (dualAll children)

def dualAll : List FilterNode → List FilterNode
  | [] => []
  | node :: nodes => dual node :: dualAll nodes

end

variable {lookup : String → Cell}

theorem accepts_spread {test : FilterLeaf} {items : List Cell}
    (hpredicate : test.predicate = .among) (hvalue : test.value = .list items) :
    accepts lookup (spread test items) = accepts lookup (.leaf test) := by
  have hleaf : accepts lookup (.leaf test) =
      (items.any (lookup test.field).looselySame != test.negate) := by
    rw [accepts_leaf, FilterLeaf.matchesCell, FilterLeaf.holds, hpredicate, hvalue]
    rfl
  have hitems : (items.map fun item => FilterNode.leaf (test.equalTo item)).map (accepts lookup) =
      items.map fun item => ((lookup test.field).looselySame item != test.negate) := by
    rw [List.map_map]
    refine List.map_congr_left fun item _ => ?_
    rw [Function.comp_apply, accepts_leaf]
    rfl
  rw [hleaf, spread, accepts_join, hitems]
  cases test.negate with
  | true =>
      simp only [if_pos, Operator.combine, List.all_map, Bool.bne_true, List.not_any_eq_all_not]
      rfl
  | false =>
      simp only [if_neg Bool.false_ne_true, Operator.combine, List.any_map, Bool.bne_false]
      rfl

/-- One rewriting leaves what a tree accepts. -/
theorem Rewrites.accepts_eq {node node' : FilterNode} (h : Rewrites node node') :
    accepts lookup node' = accepts lookup node := by
  induction h with
  | permute h => rw [accepts_join, accepts_join, Operator.combine_of_perm (h.map _)]
  | flatten op before inner after =>
      rw [accepts_join, accepts_join, List.map_append, List.map_append, List.map_append,
        List.map_cons, accepts_join, Operator.combine_append_cons_combine]
  | spread hpredicate hvalue => exact accepts_spread hpredicate hvalue
  | inside op before after h ih =>
      rw [accepts_join, accepts_join, List.map_append, List.map_append, List.map_cons,
        List.map_cons, ih]

theorem accepts_eq_of_rewrites {node node' : FilterNode}
    (h : Relation.ReflTransGen Rewrites node node') :
    accepts lookup node' = accepts lookup node := by
  induction h with
  | refl => rfl
  | tail _ hstep ih => rw [hstep.accepts_eq, ih]

theorem dualAll_eq_map (nodes : List FilterNode) : dualAll nodes = nodes.map dual := by
  induction nodes with
  | nil => rfl
  | cons node nodes ih => rw [dualAll, ih, List.map_cons]

theorem dual_join (op : Operator) (children : List FilterNode) :
    (op.join children).dual = op.swap.join (children.map dual) := by
  rw [← dualAll_eq_map]
  cases op with
  | conjunction => rw [Operator.join, dual, Operator.swap, Operator.join]
  | disjunction => rw [Operator.join, dual, Operator.swap, Operator.join]

theorem accepts_dual (node : FilterNode) : accepts lookup node.dual = !accepts lookup node := by
  induction node using join_induction with
  | leaf test =>
      rw [dual, accepts_leaf, accepts_leaf]
      exact FilterLeaf.matchesCell_flip test _
  | join op children ih =>
      have hchildren : (children.map dual).map (accepts lookup) =
          (children.map (accepts lookup)).map not := by
        rw [List.map_map, List.map_map]
        exact List.map_congr_left ih
      rw [dual_join, accepts_join, accepts_join, hchildren, Operator.combine_swap_map_not]

/-- Any number of rewritings, anywhere in a tree, leave what it accepts, and its dual accepts what
the tree does not. -/
theorem accepts_of_rewrites_and_dual (node : FilterNode) :
    (∀ node', Relation.ReflTransGen Rewrites node node' →
        ∀ lookup, accepts lookup node' = accepts lookup node) ∧
      ∀ lookup, accepts lookup node.dual = !accepts lookup node :=
  ⟨fun _ h _ => accepts_eq_of_rewrites h, fun _ => accepts_dual node⟩

/-- A conjunction in a conjunction and a test by membership are taken apart, on a row in which one
cell is missing and the other is not a number. -/
theorem accepts_of_rewrites_and_dual_of_missing_cell :
    let noneOf : FilterLeaf := ⟨"depth", .among, .list [.int 1, .text "home"], true, none⟩
    let notBelow : FilterLeaf := ⟨"delay", .lt, .int 1, true, none⟩
    let node : FilterNode := .all [.leaf notBelow, .all [.leaf noneOf]]
    let node' : FilterNode :=
      .all [.all [.leaf ⟨"depth", .eq, .int 1, true, none⟩,
        .leaf ⟨"depth", .eq, .text "home", true, none⟩], .leaf notBelow]
    let lookup : String → Cell := fun field => if field = "delay" then .float .nan else .null
    accepts lookup node = true ∧ accepts lookup node' = true ∧
      accepts lookup node.dual = false := by
  intro noneOf notBelow node node' lookup
  have hflatten : Rewrites node (.all [.leaf notBelow, .leaf noneOf]) :=
    .flatten .conjunction [.leaf notBelow] [.leaf noneOf] []
  have hspread : Rewrites (.all [.leaf notBelow, .leaf noneOf])
      (.all [.leaf notBelow, spread noneOf [.int 1, .text "home"]]) :=
    .inside .conjunction [.leaf notBelow] [] (.spread rfl rfl)
  have hpermute : Rewrites (.all [.leaf notBelow, spread noneOf [.int 1, .text "home"]]) node' :=
    @Rewrites.permute .conjunction _ _ (.swap _ _ [])
  have hchain : Relation.ReflTransGen Rewrites node node' :=
    ((Relation.ReflTransGen.single hflatten).tail hspread).tail hpermute
  have haccepts : accepts lookup node = true := by decide +kernel
  obtain ⟨hrewrites, hdual⟩ := accepts_of_rewrites_and_dual node
  rw [hrewrites node' hchain, hdual, haccepts]
  decide

end FilterNode

end CrawlAudit
