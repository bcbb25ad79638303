import CrawlAudit.Proofs.FilterReading
import Mathlib.Algebra.GroupWithZero.Nat
import Mathlib.Logic.Relation

/-!
# Lists that stand for operators

A list of filters stands for an object with one member: an operator that leads the list joins the
other elements to its own, and a list that no operator leads is one of `or`. Replacing lists by
these objects from the outside in changes neither whether a document is read as a filter nor the
tree that it is read as, and ends in one document without lists.
-/

namespace CrawlAudit

open Relation

namespace Json

/-- The key and the list of an object whose one member is an operator with a list. -/
def operation? : Json → Option (String × List Json)
  | .object [(key, .array items)] =>
      if (Operator.ofKey? key).isSome then some (key, items) else none
  | _ => none

/-- The outermost operator of a document by its key, and the documents that it joins. -/
inductive Joins : Json → String → List Json → Prop where
  | operation {key : String} (hkey : (Operator.ofKey? key).isSome) (items : List Json) :
      Joins (.object [(key, .array items)]) key items
  | led {key : String} (hkey : (Operator.ofKey? key).isSome) (items rest : List Json) :
      Joins (.array (.object [(key, .array items)] :: rest)) key (items ++ rest)
  | unled {first : Json} (hfirst : first.operation? = none) (rest : List Json) :
      Joins (.array (first :: rest)) "or" (first :: rest)

/-- One list is replaced by the object it stands for. It is the document itself, or it stands below
objects only: an inner list waits for the lists around it. -/
inductive Replaces : Json → Json → Prop where
  | list {list items : List Json} {key : String} (h : Joins (.array list) key items) :
      Replaces (.array list) (.object [(key, .array items)])
  | operand {key : String} (hkey : (Operator.ofKey? key).isSome) (before after : List Json)
      {item item' : Json} (h : Replaces item item') :
      Replaces (.object [(key, .array (before ++ item :: after))])
        (.object [(key, .array (before ++ item' :: after))])

/-- A document that stands where a filter is read: as the whole, as an element of a list, or as one
of the documents in the list of an operator. The values of tests do not stand there. -/
inductive StandsIn (part : Json) : Json → Prop where
  | root : StandsIn part part
  | element {item : Json} {items : List Json} (hitem : item ∈ items) (h : StandsIn part item) :
      StandsIn part (.array items)
  | operand {key : String} {item : Json} {items : List Json}
      (hkey : (Operator.ofKey? key).isSome) (hitem : item ∈ items) (h : StandsIn part item) :
      StandsIn part (.object [(key, .array items)])

/-- Every operator is spelled out: no list stands for one. An empty list stands for none. -/
def IsSpelledOut (document : Json) : Prop :=
  ∀ items, (Json.array items).StandsIn document → items = []

def joined? : Json → Option (String × List Json)
  | .array (first :: rest) =>
      match first.operation? with
      | some (key, items) => some (key, items ++ rest)
      | none => some ("or", first :: rest)
  | document => document.operation?

variable {document document' : Json} {key : String} {items : List Json}

theorem operation?_eq_some_iff : document.operation? = some (key, items) ↔
    (Operator.ofKey? key).isSome ∧ document = .object [(key, .array items)] := by
  constructor
  · intro h
    unfold operation? at h
    split at h
    · rename_i key' items'
      by_cases hkey : (Operator.ofKey? key').isSome
      · rw [if_pos hkey] at h
        obtain ⟨rfl, rfl⟩ := Prod.mk.inj (Option.some.inj h)
        exact ⟨hkey, rfl⟩
      · rw [if_neg hkey] at h
        cases h
    · cases h
  · rintro ⟨hkey, rfl⟩
    rw [operation?, if_pos hkey]

theorem joined?_eq_some_iff :
    document.joined? = some (key, items) ↔ Joins document key items := by
  constructor
  · intro h
    unfold joined? at h
    split at h
    · rename_i first rest
      cases hfirst : first.operation? with
      | none =>
          rw [hfirst] at h
          obtain ⟨rfl, rfl⟩ := Prod.mk.inj (Option.some.inj h)
          exact .unled hfirst rest
      | some operation =>
          rw [hfirst] at h
          obtain ⟨rfl, rfl⟩ := Prod.mk.inj (Option.some.inj h)
          obtain ⟨hkey, rfl⟩ := operation?_eq_some_iff.mp hfirst
          exact .led hkey operation.2 rest
    · obtain ⟨hkey, rfl⟩ := operation?_eq_some_iff.mp h
      exact .operation hkey items
  · intro h
    cases h with
    | operation hkey items =>
        rw [joined?]
        · exact operation?_eq_some_iff.mpr ⟨hkey, rfl⟩
        · rintro _ _ ⟨⟩
    | led hkey items rest => rw [joined?, operation?_eq_some_iff.mpr ⟨hkey, rfl⟩]
    | unled hfirst rest => rw [joined?, hfirst]

namespace Joins

theorem isSome_ofKey? (h : Joins document key items) : (Operator.ofKey? key).isSome := by
  cases h with
  | operation hkey => exact hkey
  | led hkey => exact hkey
  | unled => decide

theorem sizeOf_lt (h : Joins document key items) {item : Json} (hitem : item ∈ items) :
    sizeOf item < sizeOf document := by
  cases h with
  | operation =>
      have hlt := List.sizeOf_lt_of_mem hitem
      simp only [object.sizeOf_spec, List.cons.sizeOf_spec, Prod.mk.sizeOf_spec, array.sizeOf_spec]
      omega
  | led hkey items rest =>
      simp only [object.sizeOf_spec, List.cons.sizeOf_spec, Prod.mk.sizeOf_spec, array.sizeOf_spec]
      rcases List.mem_append.mp hitem with hitem | hitem
      · have hlt := List.sizeOf_lt_of_mem hitem
        omega
      · have hlt := List.sizeOf_lt_of_mem hitem
        omega
  | unled =>
      have hlt := List.sizeOf_lt_of_mem hitem
      simp only [array.sizeOf_spec]
      omega

theorem reflTransGen_replaces (h : Joins document key items) :
    ReflTransGen Replaces document (.object [(key, .array items)]) := by
  cases h with
  | operation => exact .refl
  | led hkey items rest => exact .single (.list (.led hkey items rest))
  | unled hfirst rest => exact .single (.list (.unled hfirst rest))

end Joins

/-- The document with the lists at every depth replaced, the outermost first. -/
def expand (document : Json) : Json :=
  match _h : document.joined? with
  | some (key, items) => .object [(key, .array (items.attach.map fun item => expand item.1))]
  | none => document
termination_by sizeOf document
decreasing_by exact (joined?_eq_some_iff.mp _h).sizeOf_lt item.2

theorem expand_of_joins (h : Joins document key items) :
    document.expand = .object [(key, .array (items.map expand))] := by
  have hjoined := joined?_eq_some_iff.mpr h
  rw [expand]
  split
  · rename_i hjoined'
    obtain ⟨rfl, rfl⟩ := Prod.mk.inj (Option.some.inj (hjoined.symm.trans hjoined'))
    rw [List.attach_map_val]
  · rename_i hnone
    cases hjoined.symm.trans hnone

theorem expand_of_joined?_eq_none (h : document.joined? = none) : document.expand = document := by
  rw [expand]
  split
  · rename_i hjoined
    cases h.symm.trans hjoined
  · rfl

theorem joins_induction {motive : Json → Prop}
    (joined : ∀ document key items, Joins document key items → (∀ item ∈ items, motive item) →
      motive document)
    (single : ∀ document, document.joined? = none → motive document)
    (document : Json) : motive document := by
  cases hjoined : document.joined? with
  | none => exact single document hjoined
  | some joint =>
      have h := joined?_eq_some_iff.mp hjoined
      exact joined document joint.1 joint.2 h fun item hitem => joins_induction joined single item
termination_by sizeOf document
decreasing_by exact h.sizeOf_lt hitem

theorem reflTransGen_replaces_operands (hkey : (Operator.ofKey? key).isSome) {f : Json → Json}
    (h : ∀ item ∈ items, ReflTransGen Replaces item (f item)) (before : List Json) :
    ReflTransGen Replaces (.object [(key, .array (before ++ items))])
      (.object [(key, .array (before ++ items.map f))]) := by
  induction items generalizing before with
  | nil => exact .refl
  | cons item items ih =>
      obtain ⟨hitem, hitems⟩ := List.forall_mem_cons.mp h
      have hfirst := ReflTransGen.lift
        (fun first => Json.object [(key, .array (before ++ first :: items))])
        (fun _ _ hstep => Replaces.operand hkey before items hstep) _ _ hitem
      have hrest := ih hitems (before ++ [f item])
      rw [List.append_assoc, List.append_assoc] at hrest
      exact hfirst.trans hrest

theorem reflTransGen_replaces_expand (document : Json) :
    ReflTransGen Replaces document document.expand := by
  induction document using joins_induction with
  | joined document key items h ih =>
      rw [expand_of_joins h]
      exact h.reflTransGen_replaces.trans
        (reflTransGen_replaces_operands h.isSome_ofKey? ih [])
  | single document h => rw [expand_of_joined?_eq_none h]

theorem Replaces.expand_eq (h : Replaces document document') :
    document'.expand = document.expand := by
  induction h with
  | list h => rw [expand_of_joins h, expand_of_joins (.operation h.isSome_ofKey? _)]
  | operand hkey before after h ih =>
      rw [expand_of_joins (.operation hkey _), expand_of_joins (.operation hkey _),
        List.map_append, List.map_append, List.map_cons, List.map_cons, ih]

theorem expand_eq_of_replaces (h : ReflTransGen Replaces document document') :
    document'.expand = document.expand := by
  induction h with
  | refl => rfl
  | tail _ hstep ih => rw [hstep.expand_eq, ih]

theorem isSpelledOut_operation (hkey : (Operator.ofKey? key).isSome) :
    IsSpelledOut (.object [(key, .array items)]) ↔ ∀ item ∈ items, item.IsSpelledOut := by
  constructor
  · intro h item hitem list hlist
    exact h list (.operand hkey hitem hlist)
  · intro h list hlist
    cases hlist with
    | operand _ hitem hlist => exact h _ hitem list hlist

theorem isSpelledOut_of_joined?_eq_none (h : document.joined? = none) : document.IsSpelledOut := by
  have hempty : ∀ items, document = .array items → items = [] := by
    rintro (_ | ⟨first, rest⟩) rfl
    · rfl
    · rw [joined?] at h
      cases hfirst : first.operation? with
      | none => rw [hfirst] at h; cases h
      | some operation => rw [hfirst] at h; cases h
  intro list hlist
  cases hlist with
  | root => exact hempty list rfl
  | element hitem =>
      rw [hempty _ rfl] at hitem
      cases hitem
  | operand hkey => cases h.symm.trans (joined?_eq_some_iff.mpr (.operation hkey _))

theorem isSpelledOut_expand (document : Json) : document.expand.IsSpelledOut := by
  induction document using joins_induction with
  | joined document key items h ih =>
      rw [expand_of_joins h, isSpelledOut_operation h.isSome_ofKey?]
      exact List.forall_mem_map.mpr ih
  | single document h =>
      rw [expand_of_joined?_eq_none h]
      exact isSpelledOut_of_joined?_eq_none h

theorem IsSpelledOut.expand_eq (h : document.IsSpelledOut) : document.expand = document := by
  induction document using joins_induction with
  | joined document key items hjoins ih =>
      cases hjoins with
      | operation hkey =>
          have hitems : items.map expand = items.map id := List.map_congr_left fun item hitem =>
            ih item hitem ((isSpelledOut_operation hkey).mp h item hitem)
          rw [expand_of_joins (.operation hkey _), hitems, List.map_id]
      | led => cases h _ .root
      | unled => cases h _ .root
  | single document hnone => exact expand_of_joined?_eq_none hnone

/-- The number of lists that are replaced on the way to the document without any. -/
def listCount (document : Json) : Nat :=
  match _h : document.joined? with
  | some (_, items) =>
      document.items?.toList.length + (items.attach.map fun item => listCount item.1).sum
  | none => 0
termination_by sizeOf document
decreasing_by exact (joined?_eq_some_iff.mp _h).sizeOf_lt item.2

theorem listCount_of_joins (h : Joins document key items) :
    document.listCount = document.items?.toList.length + (items.map listCount).sum := by
  have hjoined := joined?_eq_some_iff.mpr h
  rw [listCount]
  split
  · rename_i hjoined'
    obtain ⟨rfl, rfl⟩ := Prod.mk.inj (Option.some.inj (hjoined.symm.trans hjoined'))
    rw [List.attach_map_val]
  · rename_i hnone
    cases hjoined.symm.trans hnone

theorem Replaces.listCount_eq (h : Replaces document document') :
    document.listCount = document'.listCount + 1 := by
  induction h with
  | list h =>
      rw [listCount_of_joins h, listCount_of_joins (.operation h.isSome_ofKey? _)]
      simp [items?]
      omega
  | operand hkey before after h ih =>
      rw [listCount_of_joins (.operation hkey _), listCount_of_joins (.operation hkey _)]
      simp only [List.map_append, List.map_cons, List.sum_append, List.sum_cons, ih, items?]
      omega

/-- No run of replacements goes on forever. -/
theorem wellFounded_replaces :
    WellFounded fun document' document => Replaces document document' := by
  refine Subrelation.wf (fun {document' document} h => ?_) (measure listCount).wf
  change document'.listCount < document.listCount
  rw [Replaces.listCount_eq h]
  exact Nat.lt_succ_self _

/-- Replacements that leave nothing to replace end in one document only. -/
theorem replaces_and_isSpelledOut_iff :
    ReflTransGen Replaces document document' ∧ document'.IsSpelledOut ↔
      document' = document.expand := by
  constructor
  · rintro ⟨hreplaces, hspelled⟩
    rw [← hspelled.expand_eq, expand_eq_of_replaces hreplaces]
  · rintro rfl
    exact ⟨reflTransGen_replaces_expand document, isSpelledOut_expand document⟩

end Json

namespace FilterNode

open Json

variable {document document' first : Json} {items items' rest : List Json} {key : String}
variable {op : Operator} {head : FilterHead} {node : FilterNode} {nodes : List FilterNode}
variable {patterns : PatternLanguage}

theorem readAll_append_eq_ok_iff : readAll patterns (items ++ rest) = .ok nodes ↔
    ∃ front back, readAll patterns items = .ok front ∧ readAll patterns rest = .ok back ∧
      front ++ back = nodes := by
  induction items generalizing nodes with
  | nil =>
      rw [readAll]
      constructor
      · intro h
        exact ⟨[], nodes, rfl, h, rfl⟩
      · rintro ⟨_, _, ⟨⟩, h, rfl⟩
        exact h
  | cons item items ih =>
      simp only [List.cons_append, readAll_cons_eq_ok_iff, ih]
      constructor
      · rintro ⟨node, _, hitem, ⟨front, back, hitems, hrest, rfl⟩, rfl⟩
        exact ⟨node :: front, back, ⟨node, front, hitem, hitems, rfl⟩, hrest, rfl⟩
      · rintro ⟨_, back, ⟨node, front, hitem, hitems, rfl⟩, hrest, rfl⟩
        exact ⟨node, front ++ back, hitem, ⟨front, back, hitems, hrest, rfl⟩, rfl⟩

theorem readHead_operation_eq_ok_iff (hkey : Operator.ofKey? key = some op) :
    readHead patterns (.object [(key, .array items)]) = .ok head ↔
      ∃ children, readAll patterns items = .ok children ∧ .joined op children = head := by
  rw [readHead, readObject, readMember, hkey]
  dsimp only
  simp only [readOperands, Fault.bind_eq_ok, Fault.pure_eq_ok]

theorem eq_single_of_operation?_eq_none (h : document.operation? = none)
    (hhead : readHead patterns document = .ok head) : head = .single head.node := by
  have hleaf (members : Members) (hmembers : (do
      let test ← FilterLeaf.read patterns members
      return FilterHead.single (.leaf test)) = .ok head) : head = .single head.node := by
    simp only [Fault.bind_eq_ok, Fault.pure_eq_ok] at hmembers
    obtain ⟨test, -, rfl⟩ := hmembers
    rfl
  cases document with
  | array items =>
      cases items with
      | nil => rw [readHead, readList] at hhead; cases hhead
      | cons first rest =>
          simp only [readHead, readList, Fault.bind_eq_ok, Fault.pure_eq_ok] at hhead
          obtain ⟨others, -, _, -, rfl⟩ := hhead
          rfl
  | object members =>
      rw [readHead] at hhead
      by_cases hone : ∃ m, members = [m]
      · obtain ⟨⟨key, value⟩, rfl⟩ := hone
        rw [readObject, readMember] at hhead
        cases hkey : Operator.ofKey? key with
        | none => rw [hkey] at hhead; exact hleaf _ hhead
        | some op =>
            rw [hkey] at hhead
            obtain ⟨children, hchildren, -⟩ := Fault.bind_eq_ok.mp hhead
            cases value with
            | array items =>
                rw [operation?_eq_some_iff.mpr ⟨by rw [hkey]; rfl, rfl⟩] at h
                cases h
            | _ => cases hchildren
      · rw [readObject.eq_2 patterns members (not_exists.mp hone)] at hhead
        exact hleaf members hhead
  | _ => cases hhead

theorem read_list_eq_ok_iff : read patterns (.array (first :: rest)) = .ok node ↔
    ∃ head others, readHead patterns first = .ok head ∧ readAll patterns rest = .ok others ∧
      head.extend others = node := by
  simp only [read_eq_ok_iff, readHead, readList, Fault.bind_eq_ok, Fault.pure_eq_ok]
  constructor
  · rintro ⟨_, ⟨others, hothers, head, hhead, rfl⟩, rfl⟩
    exact ⟨head, others, hhead, hothers, rfl⟩
  · rintro ⟨head, others, hhead, hothers, rfl⟩
    exact ⟨_, ⟨others, hothers, head, hhead, rfl⟩, rfl⟩

theorem read_eq_ok_iff_of_joins (h : Joins document key items)
    (hkey : Operator.ofKey? key = some op) :
    read patterns document = .ok node ↔
      ∃ children, readAll patterns items = .ok children ∧ op.join children = node := by
  cases h with
  | operation =>
      simp only [read_eq_ok_iff, readHead_operation_eq_ok_iff hkey]
      constructor
      · rintro ⟨_, ⟨children, hchildren, rfl⟩, rfl⟩
        exact ⟨children, hchildren, rfl⟩
      · rintro ⟨children, hchildren, rfl⟩
        exact ⟨_, ⟨children, hchildren, rfl⟩, rfl⟩
  | led _ items rest =>
      simp only [read_list_eq_ok_iff, readHead_operation_eq_ok_iff hkey, readAll_append_eq_ok_iff]
      constructor
      · rintro ⟨_, others, ⟨children, hchildren, rfl⟩, hothers, rfl⟩
        exact ⟨children ++ others, ⟨children, others, hchildren, hothers, rfl⟩, rfl⟩
      · rintro ⟨_, ⟨children, others, hchildren, hothers, rfl⟩, rfl⟩
        exact ⟨_, others, ⟨children, hchildren, rfl⟩, hothers, rfl⟩
  | unled hfirst rest =>
      have hop : op = .disjunction := Option.some.inj (hkey.symm.trans (by decide))
      subst hop
      rw [read_list_eq_ok_iff]
      simp only [readAll_cons_eq_ok_iff, read_eq_ok_iff]
      constructor
      · rintro ⟨head, others, hhead, hothers, rfl⟩
        refine ⟨_, ⟨head.node, others, ⟨head, hhead, rfl⟩, hothers, rfl⟩, ?_⟩
        rw [eq_single_of_operation?_eq_none hfirst hhead]
        rfl
      · rintro ⟨_, ⟨_, others, ⟨head, hhead, rfl⟩, hothers, rfl⟩, rfl⟩
        refine ⟨head, others, hhead, hothers, ?_⟩
        rw [eq_single_of_operation?_eq_none hfirst hhead]
        rfl

theorem readAll_congr {item item' : Json} (before after : List Json)
    (h : ∀ node, read patterns item = .ok node ↔ read patterns item' = .ok node) :
    readAll patterns (before ++ item :: after) = .ok nodes ↔
      readAll patterns (before ++ item' :: after) = .ok nodes := by
  simp only [readAll_append_eq_ok_iff, readAll_cons_eq_ok_iff, h]

theorem read_iff_of_joins (h : Joins document key items)
    (h' : Joins document' key items) (node : FilterNode) :
    read patterns document = .ok node ↔ read patterns document' = .ok node := by
  obtain ⟨op, hop⟩ := Option.isSome_iff_exists.mp h.isSome_ofKey?
  rw [read_eq_ok_iff_of_joins h hop, read_eq_ok_iff_of_joins h' hop]

theorem read_iff_of_replaces (h : Replaces document document') (node : FilterNode) :
    read patterns document = .ok node ↔ read patterns document' = .ok node := by
  induction h generalizing node with
  | list h => exact read_iff_of_joins h (.operation h.isSome_ofKey? _) node
  | operand hkey before after h ih =>
      obtain ⟨op, hop⟩ := Option.isSome_iff_exists.mp hkey
      rw [read_eq_ok_iff_of_joins (.operation hkey _) hop,
        read_eq_ok_iff_of_joins (.operation hkey _) hop]
      exact exists_congr fun children => and_congr_left' (readAll_congr before after ih)

theorem read_iff_of_reflTransGen (h : ReflTransGen Replaces document document')
    (node : FilterNode) :
    read patterns document = .ok node ↔ read patterns document' = .ok node := by
  induction h with
  | refl => rfl
  | tail _ hstep ih => exact ih.trans (read_iff_of_replaces hstep node)

theorem exists_read_of_mem {item : Json} (hitem : item ∈ items)
    (h : readAll patterns items = .ok nodes) : ∃ node, read patterns item = .ok node := by
  obtain ⟨before, after, rfl⟩ := List.append_of_mem hitem
  obtain ⟨_, _, _, hrest, _⟩ := readAll_append_eq_ok_iff.mp h
  obtain ⟨node, _, hnode, _, _⟩ := readAll_cons_eq_ok_iff.mp hrest
  exact ⟨node, hnode⟩

theorem exists_read_of_standsIn {part : Json} (hpart : part.StandsIn document)
    (h : read patterns document = .ok node) : ∃ node, read patterns part = .ok node := by
  induction hpart generalizing node with
  | root => exact ⟨node, h⟩
  | @element item items hitem _ ih =>
      cases items with
      | nil => cases hitem
      | cons first rest =>
          obtain ⟨head, others, hhead, hothers, -⟩ := read_list_eq_ok_iff.mp h
          rcases List.mem_cons.mp hitem with rfl | hitem
          · exact ih (read_eq_ok_iff.mpr ⟨head, hhead, rfl⟩)
          · obtain ⟨_, hnode⟩ := exists_read_of_mem hitem hothers
            exact ih hnode
  | operand hkey hitem _ ih =>
      obtain ⟨op, hop⟩ := Option.isSome_iff_exists.mp hkey
      obtain ⟨children, hchildren, -⟩ :=
        (read_eq_ok_iff_of_joins (.operation hkey _) hop).mp h
      obtain ⟨_, hnode⟩ := exists_read_of_mem hitem hchildren
      exact ih hnode

/-- A list that an operator leads is read like the operator with the other elements joined to its
own, and every other list like one of `or`. Lists may be replaced by such objects from the outside
in, until there is none to replace: every document ends in one document, which is read like it and
has no list at all where filters are read if it is a filter. -/
theorem read_of_replaced_lists (patterns : PatternLanguage) :
    (∀ key key' op, Operator.ofKey? key = some op → Operator.ofKey? key' = some op →
      ∀ items rest node, read patterns (.array (.object [(key, .array items)] :: rest)) = .ok node ↔
        read patterns (.object [(key', .array (items ++ rest))]) = .ok node) ∧
    (∀ first rest,
      (∀ key items, (Operator.ofKey? key).isSome → first ≠ .object [(key, .array items)]) →
        ∀ node, read patterns (.array (first :: rest)) = .ok node ↔
          read patterns (.object [("or", .array (first :: rest))]) = .ok node) ∧
    (WellFounded fun document' document => Replaces document document') ∧
    ∀ document,
      (∀ document', ReflTransGen Replaces document document' →
        ∀ node, read patterns document = .ok node ↔ read patterns document' = .ok node) ∧
      (∀ document', ReflTransGen Replaces document document' ∧ document'.IsSpelledOut ↔
        document' = document.expand) ∧
      ∀ node, read patterns document = .ok node →
        ∀ items, ¬(Json.array items).StandsIn document.expand := by
  refine ⟨fun key key' op hkey hkey' items rest node => ?_, fun first rest hfirst => ?_,
    wellFounded_replaces, fun document => ⟨fun document' => read_iff_of_reflTransGen,
      fun document' => replaces_and_isSpelledOut_iff, fun node hnode items hlist => ?_⟩⟩
  · have hled := Joins.led (Option.isSome_of_eq_some hkey) items rest
    have hoperation := Joins.operation (Option.isSome_of_eq_some hkey') (items ++ rest)
    rw [read_eq_ok_iff_of_joins hled hkey, read_eq_ok_iff_of_joins hoperation hkey']
  · have hnone : first.operation? = none := by
      refine Option.eq_none_iff_forall_ne_some.mpr fun operation hoperation => ?_
      obtain ⟨hkey, heq⟩ := operation?_eq_some_iff.mp hoperation
      exact hfirst _ _ hkey heq
    exact read_iff_of_joins (.unled hnone rest) (.operation (by decide) _)
  · have hexpand := (read_iff_of_reflTransGen (reflTransGen_replaces_expand document) node).mp hnode
    obtain rfl := isSpelledOut_expand document items hlist
    obtain ⟨node', hnode'⟩ := exists_read_of_standsIn hlist hexpand
    obtain ⟨head, hhead, -⟩ := read_eq_ok_iff.mp hnode'
    rw [readHead, readList] at hhead
    cases hhead

/-- A list that an operator in capital letters leads stands in a list that no operator leads, beside
a test whose value is a list. -/
theorem read_of_replaced_lists_of_nested_lists :
    let test : Json := .object [("field", .text "depth"), ("value", .array [.int 1, .int 2])]
    let leaf : FilterNode := .leaf ⟨"depth", .among, .list [.int 1, .int 2], false, none⟩
    let led : Json := .array [.object [("AND", .array [test])], .array [test]]
    let spelled : Json := .object [("or", .array
      [.object [("AND", .array [test, .object [("or", .array [test])]])], test])]
    read Pattern.language led = .ok (.all [leaf, .any [leaf]]) ∧
      read Pattern.language (.array [test]) = .ok (.any [leaf]) ∧
      ReflTransGen Replaces (.array [led, test]) spelled ∧ spelled = expand (.array [led, test]) ∧
      read Pattern.language (.array [led, test]) = .ok (.any [.all [leaf, .any [leaf]], leaf]) ∧
      ∀ items, ¬(Json.array items).StandsIn spelled := by
  intro test leaf led spelled
  have hand' : Operator.ofKey? "AND" = some .conjunction := by decide
  have hor' : Operator.ofKey? "or" = some .disjunction := by decide
  have hand := Option.isSome_of_eq_some hand'
  have hor := Option.isSome_of_eq_some hor'
  have houter : Replaces (.array [led, test]) (.object [("or", .array [led, test])]) :=
    .list (.unled rfl [test])
  have hinner := Replaces.operand hor [] [test] (.list (.led hand [test] [.array [test]]))
  have hlast : Joins (.array [test]) "or" [test] := .unled rfl []
  have hinnermost := Replaces.operand hor [] [test] (.operand hand [test] [] (.list hlast))
  have hreplaces : ReflTransGen Replaces (.array [led, test]) spelled :=
    ((ReflTransGen.single houter).tail hinner).tail hinnermost
  have htest : test.IsSpelledOut := isSpelledOut_of_joined?_eq_none rfl
  have hspelledOut : spelled.IsSpelledOut := by
    simp [spelled, isSpelledOut_operation hor, isSpelledOut_operation hand, htest]
  obtain ⟨hled, hunled, -, hdocuments⟩ := read_of_replaced_lists Pattern.language
  obtain ⟨hsame, hunique, hlists⟩ := hdocuments (.array [led, test])
  have hcell : Cell.ofJson (.array [.int 1, .int 2]) = .list [.int 1, .int 2] := by
    simp only [Cell.ofJson, List.map_cons, List.map_nil]
    rfl
  have hread : read Pattern.language test = .ok leaf := by
    rw [read_test (FilterLeaf.read_field_value _ _), hcell]
    rfl
  have hnone : readAll Pattern.language [] = .ok [] := by rw [readAll]
  have hunledRead : read Pattern.language (.array [test]) = .ok (.any [leaf]) :=
    (hunled test [] (fun key items _ heq => by simp [test] at heq) _).mpr
      (read_operation hor' (readAll_cons hread hnone))
  have hall := read_operation hand' (readAll_cons hread
    (readAll_cons (read_operation hor' (readAll_cons hread hnone)) hnone))
  have hspelled := read_operation hor' (readAll_cons hall (readAll_cons hread hnone))
  have hnested := (hsame spelled hreplaces _).mpr hspelled
  have hexpand := (hunique spelled).mp ⟨hreplaces, hspelledOut⟩
  have hledRead : read Pattern.language led = .ok (.all [leaf, .any [leaf]]) :=
    (hled "AND" "AND" .conjunction hand' hand' [test] [.array [test]] _).mpr
      (read_operation hand' (readAll_cons hread (readAll_cons hunledRead hnone)))
  exact ⟨hledRead, hunledRead, hreplaces, hexpand, hnested, hexpand ▸ hlists _ hnested⟩

end FilterNode

end CrawlAudit
