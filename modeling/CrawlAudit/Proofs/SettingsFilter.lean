import CrawlAudit.Proofs.FilterReading
import CrawlAudit.Query.Group

/-!
# Filters in settings documents

Settings are read from an object, or from a list of the same elements in a fixed order. An object
keeps the filter of its document. The filter of a list is read and then left out.
-/

namespace CrawlAudit.QuerySettings

/-- The names of the elements in the order in which a list has them. -/
def elementNames : List String :=
  ["fields", "filters", "group_by", "sort", "target_field", "display_children"]

/-- The object with the elements of a list under their names. -/
def named (items : List Json) : Json.Members :=
  elementNames.zip items

/-- The element of a settings document that selects rows. -/
def filterElement? : Json → Option Json
  | .object members => Json.member? "filters" members
  | .array items => items[1]?
  | _ => none

def withoutFilter (settings : QuerySettings) : QuerySettings :=
  { settings with filter := none }

theorem lookup_zip {names : List String} (hnames : names.Nodup) (items : List Json) {i : Nat}
    (hi : i < names.length) : (names.zip items).lookup names[i] = items[i]? := by
  induction names generalizing items i with
  | nil => contradiction
  | cons name names ih =>
      obtain ⟨hname, hnames⟩ := List.nodup_cons.mp hnames
      cases items with
      | nil => rfl
      | cons item items =>
          rw [List.zip_cons_cons]
          cases i with
          | zero => rw [List.getElem_cons_zero, List.lookup_cons_self, List.getElem?_cons_zero]
          | succ i =>
              have hi : i < names.length := Nat.lt_of_succ_lt_succ hi
              have hne : (names[i] == name) = false :=
                beq_false_of_ne fun h => hname (h ▸ List.getElem_mem hi)
              rw [List.getElem_cons_succ, List.lookup_cons, hne, List.getElem?_cons_succ]
              exact ih hnames items hi

theorem member?_named (items : List Json) (i : Nat) (hi : i < elementNames.length) :
    Json.member? elementNames[i] (named items) = items[i]? :=
  lookup_zip (by decide) items hi

theorem readObject?_named (items : List Json) :
    readObject? (named items) =
      readElements? items[0]? items[2]? items[3]? items[4]? items[5]? := by
  rw [← member?_named items 0 (by decide), ← member?_named items 2 (by decide),
    ← member?_named items 3 (by decide), ← member?_named items 4 (by decide),
    ← member?_named items 5 (by decide)]
  rfl

theorem orInvalid_eq_ok {read : Option QuerySettings} {settings : QuerySettings} :
    orInvalid read = .ok settings ↔ read = some settings := by
  cases read <;> simp [orInvalid]

variable {patterns : PatternLanguage}

theorem isFilterElement_iff {element : Option Json} :
    isFilterElement patterns element = true ↔
      ∃ selected, readFilter patterns element = .ok selected := by
  rw [isFilterElement]
  cases readFilter patterns element <;> simp

theorem filter_of_readElements? {fields groupBy sort target displayChildren : Option Json}
    {settings : QuerySettings}
    (h : readElements? fields groupBy sort target displayChildren = some settings) :
    settings.filter = none := by
  simp only [readElements?, Option.bind_eq_bind, Option.bind_eq_some_iff] at h
  obtain ⟨_, -, _, -, _, -, _, -, _, -, hsettings⟩ := h
  cases hsettings
  rfl

theorem ofDocument_object_eq_ok {members : Json.Members} {settings : QuerySettings} :
    ofDocument patterns (.object members) = .ok settings ↔
      ∃ selected elements, readFilter patterns (Json.member? "filters" members) = .ok selected ∧
        readObject? members = some elements ∧ settings = { elements with filter := selected } := by
  simp only [ofDocument, Fault.bind_eq_ok, orInvalid_eq_ok]
  constructor
  · rintro ⟨selected, hselected, elements, helements, h⟩
    cases h
    exact ⟨selected, elements, hselected, helements, rfl⟩
  · rintro ⟨selected, elements, hselected, helements, rfl⟩
    exact ⟨selected, hselected, elements, helements, rfl⟩

theorem readList?_eq_some {items : List Json} {settings : QuerySettings} :
    readList? patterns items = some settings ↔
      items.length ≤ 6 ∧ (∃ selected, readFilter patterns items[1]? = .ok selected) ∧
        readObject? (named items) = some settings := by
  rw [readList?, readObject?_named, ← isFilterElement_iff]
  by_cases hlength : items.length ≤ 6
  · cases isFilterElement patterns items[1]? <;> simp [hlength, Nat.not_lt.mpr hlength]
  · simp [hlength, Nat.not_le.mp hlength]

/-- A list is read like the object of its elements, except that its filter is left out. -/
theorem ofDocument_array_eq_ok {items : List Json} {settings : QuerySettings} :
    ofDocument patterns (.array items) = .ok settings ↔
      items.length ≤ 6 ∧
        ∃ full, ofDocument patterns (.object (named items)) = .ok full ∧
          settings = full.withoutFilter := by
  have hfilter : Json.member? "filters" (named items) = items[1]? :=
    member?_named items 1 (by decide)
  change orInvalid (readList? patterns items) = .ok settings ↔ _
  rw [orInvalid_eq_ok, readList?_eq_some]
  simp only [ofDocument_object_eq_ok, hfilter]
  constructor
  · rintro ⟨hlength, ⟨selected, hselected⟩, helements⟩
    have hnone : settings.withoutFilter = settings := by
      rw [withoutFilter, ← filter_of_readElements? helements]
    exact ⟨hlength, _, ⟨selected, settings, hselected, helements, rfl⟩, hnone.symm⟩
  · rintro ⟨hlength, full, ⟨selected, elements, hselected, helements, rfl⟩, rfl⟩
    have hnone : elements.withoutFilter = elements := by
      rw [withoutFilter, ← filter_of_readElements? helements]
    exact ⟨hlength, ⟨selected, hselected⟩, hnone ▸ helements⟩

theorem readFilter_eq_ok_none {element : Option Json} :
    readFilter patterns element = .ok none ↔ element.getD .null = .null := by
  cases element with
  | none => simp [readFilter]
  | some document =>
      cases document with
      | null => simp [readFilter]
      | _ =>
          simp only [readFilter, Option.getD_some, reduceCtorEq, iff_false]
          intro h
          cases hread : Filter.read _ _ <;> rw [hread] at h <;> cases h

/-- The filter of accepted settings. That of an object is the one of its element, and none if the
element is missing or null. A list gives the settings of the object of its elements but for the
filter, which is none. -/
theorem filter_of_ofText {text : String} {settings : QuerySettings}
    (h : ofText text patterns = .ok settings) :
    ∃ document selected, Json.read? text = some document ∧
      readFilter patterns (filterElement? document) = .ok selected ∧
      (selected = none ↔ (filterElement? document).getD .null = .null) ∧
      ((∃ members, document = .object members) ∧ settings.filter = selected ∨
        ∃ items, document = .array items ∧ ∃ full,
          ofDocument patterns (.object (named items)) = .ok full ∧ full.filter = selected ∧
            settings = full.withoutFilter) := by
  have hnone {element : Option Json} {selected : Option Filter}
      (hselected : readFilter patterns element = .ok selected) :
      selected = none ↔ element.getD .null = .null := by
    rw [← readFilter_eq_ok_none, hselected, Except.ok.injEq]
  rw [ofText] at h
  cases hread : Json.read? text with
  | none => simp [hread] at h
  | some document =>
      rw [hread] at h
      cases document with
      | object members =>
          obtain ⟨selected, elements, hselected, -, rfl⟩ := ofDocument_object_eq_ok.mp h
          exact ⟨_, selected, rfl, hselected, hnone hselected, .inl ⟨⟨members, rfl⟩, rfl⟩⟩
      | array items =>
          obtain ⟨-, full, hfull, rfl⟩ := ofDocument_array_eq_ok.mp h
          obtain ⟨selected, elements, hselected, -, rfl⟩ := ofDocument_object_eq_ok.mp hfull
          have helement : Json.member? "filters" (named items) = items[1]? :=
            member?_named items 1 (by decide)
          rw [helement] at hselected
          exact ⟨_, selected, rfl, hselected, hnone hselected,
            .inr ⟨items, rfl, _, hfull, rfl, rfl⟩⟩
      | _ => cases h

theorem filter_of_ofText_of_object :
    let text := "\x7b\"filters\": \x7b\"field\": \"title\", \"value\": \"Home\"\x7d\x7d"
    let element : Json := .object [("field", .text "title"), ("value", .text "Home")]
    ∃ settings, ofText text = .ok settings ∧ settings.filter.isSome ∧
      readFilter Pattern.language (some element) = .ok settings.filter := by
  intro text element
  have hread : Json.read? text = some (.object [("filters", element)]) := by decide +kernel
  have haccepted : ∃ settings, ofText text = .ok settings ∧ settings.filter.isSome := by
    rw [ofText, hread]
    exact ⟨_, rfl, rfl⟩
  obtain ⟨settings, hsettings, hsome⟩ := haccepted
  refine ⟨settings, hsettings, hsome, ?_⟩
  obtain ⟨document, selected, hdocument, hselected, -, hshape⟩ := filter_of_ofText hsettings
  cases hread.symm.trans hdocument
  obtain ⟨-, hfilter⟩ | ⟨items, hitems, -⟩ := hshape
  · exact hfilter ▸ hselected
  · cases hitems

/-- The filter of a list is read without a fault and left out, so that a row is selected which the
filter does not accept. -/
theorem select_of_ofText_of_array :
    let text := "[null, \x7b\"field\": \"title\", \"value\": \"Home\"\x7d]"
    let element : Json := .object [("field", .text "title"), ("value", .text "Home")]
    let table : Table := ⟨["title"], [[.text "Home"], [.text "News"]]⟩
    Json.read? text = some (.array [.null, element]) ∧
      ∃ settings filter, ofText text = .ok settings ∧
        readFilter Pattern.language (some element) = .ok (some filter) ∧ settings.filter = none ∧
        table.select (some filter) = [[.text "Home"]] ∧
        table.select settings.filter = [[.text "Home"], [.text "News"]] := by
  intro text element table
  have hread : Json.read? text = some (.array [.null, element]) := by decide +kernel
  have hleaf : FilterLeaf.read Pattern.language [("field", .text "title"),
      ("value", .text "Home")] = .ok ⟨"title", .eq, .text "Home", false, none⟩ := by
    rw [FilterLeaf.read_field_value, Cell.ofJson]
    rfl
  let filter : Filter := ⟨element, .leaf ⟨"title", .eq, .text "Home", false, none⟩⟩
  have hfilter : Filter.read filter.document Pattern.language = .ok filter :=
    Filter.read_eq_ok_iff.mpr (FilterNode.read_test hleaf)
  refine ⟨hread, default, filter, ?_⟩
  refine ⟨?_, congrArg (Except.map some) hfilter, rfl, by decide +kernel, rfl⟩
  rw [ofText, hread]
  rfl

end CrawlAudit.QuerySettings
