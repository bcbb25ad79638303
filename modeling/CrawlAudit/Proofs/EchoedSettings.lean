import CrawlAudit.Proofs.SettingsFilter
import CrawlAudit.Proofs.WrittenScalars
import CrawlAudit.Proofs.SortedMap

/-!
# Echoed settings

Settings that were read are written as one object, whichever form their document has: with all
elements, each that is missing at its default, and the directions of the sort in capital letters.
Reading the object gives the same settings again.
-/

namespace CrawlAudit

theorem Json.text?_eq_some_iff {document : Json} {s : String} :
    document.text? = some s ↔ document = .text s := by
  cases document <;> simp [text?]

theorem Json.bool?_eq_some_iff {document : Json} {b : Bool} :
    document.bool? = some b ↔ document = .bool b := by
  cases document <;> simp [bool?]

namespace Direction

def capitals (name : String) : String :=
  String.ofList (name.toList.map Char.toUpper)

/-- A direction by its name in capital letters. -/
def spelled : Json → Json
  | .text name => .text (capitals name)
  | .object [(name, .null)] => .text (capitals name)
  | document => document

theorem capitals_of_ofName? {name : String} {direction : Direction}
    (h : ofName? name = some direction) : capitals name = direction.name := by
  rw [ofName?] at h
  split at h
  · cases h
    rename_i hname
    rcases hname with rfl | rfl <;> decide
  · split at h
    · cases h
      rename_i hname
      rcases hname with rfl | rfl <;> decide
    · cases h

theorem spelled_of_read? {document : Json} {direction : Direction}
    (h : read? document = some direction) : spelled document = .text direction.name := by
  rw [read?.eq_def] at h
  split at h
  · exact congrArg Json.text (capitals_of_ofName? h)
  · exact congrArg Json.text (capitals_of_ofName? h)
  · cases h

theorem read?_name (direction : Direction) : read? (.text direction.name) = some direction := by
  cases direction <;> rfl

end Direction

namespace QuerySettings

def spelledPair : Json → Json
  | .array [field, direction] => .array [field, Direction.spelled direction]
  | document => document

def spelledSort : Json → Json
  | .array pairs => .array (pairs.map spelledPair)
  | document => document

/-- The object of some elements. What is missing has its default. -/
def canonicalObject (fields filters groupBy sort target displayChildren : Option Json) : Json :=
  .ofMembers
    [("fields", fields.getD .null),
      ("filters", filters.getD .null),
      ("group_by", groupBy.getD .null),
      ("sort", spelledSort (sort.getD .null)),
      ("target_field", target.getD (.text "pages_nb")),
      ("display_children", displayChildren.getD (.bool true))]

/-- The object that stands for a settings document. A list gives none of its filter. -/
def canonical : Json → Json
  | .object members =>
    canonicalObject (Json.member? "fields" members) (Json.member? "filters" members)
      (Json.member? "group_by" members) (Json.member? "sort" members)
      (Json.member? "target_field" members) (Json.member? "display_children" members)
  | .array items =>
    canonicalObject items[0]? none items[2]? items[3]? items[4]? items[5]?
  | document => document

section

variable {α : Type} {read? : Json → Option α} {write : α → Json}

theorem map_eq_of_mapM_eq_some {spell : Json → Json}
    (hspell : ∀ document a, read? document = some a → spell document = write a)
    {items : List Json} {values : List α} (h : items.mapM read? = some values) :
    items.map spell = values.map write := by
  induction items generalizing values with
  | nil =>
      cases h
      rfl
  | cons item items ih =>
      simp only [List.mapM_cons, Option.bind_eq_bind, Option.bind_eq_some_iff] at h
      obtain ⟨a, ha, others, hothers, hvalues⟩ := h
      cases hvalues
      rw [List.map_cons, List.map_cons, hspell item a ha, ih hothers]

theorem spell_of_readOptional? (spell : Json → Json) (hnull : spell .null = .null)
    (hspell : ∀ document a, read? document = some a → spell document = write a)
    {document : Json} {value : Option α} (h : readOptional? read? document = some value) :
    spell document = optionalDocument write value := by
  rw [readOptional?.eq_def] at h
  split at h
  · cases h
    exact hnull
  · obtain ⟨a, ha, rfl⟩ := Option.map_eq_some_iff.mp h
    exact hspell document a ha

theorem readOptional?_optionalDocument (hread : ∀ a, read? (write a) = some a)
    (hnull : ∀ a, write a ≠ .null) (value : Option α) :
    readOptional? read? (optionalDocument write value) = some value := by
  cases value with
  | none => rfl
  | some a =>
      rw [optionalDocument, readOptional?, hread, Option.map_some]
      exact hnull a

end

theorem namesDocument_of_readNames? {document : Json} {names : List String}
    (h : readNames? document = some names) : document = namesDocument names := by
  obtain ⟨items, hitems, hnames⟩ := Option.bind_eq_some_iff.mp h
  have htext : ∀ item name, Json.text? item = some name → id item = .text name :=
    fun _ _ => Json.text?_eq_some_iff.mp
  cases document <;> cases hitems
  rw [namesDocument, ← map_eq_of_mapM_eq_some htext hnames, List.map_id]

theorem readNames?_namesDocument (names : List String) :
    readNames? (namesDocument names) = some names := by
  have htext : ∀ name ∈ names, Json.text? (.text name) = some name := fun _ _ => rfl
  exact mapM_map_eq_some htext

theorem spelledPair_of_readSortPair? {document : Json} {entry : String × Direction}
    (h : readSortPair? document = some entry) :
    spelledPair document = .array [.text entry.1, .text entry.2.name] := by
  rw [readSortPair?.eq_def] at h
  split at h
  · obtain ⟨direction, hdirection, rfl⟩ := Option.map_eq_some_iff.mp h
    rw [spelledPair, Direction.spelled_of_read? hdirection]
  · cases h

theorem spelledSort_of_readSort? {document : Json} {entries : List (String × Direction)}
    (h : readSort? document = some entries) : spelledSort document = sortDocument entries := by
  obtain ⟨items, hitems, hentries⟩ := Option.bind_eq_some_iff.mp h
  cases document <;> cases hitems
  rw [spelledSort, map_eq_of_mapM_eq_some (fun _ _ => spelledPair_of_readSortPair?) hentries,
    sortDocument]

theorem readSort?_sortDocument (entries : List (String × Direction)) :
    readSort? (sortDocument entries) = some entries := by
  have hpair : ∀ entry ∈ entries,
      readSortPair? (.array [.text entry.1, .text entry.2.name]) = some entry := by
    intro entry _
    rw [readSortPair?, Direction.read?_name, Option.map_some]
  exact mapM_map_eq_some hpair

variable {patterns : PatternLanguage}

theorem optionalDocument_of_readFilter {element : Option Json} {selected : Option Filter}
    (h : readFilter patterns element = .ok selected) :
    element.getD .null = optionalDocument Filter.document selected ∧
      readFilter patterns (some (optionalDocument Filter.document selected)) = .ok selected := by
  cases selected with
  | none => exact ⟨readFilter_eq_ok_none.mp h, rfl⟩
  | some filter =>
      have hdocument : element = some filter.document := by
        rw [readFilter.eq_def] at h
        split at h
        · cases h
        · cases h
        · rename_i document _
          rw [Filter.read] at h
          cases hroot : FilterNode.read patterns document with
          | error fault =>
              rw [hroot] at h
              cases h
          | ok root =>
              rw [hroot] at h
              cases h
              rfl
      rw [hdocument] at h ⊢
      exact ⟨rfl, h⟩

theorem toDocument_of_readElements?
    {fields filters groupBy sort target displayChildren : Option Json}
    {elements : QuerySettings} {selected : Option Filter}
    (h : readElements? fields groupBy sort target displayChildren = some elements)
    (hfilter : readFilter patterns filters = .ok selected) :
    toDocument { elements with filter := selected } =
      canonicalObject fields filters groupBy sort target displayChildren := by
  simp only [readElements?, Option.bind_eq_bind, Option.bind_eq_some_iff] at h
  obtain ⟨names, hnames, groups, hgroups, entries, hentries, name, hname, shown, hshown,
    helements⟩ := h
  cases helements
  have hfields : fields.getD .null = optionalDocument namesDocument names :=
    spell_of_readOptional? id rfl (fun _ _ => namesDocument_of_readNames?) hnames
  have hgroupBy : groupBy.getD .null = optionalDocument namesDocument groups :=
    spell_of_readOptional? id rfl (fun _ _ => namesDocument_of_readNames?) hgroups
  have hsort : spelledSort (sort.getD .null) = optionalDocument sortDocument entries :=
    spell_of_readOptional? spelledSort rfl (fun _ _ => spelledSort_of_readSort?) hentries
  have htarget : target.getD (.text "pages_nb") = .text name :=
    Json.text?_eq_some_iff.mp hname
  have hchildren : displayChildren.getD (.bool true) = .bool shown :=
    Json.bool?_eq_some_iff.mp hshown
  rw [canonicalObject, hfields, (optionalDocument_of_readFilter hfilter).1, hgroupBy, hsort,
    htarget, hchildren]
  rfl

theorem toDocument_eq_object (settings : QuerySettings) :
    settings.toDocument = .object
      [("display_children", .bool settings.displayChildren),
        ("fields", optionalDocument namesDocument settings.fields),
        ("filters", optionalDocument Filter.document settings.filter),
        ("group_by", optionalDocument namesDocument settings.groupBy),
        ("sort", optionalDocument sortDocument settings.sort),
        ("target_field", .text settings.target)] := by
  have hkeys : ["display_children", "fields", "filters", "group_by", "sort",
      "target_field"].Pairwise fun a b => Order.texts a b = .lt := by
    decide +kernel
  exact congrArg Json.object
    (Sorted.ofList_eq_of_perm hkeys (@List.perm_append_comm _ [_, _, _, _, _] [_]))

/-- What is written is read back, if the filter is read from its document. -/
theorem ofDocument_toDocument {settings : QuerySettings}
    (hfilter : readFilter patterns (some (optionalDocument Filter.document settings.filter)) =
      .ok settings.filter) : ofDocument patterns settings.toDocument = .ok settings := by
  have hnames (names : Option (List String)) :
      readOptional? readNames? (optionalDocument namesDocument names) = some names :=
    readOptional?_optionalDocument readNames?_namesDocument (fun _ => nofun) names
  have hsort : readOptional? readSort? (optionalDocument sortDocument settings.sort) =
      some settings.sort :=
    readOptional?_optionalDocument readSort?_sortDocument (fun _ => nofun) settings.sort
  rw [toDocument_eq_object, ofDocument_object_eq_ok]
  refine ⟨settings.filter, settings.withoutFilter, hfilter, ?_, rfl⟩
  change readElements? (some (optionalDocument namesDocument settings.fields))
    (some (optionalDocument namesDocument settings.groupBy))
    (some (optionalDocument sortDocument settings.sort)) (some (.text settings.target))
    (some (.bool settings.displayChildren)) = _
  simp only [readElements?, Option.getD_some, hnames, hsort, Option.bind_eq_bind,
    Option.bind_some, Json.text?, Json.bool?]
  rfl

theorem echo_of_ofDocument {document : Json} {settings : QuerySettings}
    (h : ofDocument patterns document = .ok settings) :
    settings.toDocument = canonical document ∧
      ofDocument patterns settings.toDocument = .ok settings := by
  cases document with
  | object members =>
      obtain ⟨selected, elements, hselected, helements, rfl⟩ := ofDocument_object_eq_ok.mp h
      exact ⟨toDocument_of_readElements? helements hselected,
        ofDocument_toDocument (optionalDocument_of_readFilter hselected).2⟩
  | array items =>
      obtain ⟨-, _, hfull, rfl⟩ := ofDocument_array_eq_ok.mp h
      obtain ⟨selected, elements, -, helements, rfl⟩ := ofDocument_object_eq_ok.mp hfull
      rw [readObject?_named] at helements
      have hnone : readFilter patterns none = .ok none := rfl
      have hwritten : toDocument { elements with filter := none } = canonical (.array items) :=
        toDocument_of_readElements? helements hnone
      exact ⟨hwritten, ofDocument_toDocument rfl⟩
  | _ => cases h

/-- The settings that are read from a text are written as the canonical form of its document, and
the form reads back as the same settings with the same filter. It is its own canonical form, and
two texts have the same one exactly if they have the same settings. -/
theorem echo_of_ofText {text : String} {settings : QuerySettings}
    (h : ofText text patterns = .ok settings) :
    ∃ document, Json.read? text = some document ∧ settings.toDocument = canonical document ∧
      ofDocument patterns settings.toDocument = .ok settings ∧
      canonical settings.toDocument = settings.toDocument ∧
      ∀ (other : String) (settings' : QuerySettings), ofText other patterns = .ok settings' →
        (settings'.toDocument = settings.toDocument ↔ settings' = settings) := by
  have hecho {text : String} {settings : QuerySettings} (h : ofText text patterns = .ok settings) :
      ∃ document, Json.read? text = some document ∧ settings.toDocument = canonical document ∧
        ofDocument patterns settings.toDocument = .ok settings := by
    rw [ofText] at h
    cases hread : Json.read? text with
    | none => simp [hread] at h
    | some document =>
        rw [hread] at h
        exact ⟨document, rfl, echo_of_ofDocument h⟩
  obtain ⟨document, hread, hwritten, hback⟩ := hecho h
  refine ⟨document, hread, hwritten, hback, (echo_of_ofDocument hback).1.symm, ?_⟩
  intro other settings' hother
  obtain ⟨_, _, _, hback'⟩ := hecho hother
  constructor
  · intro hsame
    rw [hsame, hback] at hback'
    exact (Except.ok.inj hback').symm
  · rintro rfl
    rfl

/-- Directions in two spellings, an empty list, a filter and defaults. -/
theorem echo_of_ofText_of_mixed_spellings :
    let text := "\x7b\"fields\":[],\"filters\":\x7b\"field\":\"id\",\"value\":\"x\"\x7d," ++
      "\"sort\":[[\"a\",\x7b\"asc\":null\x7d],[\"b\",\"desc\"]]\x7d"
    let element : Json := .object [("field", .text "id"), ("value", .text "x")]
    ∃ settings, ofText text = .ok settings ∧ settings.filter.isSome ∧
      settings.toDocument = .object
        [("display_children", .bool true), ("fields", .array []), ("filters", element),
          ("group_by", .null),
          ("sort", .array [.array [.text "a", .text "ASC"], .array [.text "b", .text "DESC"]]),
          ("target_field", .text "pages_nb")] ∧
      ofDocument Pattern.language settings.toDocument = .ok settings := by
  intro text element
  have hread : Json.read? text = some (.object
      [("fields", .array []), ("filters", element),
        ("sort", .array [.array [.text "a", .object [("asc", .null)]],
          .array [.text "b", .text "desc"]])]) := by
    decide +kernel
  have haccepted : ∃ settings, ofText text = .ok settings ∧ settings.filter.isSome := by
    rw [ofText, hread]
    exact ⟨_, rfl, rfl⟩
  obtain ⟨settings, hsettings, hfilter⟩ := haccepted
  obtain ⟨document, hdocument, hwritten, hback, -, -⟩ := echo_of_ofText hsettings
  cases hread.symm.trans hdocument
  exact ⟨settings, hsettings, hfilter, hwritten.trans (by decide +kernel), hback⟩

end QuerySettings

end CrawlAudit
