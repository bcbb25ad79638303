import CrawlAudit.Proofs.UnnamedColumns

/-!
# Checked fields

A strict query is refused at the first field that it names and that is neither a column of the
table nor in the catalog, wherever it is named. A query without such a field has the result that it
has when its fields are not checked.
-/

namespace CrawlAudit

/-- A column of the table, a dimension, a counter, or what stands before a dot in a counter. -/
def FieldCatalog.Admits (catalog : FieldCatalog) (columns : List String) (field : String) : Prop :=
  field ∈ columns ∨ field ∈ catalog.dimensions ∨ field ∈ catalog.counters ∨
    ∃ rest, field ++ "." ++ rest ∈ catalog.counters

namespace QuerySettings

/-- A field that is named among the counters to show, in the grouping, in the sorting or in a test
of the filter, at any depth. -/
def Mentions (settings : QuerySettings) (field : String) : Prop :=
  (∃ fields ∈ settings.fields, field ∈ fields) ∨ (∃ keys ∈ settings.groupBy, field ∈ keys) ∨
    (∃ entries ∈ settings.sort, ∃ entry ∈ entries, entry.1 = field) ∨
    ∃ filter ∈ settings.filter, ∃ test, filter.root.HasTest test ∧ test.field = field

/-- The first field that is not admitted: those of the counters to show come first, then the
grouping, the sorting, and the tests of the filter from left to right. -/
def FirstUnknown (settings : QuerySettings) (catalog : FieldCatalog) (columns : List String)
    (field : String) : Prop :=
  ∃ before after,
    settings.fields.getD [] ++ settings.groupBy.getD [] ++ (settings.sort.getD []).map Prod.fst ++
        settings.filterFields = before ++ field :: after ∧
      ¬catalog.Admits columns field ∧ ∀ f ∈ before, catalog.Admits columns f

end QuerySettings

namespace FieldCatalog

variable {catalog : FieldCatalog} {columns fields : List String} {field : String}

theorem isUnder_iff {counter : String} :
    isUnder field counter = true ↔ ∃ rest, field ++ "." ++ rest = counter := by
  have hdot : (field ++ ".").toList = field.toList ++ ['.'] := String.toList_append
  rw [isUnder, List.isPrefixOf_iff_prefix, ← hdot]
  constructor
  · rintro ⟨rest, hrest⟩
    refine ⟨String.ofList rest, String.toList_inj.mp ?_⟩
    rw [String.toList_append, String.toList_ofList, hrest]
  · rintro ⟨rest, rfl⟩
    exact ⟨rest.toList, String.toList_append.symm⟩

theorem hasChildren_iff :
    catalog.hasChildren field = true ↔ ∃ rest, field ++ "." ++ rest ∈ catalog.counters := by
  rw [hasChildren, children, Bool.not_eq_true', ← Bool.not_eq_true, List.isEmpty_iff,
    List.filter_eq_nil_iff]
  simp only [isUnder_iff]
  constructor
  · intro h
    by_contra hnone
    refine h fun counter hcounter => ?_
    rintro ⟨rest, rfl⟩
    exact hnone ⟨rest, hcounter⟩
  · rintro ⟨rest, hrest⟩ h
    exact h _ hrest ⟨rest, rfl⟩

theorem admits_iff :
    catalog.Admits columns field ↔ (catalog.isKnown field || columns.contains field) = true := by
  rw [Admits, ← hasChildren_iff, isKnown, isDimension]
  simp only [Bool.or_eq_true, List.contains_iff_mem]
  tauto

instance (catalog : FieldCatalog) (columns : List String) (field : String) :
    Decidable (catalog.Admits columns field) :=
  decidable_of_iff _ admits_iff.symm

theorem validate_strict_eq_error_iff {fault : Fault} :
    catalog.validate fields columns .strict = .error fault ↔
      ∃ field, (∃ before after, fields = before ++ field :: after ∧
          ¬catalog.Admits columns field ∧ ∀ f ∈ before, catalog.Admits columns f) ∧
        fault = .badRequest (.fieldNotAllowed field) := by
  have hfind (field : String) :
      (fields.find? fun f => !(catalog.isKnown f || columns.contains f)) = some field ↔
        ∃ before after, fields = before ++ field :: after ∧
          ¬catalog.Admits columns field ∧ ∀ f ∈ before, catalog.Admits columns f := by
    simp only [List.find?_eq_some_iff_append, admits_iff, Bool.not_eq_true', Bool.not_not,
      Bool.not_eq_true]
    constructor
    · rintro ⟨hfield, before, after, rfl, hbefore⟩
      exact ⟨before, after, rfl, hfield, hbefore⟩
    · rintro ⟨before, after, rfl, hfield, hbefore⟩
      exact ⟨hfield, before, after, rfl, hbefore⟩
  simp only [← hfind, validate]
  cases fields.find? fun f => !(catalog.isKnown f || columns.contains f) with
  | none => simp
  | some field =>
      constructor
      · intro h
        cases h
        exact ⟨field, rfl, rfl⟩
      · rintro ⟨_, ⟨⟩, rfl⟩
        rfl

end FieldCatalog

namespace QuerySettings

variable {settings : QuerySettings} {catalog : FieldCatalog} {table : Table}

theorem mentions_iff {field : String} :
    settings.Mentions field ↔ field ∈ settings.referencedFields ++ settings.filterFields := by
  rw [referencedFields, List.mem_append, List.mem_append, List.mem_append, mem_getD_nil,
    mem_getD_nil, mem_sortFields, mem_filterFields, or_assoc, or_assoc]
  rfl

theorem validate_strict_eq_ok_iff :
    settings.validate catalog table .strict = .ok () ↔
      ∀ field, settings.Mentions field → catalog.Admits table.columns field := by
  simp only [validate, FieldCatalog.validate_eq_ok_iff, FieldCatalog.admits_iff, mentions_iff,
    reduceCtorEq, false_or]

theorem validate_strict_eq_error_iff {fault : Fault} :
    settings.validate catalog table .strict = .error fault ↔
      ∃ field, settings.FirstUnknown catalog table.columns field ∧
        fault = .badRequest (.fieldNotAllowed field) :=
  FieldCatalog.validate_strict_eq_error_iff

end QuerySettings

theorem Fault.message?_fieldNotAllowed (field : String) :
    message? (.badRequest (.fieldNotAllowed field)) =
      some ("Bad request: Field " ++ field ++ " not allowed in query") := by
  have hliteral : "Bad request: Field " = "Bad request: " ++ "Field " := by decide
  rw [message?, RequestFault.message, hliteral, String.append_assoc, String.append_assoc,
    String.append_assoc]

namespace MetricsQuery

variable {store : TableStore} {table : Table}

/-- Without a strict check every query on a table has a result. A strict query has the same one
where the table or the catalog admits all fields that it mentions; any other is a bad request whose
message names the first field that they do not admit. -/
theorem run_strict (htable : store.table? TableStore.crawlTable = some table)
    (catalog : FieldCatalog) (keeps : Group → Bool) (settings : QuerySettings) :
    ∃ result, run ⟨catalog, .advisory, keeps⟩ store settings = .ok result ∧
      (run ⟨catalog, .strict, keeps⟩ store settings = .ok result ↔
        ∀ field, settings.Mentions field → catalog.Admits table.columns field) ∧
      ((∃ fault, run ⟨catalog, .strict, keeps⟩ store settings = .error (.badRequest fault)) ↔
        ∃ field, settings.Mentions field ∧ ¬catalog.Admits table.columns field) ∧
      ∀ fault, run ⟨catalog, .strict, keeps⟩ store settings = .error fault ↔
        ∃ field, settings.FirstUnknown catalog table.columns field ∧
          fault = .badRequest (.fieldNotAllowed field) ∧
          fault.message? = some ("Bad request: Field " ++ field ++ " not allowed in query") := by
  let advisory : MetricsQuery := ⟨catalog, .advisory, keeps⟩
  let strict : MetricsQuery := ⟨catalog, .strict, keeps⟩
  have hstrict : strict.run store settings = (settings.validate catalog table .strict).bind
      fun _ => .ok (advisory.result settings table) :=
    strict.run_eq_bind htable
  have hok : strict.run store settings = .ok (advisory.result settings table) ↔
      ∀ field, settings.Mentions field → catalog.Admits table.columns field := by
    rw [hstrict, ← QuerySettings.validate_strict_eq_ok_iff]
    cases settings.validate catalog table .strict <;> simp [Except.bind]
  have herror (fault : Fault) : strict.run store settings = .error fault ↔
      ∃ field, settings.FirstUnknown catalog table.columns field ∧
        fault = .badRequest (.fieldNotAllowed field) := by
    rw [hstrict, ← QuerySettings.validate_strict_eq_error_iff]
    cases settings.validate catalog table .strict <;> simp [Except.bind]
  have hcases : strict.run store settings = .ok (advisory.result settings table) ∨
      ∃ fault, strict.run store settings = .error fault := by
    rw [hstrict]
    cases settings.validate catalog table .strict with
    | ok => exact Or.inl rfl
    | error fault => exact Or.inr ⟨fault, rfl⟩
  refine ⟨advisory.result settings table, advisory.run_eq_bind htable, hok, ?_, fun fault => ?_⟩
  · constructor
    · rintro ⟨fault, hfault⟩
      by_contra hnone
      have hadmitted : ∀ field, settings.Mentions field → catalog.Admits table.columns field := by
        simpa only [not_exists, not_and, not_not] using hnone
      cases hfault.symm.trans (hok.mpr hadmitted)
    · rintro ⟨field, hmentions, hunknown⟩
      obtain hresult | ⟨fault, hfault⟩ := hcases
      · exact absurd (hok.mp hresult field hmentions) hunknown
      · obtain ⟨first, -, rfl⟩ := (herror fault).mp hfault
        exact ⟨_, hfault⟩
  · rw [herror fault]
    constructor
    · rintro ⟨field, hfirst, rfl⟩
      exact ⟨field, hfirst, rfl, Fault.message?_fieldNotAllowed field⟩
    · rintro ⟨field, hfirst, hfault, -⟩
      exact ⟨field, hfirst, hfault⟩

/-- A misspelt counter in a test two nodes deep, after a prefix of counters and a column that is not
in the catalog, and before another unknown field. -/
theorem run_strict_of_misspelt_test :
    let table : Table := ⟨["host", "pages_nb", "visits"], [[.text "a", .int 3, .int 1]]⟩
    let store : TableStore := [(TableStore.crawlTable, table)]
    let settings : QuerySettings := { QuerySettings.default with
      fields := some ["metadata.title", "visits"], groupBy := some ["host"],
      sort := some [("pages_nb", .descending)],
      filter := some (.conjunction [.conjunction [.equality "depth" (.int 1),
        .equality "metadata.titel" (.int 2)], .equality "urls" .null]) }
    store.table? TableStore.crawlTable = some table ∧
      (∃ result, run ⟨.crawl, .advisory, keepAll⟩ store settings = .ok result) ∧
      settings.Mentions "metadata.title" ∧
      FieldCatalog.crawl.Admits table.columns "metadata.title" ∧
      run ⟨.crawl, .strict, keepAll⟩ store settings =
        .error (.badRequest (.fieldNotAllowed "metadata.titel")) := by
  intro table store settings
  have htable : store.table? TableStore.crawlTable = some table := rfl
  obtain ⟨result, hadvisory, -, -, herror⟩ := run_strict htable .crawl keepAll settings
  refine ⟨htable, ⟨result, hadvisory⟩, Or.inl ⟨_, rfl, List.mem_cons_self ..⟩, by decide, ?_⟩
  refine (herror _).mpr ⟨_, ?_, rfl, Fault.message?_fieldNotAllowed _⟩
  exact ⟨["metadata.title", "visits", "host", "pages_nb", "depth"], ["urls"], rfl, by decide,
    by decide⟩

end MetricsQuery

end CrawlAudit
