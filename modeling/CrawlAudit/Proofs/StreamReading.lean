import CrawlAudit.Proofs.StableSort
import CrawlAudit.Stream.Reading
import Mathlib.Data.List.Forall2
import Mathlib.Data.List.TakeWhile

/-!
# Readings as beginnings of streams

A stream is read up to its first bad line: the rows of the reading are those of the lines before
it, and its fault is the one of that line. A stream without bad lines is read to its end.
-/

namespace CrawlAudit

/-- What a line gives: a row, nothing if it is blank, or a fault. -/
abbrev LineResult :=
  Except Fault (Option Row)

namespace LineResult

def row? : LineResult → Option Row
  | .ok row => row
  | .error _ => none

def fault? : LineResult → Option Fault
  | .ok _ => none
  | .error fault => some fault

theorem isSome_fault?_iff {result : LineResult} :
    result.fault?.isSome ↔ ∃ fault, result = .error fault := by
  cases result <;> simp [fault?]

end LineResult

namespace Reading

/-- The reading of a stream whose lines give some results. -/
def ofResults (results : List LineResult) : Reading where
  rows := (results.takeWhile fun r => r.fault?.isNone).filterMap LineResult.row?
  failure := results.findSome? LineResult.fault?

theorem ofResults_append (first second : List LineResult) :
    ofResults (first ++ second) = append (ofResults first) (ofResults second) := by
  induction first with
  | nil => rfl
  | cons result first ih =>
      match result with
      | .error fault => rfl
      | .ok none => exact ih
      | .ok (some row) =>
          change cons row (ofResults (first ++ second)) =
            append (cons row (ofResults first)) (ofResults second)
          rw [ih]
          cases h : (ofResults first).failure <;> simp [append, cons, h]

theorem ofLines_eq (schema : StreamSchema) (lines : List (List UInt8)) :
    ofLines schema lines = ofResults (lines.map (lineRow? schema)) := by
  induction lines with
  | nil => rfl
  | cons line lines ih =>
      rw [ofLines, List.map_cons]
      match lineRow? schema line with
      | .error fault => rfl
      | .ok none => exact ih
      | .ok (some row) =>
          rw [ih]
          rfl

theorem concat_map_ofResults {α : Type} (results : α → List LineResult) (shards : List α) :
    concat (shards.map fun s => ofResults (results s)) = ofResults (shards.flatMap results) := by
  induction shards with
  | nil => rfl
  | cons shard shards ih =>
      rw [List.map_cons, List.flatMap_cons, ofResults_append, ← ih]
      rfl

theorem rows_ofResults_isPrefix (results : List LineResult) :
    (ofResults results).rows <+: results.filterMap LineResult.row? :=
  (List.takeWhile_prefix _).filterMap _

theorem rows_ofResults {results : List LineResult} (h : ∀ r ∈ results, r.fault? = none) :
    (ofResults results).rows = results.filterMap LineResult.row? := by
  have hall : (results.takeWhile fun r => r.fault?.isNone) = results :=
    List.takeWhile_eq_self_iff.mpr fun r hr => Option.isNone_iff_eq_none.mpr (h r hr)
  exact congrArg (List.filterMap LineResult.row?) hall

theorem failure_ofResults_eq_none {results : List LineResult} :
    (ofResults results).failure = none ↔ ∀ r ∈ results, r.fault? = none :=
  List.findSome?_eq_none_iff

end Reading

theorem ColumnType.cast_eq_ok_iff {type : ColumnType} {field raw : String} {cell : Cell} :
    type.cast field raw = .ok cell ↔ type.read? raw = some cell := by
  rw [cast]
  cases type.read? raw <;> simp

namespace StreamSchema

theorem castColumns_eq_ok_iff {columns : List (String × ColumnType)} {raws : List String}
    {row : Row} :
    castColumns columns raws = .ok row ↔
      List.Forall₂ (fun column cell => column.1.2.read? column.2 = some cell) (columns.zip raws)
        row := by
  induction columns generalizing raws row with
  | nil => simp [castColumns, eq_comm]
  | cons column columns ih =>
      cases raws with
      | nil => simp [castColumns, eq_comm]
      | cons raw raws =>
          rw [castColumns, List.zip_cons_cons, List.forall₂_cons_left_iff]
          simp only [Fault.bind_eq_ok, ColumnType.cast_eq_ok_iff, ih]
          constructor
          · rintro ⟨cell, hcell, cells, hcells, ⟨⟩⟩
            exact ⟨cell, cells, hcell, hcells, rfl⟩
          · rintro ⟨cell, cells, hcell, hcells, rfl⟩
            exact ⟨cell, hcell, cells, hcells, rfl⟩

theorem exists_raws_of_castLine {schema : StreamSchema} {line : List Char} {row : Row}
    (h : schema.castLine line = .ok row) :
    ∃ raws, schema.columns.length ≤ raws.length ∧
      List.Forall₂ (fun column cell => column.1.2.read? column.2 = some cell)
        (schema.columns.zip raws) row := by
  rw [castLine, cast] at h
  split at h
  · cases h
  · exact ⟨_, Nat.le_of_not_lt ‹_›, castColumns_eq_ok_iff.mp h⟩

end StreamSchema

/-- A line that is neither blank nor castable. Octets that are no text cannot be cast. -/
def StreamSchema.IsBadLine (schema : StreamSchema) (line : List UInt8) : Prop :=
  match Utf8.decode? line with
  | none => True
  | some cs => ¬Blank.allBlank cs ∧ ∃ fault, schema.castLine cs = .error fault

theorem StreamSchema.isBadLine_iff {schema : StreamSchema} {line : List UInt8} :
    schema.IsBadLine line ↔ ∃ fault, Reading.lineRow? schema line = .error fault := by
  rw [IsBadLine, Reading.lineRow?]
  cases Utf8.decode? line with
  | none => simp
  | some cs =>
      dsimp only
      cases Blank.allBlank cs <;> cases schema.castLine cs <;> simp [Except.map]

namespace DirectoryEntry

/-- What the lines of a shard give. -/
def lineResults (schema : StreamSchema) : DirectoryEntry → List LineResult
  | .file octets => (Line.split octets).map (Reading.lineRow? schema)
  | .folder => [.error .unreadable]

/-- A shard with a bad line, or one that cannot be read at all. -/
def IsCorrupt (schema : StreamSchema) : DirectoryEntry → Prop
  | .file octets => ∃ line ∈ Line.split octets, schema.IsBadLine line
  | .folder => True

theorem isCorrupt_iff {schema : StreamSchema} {entry : DirectoryEntry} :
    entry.IsCorrupt schema ↔ ∃ r ∈ entry.lineResults schema, ∃ fault, r = .error fault := by
  cases entry with
  | file octets =>
      simp only [IsCorrupt, lineResults, List.mem_map, StreamSchema.isBadLine_iff]
      constructor
      · rintro ⟨line, hline, hbad⟩
        exact ⟨_, ⟨line, hline, rfl⟩, hbad⟩
      · rintro ⟨_, ⟨line, hline, rfl⟩, hbad⟩
        exact ⟨line, hline, hbad⟩
  | folder => simp [IsCorrupt, lineResults]

end DirectoryEntry

namespace Directory

/-- What the lines of all shards of a stream give, one shard after the other. -/
def lineResults (schema : StreamSchema) (directory : Directory) : List LineResult :=
  (directory.parts schema.fileStem).flatMap fun p => p.2.2.lineResults schema

/-- The rows of all castable lines of a stream, those after a bad line too. -/
def castRows (schema : StreamSchema) (directory : Directory) : List Row :=
  (directory.lineResults schema).filterMap LineResult.row?

/-- What is read of a stream. -/
def reading (schema : StreamSchema) (directory : Directory) : Reading :=
  .ofResults (directory.lineResults schema)

/-- Whether a shard of a stream is corrupt. -/
def HasCorruptShard (schema : StreamSchema) (directory : Directory) : Prop :=
  ∃ e ∈ directory, (partId? schema.fileStem e.1).isSome ∧ e.2.IsCorrupt schema

theorem ofDirectory_eq (schema : StreamSchema) (directory : Directory) :
    Reading.ofDirectory schema (some directory) = .ok (directory.reading schema) := by
  have hentry (entry : DirectoryEntry) :
      Reading.ofEntry schema entry = .ofResults (entry.lineResults schema) := by
    cases entry with
    | file octets => exact Reading.ofLines_eq schema (Line.split octets)
    | folder => rfl
  simp only [Reading.ofDirectory, reading, lineResults, hentry]
  rw [Reading.concat_map_ofResults fun p : Nat × String × DirectoryEntry =>
    p.2.2.lineResults schema]

theorem mem_parts {stem : String} {directory : Directory} {p : Nat × String × DirectoryEntry} :
    p ∈ directory.parts stem ↔ p.2 ∈ directory ∧ partId? stem p.2.1 = some p.1 := by
  rw [parts, Order.mem_sort, List.mem_filterMap]
  constructor
  · rintro ⟨e, he, hp⟩
    obtain ⟨id, hid, rfl⟩ := Option.map_eq_some_iff.mp hp
    exact ⟨he, hid⟩
  · rintro ⟨he, hid⟩
    exact ⟨p.2, he, by rw [hid, Option.map_some]⟩

theorem hasCorruptShard_iff {schema : StreamSchema} {directory : Directory} :
    directory.HasCorruptShard schema ↔ (directory.reading schema).failure ≠ none := by
  rw [reading, Ne, Reading.failure_ofResults_eq_none, HasCorruptShard]
  simp only [lineResults, List.mem_flatMap, mem_parts, DirectoryEntry.isCorrupt_iff,
    not_forall]
  constructor
  · rintro ⟨e, he, hid, r, hr, hfault⟩
    obtain ⟨id, hid⟩ := Option.isSome_iff_exists.mp hid
    refine ⟨r, ⟨(id, e), ⟨he, hid⟩, hr⟩, ?_⟩
    exact Option.isSome_iff_ne_none.mp (LineResult.isSome_fault?_iff.mpr hfault)
  · rintro ⟨r, ⟨p, ⟨he, hid⟩, hr⟩, hfault⟩
    refine ⟨p.2, he, Option.isSome_of_mem hid, r, hr, ?_⟩
    exact LineResult.isSome_fault?_iff.mp (Option.isSome_iff_ne_none.mpr hfault)

instance (schema : StreamSchema) (directory : Directory) :
    Decidable (directory.HasCorruptShard schema) :=
  decidable_of_iff ((directory.reading schema).failure ≠ none) hasCorruptShard_iff.symm

theorem rows_reading_isPrefix (schema : StreamSchema) (directory : Directory) :
    (directory.reading schema).rows <+: directory.castRows schema :=
  Reading.rows_ofResults_isPrefix _

theorem rows_reading {schema : StreamSchema} {directory : Directory}
    (h : ¬directory.HasCorruptShard schema) :
    (directory.reading schema).rows = directory.castRows schema := by
  rw [hasCorruptShard_iff, not_not, reading, Reading.failure_ofResults_eq_none] at h
  exact Reading.rows_ofResults h

theorem exists_line_of_mem_reading {schema : StreamSchema} {directory : Directory} {row : Row}
    (h : row ∈ (directory.reading schema).rows) : ∃ line, schema.castLine line = .ok row := by
  have hcast := (rows_reading_isPrefix schema directory).subset h
  simp only [castRows, lineResults, List.mem_filterMap, List.mem_flatMap] at hcast
  obtain ⟨result, ⟨⟨id, name, entry⟩, -, hresult⟩, hrow⟩ := hcast
  cases entry with
  | folder =>
      cases List.mem_singleton.mp hresult
      cases hrow
  | file octets =>
      obtain ⟨line, -, rfl⟩ := List.mem_map.mp hresult
      rw [Reading.lineRow?] at hrow
      cases hdecode : Utf8.decode? line with
      | none =>
          rw [hdecode] at hrow
          cases hrow
      | some cs =>
          rw [hdecode] at hrow
          dsimp only at hrow
          split at hrow
          · cases hrow
          · cases hcast : schema.castLine cs with
            | error fault =>
                rw [hcast] at hrow
                cases hrow
            | ok row' =>
                rw [hcast] at hrow
                obtain rfl : row' = row := Option.some.inj hrow
                exact ⟨cs, hcast⟩

theorem check_reading_eq_ok {schema : StreamSchema} {directory : Directory}
    (h : ¬directory.HasCorruptShard schema) : (directory.reading schema).check = .ok () := by
  rw [hasCorruptShard_iff, not_not] at h
  rw [Reading.check, h]

theorem check_reading_eq_error {schema : StreamSchema} {directory : Directory}
    (h : directory.HasCorruptShard schema) :
    ∃ fault, (directory.reading schema).check = .error fault := by
  obtain ⟨fault, hfault⟩ := Option.ne_none_iff_exists'.mp (hasCorruptShard_iff.mp h)
  exact ⟨fault, by rw [Reading.check, hfault]⟩

end Directory

end CrawlAudit
