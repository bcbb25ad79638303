import CrawlAudit.Proofs.StoredDuplicates
import CrawlAudit.Proofs.StreamReading
import CrawlAudit.Proofs.WrittenValues

/-!
# Written rows

A row is written as the texts of its values with tabs between them. The line reads back as the
row, whatever columns and line ends follow. A line is cast exactly when it has a text for each
column and each text is one of the column's type; else the fault tells how many are missing, or
names the leftmost column that is not.
-/

namespace CrawlAudit

namespace StreamSchema

/-- The last character, if there is one, ends no line. -/
def EndsPlain (cs : List Char) : Prop :=
  ∀ c ∈ cs.getLast?, isLineEnd c = false

theorem endsPlain_written {value : ColumnValue}
    (h : ∀ s, value = .text s → EndsPlain s.toList) : EndsPlain value.written.toList := by
  intro c hc
  rcases ColumnValue.mem_written (List.mem_of_getLast? hc) with ⟨s, rfl, -⟩ | rfl | hstart
  · exact h s rfl c hc
  · rfl
  · by_contra hend
    simp only [isLineEnd, Bool.not_eq_false, Bool.or_eq_true, beq_iff_eq] at hend
    rcases hend with rfl | rfl <;> cases hstart

theorem withoutLineEnd_append {cs ends : List Char} (hcs : EndsPlain cs)
    (hends : ∀ c ∈ ends, isLineEnd c = true) : withoutLineEnd (cs ++ ends) = cs := by
  have hreverse : ∀ c ∈ ends.reverse, isLineEnd c = true :=
    fun c hc => hends c (List.mem_reverse.mp hc)
  have hdrop : cs.reverse.dropWhile isLineEnd = cs.reverse := by
    rw [EndsPlain, ← List.head?_reverse] at hcs
    cases hlast : cs.reverse with
    | nil => rfl
    | cons c rest =>
        rw [hlast] at hcs
        exact List.dropWhile_cons_of_neg (Bool.eq_false_iff.mp (hcs c rfl))
  rw [withoutLineEnd, List.reverse_append, List.dropWhile_append_of_pos hreverse, hdrop,
    List.reverse_reverse]

theorem endsPlain_withoutLineEnd (line : List Char) : EndsPlain (withoutLineEnd line) := by
  rw [EndsPlain, withoutLineEnd, List.getLast?_reverse]
  intro c hc
  have hhead := List.head?_dropWhile_not isLineEnd line.reverse
  rw [Option.mem_def.mp hc] at hhead
  exact hhead

theorem exists_lineEnd (line : List Char) :
    ∃ ends, (∀ c ∈ ends, isLineEnd c = true) ∧ line = withoutLineEnd line ++ ends := by
  refine ⟨(line.reverse.takeWhile isLineEnd).reverse, fun c hc => ?_, ?_⟩
  · exact List.mem_takeWhile_imp (List.mem_reverse.mp hc)
  · rw [withoutLineEnd, ← List.reverse_append, List.takeWhile_append_dropWhile,
      List.reverse_reverse]

/-- Texts with a tab between each two. -/
def tabbed (raws : List String) : List Char :=
  ['\t'].intercalate (raws.map String.toList)

theorem tabbed_append {front back : List String} (hfront : front ≠ []) (hback : back ≠ []) :
    tabbed (front ++ back) = tabbed front ++ '\t' :: tabbed back := by
  rw [tabbed, List.map_append]
  exact SeparatedText.intercalate_append (List.map_eq_nil_iff.not.mpr hfront)
    (List.map_eq_nil_iff.not.mpr hback)

theorem endsPlain_append_tab {front back : List Char} :
    EndsPlain (front ++ '\t' :: back) ↔ EndsPlain back := by
  have htab : isLineEnd '\t' = false := rfl
  rw [EndsPlain, EndsPlain, List.getLast?_append_of_ne_nil _ (List.cons_ne_nil _ _),
    List.getLast?_cons]
  cases back.getLast? <;> simp [htab]

theorem endsPlain_tabbed {raws : List String} :
    EndsPlain (tabbed raws) ↔ ∀ last ∈ raws.getLast?, EndsPlain last.toList := by
  rcases List.eq_nil_or_concat' raws with rfl | ⟨front, last, rfl⟩
  · simp [tabbed, EndsPlain]
  · rw [List.getLast?_concat]
    rcases eq_or_ne front [] with rfl | hne
    · simp [tabbed]
    · -- the tab before the last text ends no line, so an empty one is no trouble
      rw [tabbed_append hne (List.cons_ne_nil last []), endsPlain_append_tab]
      simp [tabbed]

/-- The texts of the columns of a line: tabs stand between them and nowhere else, and line ends
after the last text are no part of it. -/
structure HasColumns (line : List Char) (raws : List String) : Prop where
  ne_nil : raws ≠ []
  tabless : ∀ raw ∈ raws, '\t' ∉ raw.toList
  endsPlain : ∀ last ∈ raws.getLast?, EndsPlain last.toList
  joined : ∃ ends, (∀ c ∈ ends, isLineEnd c = true) ∧ line = tabbed raws ++ ends

def columnTexts (line : List Char) : List String :=
  ((withoutLineEnd line).splitOn '\t').map String.ofList

theorem tabbed_columnTexts (line : List Char) :
    tabbed (columnTexts line) = withoutLineEnd line := by
  rw [tabbed, columnTexts, List.map_map]
  simp [Function.comp_def]

theorem hasColumns_iff {line : List Char} {raws : List String} :
    HasColumns line raws ↔ raws = columnTexts line := by
  constructor
  · rintro ⟨hne, htabless, hplain, ends, hends, rfl⟩
    have htexts : ∀ piece ∈ raws.map String.toList, '\t' ∉ piece := List.forall_mem_map.mpr htabless
    rw [columnTexts, withoutLineEnd_append (endsPlain_tabbed.mpr hplain) hends, tabbed,
      List.splitOn_intercalate '\t' htexts (List.map_eq_nil_iff.not.mpr hne), List.map_map]
    simp [Function.comp_def]
  · rintro rfl
    have htabbed := tabbed_columnTexts line
    constructor
    case ne_nil => exact List.map_eq_nil_iff.not.mpr (List.splitOn_ne_nil _ _)
    case tabless =>
      rw [columnTexts, List.forall_mem_map]
      intro piece hpiece
      rw [String.toList_ofList]
      exact SeparatedText.not_mem_of_mem_splitOn hpiece
    case endsPlain => exact endsPlain_tabbed.mp (htabbed ▸ endsPlain_withoutLineEnd line)
    case joined =>
      rw [htabbed]
      exact exists_lineEnd line

theorem HasColumns.append {front raws : List String} {line : List Char} (hne : front ≠ [])
    (htabless : ∀ raw ∈ front, '\t' ∉ raw.toList) (h : HasColumns line raws) :
    HasColumns (tabbed front ++ '\t' :: line) (front ++ raws) where
  ne_nil := List.append_ne_nil_of_left_ne_nil hne raws
  tabless := List.forall_mem_append.mpr ⟨htabless, h.tabless⟩
  endsPlain := by
    rw [List.getLast?_append_of_ne_nil _ h.ne_nil]
    exact h.endsPlain
  joined := by
    obtain ⟨ends, hends, hline⟩ := h.joined
    exact ⟨ends, hends, by rw [tabbed_append hne h.ne_nil, hline, List.append_assoc,
      List.cons_append]⟩

theorem castLine_eq {schema : StreamSchema} {line : List Char} {raws : List String}
    (h : HasColumns line raws) : schema.castLine line = schema.cast raws := by
  rw [castLine, hasColumns_iff.mp h]
  rfl

theorem cast_eq_ok_iff {schema : StreamSchema} {raws : List String} {row : Row} :
    schema.cast raws = .ok row ↔
      schema.columns.length ≤ raws.length ∧
        List.Forall₂ (fun column cell => column.1.2.read? column.2 = some cell)
          (schema.columns.zip raws) row := by
  rw [cast]
  rcases Nat.lt_or_ge raws.length schema.columns.length with hlt | hle
  · simp [hlt, Nat.not_le_of_lt hlt]
  · rw [if_neg (Nat.not_lt_of_le hle), castColumns_eq_ok_iff, and_iff_right hle]

/-- A fault of the leftmost column whose text is none of its type. -/
def IsFirstFault (columns : List (String × ColumnType)) (raws : List String) (fault : Fault) :
    Prop :=
  ∃ good field type raw later, columns.zip raws = good ++ ((field, type), raw) :: later ∧
    (∀ column ∈ good, (column.1.2.read? column.2).isSome) ∧ type.read? raw = none ∧
    fault = .cast field raw type

section

variable {field raw : String} {type : ColumnType} {columns : List (String × ColumnType)}
  {raws : List String} {fault : Fault}

theorem isFirstFault_cons_of_none (h : type.read? raw = none) :
    IsFirstFault ((field, type) :: columns) (raw :: raws) fault ↔
      fault = .cast field raw type := by
  constructor
  · rintro ⟨good, field', type', raw', later, hzip, hgood, -, rfl⟩
    cases good with
    | nil =>
        cases (List.cons.inj hzip).1
        rfl
    | cons first good =>
        cases (List.cons.inj hzip).1
        exact absurd (hgood _ (List.mem_cons_self ..)) (by simp [h])
  · rintro rfl
    exact ⟨[], field, type, raw, columns.zip raws, rfl, nofun, h, rfl⟩

theorem isFirstFault_cons_of_some {c : Cell} (h : type.read? raw = some c) :
    IsFirstFault ((field, type) :: columns) (raw :: raws) fault ↔
      IsFirstFault columns raws fault := by
  constructor
  · rintro ⟨good, field', type', raw', later, hzip, hgood, hbad, hfault⟩
    cases good with
    | nil =>
        cases (List.cons.inj hzip).1
        rw [h] at hbad
        cases hbad
    | cons first good =>
        exact ⟨good, field', type', raw', later, (List.cons.inj hzip).2,
          (List.forall_mem_cons.mp hgood).2, hbad, hfault⟩
  · rintro ⟨good, field', type', raw', later, hzip, hgood, hbad, hfault⟩
    exact ⟨((field, type), raw) :: good, field', type', raw', later,
      by rw [List.zip_cons_cons, hzip, List.cons_append],
      List.forall_mem_cons.mpr ⟨Option.isSome_of_eq_some h, hgood⟩, hbad, hfault⟩

theorem castColumns_eq_error_iff :
    castColumns columns raws = .error fault ↔ IsFirstFault columns raws fault := by
  induction columns generalizing raws with
  | nil => simp [castColumns, IsFirstFault]
  | cons column columns ih =>
      obtain ⟨field, type⟩ := column
      cases raws with
      | nil => simp [castColumns, IsFirstFault]
      | cons raw raws =>
          rw [castColumns, ColumnType.cast]
          cases hread : type.read? raw with
          | none =>
              rw [isFirstFault_cons_of_none hread]
              simp [bind, Except.bind, eq_comm]
          | some c =>
              rw [isFirstFault_cons_of_some hread, ← ih]
              cases castColumns columns raws <;> simp [bind, Except.bind, pure, Except.pure]

end

theorem cast_eq_error_iff {schema : StreamSchema} {raws : List String} {fault : Fault} :
    schema.cast raws = .error fault ↔
      raws.length < schema.columns.length ∧
          fault = .missingColumn schema.name schema.columns.length raws.length ∨
        schema.columns.length ≤ raws.length ∧ IsFirstFault schema.columns raws fault := by
  rw [cast]
  rcases Nat.lt_or_ge raws.length schema.columns.length with hlt | hle
  · simp [hlt, Nat.not_le_of_lt hlt, eq_comm]
  · simp [hle, Nat.not_lt_of_le hle, castColumns_eq_error_iff]

/-- What may follow the values of a row on its line: further columns, or line ends unless the row
ends in a text that ends like a line itself. -/
def MayFollow (values : List ColumnValue) (tail : List Char) : Prop :=
  (∃ further, tail = '\t' :: further) ∨
    (∀ c ∈ tail, isLineEnd c = true) ∧
      ∀ s, values.getLast? = some (.text s) → EndsPlain s.toList

theorem exists_hasColumns {values : List ColumnValue} {tail : List Char} (hne : values ≠ [])
    (htabless : ∀ s, .text s ∈ values → '\t' ∉ s.toList) (hfollow : MayFollow values tail) :
    ∃ further, HasColumns (tabbed (values.map ColumnValue.written) ++ tail)
      (values.map ColumnValue.written ++ further) := by
  have hraws : values.map ColumnValue.written ≠ [] := List.map_eq_nil_iff.not.mpr hne
  have htexts : ∀ raw ∈ values.map ColumnValue.written, '\t' ∉ raw.toList := by
    rw [List.forall_mem_map]
    rintro value hvalue
    exact ColumnValue.not_mem_written fun s hs => htabless s (hs ▸ hvalue)
  rcases hfollow with ⟨further, rfl⟩ | ⟨hends, hlast⟩
  · exact ⟨columnTexts further, (hasColumns_iff.mpr rfl).append hraws htexts⟩
  · refine ⟨[], ?_⟩
    rw [List.append_nil]
    refine ⟨hraws, htexts, ?_, tail, hends, rfl⟩
    rw [List.getLast?_map]
    intro last hmem
    obtain ⟨value, hvalue, rfl⟩ := Option.map_eq_some_iff.mp hmem
    exact endsPlain_written fun s hs => hlast s (hs ▸ hvalue)

theorem castColumns_written {values : List ColumnValue} {columns : List (String × ColumnType)}
    (h : values.map ColumnValue.type = columns.map Prod.snd) (further : List String) :
    castColumns columns (values.map ColumnValue.written ++ further) =
      .ok (values.map ColumnValue.cell) := by
  induction values generalizing columns with
  | nil =>
      rw [List.map_eq_nil_iff.mp h.symm, castColumns.eq_def]
      rfl
  | cons value values ih =>
      cases columns with
      | nil => cases h
      | cons column columns =>
          obtain ⟨htype, htypes⟩ := List.cons.inj h
          have hcell : column.2.cast column.1 value.written = .ok value.cell :=
            ColumnType.cast_eq_ok_iff.mpr (htype ▸ value.read?_written)
          rw [List.map_cons, List.cons_append, castColumns, hcell]
          exact Fault.bind_eq_ok.mpr ⟨_, rfl, Fault.bind_eq_ok.mpr ⟨_, ih htypes, rfl⟩⟩

theorem castLine_written {schema : StreamSchema} {values : List ColumnValue} {tail : List Char}
    (htypes : values.map ColumnValue.type = schema.columns.map Prod.snd)
    (htabless : ∀ s, .text s ∈ values → '\t' ∉ s.toList) (hfollow : MayFollow values tail) :
    schema.castLine (tabbed (values.map ColumnValue.written) ++ tail) =
      .ok (values.map ColumnValue.cell) := by
  have hcast (further : List String) : schema.cast (values.map ColumnValue.written ++ further) =
      .ok (values.map ColumnValue.cell) := by
    have hlength : values.length = schema.columns.length := by
      simpa using congrArg List.length htypes
    rw [cast, if_neg (by simp [hlength]), castColumns_written htypes]
  rcases eq_or_ne values [] with rfl | hne
  · exact hcast _
  · obtain ⟨further, hcolumns⟩ := exists_hasColumns hne htabless hfollow
    rw [castLine_eq hcolumns, hcast]

end StreamSchema

/-- The values of a row of the stream of duplicates that hold a record. Its counts are written in
full. -/
structure DuplicateRecord.IsWrittenAs (record : DuplicateRecord) (values : List ColumnValue) :
    Prop where
  types : values.map ColumnValue.type = StreamSchema.duplicates.columns.map Prod.snd
  cells : values.map ColumnValue.cell = record.toRow
  written : values.map ColumnValue.written =
    [Decimal.text record.urlId.toInt, Decimal.text record.kind.id, Decimal.text record.filled,
      Decimal.text record.duplicates, if record.isFirst then "1" else "0",
      ";".intercalate (record.others.map fun id => Decimal.text id.toInt)]

theorem DuplicateRecord.exists_isWrittenAs {record : DuplicateRecord}
    (hfilled : record.filled ≤ Int64.maxValue.toInt)
    (hduplicates : record.duplicates ≤ Int64.maxValue.toInt) :
    ∃ values, record.IsWrittenAs values := by
  have hkind : (Int64.ofNat record.kind.id).toInt = record.kind.id := by
    cases record.kind <;> rfl
  refine ⟨[.int record.urlId, .int (Int64.ofNat record.kind.id), .int (Int64.ofNat record.filled),
    .int (Int64.ofNat record.duplicates), .bool record.isFirst, .intList record.others],
    rfl, rfl, ?_⟩
  simp only [List.map_cons, List.map_nil, ColumnValue.written, hkind,
    RecordTables.toInt_ofNat hfilled, RecordTables.toInt_ofNat hduplicates]

namespace StreamSchema

/-- A written row is read back, a record of duplicates is such a row, and any line is cast or not
as the texts of its columns are. -/
theorem castLine_inverts_writing :
    (∀ schema ∈ all, .float ∉ schema.columns.map Prod.snd) ∧
    (∀ (schema : StreamSchema) (values : List ColumnValue) (tail : List Char),
      values.map ColumnValue.type = schema.columns.map Prod.snd →
      (∀ s, .text s ∈ values → '\t' ∉ s.toList) → MayFollow values tail →
      schema.castLine (tabbed (values.map ColumnValue.written) ++ tail) =
        .ok (values.map ColumnValue.cell)) ∧
    (∀ record : DuplicateRecord, record.filled ≤ Int64.maxValue.toInt →
      record.duplicates ≤ Int64.maxValue.toInt → ∃ values, record.IsWrittenAs values) ∧
    ∀ (schema : StreamSchema) (line : List Char), ∃ raws,
      (∀ others, HasColumns line others ↔ others = raws) ∧
      (∀ row, schema.castLine line = .ok row ↔
        schema.columns.length ≤ raws.length ∧
          List.Forall₂ (fun column cell => column.1.2.read? column.2 = some cell)
            (schema.columns.zip raws) row) ∧
      ∀ fault, schema.castLine line = .error fault ↔
        raws.length < schema.columns.length ∧
            fault = .missingColumn schema.name schema.columns.length raws.length ∨
          schema.columns.length ≤ raws.length ∧ IsFirstFault schema.columns raws fault := by
  refine ⟨by decide, fun _ _ _ => castLine_written, fun _ => DuplicateRecord.exists_isWrittenAs, ?_⟩
  intro schema line
  refine ⟨columnTexts line, fun _ => hasColumns_iff, fun row => ?_, fun fault => ?_⟩
  · exact cast_eq_ok_iff
  · exact cast_eq_error_iff

/-- An empty list at the end of a line, a text with a line end before a further column, and a
record with the largest count. -/
theorem castLine_inverts_writing_at_line_ends :
    let numbers : List ColumnValue :=
      [.int Int64.minValue, .int 5, .int Int64.maxValue, .int 0, .bool false, .intList []]
    let texts : List ColumnValue := [.int (-1), .int 1, .int 7, .text " a\r\n"]
    let record : DuplicateRecord :=
      ⟨Int64.minValue, .description, 9223372036854775807, 0, false, [Int64.maxValue, -1]⟩
    numbers.map ColumnValue.type = duplicates.columns.map Prod.snd ∧
      MayFollow numbers ['\r', '\n'] ∧
      duplicates.castLine (tabbed (numbers.map ColumnValue.written) ++ ['\r', '\n']) =
        .ok (numbers.map ColumnValue.cell) ∧
      texts.map ColumnValue.type = contents.columns.map Prod.snd ∧
      (∀ s, .text s ∈ texts → '\t' ∉ s.toList) ∧ MayFollow texts ['\t', '\n'] ∧
      contents.castLine (tabbed (texts.map ColumnValue.written) ++ ['\t', '\n']) =
        .ok (texts.map ColumnValue.cell) ∧
      record.filled ≤ Int64.maxValue.toInt ∧ record.duplicates ≤ Int64.maxValue.toInt ∧
      ∃ values, record.IsWrittenAs values := by
  intro numbers texts record
  have hnumbers : MayFollow numbers ['\r', '\n'] := .inr ⟨by simp [isLineEnd], nofun⟩
  have htexts : MayFollow texts ['\t', '\n'] := .inl ⟨['\n'], rfl⟩
  have htabless : ∀ s, .text s ∈ texts → '\t' ∉ s.toList := by
    simp [texts]
  have hfilled : record.filled ≤ Int64.maxValue.toInt := by decide
  have hduplicates : record.duplicates ≤ Int64.maxValue.toInt := by decide
  obtain ⟨-, hread, hrecord, -⟩ := castLine_inverts_writing
  exact ⟨rfl, hnumbers, hread duplicates numbers _ rfl (by simp [numbers]) hnumbers, rfl, htabless,
    htexts, hread contents texts _ rfl htabless htexts, hfilled, hduplicates,
    hrecord record hfilled hduplicates⟩

end StreamSchema

end CrawlAudit
