import CrawlAudit.Proofs.StreamReading
import CrawlAudit.Stream.Pulling

/-!
# Rows pulled from shards

However a stream is cut into shards, pulling its rows gives those of the lines before the first bad
one of any shard. That line's fault is reported once, and the stream is silent from then on.
-/

namespace CrawlAudit

open LineResult (row? fault?)

/-- The first row or fault among the results of some lines, and the results after it. -/
def LineResult.first? : List LineResult → Option (Except Fault Row × List LineResult)
  | [] => none
  | .ok none :: results => first? results
  | .ok (some row) :: results => some (.ok row, results)
  | .error fault :: results => some (.error fault, results)

/-- A line of a shard: a row that is typed already, or the octets of a line of a file. -/
inductive ShardLine where
  | typed (row : Row)
  | octets (line : List UInt8)

def Shard.lines : Shard → List ShardLine
  | .typed rows => rows.map .typed
  | .file octets => (Line.split octets).map .octets

namespace ShardLine

/-- Whether a line is a text of nothing but blanks. -/
def isBlank : ShardLine → Bool
  | .typed _ => false
  | .octets line => (Utf8.decode? line).any Blank.allBlank

/-- What a line that is not blank gives: a row, or the fault of a bad line, which cannot be decoded
or cast. -/
inductive Gives (schema : StreamSchema) : ShardLine → Except Fault Row → Prop where
  | typed (row : Row) : Gives schema (.typed row) (.ok row)
  | cast {line : List UInt8} {cs : List Char} (hdecode : Utf8.decode? line = some cs)
      (hblank : Blank.allBlank cs = false) : Gives schema (.octets line) (schema.castLine cs)
  | undecodable {line : List UInt8} (hdecode : Utf8.decode? line = none) :
      Gives schema (.octets line) (.error .unreadable)

/-- Every line gives one of the rows, up to the first bad line, whose fault is the failure. -/
def GiveRows (schema : StreamSchema) (lines : List ShardLine) (rows : List Row)
    (failure : Option Fault) : Prop :=
  ∃ front rest, lines = front ++ rest ∧
    List.Forall₂ (fun line row => line.Gives schema (.ok row)) front rows ∧
    (rest = [] ∧ failure = none ∨
      ∃ bad after fault, rest = bad :: after ∧ bad.Gives schema (.error fault) ∧
        failure = some fault)

/-- The result of a line as the reader has it. -/
def result (schema : StreamSchema) : ShardLine → LineResult
  | .typed row => .ok (some row)
  | .octets line => Reading.lineRow? schema line

end ShardLine

def Shard.lineResults (schema : StreamSchema) (shard : Shard) : List LineResult :=
  shard.lines.map (ShardLine.result schema)

/-- What the lines that are left of a shard give. -/
def OpenShard.lineResults (schema : StreamSchema) : OpenShard → List LineResult
  | .typed rows => rows.map fun row => .ok (some row)
  | .text lines => lines.map (Reading.lineRow? schema)

theorem Shard.lineResults_opened (schema : StreamSchema) (shard : Shard) :
    shard.opened.lineResults schema = shard.lineResults schema := by
  cases shard with
  | typed rows =>
      rw [lineResults, lines, List.map_map]
      rfl
  | file octets =>
      rw [lineResults, lines, List.map_map]
      rfl

theorem Reading.ofResults_eq_of_first? (results : List LineResult) :
    ofResults results =
      match LineResult.first? results with
      | none => empty
      | some (.ok row, rest) => cons row (ofResults rest)
      | some (.error fault, _) => failed fault := by
  induction results with
  | nil => rfl
  | cons result results ih =>
      rcases result with fault | (_ | row)
      · rfl
      · exact ih
      · rfl

theorem Shard.reading_eq (schema : StreamSchema) (shard : Shard) :
    shard.reading schema = .ofResults (shard.lineResults schema) := by
  rw [← lineResults_opened]
  cases shard with
  | typed rows =>
      induction rows with
      | nil => rfl
      | cons row rows ih => exact congrArg (Reading.cons row) ih
  | file octets => exact Reading.ofLines_eq schema (Line.split octets)

namespace ShardLine

variable {schema : StreamSchema} {line : ShardLine}

theorem result_cases (schema : StreamSchema) (line : ShardLine) :
    line.isBlank = true ∧ line.result schema = .ok none ∨
      line.isBlank = false ∧ ∃ given, line.Gives schema given ∧
        line.result schema = given.map some := by
  cases line with
  | typed row => exact .inr ⟨rfl, _, .typed row, rfl⟩
  | octets line =>
      rw [isBlank, result, Reading.lineRow?]
      cases hdecode : Utf8.decode? line with
      | none => exact .inr ⟨rfl, _, .undecodable hdecode, rfl⟩
      | some cs =>
          dsimp only [Option.any_some]
          cases hblank : Blank.allBlank cs with
          | true => exact .inl ⟨rfl, rfl⟩
          | false => exact .inr ⟨rfl, _, .cast hdecode hblank, rfl⟩

theorem GiveRows.nil : GiveRows schema [] [] none :=
  ⟨[], [], rfl, .nil, .inl ⟨rfl, rfl⟩⟩

theorem GiveRows.cons {lines : List ShardLine} {row : Row} {rows : List Row}
    {failure : Option Fault} (hline : line.Gives schema (.ok row))
    (h : GiveRows schema lines rows failure) :
    GiveRows schema (line :: lines) (row :: rows) failure := by
  obtain ⟨front, rest, rfl, hfront, hrest⟩ := h
  exact ⟨line :: front, rest, rfl, .cons hline hfront, hrest⟩

theorem GiveRows.bad {fault : Fault} (hline : line.Gives schema (.error fault))
    (lines : List ShardLine) : GiveRows schema (line :: lines) [] (some fault) :=
  ⟨[], line :: lines, rfl, .nil, .inr ⟨line, lines, fault, rfl, hline, rfl⟩⟩

theorem giveRows_ofResults (schema : StreamSchema) (lines : List ShardLine) :
    GiveRows schema (lines.filter fun line => !line.isBlank)
      (Reading.ofResults (lines.map (result schema))).rows
      (Reading.ofResults (lines.map (result schema))).failure := by
  induction lines with
  | nil => exact .nil
  | cons line lines ih =>
      rw [List.map_cons, List.filter_cons]
      rcases result_cases schema line with ⟨hblank, hresult⟩ | ⟨hblank, given, hgiven, hresult⟩
      · rw [hblank, hresult]
        exact ih
      · rw [hblank, hresult]
        cases given with
        | error fault => exact .bad hgiven _
        | ok row => exact .cons hgiven ih

end ShardLine

namespace LineResult

theorem first?_append (first second : List LineResult) :
    first? (first ++ second) =
      match first? first with
      | some (result, rest) => some (result, rest ++ second)
      | none => first? second := by
  induction first with
  | nil => rfl
  | cons result first ih =>
      rcases result with fault | (_ | row)
      · rfl
      · exact ih
      · rfl

theorem first?_lines (schema : StreamSchema) (lines : List (List UInt8)) :
    first? (lines.map (Reading.lineRow? schema)) =
      (OpenShard.nextLine? schema lines).map fun next =>
        (next.1, next.2.map (Reading.lineRow? schema)) := by
  induction lines with
  | nil => rfl
  | cons line lines ih =>
      rw [List.map_cons, OpenShard.nextLine?]
      rcases Reading.lineRow? schema line with fault | (_ | row)
      · rfl
      · exact ih
      · rfl

theorem first?_lineResults (schema : StreamSchema) (shard : OpenShard) :
    first? (shard.lineResults schema) =
      (shard.next? schema).map fun next => (next.1, next.2.lineResults schema) := by
  match shard with
  | .typed [] => rfl
  | .typed (row :: rows) => rfl
  | .text lines =>
      rw [OpenShard.lineResults, first?_lines, OpenShard.next?, Option.map_map]
      rfl

theorem first?_flatMap_lineResults (schema : StreamSchema) (shards : List OpenShard) :
    first? (shards.flatMap (OpenShard.lineResults schema)) =
      (OpenShard.nextOf? schema shards).map fun next =>
        (next.1, next.2.flatMap (OpenShard.lineResults schema)) := by
  induction shards with
  | nil => rfl
  | cons shard shards ih =>
      rw [List.flatMap_cons, first?_append, first?_lineResults, OpenShard.nextOf?]
      cases shard.next? schema with
      | none => exact ih
      | some next => rfl

end LineResult

namespace RowStream

/-- What a stream that has not failed would still be read as. -/
def remaining (stream : RowStream) : Reading :=
  .ofResults (stream.shards.flatMap (OpenShard.lineResults stream.schema))

/-- A stream that gives no row any more. -/
def IsSpent (stream : RowStream) : Prop :=
  stream.hasFailed = true ∨ stream.shards = []

theorem next_of_isSpent {stream : RowStream} (h : stream.IsSpent) :
    stream.next = (none, stream) := by
  rw [next]
  rcases h with hfailed | hshards
  · rw [if_pos hfailed]
  · split
    · rfl
    · rw [hshards, OpenShard.nextOf?]
      dsimp only
      rw [← hshards]

/-- A stream gives a row and goes on with the rest, or it ends there and keeps the fault. -/
theorem next_cases {stream : RowStream} (h : stream.hasFailed = false) :
    (∃ row after, stream.next = (some row, after) ∧ after.hasFailed = false ∧
        after.failure = stream.failure ∧ stream.remaining = .cons row after.remaining) ∨
      ∃ after, stream.next = (none, after) ∧ after.IsSpent ∧
        after.failure = stream.failure.or stream.remaining.failure ∧
        stream.remaining.rows = [] := by
  rw [next, if_neg (by simp [h]), remaining, Reading.ofResults_eq_of_first?,
    LineResult.first?_flatMap_lineResults]
  rcases OpenShard.nextOf? stream.schema stream.shards with _ | ⟨fault | row, rest⟩
  · right
    exact ⟨_, rfl, Or.inr rfl, (Option.or_none).symm, rfl⟩
  · right
    exact ⟨_, rfl, Or.inl rfl, rfl, rfl⟩
  · left
    exact ⟨row, _, rfl, h, rfl, rfl⟩

theorem drain_eq {stream : RowStream} (h : stream.hasFailed = false) :
    stream.drain.1 = stream.remaining.rows ∧ stream.drain.2.IsSpent ∧
      stream.drain.2.failure = stream.failure.or stream.remaining.failure := by
  fun_induction drain stream with
  | case1 stream after hnext =>
      rcases next_cases h with ⟨row, later, hrow, -⟩ | ⟨later, hend, hspent, hfailure, hrows⟩
      · rw [hnext] at hrow
        cases hrow
      · rw [hnext] at hend
        cases hend
        exact ⟨hrows.symm, hspent, hfailure⟩
  | case2 stream row after hnext ih =>
      rcases next_cases h with ⟨first, later, hrow, hgoes, hfailure, hremaining⟩ | ⟨later, hend, -⟩
      · rw [hnext] at hrow
        cases hrow
        obtain ⟨hrows, hspent, hkept⟩ := ih hgoes
        rw [hfailure] at hkept
        rw [hremaining]
        exact ⟨congrArg (List.cons row) hrows, hspent, hkept⟩
      · rw [hnext] at hend
        cases hend

theorem fst_check (stream : RowStream) :
    stream.check.1 = stream.failure.elim (.ok ()) .error := by
  rw [check]
  cases stream.failure <;> rfl

theorem failure_check (stream : RowStream) : stream.check.2.failure = none := by
  rw [check]
  split
  · rfl
  · assumption

theorem isSpent_check {stream : RowStream} (h : stream.IsSpent) : stream.check.2.IsSpent := by
  rw [check]
  split <;> exact h

end RowStream

/-- What can be asked of a stream: its next row, or whether it has been read without a fault. -/
inductive StreamCall where
  | next
  | check

inductive StreamAnswer where
  | row (row : Option Row)
  | status (status : Except Fault Unit)

namespace RowStream

def call (stream : RowStream) : StreamCall → StreamAnswer × RowStream
  | .next => (.row stream.next.1, stream.next.2)
  | .check => (.status stream.check.1, stream.check.2)

/-- The answers to some calls, one after the other. -/
def answers (stream : RowStream) : List StreamCall → List StreamAnswer
  | [] => []
  | call :: calls => (stream.call call).1 :: (stream.call call).2.answers calls

end RowStream

/-- The answer of a stream that has no row and no fault left. -/
def StreamCall.silence : StreamCall → StreamAnswer
  | .next => .row none
  | .check => .status (.ok ())

namespace RowStream

theorem call_of_isSpent {stream : RowStream} (h : stream.IsSpent) (hfailure : stream.failure = none)
    (call : StreamCall) : stream.call call = (call.silence, stream) := by
  cases call with
  | next => rw [RowStream.call, next_of_isSpent h, StreamCall.silence]
  | check => rw [RowStream.call, check, hfailure, StreamCall.silence]

theorem answers_of_isSpent {stream : RowStream} (h : stream.IsSpent)
    (hfailure : stream.failure = none) (calls : List StreamCall) :
    stream.answers calls = calls.map StreamCall.silence := by
  induction calls with
  | nil => rfl
  | cons call calls ih => rw [answers, call_of_isSpent h hfailure, ih, List.map_cons]

theorem remaining_ofShards (schema : StreamSchema) (shards : List Shard) :
    (ofShards schema shards).remaining =
      .ofResults (shards.flatMap (Shard.lineResults schema)) := by
  have hopened : (fun shard => OpenShard.lineResults schema (Shard.opened shard)) =
      Shard.lineResults schema := funext (Shard.lineResults_opened schema)
  rw [remaining, ofShards, List.flatMap_map, hopened]

theorem concat_eq_ofResults (schema : StreamSchema) (shards : List Shard) :
    Reading.concat (shards.map (Shard.reading schema)) =
      .ofResults (shards.flatMap (Shard.lineResults schema)) := by
  have hreading : Shard.reading schema = fun shard => .ofResults (shard.lineResults schema) :=
    funext (Shard.reading_eq schema)
  rw [hreading, Reading.concat_map_ofResults]

/-- A stream of shards gives the rows of their lines that are not blank, up to the first bad one,
and its fault is the answer to the first check. No later call finds a row or a fault, whatever comes
after that line. The reading of the shards is what is given so. -/
theorem drain_ofShards (schema : StreamSchema) (shards : List Shard) :
    let lines := (shards.flatMap Shard.lines).filter fun line => !line.isBlank
    let drained := (ofShards schema shards).drain
    ∃ failure, ShardLine.GiveRows schema lines drained.1 failure ∧
      drained.2.next = (none, drained.2) ∧
      drained.2.check.1 = failure.elim (.ok ()) .error ∧
      (∀ calls, drained.2.check.2.answers calls = calls.map StreamCall.silence) ∧
      Reading.concat (shards.map (Shard.reading schema)) = ⟨drained.1, failure⟩ := by
  intro lines drained
  have hfresh : (ofShards schema shards).hasFailed = false := rfl
  obtain ⟨hrows, hspent, hfailure⟩ := drain_eq hfresh
  have hresults : shards.flatMap (Shard.lineResults schema) =
      (shards.flatMap Shard.lines).map (ShardLine.result schema) := (List.map_flatMap ..).symm
  rw [remaining_ofShards, hresults] at hrows hfailure
  have hkept : drained.2.failure = _ := hfailure.trans (Option.none_or ..)
  refine ⟨drained.2.failure, ?_, next_of_isSpent hspent, fst_check drained.2, ?_, ?_⟩
  · rw [hrows, hkept]
    exact ShardLine.giveRows_ofResults schema _
  · exact answers_of_isSpent (isSpent_check hspent) (failure_check drained.2)
  · rw [concat_eq_ofResults, hresults, hkept, hrows]

/-- A typed row, rows of a file around a blank line, a bad line with a good one after it, and a
shard without bad lines at the end. -/
theorem drain_ofShards_of_bad_line :
    let shards : List Shard := [.typed [[.int 7]],
      .file (Utf8.encode "1\t1\t10\tHome\r\n \t\n2\t1\t11\tNews".toList),
      .file (Utf8.encode "bad\t1\t12\tX\n3\t1\t13\tY\n".toList),
      .file (Utf8.encode "4\t1\t14\tZ\n".toList)]
    let drained := (ofShards .contents shards).drain
    drained.1 = [[.int 7], [.int 1, .int 1, .int 10, .text "Home"],
        [.int 2, .int 1, .int 11, .text "News"]] ∧
      drained.2.check.1 = .error (.cast "id" "bad" .int) ∧
      drained.2.check.2.answers [.next, .check] = [.row none, .status (.ok ())] := by
  intro shards drained
  have hreading : Reading.concat (shards.map (Shard.reading .contents)) =
      ⟨[[.int 7], [.int 1, .int 1, .int 10, .text "Home"],
        [.int 2, .int 1, .int 11, .text "News"]], some (.cast "id" "bad" .int)⟩ := by
    rfl
  obtain ⟨failure, -, -, hcheck, hsilent, hconcat⟩ := drain_ofShards .contents shards
  rw [hreading, Reading.mk.injEq] at hconcat
  obtain ⟨hrows, rfl⟩ := hconcat
  exact ⟨hrows.symm, hcheck, hsilent [.next, .check]⟩

end RowStream

end CrawlAudit
