import CrawlAudit.Stream.Reading

/-!
# Pulling rows

A stream gives its rows one at a time, from its shards in order. The first fault of any shard ends
it and is kept until it has been reported once.
-/

namespace CrawlAudit

/-- A part of a stream: rows that are typed already, or the octets of a file. -/
inductive Shard where
  | typed (rows : List Row)
  | file (octets : List UInt8)

/-- What is left of a shard that is being read. -/
inductive OpenShard where
  | typed (rows : List Row)
  | text (lines : List (List UInt8))

def Shard.opened : Shard → OpenShard
  | .typed rows => .typed rows
  | .file octets => .text (Line.split octets)

/-- The reading of a shard on its own. -/
def Shard.reading (schema : StreamSchema) : Shard → Reading
  | .typed rows => .ofRows rows
  | .file octets => .ofOctets schema octets

namespace OpenShard

variable (schema : StreamSchema)

/-- The row or the fault of the first line that is not blank, and the lines after it. -/
def nextLine? : List (List UInt8) → Option (Except Fault Row × List (List UInt8))
  | [] => none
  | line :: lines =>
    match Reading.lineRow? schema line with
    | .error fault => some (.error fault, lines)
    | .ok none => nextLine? lines
    | .ok (some row) => some (.ok row, lines)

/-- What a shard gives next, and what is left of it then. -/
def next? : OpenShard → Option (Except Fault Row × OpenShard)
  | .typed [] => none
  | .typed (row :: rows) => some (.ok row, .typed rows)
  | .text lines => (nextLine? schema lines).map fun next => (next.1, .text next.2)

/-- What shards give next, one after the other. -/
def nextOf? : List OpenShard → Option (Except Fault Row × List OpenShard)
  | [] => none
  | shard :: shards =>
    match next? schema shard with
    | some (result, rest) => some (result, rest :: shards)
    | none => nextOf? shards

def size : OpenShard → Nat
  | .typed rows => rows.length
  | .text lines => lines.length

def sizeOf : List OpenShard → Nat
  | [] => 0
  | shard :: shards => shard.size + sizeOf shards

end OpenShard

/-- A stream that is being read: its shards, the fault that has not been reported yet, and whether
there was one. -/
structure RowStream where
  schema : StreamSchema
  shards : List OpenShard
  failure : Option Fault
  hasFailed : Bool

namespace RowStream

/-- The stream of some shards in the given order. -/
def ofShards (schema : StreamSchema) (shards : List Shard) : RowStream :=
  ⟨schema, shards.map Shard.opened, none, false⟩

/-- Keeps a fault unless an earlier one waits to be reported. -/
def record (fault : Fault) (stream : RowStream) : RowStream :=
  { stream with failure := stream.failure.or (some fault), hasFailed := true }

/-- The next row. A stream that has failed gives none. -/
def next (stream : RowStream) : Option Row × RowStream :=
  if stream.hasFailed then (none, stream)
  else
    match OpenShard.nextOf? stream.schema stream.shards with
    | none => (none, { stream with shards := [] })
    | some (.ok row, rest) => (some row, { stream with shards := rest })
    | some (.error fault, rest) => (none, { stream with shards := rest }.record fault)

/-- Whether the stream has been read without a fault so far, which is reported once. -/
def check (stream : RowStream) : Except Fault Unit × RowStream :=
  match stream.failure with
  | some fault => (.error fault, { stream with failure := none })
  | none => (.ok (), stream)

/-- An upper bound on the rows that a stream still gives. -/
def size (stream : RowStream) : Nat :=
  OpenShard.sizeOf stream.shards

end RowStream

namespace OpenShard

variable {schema : StreamSchema}

theorem length_lt_of_nextLine? {lines rest : List (List UInt8)} {result : Except Fault Row}
    (h : nextLine? schema lines = some (result, rest)) : rest.length < lines.length := by
  induction lines with
  | nil => cases h
  | cons line lines ih =>
      rw [nextLine?] at h
      split at h
      · cases h
        exact Nat.lt_succ_self _
      · exact Nat.lt_succ_of_lt (ih h)
      · cases h
        exact Nat.lt_succ_self _

theorem size_lt_of_next? {shard rest : OpenShard} {result : Except Fault Row}
    (h : next? schema shard = some (result, rest)) : rest.size < shard.size := by
  match shard with
  | .typed [] => cases h
  | .typed (row :: rows) =>
      cases h
      exact Nat.lt_succ_self _
  | .text lines =>
      obtain ⟨next, hnext, heq⟩ := Option.map_eq_some_iff.mp h
      cases heq
      exact length_lt_of_nextLine? hnext

theorem size_lt_of_nextOf? {shards rest : List OpenShard} {result : Except Fault Row}
    (h : nextOf? schema shards = some (result, rest)) : sizeOf rest < sizeOf shards := by
  induction shards with
  | nil => cases h
  | cons shard shards ih =>
      rw [nextOf?] at h
      split at h
      · rename_i hnext
        cases h
        exact Nat.add_lt_add_right (size_lt_of_next? hnext) _
      · exact Nat.lt_of_lt_of_le (ih h) (Nat.le_add_left ..)

end OpenShard

namespace RowStream

theorem size_lt_of_next {stream after : RowStream} {row : Row}
    (h : stream.next = (some row, after)) : after.size < stream.size := by
  rw [next] at h
  split at h
  · cases h
  · split at h
    · cases h
    · rename_i hnext
      cases h
      exact OpenShard.size_lt_of_nextOf? hnext
    · cases h

/-- All rows that a stream still gives, and the stream after them. -/
def drain (stream : RowStream) : List Row × RowStream :=
  match _h : stream.next with
  | (none, after) => ([], after)
  | (some row, after) => (row :: after.drain.1, after.drain.2)
termination_by stream.size
decreasing_by all_goals exact size_lt_of_next _h

end RowStream

end CrawlAudit
