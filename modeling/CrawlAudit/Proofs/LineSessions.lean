import CrawlAudit.Proofs.SinkWrites
import CrawlAudit.Proofs.SortedMap

/-!
# Sessions of a line sink

A file that is written to is emptied first. After a flush it holds the lines of all writes to it,
in their order, and the other files are as they were.
-/

namespace CrawlAudit.LineSink

open Std

def writeAll (sink : LineSink) (writes : List SinkWrite) : LineSink :=
  writes.foldl write sink

def isWritten (name : String) (writes : List SinkWrite) : Bool :=
  writes.any fun write => write.file == name

def linesTo (stamp : Int) (name : String) (writes : List SinkWrite) : List String :=
  (writes.filter fun write => write.file == name).flatMap (SinkWrite.lines stamp)

/-- After some writes the lines wait in front of emptied files. -/
structure Awaits (files : LineFiles) (writes : List SinkWrite) (sink : LineSink) : Prop where
  isSorted : Sorted.IsSorted Order.texts sink.pending
  pending (name : String) : Sorted.find? Order.texts name sink.pending =
    if isWritten name writes then some (linesTo sink.stamp name writes) else none
  files (name : String) : Sorted.find? Order.texts name sink.files =
    if isWritten name writes then some [] else Sorted.find? Order.texts name files

theorem isWritten_concat (name : String) (writes : List SinkWrite) (write : SinkWrite) :
    isWritten name (writes ++ [write]) = (isWritten name writes || write.file == name) := by
  simp [isWritten]

theorem linesTo_concat (stamp : Int) (name : String) (writes : List SinkWrite)
    (write : SinkWrite) :
    linesTo stamp name (writes ++ [write]) =
      linesTo stamp name writes ++ if write.file = name then write.lines stamp else [] := by
  by_cases h : write.file = name
  · simp [linesTo, h]
  · simp [linesTo, h]

theorem linesTo_eq_nil {name : String} {writes : List SinkWrite}
    (h : isWritten name writes = false) (stamp : Int) : linesTo stamp name writes = [] := by
  rw [linesTo, List.filter_eq_nil_iff.mpr (List.any_eq_false.mp h)]
  rfl

theorem stamp_writeLines (sink : LineSink) (file : String) (lines : List String) :
    (sink.writeLines file lines).stamp = sink.stamp := by
  rw [writeLines]
  split <;> rfl

theorem isSorted_pending_writeLines {sink : LineSink}
    (h : Sorted.IsSorted Order.texts sink.pending) (file : String) (lines : List String) :
    Sorted.IsSorted Order.texts (sink.writeLines file lines).pending := by
  rw [writeLines]
  split <;> exact Sorted.isSorted_alter _ _ h

theorem find?_pending_writeLines (sink : LineSink) (file name : String) (lines : List String) :
    Sorted.find? Order.texts name (sink.writeLines file lines).pending =
      if name = file then some ((Sorted.find? Order.texts file sink.pending).getD [] ++ lines)
      else Sorted.find? Order.texts name sink.pending := by
  rw [writeLines]
  cases Sorted.find? Order.texts file sink.pending <;> exact Sorted.find?_insert ..

theorem find?_files_writeLines (sink : LineSink) (file name : String) (lines : List String) :
    Sorted.find? Order.texts name (sink.writeLines file lines).files =
      if name = file ∧ Sorted.find? Order.texts file sink.pending = none then some []
      else Sorted.find? Order.texts name sink.files := by
  rw [writeLines]
  cases Sorted.find? Order.texts file sink.pending with
  | some waiting => simp
  | none => simpa using Sorted.find?_insert file name [] sink.files

theorem stamp_write (sink : LineSink) (write : SinkWrite) :
    (sink.write write).stamp = sink.stamp := by
  rw [write_eq, stamp_writeLines]

theorem stamp_writeAll (sink : LineSink) (writes : List SinkWrite) :
    (sink.writeAll writes).stamp = sink.stamp := by
  induction writes generalizing sink with
  | nil => rfl
  | cons write writes ih => exact (ih (sink.write write)).trans (sink.stamp_write write)

namespace Awaits

variable {files : LineFiles} {writes : List SinkWrite} {sink : LineSink}

theorem create (files : LineFiles) (stamp : Int) : Awaits files [] (.create files stamp) where
  isSorted := Sorted.isSorted_nil
  pending _ := rfl
  files _ := rfl

theorem write (h : Awaits files writes sink) (write : SinkWrite) :
    Awaits files (writes ++ [write]) (sink.write write) := by
  rw [write_eq]
  refine ⟨isSorted_pending_writeLines h.isSorted _ _, fun name => ?_, fun name => ?_⟩
  · rw [find?_pending_writeLines, h.pending, h.pending, isWritten_concat, linesTo_concat,
      stamp_writeLines]
    by_cases hname : name = write.file
    · cases hwritten : isWritten write.file writes with
      | true => simp [hname, hwritten]
      | false => simp [hname, hwritten, linesTo_eq_nil hwritten]
    · simp [hname, Ne.symm hname]
  · rw [find?_files_writeLines, h.pending, h.files, isWritten_concat]
    by_cases hname : name = write.file
    · cases hwritten : isWritten write.file writes <;> simp [hname, hwritten]
    · simp [hname, Ne.symm hname]

theorem writeAll (h : Awaits files writes sink) (later : List SinkWrite) :
    Awaits files (writes ++ later) (sink.writeAll later) := by
  induction later generalizing writes sink with
  | nil => simpa [LineSink.writeAll] using h
  | cons write later ih =>
      have hnext := ih (h.write write)
      rwa [List.append_assoc] at hnext

/-- Lines that wait in front of empty files are all that these files hold after a flush. -/
theorem find?_foldl_appendLines {pending : LineFiles} (files : LineFiles)
    (hsorted : Sorted.IsSorted Order.texts pending)
    (hempty : ∀ e ∈ pending, Sorted.find? Order.texts e.1 files = some []) (name : String) :
    Sorted.find? Order.texts name (pending.foldl appendLines files) =
      (Sorted.find? Order.texts name pending).or (Sorted.find? Order.texts name files) := by
  induction pending generalizing files with
  | nil => rfl
  | cons e pending ih =>
      obtain ⟨hfirst, hrest⟩ := List.pairwise_cons.mp hsorted
      obtain ⟨hfile, hfiles⟩ := List.forall_mem_cons.mp hempty
      have hself : Sorted.find? Order.texts e.1 (appendLines files e) = some e.2 :=
        Sorted.find?_alter_of_eq (by simp) (by simp [hfile])
      have hother {k : String} (hne : Order.texts k e.1 ≠ .eq) :
          Sorted.find? Order.texts k (appendLines files e) = Sorted.find? Order.texts k files :=
        Sorted.find?_alter_of_ne hne _ _
      rw [List.foldl_cons, ih (appendLines files e) hrest, Sorted.find?]
      · split
        · rename_i heq
          obtain rfl : name = e.1 := LawfulEqCmp.eq_of_compare heq
          rw [Sorted.find?_eq_none_of_lt hfirst, hself]
          rfl
        · rename_i hne
          rw [hother hne]
      · intro e' he'
        rw [hother, hfiles e' he']
        rw [OrientedCmp.gt_of_lt (hfirst e' he')]
        decide

theorem find?_files_flush (h : Awaits files writes sink) (name : String) :
    Sorted.find? Order.texts name sink.flush.files =
      if isWritten name writes then some (linesTo sink.stamp name writes)
      else Sorted.find? Order.texts name files := by
  have hempty : ∀ e ∈ sink.pending, Sorted.find? Order.texts e.1 sink.files = some [] := by
    intro e he
    have hpending := (Sorted.find?_eq_some_iff h.isSorted e.1 e.2).mpr he
    rw [h.pending] at hpending
    rw [h.files]
    split at hpending
    · rename_i hwritten
      rw [if_pos hwritten]
    · cases hpending
  change Sorted.find? Order.texts name (sink.pending.foldl appendLines sink.files) = _
  rw [find?_foldl_appendLines sink.files h.isSorted hempty, h.pending, h.files]
  split <;> rfl

end Awaits

end CrawlAudit.LineSink
