import CrawlAudit.Proofs.CorruptShards

/-!
# Cuts of a crawl into shards

A stream is the lines of its shards, taken in the order of their part ids. In which shard a line
stands, how the shards are numbered and in which order the directory lists them does not show in
what is derived.
-/

namespace CrawlAudit

open Std

theorem Line.splitAfter_append (reversed first second : List UInt8) :
    splitAfter reversed (first ++ 10 :: second) =
      splitAfter reversed (first ++ [10]) ++ split second := by
  induction first generalizing reversed with
  | nil => rfl
  | cons b first ih =>
      rw [List.cons_append, List.cons_append, splitAfter, splitAfter]
      by_cases hb : b = 10
      · rw [if_pos hb, if_pos hb, ih, List.cons_append]
      · rw [if_neg hb, if_neg hb, ih]

namespace DirectoryEntry

/-- The lines of a shard. A folder is one line that cannot be read. -/
def lines : DirectoryEntry → List (Option (List UInt8))
  | .file octets => (Line.split octets).map some
  | .folder => [none]

theorem lines_cut (first second : List UInt8) :
    (file (first ++ 10 :: second)).lines = (file (first ++ [10])).lines ++ (file second).lines := by
  rw [lines, lines, lines, Line.split, Line.splitAfter_append, List.map_append]
  rfl

/-- A file that is cut after line feeds has the lines of its pieces. -/
theorem lines_flatten_append {pieces : List (List UInt8)}
    (h : ∀ piece ∈ pieces, ∃ line, piece = line ++ [10]) (last : List UInt8) :
    (file (pieces.flatten ++ last)).lines =
      (pieces.flatMap fun piece => (file piece).lines) ++ (file last).lines := by
  induction pieces with
  | nil => rfl
  | cons piece pieces ih =>
      obtain ⟨⟨line, rfl⟩, hpieces⟩ := List.forall_mem_cons.mp h
      have hcut := lines_cut line (pieces.flatten ++ last)
      rw [ih hpieces] at hcut
      simpa using hcut

end DirectoryEntry

def StreamSchema.lineResult (schema : StreamSchema) : Option (List UInt8) → LineResult
  | some line => Reading.lineRow? schema line
  | none => .error .unreadable

theorem DirectoryEntry.lineResults_eq (schema : StreamSchema) (entry : DirectoryEntry) :
    entry.lineResults schema = entry.lines.map schema.lineResult := by
  cases entry with
  | file octets =>
      rw [lineResults, lines, List.map_map]
      rfl
  | folder => rfl

instance : TransCmp fun a b : Nat × String × DirectoryEntry => Order.integers a.1 b.1 :=
  Order.transCmp_on Order.integers fun p : Nat × String × DirectoryEntry => (p.1 : Int)

namespace Directory

/-- The shards of a family with their part ids, in the order in which the directory lists them. -/
def shards (stem : String) (directory : Directory) : List (Nat × String × DirectoryEntry) :=
  directory.filterMap fun e => (partId? stem e.1).map fun id => (id, e)

/-- Whether the shards of a stream have distinct part ids, and their lines, taken in the order of
the ids, are the given ones. -/
def HasLines (schema : StreamSchema) (directory : Directory)
    (lines : List (Option (List UInt8))) : Prop :=
  ∃ shards : List (Nat × String × DirectoryEntry),
    shards.Perm (directory.shards schema.fileStem) ∧
      shards.Pairwise (fun a b => a.1 < b.1) ∧
      (shards.flatMap fun s => s.2.2.lines) = lines

/-- Whether two directories have the same lines of a stream, cut into shards or not. -/
def SameLines (schema : StreamSchema) (first second : Directory) : Prop :=
  ∃ lines, first.HasLines schema lines ∧ second.HasLines schema lines

variable {schema : StreamSchema} {directory first second : Directory}
  {lines : List (Option (List UInt8))}

theorem HasLines.of_perm (hlines : first.HasLines schema lines) (h : first.Perm second) :
    second.HasLines schema lines := by
  obtain ⟨shards, hshards, hrest⟩ := hlines
  exact ⟨shards, hshards.trans (h.filterMap _), hrest⟩

theorem hasLines_iff :
    directory.HasLines schema lines ↔
      (directory.parts schema.fileStem).Pairwise (fun a b => a.1 < b.1) ∧
        ((directory.parts schema.fileStem).flatMap fun p => p.2.2.lines) = lines := by
  constructor
  · rintro ⟨shards, hshards, hids, hlines⟩
    have hlt : shards.Pairwise fun a b => Order.integers a.1 b.1 = .lt :=
      hids.imp fun hab => if_pos (Int.ofNat_lt.mpr hab)
    have hparts : directory.parts schema.fileStem = shards :=
      Order.sort_eq_of_pairwise hlt hshards
    rw [hparts]
    exact ⟨hids, hlines⟩
  · rintro ⟨hids, hlines⟩
    exact ⟨_, Order.perm_sort _ _, hids, hlines⟩

theorem HasLines.reading_eq (h : directory.HasLines schema lines) :
    directory.reading schema = .ofResults (lines.map schema.lineResult) := by
  obtain ⟨-, hlines⟩ := hasLines_iff.mp h
  simp only [reading, lineResults, DirectoryEntry.lineResults_eq]
  rw [← hlines, List.map_flatMap]

theorem SameLines.reading_eq (h : SameLines schema first second) :
    first.reading schema = second.reading schema := by
  obtain ⟨lines, hfirst, hsecond⟩ := h
  rw [hfirst.reading_eq, hsecond.reading_eq]

end Directory

open Directory (SameLines)

theorem Resolver.ofUrlStream_eq_of_sameLines {first second : Directory}
    (h : SameLines .patterns first second) :
    ofUrlStream (some first) = ofUrlStream (some second) := by
  unfold ofUrlStream
  rw [Directory.ofDirectory_eq, Directory.ofDirectory_eq, h.reading_eq]

namespace Derivation

variable {first second : Directory}

theorem duplicates_eq_of_sameLines (hurls : SameLines .patterns first second)
    (hcontents : SameLines .contents first second) (sampleSize : Nat) :
    duplicates (some first) sampleSize = duplicates (some second) sampleSize := by
  rw [duplicates_some, duplicates_some, hurls.reading_eq, hcontents.reading_eq]

theorem topDomains_eq_of_sameLines (hlinks : SameLines .outlinks first second)
    (configuration : Configuration) (resolver : Resolver Int64) :
    topDomains configuration (some first) resolver =
      topDomains configuration (some second) resolver := by
  rw [topDomains_some, topDomains_some, hlinks.reading_eq]

theorem run_eq_of_sameLines (hurls : SameLines .patterns first second)
    (hcontents : SameLines .contents first second) (hlinks : SameLines .outlinks first second)
    (configuration : Configuration) (sink : Sink) :
    run configuration (some first) (Resolver.ofUrlStream (some first)) sink =
      run configuration (some second) (Resolver.ofUrlStream (some second)) sink := by
  simp only [run, records]
  rw [duplicates_eq_of_sameLines hurls hcontents, topDomains_eq_of_sameLines hlinks,
    Resolver.ofUrlStream_eq_of_sameLines hurls]

/-- How a crawl is cut into shards does not show in its records and rankings, nor in the fault if
they cannot be derived, nor in what a whole derivation writes. -/
theorem derived_eq_of_sameLines (hurls : SameLines .patterns first second)
    (hcontents : SameLines .contents first second) (hlinks : SameLines .outlinks first second) :
    (∀ sampleSize,
        duplicates (some first) sampleSize = duplicates (some second) sampleSize) ∧
      (∀ configuration resolver,
        topDomains configuration (some first) resolver =
          topDomains configuration (some second) resolver) ∧
      ∀ configuration sink,
        run configuration (some first) (Resolver.ofUrlStream (some first)) sink =
          run configuration (some second) (Resolver.ofUrlStream (some second)) sink :=
  ⟨duplicates_eq_of_sameLines hurls hcontents, topDomains_eq_of_sameLines hlinks,
    run_eq_of_sameLines hurls hcontents hlinks⟩

/-- The contents of the second url stand on both sides of a cut and a bad link just after one, the
shards are listed out of order, and one of them is empty. -/
theorem derived_eq_of_cut_between_contents :
    let file (text : String) : DirectoryEntry := .file (Utf8.encode text.toList)
    let cut : Directory :=
      [("urllinks.txt.1", file "bad\ta\t1\t0\thttp://b.com/\n"),
        ("urlcontents.txt.10", file "2\t2\t5\tNews\n"),
        ("urlids.txt.0", file "1\thttp\ta.com\t/\t\n\n2\thttp\ta.com\t/b\t"),
        ("urlcontents.txt.9", file "1\t1\t10\tHome\r\n2\t1\t10\tHome\n"),
        ("urllinks.txt.0", file "1\ta\t1\t0\thttp://b.com/\n"),
        ("urlids.txt.4", file "")]
    let whole : Directory :=
      [("urlids.txt.7", file "1\thttp\ta.com\t/\t\n\n2\thttp\ta.com\t/b\t\n"),
        ("urlcontents.txt.0", file "1\t1\t10\tHome\n2\t1\t10\tHome\n2\t2\t5\tNews"),
        ("urllinks.txt.0", file "1\ta\t1\t0\thttp://b.com/\nbad\ta\t1\t0\thttp://b.com/\n")]
    SameLines .patterns cut whole ∧ SameLines .contents cut whole ∧
      SameLines .outlinks cut whole ∧
      duplicates (some cut) 10 = duplicates (some whole) 10 ∧
      topDomains .default (some cut) (Resolver.ofEntries []) =
        topDomains .default (some whole) (Resolver.ofEntries []) ∧
      run .default (some cut) (Resolver.ofUrlStream (some cut)) (.create .lines 0) =
        run .default (some whole) (Resolver.ofUrlStream (some whole)) (.create .lines 0) := by
  intro file cut whole
  have hurls : SameLines .patterns cut whole :=
    ⟨_, ⟨[(0, cut[2]), (4, cut[5])], by decide +kernel, by decide +kernel, rfl⟩,
      [(7, whole[0])], by decide +kernel, by decide +kernel, by decide +kernel⟩
  have hcontents : SameLines .contents cut whole :=
    ⟨_, ⟨[(9, cut[3]), (10, cut[1])], by decide +kernel, by decide +kernel, rfl⟩,
      [(0, whole[1])], by decide +kernel, by decide +kernel, by decide +kernel⟩
  have hlinks : SameLines .outlinks cut whole :=
    ⟨_, ⟨[(0, cut[4]), (1, cut[0])], by decide +kernel, by decide +kernel, rfl⟩,
      [(0, whole[2])], by decide +kernel, by decide +kernel, by decide +kernel⟩
  have h := derived_eq_of_sameLines hurls hcontents hlinks
  exact ⟨hurls, hcontents, hlinks, h.1 10, h.2.1 .default _, h.2.2 .default _⟩

end Derivation

end CrawlAudit
