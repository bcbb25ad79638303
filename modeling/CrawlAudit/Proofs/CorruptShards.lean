import CrawlAudit.Derivation
import CrawlAudit.Proofs.DuplicateClasses
import CrawlAudit.Proofs.StreamReading

/-!
# Derivations from corrupt shards

A corrupt shard stops a derivation before anything is written, provided that the derivation comes
upon the bad line. The links and the urls are always read to their end; the contents are read no
further than the join needs them, and a bad line beyond that point is passed over.
-/

namespace CrawlAudit

open Std

namespace Secondary

theorem afterJoin_eq (secondary : Secondary) (column : Nat) {primary : List Row}
    (hprimary : Ascending JoinKey.order (fun row => row.integer? column) primary)
    (hsecondary : Ascending JoinKey.order secondary.cursor.key secondary.cursor.rows) :
    secondary.afterJoin column primary =
      secondary.cursor.past JoinKey.order
        (primary.getLast?.map fun row => row.integer? column) := by
  induction primary using List.reverseRecOn with
  | nil => rfl
  | append_singleton rows row ih =>
      obtain ⟨hrows, -, hlast⟩ := List.pairwise_append.mp hprimary
      have hle : ∀ p ∈ rows.getLast?.map fun row => row.integer? column,
          (JoinKey.order p (row.integer? column)).isLE := by
        intro p hp
        obtain ⟨before, hbefore, rfl⟩ := Option.map_eq_some_iff.mp hp
        exact hlast before (List.mem_of_getLast? hbefore) row (List.mem_singleton_self row)
      have hfold : secondary.afterJoin column (rows ++ [row]) =
          (secondary.afterJoin column rows).after JoinKey.order (row.integer? column) :=
        List.foldl_concat ..
      rw [hfold, ih hrows, Cursor.after_past hsecondary hle, List.getLast?_concat,
        Option.map_some]

/-- A join looks past the end of an ascending stream iff there is a last primary row and no row of
the stream has a greater key. -/
theorem isExhausted_iff (secondary : Secondary) (column : Nat) {primary : List Row}
    (hprimary : Ascending JoinKey.order (fun row => row.integer? column) primary)
    (hsecondary : Ascending JoinKey.order secondary.cursor.key secondary.cursor.rows) :
    secondary.isExhausted column primary = true ↔
      ∃ last ∈ primary.getLast?, ∀ row ∈ secondary.rows,
        (JoinKey.order (row.integer? secondary.column) (last.integer? column)).isLE := by
  rw [isExhausted, afterJoin_eq secondary column hprimary hsecondary]
  cases hlast : primary.getLast? with
  | none =>
      rw [List.getLast?_eq_none_iff] at hlast
      simp [hlast]
  | some last =>
      have hne : primary ≠ [] := List.ne_nil_of_mem (List.mem_of_getLast? hlast)
      simp [hne, Cursor.past, cursor, Ordering.ne_gt_iff_isLE]

end Secondary

namespace DuplicateRecord

theorem visits_congr {contents contents' patterns : List Row}
    (h : ∀ row ∈ patterns, ∀ url, row.integer? 0 = some url →
      contentsOf contents url = contentsOf contents' url) (previous : Option JoinKey) :
    visits contents previous patterns = visits contents' previous patterns := by
  induction patterns generalizing previous with
  | nil => rfl
  | cons row rows ih =>
      obtain ⟨hrow, hrows⟩ := List.forall_mem_cons.mp h
      rw [visits, visits]
      cases hkey : row.integer? 0 with
      | none => exact ih hrows (some none)
      | some url =>
          dsimp only
          rw [hrow url hkey, ih hrows]

theorem ofStreams_congr {patterns contents contents' : List Row}
    (hpatterns : AscendingById patterns) (hcontents : AscendingById contents)
    (hcontents' : AscendingById contents')
    (h : ∀ row ∈ patterns, ∀ url, row.integer? 0 = some url →
      contentsOf contents url = contentsOf contents' url) (sampleSize : Nat) :
    ofStreams patterns contents sampleSize = ofStreams patterns contents' sampleSize := by
  rw [ofStreams, ofStreams, foldl_observeJoined hpatterns hcontents,
    foldl_observeJoined hpatterns hcontents', visits_congr h]

theorem contentsOf_append_of_gt {contents later patterns : List Row} {last : Row}
    (hpatterns : AscendingById patterns) (hlast : patterns.getLast? = some last)
    (hlater : ∀ row ∈ later, JoinKey.order (row.integer? 0) (last.integer? 0) = .gt)
    {row : Row} (hrow : row ∈ patterns) {url : Int64} (hurl : row.integer? 0 = some url) :
    contentsOf (contents ++ later) url = contentsOf contents url := by
  have hle : (JoinKey.order (some url) (last.integer? 0)).isLE := by
    obtain ⟨rows, rfl⟩ := List.getLast?_eq_some_iff.mp hlast
    rw [← hurl]
    obtain hmem | hmem := List.mem_append.mp hrow
    · exact (List.pairwise_append.mp hpatterns).2.2 row hmem last (List.mem_singleton_self last)
    · rw [List.mem_singleton.mp hmem]
      exact ReflCmp.isLE_rfl
  have hnone : (later.filter fun row => row.integer? 0 = some url) = [] := by
    refine List.filter_eq_nil_iff.mpr fun b hb => ?_
    rw [decide_eq_true_iff]
    intro heq
    have hgt := hlater b hb
    rw [heq] at hgt
    rw [hgt] at hle
    contradiction
  rw [contentsOf, contentsOf, List.filter_append, hnone, List.append_nil]

end DuplicateRecord

namespace Derivation

open DuplicateRecord (AscendingById contentsOf contentsSecondary ofStreams)

/-- Whether the join of the contents to the urls looks for a row past those before the first bad
line: there is a last url, and none of these rows has a greater id. -/
def ReadsPastContents (directory : Directory) : Prop :=
  ∃ last ∈ (directory.castRows .patterns).getLast?, ∀ row ∈ (directory.reading .contents).rows,
    (JoinKey.order (row.integer? 0) (last.integer? 0)).isLE

/-- Whether a derivation comes upon a bad line. -/
def MeetsBadLine (directory : Directory) : Prop :=
  directory.HasCorruptShard .patterns ∨ directory.HasCorruptShard .outlinks ∨
    directory.HasCorruptShard .contents ∧ ReadsPastContents directory

instance (directory : Directory) : Decidable (ReadsPastContents directory) :=
  inferInstanceAs (Decidable (∃ last ∈ (directory.castRows .patterns).getLast?,
    ∀ row ∈ (directory.reading .contents).rows,
      (JoinKey.order (row.integer? 0) (last.integer? 0)).isLE))

instance (directory : Directory) : Decidable (MeetsBadLine directory) :=
  inferInstanceAs (Decidable (_ ∨ _ ∨ _ ∧ _))

theorem duplicates_some (directory : Directory) (sampleSize : Nat) :
    duplicates (some directory) sampleSize = (do
      (directory.reading .patterns).check
      checkContents (directory.reading .patterns) (directory.reading .contents)
      return ofStreams (directory.reading .patterns).rows (directory.reading .contents).rows
        sampleSize) := by
  rw [duplicates, Directory.ofDirectory_eq, Directory.ofDirectory_eq]
  rfl

theorem topDomains_some (configuration : Configuration) (directory : Directory)
    (resolver : Resolver Int64) :
    topDomains configuration (some directory) resolver = (do
      (directory.reading .outlinks).check
      rankings configuration (countedLinks (directory.reading .outlinks).rows) resolver) := by
  rw [topDomains, Directory.ofDirectory_eq]
  rfl

section Sorted

variable {directory : Directory} (hpatterns : AscendingById (directory.castRows .patterns))
  (hcontents : AscendingById (directory.castRows .contents))

include hpatterns hcontents

theorem isExhausted_contents_iff (hurls : ¬directory.HasCorruptShard .patterns) :
    (contentsSecondary (directory.reading .contents).rows).isExhausted 0
        (directory.reading .patterns).rows = true ↔
      ReadsPastContents directory := by
  rw [Directory.rows_reading hurls]
  exact Secondary.isExhausted_iff _ 0 hpatterns
    (hcontents.sublist (Directory.rows_reading_isPrefix ..).sublist)

theorem duplicates_eq_error (sampleSize : Nat)
    (h : directory.HasCorruptShard .patterns ∨
      directory.HasCorruptShard .contents ∧ ReadsPastContents directory) :
    ∃ fault, duplicates (some directory) sampleSize = .error fault := by
  rw [duplicates_some]
  by_cases hurls : directory.HasCorruptShard .patterns
  · obtain ⟨fault, hfault⟩ := Directory.check_reading_eq_error hurls
    exact ⟨fault, by rw [hfault]; rfl⟩
  · obtain ⟨hbad, hpast⟩ := h.resolve_left hurls
    obtain ⟨fault, hfault⟩ := Directory.check_reading_eq_error hbad
    have hexhausted := (isExhausted_contents_iff hpatterns hcontents hurls).mpr hpast
    refine ⟨fault, ?_⟩
    rw [Directory.check_reading_eq_ok hurls, checkContents, if_pos hexhausted, hfault]
    rfl

theorem contentsOf_reading (hpast : ¬ReadsPastContents directory) {row : Row}
    (hrow : row ∈ directory.castRows .patterns) {url : Int64} (hurl : row.integer? 0 = some url) :
    contentsOf (directory.reading .contents).rows url =
      contentsOf (directory.castRows .contents) url := by
  obtain ⟨later, hlater⟩ := Directory.rows_reading_isPrefix .contents directory
  obtain ⟨last, hlast⟩ :=
    Option.isSome_iff_exists.mp (List.getLast?_isSome.mpr (List.ne_nil_of_mem hrow))
  simp only [ReadsPastContents, not_exists, not_and, not_forall] at hpast
  obtain ⟨beyond, hbeyond, hgt⟩ := hpast last hlast
  rw [← hlater] at hcontents ⊢
  refine (DuplicateRecord.contentsOf_append_of_gt hpatterns hlast (fun b hb => ?_) hrow
    hurl).symm
  -- a row before the bad line has a greater id than the last url, so all later ones have
  have hle := (List.pairwise_append.mp hcontents).2.2 beyond hbeyond b hb
  exact TransCmp.gt_of_isGE_of_gt (OrientedCmp.isGE_of_isLE hle) (by simpa using hgt)

theorem duplicates_eq_ok (sampleSize : Nat) (hurls : ¬directory.HasCorruptShard .patterns)
    (h : ¬(directory.HasCorruptShard .contents ∧ ReadsPastContents directory)) :
    duplicates (some directory) sampleSize =
      .ok (ofStreams (directory.castRows .patterns) (directory.castRows .contents) sampleSize) := by
  rw [duplicates_some, Directory.check_reading_eq_ok hurls, checkContents]
  by_cases hbad : directory.HasCorruptShard .contents
  · have hpast : ¬ReadsPastContents directory := fun hpast => h ⟨hbad, hpast⟩
    have hexhausted := mt (isExhausted_contents_iff hpatterns hcontents hurls).mp hpast
    have hreading : AscendingById (directory.reading .contents).rows :=
      hcontents.sublist (Directory.rows_reading_isPrefix ..).sublist
    rw [if_neg hexhausted, Directory.rows_reading hurls,
      DuplicateRecord.ofStreams_congr hpatterns hreading hcontents fun row hrow url hurl =>
        contentsOf_reading hpatterns hcontents hpast hrow hurl]
    rfl
  · rw [Directory.check_reading_eq_ok hbad, ite_self, Directory.rows_reading hurls,
      Directory.rows_reading hbad]
    rfl

/-- The records of a derivation that comes upon no bad line: those of all castable lines. -/
theorem records_eq_ok (configuration : Configuration) (resolver : Resolver Int64)
    (h : ¬MeetsBadLine directory) :
    records configuration (some directory) resolver =
      (rankings configuration (countedLinks (directory.castRows .outlinks)) resolver).map
        fun domains =>
          (ofStreams (directory.castRows .patterns) (directory.castRows .contents)
            configuration.duplicateSampleSize, domains) := by
  rw [MeetsBadLine, not_or, not_or] at h
  obtain ⟨hurls, hlinks, hjoin⟩ := h
  rw [records, duplicates_eq_ok hpatterns hcontents _ hurls hjoin, topDomains_some,
    Directory.check_reading_eq_ok hlinks, Directory.rows_reading hlinks]
  rfl

omit hpatterns hcontents in
theorem rankings_nil (configuration : Configuration) (entries : List (Int64 × String)) :
    rankings configuration (countedLinks []) (Resolver.ofEntries entries) = .ok ⟨[], []⟩ := by
  have htop (domain? : Outlink → Option String) :
      Outlink.topDomains domain? (countedLinks []) configuration.topDomains
        (sampling configuration) = [] := by
    change (Order.sort Outlink.rankOrder []).take _ = []
    rw [Order.sort, List.mergeSort_nil, List.take_nil]
  rw [rankings, htop, htop]
  rfl

theorem records_eq_ok_of_no_links (configuration : Configuration)
    (entries : List (Int64 × String)) (h : ¬MeetsBadLine directory)
    (hlinks : directory.castRows .outlinks = []) :
    records configuration (some directory) (Resolver.ofEntries entries) =
      .ok (ofStreams (directory.castRows .patterns) (directory.castRows .contents)
        configuration.duplicateSampleSize, ⟨[], []⟩) := by
  rw [records_eq_ok hpatterns hcontents configuration _ h, hlinks, rankings_nil]
  rfl

theorem records_eq_error (configuration : Configuration) (resolver : Resolver Int64)
    (h : MeetsBadLine directory) :
    ∃ fault, records configuration (some directory) resolver = .error fault := by
  rw [records]
  by_cases hjoin : directory.HasCorruptShard .patterns ∨
      directory.HasCorruptShard .contents ∧ ReadsPastContents directory
  · obtain ⟨fault, hfault⟩ :=
      duplicates_eq_error hpatterns hcontents configuration.duplicateSampleSize hjoin
    exact ⟨fault, by rw [hfault]; rfl⟩
  · rw [not_or] at hjoin
    have hlinks := (h.resolve_left hjoin.1).resolve_right hjoin.2
    obtain ⟨fault, hfault⟩ := Directory.check_reading_eq_error hlinks
    refine ⟨fault, ?_⟩
    rw [duplicates_eq_ok hpatterns hcontents _ hjoin.1 hjoin.2, topDomains_some, hfault]
    rfl

end Sorted

/-- A derivation that comes upon a bad line fails and leaves the sink as it was. One that does not
derives the records of all castable lines. -/
theorem run_of_corruptShards (configuration : Configuration) (directory : Directory)
    (resolver : Resolver Int64) (sink : Sink)
    (hpatterns : AscendingById (directory.castRows .patterns))
    (hcontents : AscendingById (directory.castRows .contents)) :
    (MeetsBadLine directory →
        ∃ fault, run configuration (some directory) resolver sink = (.error fault, sink)) ∧
      (¬MeetsBadLine directory →
        records configuration (some directory) resolver =
          (rankings configuration (countedLinks (directory.castRows .outlinks)) resolver).map
            fun domains =>
              (ofStreams (directory.castRows .patterns) (directory.castRows .contents)
                configuration.duplicateSampleSize, domains)) := by
  refine ⟨fun h => ?_, records_eq_ok hpatterns hcontents configuration resolver⟩
  obtain ⟨fault, hfault⟩ := records_eq_error hpatterns hcontents configuration resolver h
  exact ⟨fault, by rw [run, hfault]⟩

/-- A bad line just after the contents of the last url. -/
theorem run_of_badLine_after_last_url :
    let file (text : String) : DirectoryEntry := .file (Utf8.encode text.toList)
    let directory : Directory :=
      [("urlids.txt.0", file "1\thttp\ta.com\t/\t\n"),
        ("urlcontents.txt.0", file "1\t1\t10\tHome\nbad\t1\t12\tBroken\n")]
    AscendingById (directory.castRows .patterns) ∧
      AscendingById (directory.castRows .contents) ∧
      ∃ fault, run .default (some directory) (Resolver.ofEntries [])
        (.create .lines 0) = (.error fault, .create .lines 0) := by
  intro file directory
  have hpatterns : AscendingById (directory.castRows .patterns) := by decide +kernel
  have hcontents : AscendingById (directory.castRows .contents) := by decide +kernel
  have hmeets : MeetsBadLine directory := by decide +kernel
  exact ⟨hpatterns, hcontents,
    (run_of_corruptShards .default directory _ _ hpatterns hcontents).1 hmeets⟩

theorem run_of_records {configuration : Configuration} {directory : Directory}
    {resolver : Resolver Int64} {duplicateRecords : List DuplicateRecord} {domains : TopDomains}
    (h : records configuration (some directory) resolver = .ok (duplicateRecords, domains))
    (sink : LineSink) :
    run configuration (some directory) resolver (.lines sink) =
      (.ok ⟨duplicateRecords.length, domains.full.length, domains.secondLevel.length⟩,
        .lines (((sink.writeDuplicates duplicateRecords).writeDomains .full
          domains.full).writeDomains .secondLevel domains.secondLevel).flush) := by
  rw [run, h]
  rfl

/-- Contents of a later url before the bad line hide it, and records are stored. -/
theorem run_of_badLine_after_later_contents :
    let file (text : String) : DirectoryEntry := .file (Utf8.encode text.toList)
    let directory : Directory :=
      [("urlids.txt.0", file "1\thttp\ta.com\t/\t\n"),
        ("urlcontents.txt.0", file "1\t1\t10\tHome\n2\t1\t11\tNews\nbad\t1\t12\tBroken\n")]
    directory.HasCorruptShard .contents ∧
      AscendingById (directory.castRows .patterns) ∧
      AscendingById (directory.castRows .contents) ∧
      AscendingById (directory.castRows .outlinks) ∧
      ∃ after : LineSink,
        run .default (some directory) (Resolver.ofEntries []) (.create .lines 0) =
            (.ok ⟨1, 0, 0⟩, .lines after) ∧
          after.files.map (fun f => (f.1, f.2.length)) =
            [("duplicates.jsonl", 1), ("full_domains.jsonl", 0),
              ("second_level_domains.jsonl", 0)] := by
  intro file directory
  have hcorrupt : directory.HasCorruptShard .contents := by decide +kernel
  have hpatterns : AscendingById (directory.castRows .patterns) := by decide +kernel
  have hcontents : AscendingById (directory.castRows .contents) := by decide +kernel
  have hlinks : directory.castRows .outlinks = [] := by decide +kernel
  have hpassed : ¬MeetsBadLine directory := by decide +kernel
  have hduplicates : ofStreams (directory.castRows .patterns) (directory.castRows .contents)
      Configuration.default.duplicateSampleSize = [⟨1, .title, 1, 1, true, []⟩] := by
    decide +kernel
  have hrecords : records .default (some directory) (Resolver.ofEntries []) =
      .ok ([⟨1, .title, 1, 1, true, []⟩], ⟨[], []⟩) := by
    rw [records_eq_ok_of_no_links hpatterns hcontents _ _ hpassed hlinks, hduplicates]
  refine ⟨hcorrupt, hpatterns, hcontents, hlinks ▸ List.Pairwise.nil, _,
    run_of_records hrecords _, ?_⟩
  decide +kernel

end Derivation

end CrawlAudit
