import CrawlAudit.Proofs.CorruptShards
import CrawlAudit.Proofs.DomainRanking
import CrawlAudit.Proofs.RecordLines
import CrawlAudit.Proofs.TableSessions

/-!
# What a derivation stores

A derivation replaces what earlier ones have stored by its own records, each in one line and in one
row with the same members. It has one record for each kind of content on a url and names a domain
once in a ranking, so that the tables never refuse them.
-/

namespace CrawlAudit

open Std

namespace Detector

theorem slot_of_record? {detector : Detector} {sampleSize filled : Nat} {slot : Slot}
    {record : DuplicateRecord} (h : detector.record? sampleSize slot filled = some record) :
    (record.urlId, record.kind) = slot := by
  rw [record?] at h
  split at h
  · obtain ⟨hash, -, rfl⟩ := Option.map_eq_some_iff.mp h
    rfl
  · cases h
    rfl

theorem map_slot_finish_sublist (detector : Detector) (sampleSize : Nat) :
    ((detector.finish sampleSize).map fun r => (r.urlId, r.kind)).Sublist
      (detector.filled.map Prod.fst) := by
  rw [finish]
  induction detector.filled with
  | nil => exact .slnil
  | cons e entries ih =>
      rw [List.filterMap_cons, List.map_cons]
      split
      · exact ih.cons _
      · rename_i record hrecord
        split at hrecord
        · rw [List.map_cons, slot_of_record? hrecord]
          exact ih.cons_cons _
        · cases hrecord

end Detector

/-- Whatever the streams are, there is one record for a kind of content on a url at most. -/
theorem DuplicateRecord.pairwise_ofStreams (patterns contents : List Row) (sampleSize : Nat) :
    (ofStreams patterns contents sampleSize).Pairwise fun a b => ¬a.SameSlot b := by
  have hfilled := (Detector.represents_observing
    ((join 0 patterns [contentsSecondary contents]).filterMap fun j =>
      observation? j.primary (j.matches "contents"))).isSorted_filled
  rw [← foldl_observeJoined_eq] at hfilled
  have hall : (((join 0 patterns [contentsSecondary contents]).foldl observeJoined
      Detector.empty).filled.map Prod.fst).Pairwise fun s t => Slot.order s t = .lt :=
    List.pairwise_map.mpr hfilled
  have hslots := hall.sublist (Detector.map_slot_finish_sublist _ sampleSize)
  refine (List.pairwise_map.mp hslots).imp fun {a b} hlt hsame => ?_
  have hslot : (a.urlId, a.kind) = (b.urlId, b.kind) := Prod.ext hsame.1 hsame.2
  rw [hslot, (ReflCmp.compare_self : Slot.order _ _ = .eq)] at hlt
  cases hlt

namespace Outlink

theorem nodup_topDomains (domain? : Outlink → Option String) (links : List Outlink) (n : Nat)
    (sampling : Sampling) :
    ((topDomains domain? links n sampling).map fun d => d.2.domain).Nodup := by
  rw [topDomains, ranked_eq]
  refine .sublist ((List.take_sublist n _).map _) ?_
  rw [((Order.perm_sort rankOrder _).map _).nodup_iff, List.map_map]
  change ((followed domain? links).map id).Nodup
  rw [List.map_id]
  exact nodup_followed domain? links

theorem domainNames_of_resolveSources {domains : List (RankedDomain Int64)}
    {resolver : Resolver Int64} {shown : List (RankedDomain String)}
    (h : resolveSources domains resolver = .ok shown) :
    domainNames shown = domains.map fun d => d.2.domain := by
  obtain ⟨known, -, hshown⟩ := Fault.bind_eq_ok.mp h
  cases hshown
  rw [domainNames, List.map_map]
  rfl

end Outlink

def TopDomains.ranked (domains : TopDomains) : DomainRanking → List (RankedDomain String)
  | .full => domains.full
  | .secondLevel => domains.secondLevel

namespace Derivation

theorem pairwise_of_duplicates {directory : Option Directory} {sampleSize : Nat}
    {duplicateRecords : List DuplicateRecord}
    (h : duplicates directory sampleSize = .ok duplicateRecords) :
    duplicateRecords.Pairwise fun a b => ¬a.SameSlot b := by
  obtain ⟨patterns, -, h⟩ := Fault.bind_eq_ok.mp h
  obtain ⟨contents, -, h⟩ := Fault.bind_eq_ok.mp h
  obtain ⟨-, -, h⟩ := Fault.bind_eq_ok.mp h
  obtain ⟨-, -, h⟩ := Fault.bind_eq_ok.mp h
  cases h
  exact DuplicateRecord.pairwise_ofStreams patterns.rows contents.rows sampleSize

theorem nodup_of_topDomains {configuration : Configuration} {directory : Option Directory}
    {resolver : Resolver Int64} {domains : TopDomains}
    (h : topDomains configuration directory resolver = .ok domains) (ranking : DomainRanking) :
    (domainNames (domains.ranked ranking)).Nodup := by
  obtain ⟨reading, -, h⟩ := Fault.bind_eq_ok.mp h
  obtain ⟨-, -, h⟩ := Fault.bind_eq_ok.mp h
  obtain ⟨full, hfull, h⟩ := Fault.bind_eq_ok.mp h
  obtain ⟨secondLevel, hsecondLevel, h⟩ := Fault.bind_eq_ok.mp h
  cases h
  cases ranking with
  | full =>
      change (domainNames full).Nodup
      rw [Outlink.domainNames_of_resolveSources hfull]
      exact Outlink.nodup_topDomains ..
  | secondLevel =>
      change (domainNames secondLevel).Nodup
      rw [Outlink.domainNames_of_resolveSources hsecondLevel]
      exact Outlink.nodup_topDomains ..

def writes (duplicateRecords : List DuplicateRecord) (domains : TopDomains) : List SinkWrite :=
  [.duplicates duplicateRecords, .domains .full domains.full,
    .domains .secondLevel domains.secondLevel]

def summaryOf (duplicateRecords : List DuplicateRecord) (domains : TopDomains) :
    DerivationSummary :=
  ⟨duplicateRecords.length, domains.full.length, domains.secondLevel.length⟩

def entries (domains : TopDomains) (ranking : DomainRanking) : List RankedEntry :=
  (domains.ranked ranking).mapIdx fun i domain => ⟨ranking, i + 1, domain.2⟩

def entryMembers (domains : TopDomains) (ranking : DomainRanking) : List Json.Members :=
  (entries domains ranking).map RankedEntry.members

def isForeign (row : List StoredValue) : Bool :=
  !RecordTables.isRankedIn .full row && !RecordTables.isRankedIn .secondLevel row

/-- No kind of content on a url has two records, no ranking names a domain twice, and the ranks
count from one. -/
structure HaveDistinctKeys (duplicateRecords : List DuplicateRecord) (domains : TopDomains) :
    Prop where
  slots : duplicateRecords.Pairwise fun a b => ¬a.SameSlot b
  names (ranking : DomainRanking) : (domainNames (domains.ranked ranking)).Nodup
  ranks (ranking : DomainRanking) :
    (RankedEntry.ofDomains ranking (domains.ranked ranking)).map RankedEntry.rank =
      List.range' 1 (domains.ranked ranking).length

/-- The files of the records hold their lines and nothing else; other files are as before. Each
line is read back as its record, provided that the numbers fit. -/
structure AreLines (duplicateRecords : List DuplicateRecord) (domains : TopDomains) (stamp : Int)
    (before after : LineFiles) : Prop where
  duplicateLines : Sorted.find? Order.texts LineSink.duplicatesFile after =
    some ((duplicateRecords.map DuplicateRecord.members).map (recordLine stamp))
  domainLines (ranking : DomainRanking) :
    Sorted.find? Order.texts (LineSink.domainsFile ranking) after =
      some ((entryMembers domains ranking).map (recordLine stamp))
  duplicatesRead (time : Int64) :
    stamp = time.toInt → (∀ record ∈ duplicateRecords, record.IsSized) →
      LineSink.HoldsLines after LineSink.duplicatesFile DuplicateRecord.ofDocument? stamp
        duplicateRecords
  domainsRead (time : Int64) (ranking : DomainRanking) :
    stamp = time.toInt →
      (∀ entry ∈ entries domains ranking, IsCounter entry.rank ∧ entry.stats.IsSized) →
        LineSink.HoldsLines after (LineSink.domainsFile ranking) RankedEntry.ofDocument? stamp
          (entries domains ranking)
  others (name : String) :
    name ≠ LineSink.duplicatesFile → (∀ ranking, name ≠ LineSink.domainsFile ranking) →
      Sorted.find? Order.texts name after = Sorted.find? Order.texts name before

/-- The tables hold the rows of the records, whose columns are the members, and of what was there
before only rows that belong to neither ranking. Sinks store no such rows. -/
structure AreRows (duplicateRecords : List DuplicateRecord) (domains : TopDomains) (stamp : Int64)
    (before after : RecordTables) : Prop where
  duplicateRows : after.duplicates =
    (duplicateRecords.map DuplicateRecord.members).map (storedRow stamp)
  domainRows : after.domains = before.domains.filter isForeign ++
    (entryMembers domains .full).map (storedRow stamp) ++
      (entryMembers domains .secondLevel).map (storedRow stamp)
  ownRows : RecordTables.AreOwn before.domains →
    after.domains = (entryMembers domains .full).map (storedRow stamp) ++
      (entryMembers domains .secondLevel).map (storedRow stamp)
  duplicateColumns : ∀ members ∈ duplicateRecords.map DuplicateRecord.members,
    after.duplicateTable.columns = members.map Prod.fst ++ ["computed_at"]
  domainColumns (ranking : DomainRanking) : ∀ members ∈ entryMembers domains ranking,
    after.domainTable.columns = members.map Prod.fst ++ ["computed_at"]

theorem flatMap_records_writes (duplicateRecords : List DuplicateRecord) (domains : TopDomains) :
    (writes duplicateRecords domains).flatMap SinkWrite.records = duplicateRecords := by
  simp [writes, SinkWrite.records]

theorem flatMap_entries_writes (duplicateRecords : List DuplicateRecord) (domains : TopDomains)
    (ranking : DomainRanking) :
    (writes duplicateRecords domains).flatMap (SinkWrite.entries ranking) =
      entries domains ranking := by
  cases ranking <;> simp [writes, SinkWrite.entries, entries, TopDomains.ranked]

theorem map_rank_ofDomains (ranking : DomainRanking) (batch : List (RankedDomain String)) :
    (RankedEntry.ofDomains ranking batch).map RankedEntry.rank = List.range' 1 batch.length := by
  apply List.ext_getElem
  · simp [RankedEntry.ofDomains]
  · intro i hi hi'
    simp [RankedEntry.ofDomains, Nat.add_comm]

theorem batchRows_ranked (stamp : Int64) (domains : TopDomains) (ranking : DomainRanking) :
    RecordTables.batchRows stamp (ranking, domains.ranked ranking) =
      (entryMembers domains ranking).map (storedRow stamp) := by
  rw [← RecordTables.map_entryRow_ofDomains, entryMembers, List.map_map]
  exact List.map_congr_left fun entry _ => RecordTables.entryRow_eq_storedRow stamp entry

theorem not_namesDomainTwice_writes {duplicateRecords : List DuplicateRecord}
    {domains : TopDomains} (h : HaveDistinctKeys duplicateRecords domains) :
    ¬TableSession.NamesDomainTwice (writes duplicateRecords domains) := by
  rintro ⟨ranking, batch, hwrite, htwice⟩
  refine htwice ?_
  have hranked := h.names ranking
  simp only [writes, List.mem_cons, SinkWrite.domains.injEq, List.not_mem_nil, or_false,
    reduceCtorEq, false_or] at hwrite
  rcases hwrite with ⟨rfl, rfl⟩ | ⟨rfl, rfl⟩
  · exact hranked
  · exact hranked

theorem withRanking_withRanking_eq (stamp : Int64) (rows : List (List StoredValue))
    (full secondLevel : List (RankedDomain String)) :
    RecordTables.withRanking stamp (RecordTables.withRanking stamp rows (.full, full))
        (.secondLevel, secondLevel) =
      rows.filter isForeign ++ RecordTables.batchRows stamp (.full, full) ++
        RecordTables.batchRows stamp (.secondLevel, secondLevel) := by
  have hfull : (RecordTables.batchRows stamp (.full, full)).filter (fun row =>
      !RecordTables.isRankedIn .secondLevel row) = RecordTables.batchRows stamp (.full, full) := by
    refine List.filter_eq_self.mpr fun row hrow => ?_
    have hranked := RecordTables.isRankedIn_of_mem_batchRows stamp hrow
    have hother : DomainRanking.secondLevel ≠ .full := by decide
    rw [RecordTables.not_isRankedIn hranked hother, Bool.not_false]
  have hforeign : (rows.filter fun row => !RecordTables.isRankedIn .full row).filter (fun row =>
      !RecordTables.isRankedIn .secondLevel row) = rows.filter isForeign := by
    rw [List.filter_filter]
    exact List.filter_congr fun row _ => Bool.and_comm ..
  rw [RecordTables.withRanking, RecordTables.withRanking, List.filter_append, hfull, hforeign]

theorem filter_isForeign_eq_nil {rows : List (List StoredValue)}
    (h : RecordTables.AreOwn rows) : rows.filter isForeign = [] := by
  refine List.filter_eq_nil_iff.mpr fun row hrow => ?_
  obtain ⟨time, entry, rfl⟩ := h row hrow
  rw [← RecordTables.entryRow_eq_storedRow, isForeign, RecordTables.isRankedIn_entryRow,
    RecordTables.isRankedIn_entryRow]
  cases entry.ranking <;> decide

theorem domains_flushed (duplicateRecords : List DuplicateRecord) (domains : TopDomains)
    (stamp : Int64) (tables : RecordTables) :
    (TableSession.flushed stamp (writes duplicateRecords domains) tables).domains =
      tables.domains.filter isForeign ++ (entryMembers domains .full).map (storedRow stamp) ++
        (entryMembers domains .secondLevel).map (storedRow stamp) := by
  change RecordTables.withRanking stamp (RecordTables.withRanking stamp tables.domains
    (.full, domains.ranked .full)) (.secondLevel, domains.ranked .secondLevel) = _
  rw [withRanking_withRanking_eq, batchRows_ranked, batchRows_ranked]

theorem areRows_flushed {duplicateRecords : List DuplicateRecord} {domains : TopDomains}
    (h : HaveDistinctKeys duplicateRecords domains) (stamp : Int64) (tables : RecordTables) :
    AreRows duplicateRecords domains stamp tables
      (TableSession.flushed stamp (writes duplicateRecords domains) tables) where
  duplicateRows := by
    change (DuplicateRecord.latest ((writes duplicateRecords domains).flatMap
      SinkWrite.records)).map (RecordTables.duplicateRow stamp) = _
    rw [flatMap_records_writes, DuplicateRecord.latest_eq_self h.slots,
      RecordTables.map_duplicateRow, List.map_map]
    rfl
  domainRows := domains_flushed duplicateRecords domains stamp tables
  ownRows hown := by
    rw [domains_flushed, filter_isForeign_eq_nil hown, List.nil_append]
  duplicateColumns members hmembers := by
    obtain ⟨record, -, rfl⟩ := List.mem_map.mp hmembers
    rfl
  domainColumns ranking members hmembers := by
    obtain ⟨entry, -, rfl⟩ := List.mem_map.mp hmembers
    rfl

theorem areLines_flush (duplicateRecords : List DuplicateRecord) (domains : TopDomains)
    (stamp : Int) (files : LineFiles) :
    AreLines duplicateRecords domains stamp files
      ((LineSink.create files stamp).writeAll (writes duplicateRecords domains)).flush.files := by
  have hawaits := (LineSink.Awaits.create files stamp).writeAll (writes duplicateRecords domains)
  have hfiles := hawaits.find?_files_flush
  rw [LineSink.stamp_writeAll, List.nil_append] at hfiles
  have hduplicates := (hfiles LineSink.duplicatesFile).trans (if_pos rfl)
  rw [LineSink.linesTo_duplicatesFile, flatMap_records_writes] at hduplicates
  have hdomains (ranking : DomainRanking) :=
    (hfiles (LineSink.domainsFile ranking)).trans (if_pos (by cases ranking <;> rfl))
  simp only [LineSink.linesTo_domainsFile, flatMap_entries_writes] at hdomains
  constructor
  · rw [List.map_map]
    exact hduplicates
  · intro ranking
    rw [entryMembers, List.map_map]
    exact hdomains ranking
  · rintro time rfl hsized
    exact LineSink.holdsLines_of_map hduplicates fun record hrecord =>
      record.isLineOf (hsized record hrecord) time
  · rintro time ranking rfl hsized
    exact LineSink.holdsLines_of_map (hdomains ranking) fun entry hentry =>
      entry.isLineOf (hsized entry hentry).1 (hsized entry hentry).2 time
  · intro name hduplicates hranking
    rw [hfiles, if_neg]
    simp [writes, LineSink.isWritten, SinkWrite.file, Ne.symm hduplicates,
      Ne.symm (hranking .full), Ne.symm (hranking .secondLevel)]

theorem haveDistinctKeys_of_records {configuration : Configuration}
    {directory : Option Directory} {resolver : Resolver Int64}
    {duplicateRecords : List DuplicateRecord} {domains : TopDomains}
    (h : records configuration directory resolver = .ok (duplicateRecords, domains)) :
    HaveDistinctKeys duplicateRecords domains := by
  obtain ⟨duplicateRecords', hduplicates, h⟩ := Fault.bind_eq_ok.mp h
  obtain ⟨domains', hdomains, h⟩ := Fault.bind_eq_ok.mp h
  cases h
  exact ⟨pairwise_of_duplicates hduplicates, nodup_of_topDomains hdomains,
    fun ranking => map_rank_ofDomains ranking _⟩

/-- A derivation that fails leaves its sink as it is. One that does not stores its records, whether
in files or in tables and whatever was there before: the same ones as lines and as rows. -/
theorem run_create (configuration : Configuration) (directory : Option Directory)
    (resolver : Resolver Int64) (files : LineFiles) (tables : RecordTables) (lineStamp : Int)
    (tableStamp : Int64) :
    (∀ fault, records configuration directory resolver = .error fault →
        ∀ sink, run configuration directory resolver sink = (.error fault, sink)) ∧
      ∀ duplicateRecords domains,
        records configuration directory resolver = .ok (duplicateRecords, domains) →
          HaveDistinctKeys duplicateRecords domains ∧
          (∃ after, run configuration directory resolver (.lines (.create files lineStamp)) =
              (.ok (summaryOf duplicateRecords domains), .lines after) ∧
            AreLines duplicateRecords domains lineStamp files after.files) ∧
          ∃ after, run configuration directory resolver (.tables (.create tables tableStamp)) =
              (.ok (summaryOf duplicateRecords domains), .tables after) ∧
            AreRows duplicateRecords domains tableStamp tables after.tables := by
  constructor
  · intro fault hfault sink
    rw [run, hfault]
  intro duplicateRecords domains hrecords
  have hkeys := haveDistinctKeys_of_records hrecords
  have hsession := (TableSession.IsFaithful.start tables tableStamp).run
    ((writes duplicateRecords domains).map .write)
  have hflush : write duplicateRecords domains (.tables (.create tables tableStamp)) =
      (.ok (), .tables (.create
        (TableSession.flushed tableStamp (writes duplicateRecords domains) tables)
          tableStamp)) := by
    have hok := hsession.flushAt_eq_ok (not_namesDomainTwice_writes hkeys) tableStamp
    exact congrArg (fun result => (result.1, Sink.tables result.2)) hok
  refine ⟨hkeys, ⟨_, ?_, areLines_flush duplicateRecords domains lineStamp files⟩,
    .create (TableSession.flushed tableStamp (writes duplicateRecords domains) tables) tableStamp,
    ?_, areRows_flushed hkeys tableStamp tables⟩
  · rw [run, hrecords]
    rfl
  · rw [run, hrecords]
    dsimp only
    rw [hflush]
    rfl

/-- A title on two urls and no links: the lines and rows of an earlier derivation go, those of
its ranking too. -/
theorem run_create_of_shared_title :
    let file (text : String) : DirectoryEntry := .file (Utf8.encode text.toList)
    let directory : Directory :=
      [("urlids.txt.0", file "1\thttp\ta.com\t/\t\n2\thttp\ta.com\t/b\t\n"),
        ("urlcontents.txt.0", file "1\t1\t10\tHome\n2\t1\t10\tHome\n")]
    let files : LineFiles := [("duplicates.jsonl", ["old"]), ("full_domains.jsonl", ["old"])]
    let earlier : TableSession := (TableSession.start .empty 0).run
      [.write (.duplicates [⟨7, .title, 1, 0, false, []⟩]),
        .write (.domains .full [(1, ⟨"b.com", 1, 0, 1, [], []⟩)]), .flush 1]
    let tables := earlier.sink.tables
    let found : List DuplicateRecord :=
      [⟨1, .title, 1, 2, true, [2]⟩, ⟨2, .title, 1, 2, false, [1]⟩]
    records .default (some directory) (Resolver.ofEntries []) = .ok (found, ⟨[], []⟩) ∧
      (∃ after, run .default (some directory) (Resolver.ofEntries []) (.lines (.create files 2)) =
          (.ok ⟨2, 0, 0⟩, .lines after) ∧
        Sorted.find? Order.texts "duplicates.jsonl" after.files = some
          ["\x7b\"url_id\":1,\"content_type\":\"title\",\"filled_nb\":1,\"duplicates_nb\":2," ++
              "\"is_first\":true,\"duplicate_urls\":[2],\"computed_at\":2\x7d",
            "\x7b\"url_id\":2,\"content_type\":\"title\",\"filled_nb\":1,\"duplicates_nb\":2," ++
              "\"is_first\":false,\"duplicate_urls\":[1],\"computed_at\":2\x7d"] ∧
        Sorted.find? Order.texts "full_domains.jsonl" after.files = some []) ∧
      ∃ after, run .default (some directory) (Resolver.ofEntries []) (.tables (.create tables 2)) =
          (.ok ⟨2, 0, 0⟩, .tables after) ∧
        after.tables.duplicates =
          [[.integer 1, .text "title", .integer 1, .integer 2, .integer 1, .text "[2]", .integer 2],
            [.integer 2, .text "title", .integer 1, .integer 2, .integer 0, .text "[1]",
              .integer 2]] ∧
        after.tables.domains = [] := by
  intro file directory files earlier tables found
  have hpatterns : DuplicateRecord.AscendingById (directory.castRows .patterns) := by
    decide +kernel
  have hcontents : DuplicateRecord.AscendingById (directory.castRows .contents) := by
    decide +kernel
  have hlinks : directory.castRows .outlinks = [] := by decide +kernel
  have hpassed : ¬MeetsBadLine directory := by decide +kernel
  have hfound : DuplicateRecord.ofStreams (directory.castRows .patterns)
      (directory.castRows .contents) Configuration.default.duplicateSampleSize = found := by
    decide +kernel
  have hrecords : records .default (some directory) (Resolver.ofEntries []) =
      .ok (found, ⟨[], []⟩) := by
    rw [records_eq_ok_of_no_links hpatterns hcontents _ _ hpassed hlinks, hfound]
  obtain ⟨-, hstored⟩ :=
    run_create .default (some directory) (Resolver.ofEntries []) files tables 2 2
  obtain ⟨-, ⟨lines, hlines, harelines⟩, rows, hrows, harerows⟩ := hstored _ _ hrecords
  have hown : RecordTables.AreOwn tables.domains :=
    (TableSession.IsFaithful.start .empty 0).areOwn_run (by rintro row ⟨⟩) _
  have hduplicateLines := harelines.duplicateLines
  have hduplicateRows := harerows.duplicateRows
  exact ⟨hrecords,
    ⟨lines, hlines, hduplicateLines.trans (by decide +kernel), harelines.domainLines .full⟩,
    rows, hrows, hduplicateRows.trans (by decide +kernel), harerows.ownRows hown⟩

end Derivation

end CrawlAudit
