import CrawlAudit.Proofs.RecordRows
import CrawlAudit.Proofs.SinkWrites

/-!
# Sessions of a table sink

A session is a sequence of calls of one sink. What is written waits, a flush stores all that was
written since the last successful one or nothing at all, and after a flush that failed none
succeeds.
-/

namespace CrawlAudit

open DuplicateRecord (latest)
open RecordTables (duplicateRow isRankedIn lastBatch? withRanking)

/-- A call of a sink. A flush comes with the time at which it happens. -/
inductive SinkCall where
  | write (write : SinkWrite)
  | flush (time : Int64)

def TableSink.flushAt (sink : TableSink) (time : Int64) : Except Fault Unit × TableSink :=
  { sink with stamp := time }.flush

/-- A sink with what has been written since its last successful flush. -/
structure TableSession where
  sink : TableSink
  unflushed : List SinkWrite

namespace TableSession

def start (tables : RecordTables) (stamp : Int64) : TableSession :=
  ⟨.create tables stamp, []⟩

def call (session : TableSession) : SinkCall → TableSession
  | .write write => ⟨session.sink.write write, session.unflushed ++ [write]⟩
  | .flush time =>
    match session.sink.flushAt time with
    | (.ok (), sink) => ⟨sink, []⟩
    | (.error _, sink) => ⟨sink, session.unflushed⟩

def run (session : TableSession) (calls : List SinkCall) : TableSession :=
  calls.foldl call session

/-- Whether a batch of domains names one of them twice. -/
def NamesDomainTwice (writes : List SinkWrite) : Prop :=
  ∃ ranking batch, .domains ranking batch ∈ writes ∧ ¬(domainNames batch).Nodup

/-- Whether a row of domains belongs to a ranking of which a batch was written. -/
def isRewritten (writes : List SinkWrite) (row : List StoredValue) : Bool :=
  (writes.filterMap SinkWrite.batch?).any fun batch => isRankedIn batch.1 row

/-- The tables after the writes have been stored in those before. Duplicates are replaced if there
was any write of duplicates, be it empty, and a ranking by the last batch written of it, ranked from
one in its order. -/
structure IsStored (time : Int64) (writes : List SinkWrite) (before after : RecordTables) :
    Prop where
  duplicates : after.duplicates =
    if writes.any SinkWrite.isDuplicates then
      (latest (writes.flatMap SinkWrite.records)).map fun record => storedRow time record.members
    else before.duplicates
  ranking (ranking : DomainRanking) (batch : List (RankedDomain String)) :
    lastBatch? (writes.filterMap SinkWrite.batch?) ranking = some batch →
      after.domains.filter (isRankedIn ranking) =
        batch.mapIdx fun i domain => storedRow time (RankedEntry.members ⟨ranking, i + 1, domain.2⟩)
  others : after.domains.filter (fun row => !isRewritten writes row) =
    before.domains.filter fun row => !isRewritten writes row

/-- The buffers of the sink hold what was written since its last successful flush. -/
structure IsFaithful (session : TableSession) : Prop where
  duplicates : session.sink.duplicates = session.unflushed.flatMap SinkWrite.records
  replaceDuplicates :
    session.sink.replaceDuplicates = session.unflushed.any SinkWrite.isDuplicates
  domains : session.sink.domains = session.unflushed.filterMap SinkWrite.batch?

theorem namesDomainTwice_iff {writes : List SinkWrite} :
    NamesDomainTwice writes ↔
      ¬∀ batch ∈ writes.filterMap SinkWrite.batch?, (domainNames batch.2).Nodup := by
  simp only [NamesDomainTwice, List.mem_filterMap, not_forall]
  constructor
  · rintro ⟨ranking, batch, hwrite, htwice⟩
    exact ⟨(ranking, batch), ⟨_, hwrite, rfl⟩, htwice⟩
  · rintro ⟨batch, ⟨write, hwrite, hbatch⟩, htwice⟩
    cases write with
    | duplicates records => cases hbatch
    | domains ranking entries =>
        cases hbatch
        exact ⟨ranking, entries, hwrite, htwice⟩

theorem namesDomainTwice_append_left {writes : List SinkWrite} (h : NamesDomainTwice writes)
    (later : List SinkWrite) : NamesDomainTwice (writes ++ later) := by
  obtain ⟨ranking, batch, hwrite, htwice⟩ := h
  exact ⟨ranking, batch, List.mem_append_left later hwrite, htwice⟩

theorem flatMap_records_eq_nil {writes : List SinkWrite}
    (h : writes.any SinkWrite.isDuplicates = false) :
    writes.flatMap SinkWrite.records = [] := by
  rw [List.flatMap_eq_nil_iff]
  intro write hwrite
  cases write with
  | duplicates records => exact absurd rfl (List.any_eq_false.mp h _ hwrite)
  | domains ranking batch => rfl

def flushed (time : Int64) (writes : List SinkWrite) (tables : RecordTables) : RecordTables where
  duplicates :=
    if writes.any SinkWrite.isDuplicates then
      (latest (writes.flatMap SinkWrite.records)).map (duplicateRow time)
    else tables.duplicates
  domains := (writes.filterMap SinkWrite.batch?).foldl (withRanking time) tables.domains

theorem isStored_flushed (time : Int64) (writes : List SinkWrite) (tables : RecordTables) :
    IsStored time writes tables (flushed time writes tables) where
  duplicates := by rw [flushed, RecordTables.map_duplicateRow]
  ranking ranking batch hbatch := by
    change List.filter _ (List.foldl _ _ _) = _
    rw [RecordTables.filter_foldl_withRanking, hbatch]
    exact RecordTables.batchRows_eq time (ranking, batch)
  others := by
    refine RecordTables.filter_foldl_withRanking_of_ne _ _ _ fun row hrow batch hbatch => ?_
    rw [Bool.not_eq_true', isRewritten, List.any_eq_false] at hrow
    exact Bool.eq_false_iff.mpr (hrow batch hbatch)

namespace IsFaithful

variable {session : TableSession}

theorem start (tables : RecordTables) (stamp : Int64) : IsFaithful (.start tables stamp) :=
  ⟨rfl, rfl, rfl⟩

theorem committedDuplicates_eq (h : IsFaithful session) (time : Int64) :
    { session.sink with stamp := time }.committedDuplicates =
      (flushed time session.unflushed session.sink.tables).duplicates := by
  rw [TableSink.committedDuplicates, flushed]
  dsimp only
  rw [h.duplicates, h.replaceDuplicates, RecordTables.foldl_putDuplicate]
  cases hany : session.unflushed.any SinkWrite.isDuplicates with
  | true => rfl
  | false =>
      -- without a write of duplicates nothing waits that could replace a row
      rw [flatMap_records_eq_nil hany]
      simp [latest]

theorem flushAt_eq_ok (h : IsFaithful session) (hnames : ¬NamesDomainTwice session.unflushed)
    (time : Int64) :
    session.sink.flushAt time =
      (.ok (), .create (flushed time session.unflushed session.sink.tables) time) := by
  rw [namesDomainTwice_iff, not_not, ← h.domains] at hnames
  have hdomains : { session.sink with stamp := time }.committedDomains? =
      some (flushed time session.unflushed session.sink.tables).domains := by
    rw [TableSink.committedDomains?, RecordTables.foldlM_replaceRanking?, if_pos hnames, h.domains]
    rfl
  rw [TableSink.flushAt, TableSink.flush, hdomains, h.committedDuplicates_eq time]

theorem flushAt_eq_error (h : IsFaithful session) (hnames : NamesDomainTwice session.unflushed)
    (time : Int64) :
    session.sink.flushAt time = (.error .sinkRefused, { session.sink with stamp := time }) := by
  rw [namesDomainTwice_iff, ← h.domains] at hnames
  have hdomains : { session.sink with stamp := time }.committedDomains? = none := by
    rw [TableSink.committedDomains?, RecordTables.foldlM_replaceRanking?, if_neg hnames]
  rw [TableSink.flushAt, TableSink.flush, hdomains]

theorem call (h : IsFaithful session) (call : SinkCall) : IsFaithful (session.call call) := by
  cases call with
  | write write =>
      constructor
      · simp [TableSession.call, TableSink.duplicates_write, h.duplicates]
      · simp [TableSession.call, TableSink.replaceDuplicates_write, h.replaceDuplicates]
      · cases hbatch : write.batch? <;>
          simp [TableSession.call, TableSink.domains_write, h.domains, hbatch]
  | flush time =>
      rw [TableSession.call]
      by_cases hnames : NamesDomainTwice session.unflushed
      · rw [h.flushAt_eq_error hnames time]
        exact ⟨h.duplicates, h.replaceDuplicates, h.domains⟩
      · rw [h.flushAt_eq_ok hnames time]
        exact ⟨rfl, rfl, rfl⟩

theorem run (h : IsFaithful session) (calls : List SinkCall) : IsFaithful (session.run calls) := by
  induction calls generalizing session with
  | nil => exact h
  | cons call calls ih => exact ih (h.call call)

theorem areOwn_run (h : IsFaithful session)
    (hown : RecordTables.AreOwn session.sink.tables.domains) (calls : List SinkCall) :
    RecordTables.AreOwn (session.run calls).sink.tables.domains := by
  induction calls generalizing session with
  | nil => exact hown
  | cons call calls ih =>
      refine ih (h.call call) ?_
      cases call with
      | write write =>
          change RecordTables.AreOwn (session.sink.write write).tables.domains
          rwa [TableSink.tables_write]
      | flush time =>
          rw [TableSession.call]
          by_cases hnames : NamesDomainTwice session.unflushed
          · rwa [h.flushAt_eq_error hnames time]
          · rw [h.flushAt_eq_ok hnames time]
            exact RecordTables.areOwn_foldl_withRanking time hown _

/-- A batch that names a domain twice never leaves the buffer, and nothing is stored any more. -/
theorem run_of_namesDomainTwice (h : IsFaithful session)
    (hnames : NamesDomainTwice session.unflushed) (calls : List SinkCall) :
    NamesDomainTwice (session.run calls).unflushed ∧
      (session.run calls).sink.tables = session.sink.tables := by
  induction calls generalizing session with
  | nil => exact ⟨hnames, rfl⟩
  | cons call calls ih =>
      have hcall : NamesDomainTwice (session.call call).unflushed ∧
          (session.call call).sink.tables = session.sink.tables := by
        cases call with
        | write write =>
            exact ⟨namesDomainTwice_append_left hnames [write], session.sink.tables_write write⟩
        | flush time =>
            rw [TableSession.call, h.flushAt_eq_error hnames time]
            exact ⟨hnames, rfl⟩
      obtain ⟨hlater, htables⟩ := ih (h.call call) hcall.1
      exact ⟨hlater, htables.trans hcall.2⟩

end IsFaithful

/-- After any calls of a sink a write changes no table, and a flush without anything written since
the last successful one changes none either. A flush stores all that was written since then, or a
batch names a domain twice: then it fails, leaves tables and buffers as they are, and no later
flush succeeds or changes a table. -/
theorem flushAt_run (tables : RecordTables) (stamp : Int64) (calls : List SinkCall)
    (time : Int64) :
    let session := (start tables stamp).run calls
    let result := session.sink.flushAt time
    (∀ write, (session.sink.write write).tables = session.sink.tables) ∧
      (session.unflushed = [] → result.1 = .ok () ∧ result.2.tables = session.sink.tables) ∧
      (¬NamesDomainTwice session.unflushed →
        result.1 = .ok () ∧
          IsStored time session.unflushed session.sink.tables result.2.tables) ∧
      (NamesDomainTwice session.unflushed →
        result = (.error .sinkRefused, { session.sink with stamp := time }) ∧
          ∀ later laterTime,
            let laterSession := session.run (.flush time :: later)
            (laterSession.sink.flushAt laterTime).1 = .error .sinkRefused ∧
              (laterSession.sink.flushAt laterTime).2.tables = session.sink.tables) := by
  intro session result
  have hfaithful : IsFaithful session := (IsFaithful.start tables stamp).run calls
  have hok (hnames : ¬NamesDomainTwice session.unflushed) :
      result.1 = .ok () ∧
        IsStored time session.unflushed session.sink.tables result.2.tables := by
    have hresult : result = _ := hfaithful.flushAt_eq_ok hnames time
    rw [hresult]
    exact ⟨rfl, isStored_flushed time session.unflushed session.sink.tables⟩
  refine ⟨session.sink.tables_write, fun hnone => ?_, hok, fun hnames => ⟨?_, ?_⟩⟩
  · have hnames : ¬NamesDomainTwice session.unflushed := by
      rw [hnone]
      rintro ⟨ranking, batch, hwrite, -⟩
      cases hwrite
    refine ⟨(hok hnames).1, ?_⟩
    have hresult : result = _ := hfaithful.flushAt_eq_ok hnames time
    rw [hresult, hnone]
    rfl
  · exact hfaithful.flushAt_eq_error hnames time
  · intro later laterTime laterSession
    have hlater := hfaithful.run (.flush time :: later)
    obtain ⟨htwice, htables⟩ := hfaithful.run_of_namesDomainTwice hnames (.flush time :: later)
    rw [hlater.flushAt_eq_error htwice laterTime]
    exact ⟨rfl, htables⟩

/-- A batch is stored in place of an earlier one of its ranking, and so is a record in place of one
that waits with its key. A batch that names a domain twice is refused, and so is everything written
later. -/
theorem flushAt_run_of_two_batches :
    let ranked (domain : String) : RankedDomain String := (1, ⟨domain, 1, 0, 1, [], []⟩)
    let calls : List SinkCall :=
      [.write (.domains .full [ranked "a.com", ranked "b.com"]), .flush 1,
        .write (.duplicates [⟨5, .title, 1, 0, true, []⟩]),
        .write (.duplicates [⟨5, .title, 1, 2, true, [7]⟩]),
        .write (.domains .full [ranked "b.com"])]
    let repeated : SinkCall := .write (.domains .secondLevel [ranked "c.com", ranked "c.com"])
    let session := (start .empty 0).run calls
    let refused := (start .empty 0).run (calls ++ [repeated])
    let after := (session.sink.flushAt 2).2.tables
    ¬NamesDomainTwice session.unflushed ∧
      after.duplicates = [[.integer 5, .text "title", .integer 1, .integer 2, .integer 1,
        .text "[7]", .integer 2]] ∧
      after.domains.filter (isRankedIn .full) = [[.text "full_domains", .integer 1, .text "b.com",
        .integer 1, .integer 0, .integer 1, .text "[]", .text "[]", .integer 2]] ∧
      NamesDomainTwice refused.unflushed ∧
      ((refused.run [.flush 2, .write (.domains .secondLevel [])]).sink.flushAt 3).1 =
        .error .sinkRefused := by
  intro ranked calls repeated session refused after
  have hsession : ¬NamesDomainTwice session.unflushed := by
    rw [namesDomainTwice_iff, not_not]
    decide +kernel
  have hrefused : NamesDomainTwice refused.unflushed := by
    rw [namesDomainTwice_iff]
    decide +kernel
  obtain ⟨-, -, hstored, -⟩ := flushAt_run .empty 0 calls 2
  obtain ⟨-, -, -, hfails⟩ := flushAt_run .empty 0 (calls ++ [repeated]) 2
  obtain ⟨-, hrows⟩ := hstored hsession
  have hduplicates := hrows.duplicates
  have hranking := hrows.ranking .full [ranked "b.com"] rfl
  refine ⟨hsession, hduplicates.trans (by decide +kernel), hranking.trans (by decide +kernel),
    hrefused, ?_⟩
  exact ((hfails hrefused).2 [.write (.domains .secondLevel [])] 3).1

end TableSession

end CrawlAudit
