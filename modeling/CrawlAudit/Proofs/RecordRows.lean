import CrawlAudit.Proofs.SinkWrites
import CrawlAudit.Proofs.SortedMap
import Mathlib.Data.List.Dedup

/-!
# Rows of records

What the statements of a flush leave in the tables: of the duplicates of one key the last one, and
of a ranking the last batch, unless some batch names a domain twice.
-/

namespace CrawlAudit

theorem ContentKind.name_injective : Function.Injective ContentKind.name := by
  intro k k' h
  revert h
  cases k <;> cases k' <;> decide

theorem DomainRanking.name_injective : Function.Injective DomainRanking.name := by
  intro r r' h
  revert h
  cases r <;> cases r' <;> decide

namespace DuplicateRecord

/-- Whether two records are about one kind of content on one url. -/
def SameSlot (a b : DuplicateRecord) : Prop :=
  a.urlId = b.urlId ∧ a.kind = b.kind

instance : DecidableRel SameSlot :=
  fun _ _ => inferInstanceAs (Decidable (_ ∧ _))

/-- The records without those that a later one about the same kind on the same url replaces. -/
def latest (records : List DuplicateRecord) : List DuplicateRecord :=
  records.pwFilter fun a b => ¬a.SameSlot b

theorem forall_mem_latest {records : List DuplicateRecord} {a : DuplicateRecord} :
    (∀ b ∈ latest records, ¬a.SameSlot b) ↔ ∀ b ∈ records, ¬a.SameSlot b := by
  refine List.forall_mem_pwFilter (fun {a b c} hac => ?_) a records
  by_contra hboth
  rw [not_or, not_not, not_not] at hboth
  exact hac ⟨hboth.1.1.trans hboth.2.1, hboth.1.2.trans hboth.2.2⟩

theorem latest_eq_self {records : List DuplicateRecord}
    (h : records.Pairwise fun a b => ¬a.SameSlot b) : latest records = records :=
  List.pwFilter_eq_self.mpr h

end DuplicateRecord

def domainNames (batch : List (RankedDomain String)) : List String :=
  batch.map fun d => d.2.domain

/-- The value in which a member of a record is stored: an integer in 64 bits, a truth value as one
or zero, a list as its text. -/
def storedMember : Json → StoredValue
  | .null => .null
  | .bool b => .integer (if b then 1 else 0)
  | .int n => .integer (Int64.ofInt n)
  | .float x => .real x
  | .text s => .text s
  | document => .text document.compact

/-- The row of a record: its members and the time at which it is stored. -/
def storedRow (stamp : Int64) (members : Json.Members) : List StoredValue :=
  members.map (fun m => storedMember m.2) ++ [.integer stamp]

namespace RecordTables

open DuplicateRecord (SameSlot latest forall_mem_latest)

section Duplicates

variable (stamp : Int64)

theorem duplicateRow_eq_storedRow (record : DuplicateRecord) :
    duplicateRow stamp record = storedRow stamp record.members := by
  simp [duplicateRow, storedRow, DuplicateRecord.members, storedMember, idsDocument,
    Int64.ofInt_eq_ofNat]

theorem map_duplicateRow (records : List DuplicateRecord) :
    records.map (duplicateRow stamp) = records.map fun r => storedRow stamp r.members :=
  List.map_congr_left fun record _ => duplicateRow_eq_storedRow stamp record

theorem duplicateKey_duplicateRow_eq_iff {a b : DuplicateRecord} :
    duplicateKey (duplicateRow stamp a) = duplicateKey (duplicateRow stamp b) ↔
      a.SameSlot b := by
  simp [duplicateKey, duplicateRow, SameSlot, ContentKind.name_injective.eq_iff]

theorem foldl_putDuplicate (records : List DuplicateRecord) (rows : List (List StoredValue)) :
    records.foldl (putDuplicate stamp) rows =
      (rows.filter fun row => records.all fun r =>
        duplicateKey row != duplicateKey (duplicateRow stamp r)) ++
        (latest records).map (duplicateRow stamp) := by
  induction records generalizing rows with
  | nil => simp [latest]
  | cons record records ih =>
      rw [List.foldl_cons, ih, putDuplicate, List.filter_append, List.filter_filter,
        List.append_assoc]
      congr 1
      · refine List.filter_congr fun row _ => ?_
        rw [List.all_cons, Bool.and_comm]
      · have hlater : (records.all fun r => duplicateKey (duplicateRow stamp record) !=
            duplicateKey (duplicateRow stamp r)) = true ↔ ∀ b ∈ records, ¬record.SameSlot b := by
          simp [duplicateKey_duplicateRow_eq_iff]
        by_cases h : ∀ b ∈ records, ¬record.SameSlot b
        · have hlatest : latest (record :: records) = record :: latest records :=
            List.pwFilter_cons_of_pos (forall_mem_latest.mpr h)
          rw [List.filter_singleton, hlater.mpr h, hlatest]
          rfl
        · have hlatest : latest (record :: records) = latest records :=
            List.pwFilter_cons_of_neg (mt forall_mem_latest.mp h)
          rw [List.filter_singleton, Bool.eq_false_iff.mpr (mt hlater.mp h), hlatest]
          rfl

end Duplicates

section Rankings

variable (stamp : Int64)

theorem entryRow_eq_storedRow (entry : RankedEntry) :
    entryRow stamp entry = storedRow stamp entry.members := by
  simp [entryRow, storedRow, RankedEntry.members, storedMember, destinationsDocument,
    Int64.ofInt_eq_ofNat]

theorem isRankedIn_entryRow (ranking : DomainRanking) (entry : RankedEntry) :
    isRankedIn ranking (entryRow stamp entry) = decide (entry.ranking = ranking) := by
  rw [Bool.eq_iff_iff, decide_eq_true_iff]
  simp [isRankedIn, entryRow, DomainRanking.name_injective.eq_iff]

theorem not_isRankedIn {ranking other : DomainRanking} {row : List StoredValue}
    (h : isRankedIn ranking row = true) (hne : other ≠ ranking) :
    isRankedIn other row = false := by
  rw [isRankedIn, beq_iff_eq] at h
  simp [isRankedIn, h, DomainRanking.name_injective.eq_iff, hne.symm]

/-- Whether entries can be stored beside some rows: none has the key of a row or of another
entry. -/
def AreStorable (rows : List (List StoredValue)) (entries : List RankedEntry) : Prop :=
  (∀ row ∈ rows, ∀ e ∈ entries, entryKey row ≠ entryKey (entryRow stamp e)) ∧
    (entries.map fun e => entryKey (entryRow stamp e)).Nodup

instance (rows : List (List StoredValue)) (entries : List RankedEntry) :
    Decidable (AreStorable stamp rows entries) :=
  inferInstanceAs (Decidable (_ ∧ _))

theorem areStorable_cons_iff {rows : List (List StoredValue)} {entry : RankedEntry}
    {entries : List RankedEntry} :
    AreStorable stamp rows (entry :: entries) ↔
      (rows.any fun row => entryKey row == entryKey (entryRow stamp entry)) = false ∧
        AreStorable stamp (rows ++ [entryRow stamp entry]) entries := by
  simp only [AreStorable, List.any_eq_false, beq_iff_eq, List.forall_mem_append,
    List.forall_mem_singleton, List.forall_mem_cons, List.map_cons, List.nodup_cons, List.mem_map,
    not_exists, not_and, forall_and]
  constructor
  · rintro ⟨⟨hentry, hrows⟩, hnew, hnodup⟩
    exact ⟨hentry, ⟨hrows, fun e he heq => hnew e he heq.symm⟩, hnodup⟩
  · rintro ⟨hentry, ⟨hrows, hnew⟩, hnodup⟩
    exact ⟨⟨hentry, hrows⟩, fun e he heq => hnew e he heq.symm, hnodup⟩

theorem foldlM_putRanked? (entries : List RankedEntry) (rows : List (List StoredValue)) :
    entries.foldlM (putRanked? stamp) rows =
      if AreStorable stamp rows entries then some (rows ++ entries.map (entryRow stamp))
      else none := by
  induction entries generalizing rows with
  | nil => simp [AreStorable]
  | cons entry entries ih =>
      rw [List.foldlM_cons, putRanked?, if_congr (areStorable_cons_iff stamp) rfl rfl]
      cases rows.any fun row => entryKey row == entryKey (entryRow stamp entry) with
      | true => rfl
      | false =>
          change entries.foldlM (putRanked? stamp) (rows ++ [entryRow stamp entry]) = _
          rw [ih, List.append_assoc]
          exact if_congr (and_iff_right rfl).symm rfl rfl

/-- The rows of a batch, ranked from one in its order. -/
def batchRows (batch : DomainBatch) : List (List StoredValue) :=
  batch.2.mapIdx fun i domain => entryRow stamp ⟨batch.1, i + 1, domain.2⟩

theorem map_entryRow_ofDomains (batch : DomainBatch) :
    (RankedEntry.ofDomains batch.1 batch.2).map (entryRow stamp) = batchRows stamp batch := by
  apply List.ext_getElem
  · simp [RankedEntry.ofDomains, batchRows]
  · intro i hi hi'
    simp [RankedEntry.ofDomains, batchRows]

theorem batchRows_eq (batch : DomainBatch) :
    batchRows stamp batch = batch.2.mapIdx fun i domain =>
      storedRow stamp (RankedEntry.members ⟨batch.1, i + 1, domain.2⟩) := by
  simp only [batchRows, entryRow_eq_storedRow]

theorem isRankedIn_of_mem_batchRows {batch : DomainBatch} {row : List StoredValue}
    (h : row ∈ batchRows stamp batch) : isRankedIn batch.1 row = true := by
  obtain ⟨i, hi, rfl⟩ := List.mem_mapIdx.mp h
  rw [isRankedIn_entryRow]
  exact decide_eq_true rfl

/-- The rows after a batch has been stored in place of its ranking. -/
def withRanking (rows : List (List StoredValue)) (batch : DomainBatch) :
    List (List StoredValue) :=
  (rows.filter fun row => !isRankedIn batch.1 row) ++ batchRows stamp batch

/-- Whether a sink has stored all these rows of domains. -/
def AreOwn (rows : List (List StoredValue)) : Prop :=
  ∀ row ∈ rows, ∃ time, ∃ entry : RankedEntry, row = storedRow time entry.members

theorem areOwn_withRanking {rows : List (List StoredValue)} (h : AreOwn rows)
    (batch : DomainBatch) : AreOwn (withRanking stamp rows batch) := by
  intro row hrow
  obtain hkept | hnew := List.mem_append.mp hrow
  · exact h row (List.mem_of_mem_filter hkept)
  · obtain ⟨i, hi, rfl⟩ := List.mem_mapIdx.mp hnew
    exact ⟨stamp, _, entryRow_eq_storedRow stamp _⟩

theorem areOwn_foldl_withRanking {rows : List (List StoredValue)} (h : AreOwn rows)
    (batches : List DomainBatch) : AreOwn (batches.foldl (withRanking stamp) rows) := by
  induction batches generalizing rows with
  | nil => exact h
  | cons batch batches ih => exact ih (areOwn_withRanking stamp h batch)

theorem map_entryKey_ofDomains (batch : DomainBatch) :
    (RankedEntry.ofDomains batch.1 batch.2).map (fun e => entryKey (entryRow stamp e)) =
      (domainNames batch.2).map fun domain =>
        (some (.text batch.1.name), some (.text domain)) := by
  apply List.ext_getElem
  · simp [RankedEntry.ofDomains, domainNames]
  · intro i hi hi'
    simp [RankedEntry.ofDomains, domainNames, entryKey, entryRow]

theorem replaceRanking?_eq (rows : List (List StoredValue)) (batch : DomainBatch) :
    replaceRanking? stamp rows batch =
      if (domainNames batch.2).Nodup then some (withRanking stamp rows batch) else none := by
  rw [replaceRanking?, foldlM_putRanked?, map_entryRow_ofDomains]
  refine if_congr ?_ rfl rfl
  rw [AreStorable, map_entryKey_ofDomains, List.nodup_map_iff fun a b hab => by simpa using hab]
  refine and_iff_right_of_imp fun _ row hrow e he heq => ?_
  -- the rows of the ranking are gone, so none has the key of an entry
  obtain ⟨i, hi, rfl⟩ := List.mem_mapIdx.mp he
  have hkept := (List.mem_filter.mp hrow).2
  have hranking : row[0]? = some (.text batch.1.name) := congrArg Prod.fst heq
  simp [isRankedIn, hranking] at hkept

/-- A flush of batches succeeds unless one of them names a domain twice, be it replaced by a later
batch or not. -/
theorem foldlM_replaceRanking? (batches : List DomainBatch) (rows : List (List StoredValue)) :
    batches.foldlM (replaceRanking? stamp) rows =
      if ∀ batch ∈ batches, (domainNames batch.2).Nodup then
        some (batches.foldl (withRanking stamp) rows)
      else none := by
  induction batches generalizing rows with
  | nil => simp
  | cons batch batches ih =>
      rw [List.foldlM_cons, replaceRanking?_eq]
      by_cases hbatch : (domainNames batch.2).Nodup
      · rw [if_pos hbatch]
        change batches.foldlM (replaceRanking? stamp) (withRanking stamp rows batch) = _
        rw [ih]
        refine if_congr ?_ rfl rfl
        rw [List.forall_mem_cons, and_iff_right hbatch]
      · rw [if_neg hbatch, if_neg fun hall => hbatch (hall batch (List.mem_cons_self ..))]
        rfl

def lastBatch? (batches : List DomainBatch) (ranking : DomainRanking) :
    Option (List (RankedDomain String)) :=
  batches.reverse.lookup ranking

theorem lastBatch?_concat (batches : List DomainBatch) (batch : DomainBatch)
    (ranking : DomainRanking) :
    lastBatch? (batches ++ [batch]) ranking =
      if ranking = batch.1 then some batch.2 else lastBatch? batches ranking := by
  rw [lastBatch?, List.reverse_append]
  exact Sorted.lookup_cons_eq ranking batch batches.reverse

theorem filter_withRanking_self (rows : List (List StoredValue)) (batch : DomainBatch) :
    (withRanking stamp rows batch).filter (isRankedIn batch.1) = batchRows stamp batch := by
  have hgone :
      (rows.filter fun row => !isRankedIn batch.1 row).filter (isRankedIn batch.1) = [] := by
    rw [List.filter_filter]
    simp
  have hall : (batchRows stamp batch).filter (isRankedIn batch.1) = batchRows stamp batch :=
    List.filter_eq_self.mpr fun row hrow => isRankedIn_of_mem_batchRows stamp hrow
  rw [withRanking, List.filter_append, hgone, hall, List.nil_append]

theorem filter_withRanking_of_ne (rows : List (List StoredValue)) {batch : DomainBatch}
    {p : List StoredValue → Bool}
    (h : ∀ row, p row = true → isRankedIn batch.1 row = false) :
    (withRanking stamp rows batch).filter p = rows.filter p := by
  have hnone : (batchRows stamp batch).filter p = [] := by
    refine List.filter_eq_nil_iff.mpr fun row hrow hp => ?_
    have hranked := isRankedIn_of_mem_batchRows stamp hrow
    rw [h row hp] at hranked
    contradiction
  have hkept : (rows.filter fun row => !isRankedIn batch.1 row).filter p = rows.filter p := by
    rw [List.filter_filter]
    refine List.filter_congr fun row _ => ?_
    by_cases hp : p row = true
    · simp [hp, h row hp]
    · simp [hp]
  rw [withRanking, List.filter_append, hnone, hkept, List.append_nil]

theorem filter_foldl_withRanking (batches : List DomainBatch) (rows : List (List StoredValue))
    (ranking : DomainRanking) :
    (batches.foldl (withRanking stamp) rows).filter (isRankedIn ranking) =
      match lastBatch? batches ranking with
      | some batch => batchRows stamp (ranking, batch)
      | none => rows.filter (isRankedIn ranking) := by
  induction batches using List.reverseRecOn with
  | nil => rfl
  | append_singleton batches batch ih =>
      rw [List.foldl_concat, lastBatch?_concat]
      by_cases hranking : ranking = batch.1
      · rw [if_pos hranking, hranking, filter_withRanking_self]
      · rw [if_neg hranking, filter_withRanking_of_ne, ih]
        exact fun row hrow => not_isRankedIn hrow (Ne.symm hranking)

theorem filter_foldl_withRanking_of_ne (batches : List DomainBatch)
    (rows : List (List StoredValue)) {p : List StoredValue → Bool}
    (h : ∀ row, p row = true → ∀ batch ∈ batches, isRankedIn batch.1 row = false) :
    (batches.foldl (withRanking stamp) rows).filter p = rows.filter p := by
  induction batches using List.reverseRecOn with
  | nil => rfl
  | append_singleton batches batch ih =>
      rw [List.foldl_concat, filter_withRanking_of_ne, ih]
      · exact fun row hrow b hb => h row hrow b (List.mem_append_left _ hb)
      · exact fun row hrow => h row hrow batch (List.mem_append_right _ (List.mem_singleton_self _))

end Rankings

end RecordTables

end CrawlAudit
