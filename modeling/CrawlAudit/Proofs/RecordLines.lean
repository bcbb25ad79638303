import CrawlAudit.Proofs.LineSessions
import CrawlAudit.Proofs.WrittenDocuments
import Mathlib.Data.List.Forall2

/-!
# Lines of records read back

The readers of a record ask for exactly its fields. After a flush every file that was written to
holds one line for each record of its kind, in the order of the writes, and each line is read back
as its record with the time of the sink.
-/

namespace CrawlAudit

namespace Json

/-- The values of an object with exactly these keys, in the order of the list. -/
def valuesOf? (keys : List String) (document : Json) : Option (List Json) :=
  document.members?.bind fun members =>
    if (members.map Prod.fst).Perm keys then
      some (keys.map fun key => (members.lookup key).getD .null)
    else none

def natural? (document : Json) : Option Nat :=
  document.int?.bind Int.toNat?

def int64? (document : Json) : Option Int64 :=
  document.int?.bind fun n =>
    if Int64.minValue.toInt ≤ n ∧ n ≤ Int64.maxValue.toInt then some (Int64.ofInt n) else none

def listOf? {α : Type} (read? : Json → Option α) (document : Json) : Option (List α) :=
  document.items?.bind fun items => items.mapM read?

/-- A record of these keys beside the time at which it was computed. -/
def stamped? {α : Type} (keys : List String) (ofValues? : List Json → Option α)
    (document : Json) : Option (α × Int) := do
  let values ← document.valuesOf? (keys ++ ["computed_at"])
  let record ← ofValues? values.dropLast
  let stamp ← values.getLast?.bind int?
  return (record, stamp)

theorem int64?_toInt (n : Int64) : int64? (.int n.toInt) = some n := by
  have hrange : Int64.minValue.toInt ≤ n.toInt ∧ n.toInt ≤ Int64.maxValue.toInt :=
    ⟨Int64.minValue_le_toInt n, Int64.toInt_le n⟩
  rw [int64?, int?, Option.bind_some, if_pos hrange, Int64.ofInt_toInt]

theorem listOf?_map {α : Type} {read? : Json → Option α} {write : α → Json} {xs : List α}
    (h : ∀ x ∈ xs, read? (write x).ordered = some x) :
    listOf? read? (Json.array (xs.map write)).ordered = some xs := by
  rw [ordered_array, List.map_map]
  exact mapM_map_eq_some h

theorem valuesOf?_ordered {members : Members} (h : (members.map Prod.fst).Nodup) :
    valuesOf? (members.map Prod.fst) (Json.object members).ordered =
      some (members.map fun m => m.2.ordered) := by
  have hkeys : (orderedMembers members).map Prod.fst = members.map Prod.fst := by
    rw [orderedMembers_eq_map, List.map_map]
    rfl
  have hperm : (Sorted.ofList Order.texts (orderedMembers members)).Perm (orderedMembers members) :=
    Sorted.perm_ofList (by rwa [hkeys])
  have hfound : ∀ m ∈ members,
      (Sorted.ofList Order.texts (orderedMembers members)).lookup m.1 = some m.2.ordered := by
    intro m hm
    rw [Sorted.lookup_eq_some_iff (Sorted.isSorted_ofList _), hperm.mem_iff, orderedMembers_eq_map]
    exact List.mem_map_of_mem (f := fun m => (m.1, m.2.ordered)) hm
  change (if _ then _ else _) = _
  rw [if_pos (hkeys ▸ hperm.map Prod.fst), List.map_map]
  refine congrArg some (List.map_congr_left fun m hm => ?_)
  rw [Function.comp_apply, hfound m hm]
  rfl

theorem stamped?_ordered {α : Type} {keys : List String} {ofValues? : List Json → Option α}
    {members : Members} {record : α} (hkeys : members.map Prod.fst = keys)
    (hnodup : (keys ++ ["computed_at"]).Nodup)
    (hvalues : ofValues? (members.map fun m => m.2.ordered) = some record) (stamp : Int) :
    stamped? keys ofValues?
        (Json.object (members ++ [("computed_at", .int stamp)])).ordered =
      some (record, stamp) := by
  have hall : (members ++ [("computed_at", Json.int stamp)]).map Prod.fst =
      keys ++ ["computed_at"] := by
    rw [List.map_append, hkeys]
    rfl
  have hfound := valuesOf?_ordered (hall ▸ hnodup)
  rw [hall, List.map_append] at hfound
  rw [stamped?, hfound, Option.bind_eq_bind, Option.bind_some, List.map_cons, List.map_nil,
    List.dropLast_concat, hvalues, List.getLast?_concat]
  rfl

end Json

/-- Whether a number of a record is one of 64 bits. -/
def IsCounter (n : Nat) : Prop :=
  n < Nat.pow 2 64

instance (n : Nat) : Decidable (IsCounter n) :=
  Nat.decLt n (Nat.pow 2 64)

theorem IsCounter.isWord {n : Nat} (h : IsCounter n) : Json.IsWord n := by
  have hlt : n < Nat.pow 2 64 := h
  rw [Json.IsWord]
  omega

def DuplicateRecord.IsSized (record : DuplicateRecord) : Prop :=
  IsCounter record.filled ∧ IsCounter record.duplicates

structure DomainStats.IsSized (stats : DomainStats String) : Prop where
  follow : IsCounter stats.follow
  nofollow : IsCounter stats.nofollow
  uniqueFollow : IsCounter stats.uniqueFollow
  followSample : ∀ d ∈ stats.followSample, IsCounter d.uniqueLinks
  nofollowSample : ∀ d ∈ stats.nofollowSample, IsCounter d.uniqueLinks

namespace DuplicateRecord

def keys : List String :=
  ["url_id", "content_type", "filled_nb", "duplicates_nb", "is_first", "duplicate_urls"]

def ofValues? : List Json → Option DuplicateRecord
  | [urlId, kind, filled, duplicates, isFirst, others] => do
    return {
      urlId := ← urlId.int64?
      kind := ← kind.text?.bind ContentKind.ofName?
      filled := ← filled.natural?
      duplicates := ← duplicates.natural?
      isFirst := ← isFirst.bool?
      others := ← others.listOf? Json.int64? }
  | _ => none

def ofDocument? (document : Json) : Option (DuplicateRecord × Int) :=
  document.stamped? keys ofValues?

theorem ofName?_name (kind : ContentKind) : ContentKind.ofName? kind.name = some kind := by
  cases kind <;> decide

theorem ofValues?_members (record : DuplicateRecord) :
    ofValues? (record.members.map fun m => m.2.ordered) = some record := by
  have hothers : Json.listOf? Json.int64? (idsDocument record.others).ordered =
      some record.others := Json.listOf?_map fun id _ => Json.int64?_toInt id
  have hurlId := Json.int64?_toInt record.urlId
  have hkind := ofName?_name record.kind
  simp only [members, List.map_cons, List.map_nil, ofValues?, hothers, Json.ordered, hurlId,
    Json.text?, Json.bool?, Json.natural?, Json.int?, Option.bind_eq_bind, Option.bind_some, hkind]
  rfl

theorem isPlain_members {record : DuplicateRecord} (h : record.IsSized) :
    ∀ m ∈ record.members, Json.IsPlain 3 m.2 := by
  have hothers : Json.IsPlain 3 (idsDocument record.others) :=
    .array (List.forall_mem_map.mpr fun id _ => .int (Json.isWord_toInt id))
  simp only [members, List.forall_mem_cons, List.not_mem_nil, false_imp_iff, implies_true,
    and_true]
  exact ⟨.int (Json.isWord_toInt _), .text _, .int h.1.isWord, .int h.2.isWord, .bool _, hothers⟩

end DuplicateRecord

namespace Destination

def keys : List String :=
  ["url", "unique_links", "sample_sources"]

def ofValues? : List Json → Option (Destination String)
  | [url, uniqueLinks, sources] => do
    return {
      url := ← url.text?
      uniqueLinks := ← uniqueLinks.natural?
      sources := ← sources.listOf? Json.text? }
  | _ => none

def ofDocument? (document : Json) : Option (Destination String) :=
  (document.valuesOf? keys).bind ofValues?

theorem ofDocument?_document (destination : Destination String) :
    ofDocument? destination.document.ordered = some destination := by
  have hsources : Json.listOf? Json.text? (Json.array (destination.sources.map .text)).ordered =
      some destination.sources := Json.listOf?_map fun source _ => rfl
  have hvalues : Json.valuesOf? keys destination.document.ordered =
      some [.text destination.url, .int destination.uniqueLinks,
        (Json.array (destination.sources.map .text)).ordered] :=
    @Json.valuesOf?_ordered [("url", .text destination.url),
      ("unique_links", .int destination.uniqueLinks),
      ("sample_sources", .array (destination.sources.map .text))] (by decide : keys.Nodup)
  rw [ofDocument?, hvalues, Option.bind_some, ofValues?, hsources]
  rfl

theorem isPlain_document {destination : Destination String}
    (h : IsCounter destination.uniqueLinks) : Json.IsPlain 2 destination.document := by
  have hsources : Json.IsPlain 1 (.array (destination.sources.map .text)) :=
    .array (List.forall_mem_map.mpr fun source _ => .text source)
  refine .object ?_
  simp only [List.forall_mem_cons, List.not_mem_nil, false_imp_iff, implies_true, and_true]
  exact ⟨.text _, .int h.isWord, hsources⟩

end Destination

theorem listOf?_destinationsDocument (destinations : List (Destination String)) :
    (destinationsDocument destinations).ordered.listOf? Destination.ofDocument? =
      some destinations :=
  Json.listOf?_map fun destination _ => destination.ofDocument?_document

theorem isPlain_destinationsDocument {destinations : List (Destination String)}
    (h : ∀ d ∈ destinations, IsCounter d.uniqueLinks) :
    Json.IsPlain 3 (destinationsDocument destinations) :=
  .array (List.forall_mem_map.mpr fun d hd => Destination.isPlain_document (h d hd))

def DomainRanking.ofName? (name : String) : Option DomainRanking :=
  [.full, .secondLevel].find? fun ranking => ranking.name == name

theorem DomainRanking.ofName?_name (ranking : DomainRanking) :
    ofName? ranking.name = some ranking := by
  cases ranking <;> decide

namespace RankedEntry

def keys : List String :=
  ["ranking", "rank", "domain", "follow_links", "nofollow_links", "unique_follow_links",
    "sample_follow_links", "sample_nofollow_links"]

def ofValues? : List Json → Option RankedEntry
  | [ranking, rank, domain, follow, nofollow, uniqueFollow, followSample, nofollowSample] => do
    return {
      ranking := ← ranking.text?.bind DomainRanking.ofName?
      rank := ← rank.natural?
      stats := {
        domain := ← domain.text?
        follow := ← follow.natural?
        nofollow := ← nofollow.natural?
        uniqueFollow := ← uniqueFollow.natural?
        followSample := ← followSample.listOf? Destination.ofDocument?
        nofollowSample := ← nofollowSample.listOf? Destination.ofDocument? } }
  | _ => none

def ofDocument? (document : Json) : Option (RankedEntry × Int) :=
  document.stamped? keys ofValues?

theorem ofValues?_members (entry : RankedEntry) :
    ofValues? (entry.members.map fun m => m.2.ordered) = some entry := by
  have hfollow := listOf?_destinationsDocument entry.stats.followSample
  have hnofollow := listOf?_destinationsDocument entry.stats.nofollowSample
  have hranking := entry.ranking.ofName?_name
  simp only [members, List.map_cons, List.map_nil, ofValues?, hfollow, hnofollow, Json.ordered,
    Json.text?, Json.natural?, Json.int?, Option.bind_eq_bind, Option.bind_some, hranking]
  rfl

theorem isPlain_members {entry : RankedEntry} (hrank : IsCounter entry.rank)
    (hstats : entry.stats.IsSized) : ∀ m ∈ entry.members, Json.IsPlain 3 m.2 := by
  simp only [members, List.forall_mem_cons, List.not_mem_nil, false_imp_iff, implies_true,
    and_true]
  exact ⟨.text _, .int hrank.isWord, .text _, .int hstats.follow.isWord,
    .int hstats.nofollow.isWord, .int hstats.uniqueFollow.isWord,
    isPlain_destinationsDocument hstats.followSample,
    isPlain_destinationsDocument hstats.nofollowSample⟩

end RankedEntry

/-- The line holds one document and nothing that breaks it, and it is read as the record. -/
structure IsLineOf {α : Type} (read? : Json → Option (α × Int)) (stamp : Int) (line : String)
    (record : α) : Prop where
  lineFeed : '\n' ∉ line.toList
  carriageReturn : '\r' ∉ line.toList
  document : (Json.read? line).bind read? = some (record, stamp)

theorem isLineOf_recordLine {α : Type} {keys : List String} {ofValues? : List Json → Option α}
    {members : Json.Members} {record : α} (hkeys : members.map Prod.fst = keys)
    (hnodup : (keys ++ ["computed_at"]).Nodup) (hplain : ∀ m ∈ members, Json.IsPlain 3 m.2)
    (hvalues : ofValues? (members.map fun m => m.2.ordered) = some record) (stamp : Int64) :
    IsLineOf (Json.stamped? keys ofValues?) stamp.toInt (recordLine stamp.toInt members)
      record := by
  have hobject : Json.IsPlain 4 (.object (members ++ [("computed_at", .int stamp.toInt)])) :=
    .object (List.forall_mem_append.mpr
      ⟨hplain, List.forall_mem_singleton.mpr (.int (Json.isWord_toInt stamp))⟩)
  have hread := Json.read?_compact hobject (by decide)
  have hcontrol := hobject.hasNoControl
  constructor
  · rw [recordLine, Json.compact, String.toList_ofList]
    intro hmem
    exact absurd (hcontrol _ hmem) (by decide)
  · rw [recordLine, Json.compact, String.toList_ofList]
    intro hmem
    exact absurd (hcontrol _ hmem) (by decide)
  · rw [recordLine, hread]
    exact Json.stamped?_ordered hkeys hnodup hvalues stamp.toInt

theorem DuplicateRecord.isLineOf {record : DuplicateRecord} (h : record.IsSized) (stamp : Int64) :
    IsLineOf ofDocument? stamp.toInt (recordLine stamp.toInt record.members) record := by
  have hkeys : record.members.map Prod.fst = keys := rfl
  exact isLineOf_recordLine hkeys (by decide) (isPlain_members h) record.ofValues?_members stamp

theorem RankedEntry.isLineOf {entry : RankedEntry} (hrank : IsCounter entry.rank)
    (hstats : entry.stats.IsSized) (stamp : Int64) :
    IsLineOf ofDocument? stamp.toInt (recordLine stamp.toInt entry.members) entry := by
  have hkeys : entry.members.map Prod.fst = keys := rfl
  exact isLineOf_recordLine hkeys (by decide) (isPlain_members hrank hstats)
    entry.ofValues?_members stamp

namespace SinkWrite

/-- The entries of a ranking that a write has: its domains, ranked from one. -/
def entries (ranking : DomainRanking) : SinkWrite → List RankedEntry
  | duplicates _ => []
  | domains other batch =>
    if other = ranking then batch.mapIdx fun i domain => ⟨ranking, i + 1, domain.2⟩ else []

/-- The numbers of a write are ones of 64 bits. -/
def IsSized : SinkWrite → Prop
  | duplicates records => ∀ record ∈ records, record.IsSized
  | domains _ batch => IsCounter batch.length ∧ ∀ domain ∈ batch, domain.2.IsSized

theorem isSized_of_mem_records {write : SinkWrite} (h : write.IsSized) :
    ∀ record ∈ write.records, record.IsSized := by
  cases write with
  | duplicates records => exact h
  | domains ranking batch => exact List.forall_mem_nil _

theorem isSized_of_mem_entries {write : SinkWrite} (h : write.IsSized) {ranking : DomainRanking}
    {entry : RankedEntry} (hentry : entry ∈ write.entries ranking) :
    IsCounter entry.rank ∧ entry.stats.IsSized := by
  cases write with
  | duplicates records => cases hentry
  | domains other batch =>
      obtain ⟨hlength, hbatch⟩ := h
      rw [entries] at hentry
      split at hentry
      · obtain ⟨i, hi, rfl⟩ := List.mem_mapIdx.mp hentry
        exact ⟨Nat.lt_of_le_of_lt hi hlength, hbatch _ (List.getElem_mem hi)⟩
      · cases hentry

end SinkWrite

namespace LineSink

theorem domainsFile_injective : Function.Injective domainsFile := by
  intro r r' h
  revert h
  cases r <;> cases r' <;> decide

theorem domainsFile_ne_duplicatesFile (ranking : DomainRanking) :
    domainsFile ranking ≠ duplicatesFile := by
  cases ranking <;> decide

theorem linesTo_eq_map {α : Type} {stamp : Int} {name : String} {own : SinkWrite → List α}
    {line : α → String} (h : ∀ write : SinkWrite,
      (if write.file = name then write.lines stamp else []) = (own write).map line)
    (writes : List SinkWrite) : linesTo stamp name writes = (writes.flatMap own).map line := by
  induction writes using List.reverseRecOn with
  | nil => rfl
  | append_singleton writes write ih =>
      rw [linesTo_concat, ih, h, List.flatMap_append, List.map_append, List.flatMap_singleton]

theorem linesTo_duplicatesFile (stamp : Int) (writes : List SinkWrite) :
    linesTo stamp duplicatesFile writes =
      (writes.flatMap SinkWrite.records).map fun r => recordLine stamp r.members := by
  apply linesTo_eq_map
  intro write
  cases write with
  | duplicates records =>
      simp [SinkWrite.file, SinkWrite.lines, SinkWrite.members, SinkWrite.records]
  | domains ranking batch => exact if_neg (domainsFile_ne_duplicatesFile ranking)

theorem linesTo_domainsFile (stamp : Int) (ranking : DomainRanking) (writes : List SinkWrite) :
    linesTo stamp (domainsFile ranking) writes =
      (writes.flatMap (SinkWrite.entries ranking)).map fun e => recordLine stamp e.members := by
  apply linesTo_eq_map
  intro write
  cases write with
  | duplicates records => exact if_neg (domainsFile_ne_duplicatesFile ranking).symm
  | domains other batch =>
      by_cases h : other = ranking
      · simp [SinkWrite.file, SinkWrite.lines, SinkWrite.members, SinkWrite.entries, h,
          RankedEntry.ofDomains]
      · have hfile : domainsFile other ≠ domainsFile ranking := domainsFile_injective.ne h
        simp [SinkWrite.file, SinkWrite.entries, h, hfile]

/-- The file holds one line for each of the records, in their order. -/
def HoldsLines {α : Type} (files : LineFiles) (name : String)
    (read? : Json → Option (α × Int)) (stamp : Int) (records : List α) : Prop :=
  ∃ lines, Sorted.find? Order.texts name files = some lines ∧
    List.Forall₂ (IsLineOf read? stamp) lines records

theorem holdsLines_of_map {α : Type} {files : LineFiles} {name : String}
    {read? : Json → Option (α × Int)} {stamp : Int} {records : List α} {line : α → String}
    (hfile : Sorted.find? Order.texts name files = some (records.map line))
    (h : ∀ record ∈ records, IsLineOf read? stamp (line record) record) :
    HoldsLines files name read? stamp records := by
  refine ⟨_, hfile, ?_⟩
  rw [List.forall₂_map_left_iff, List.forall₂_same]
  exact h

/-- After any writes and a flush, each file that was written to holds the records of its kind and
nothing else, one on each line and in the order of the writes, and every other file is as it was. -/
theorem holdsLines_flush (files : LineFiles) (stamp : Int64) {writes : List SinkWrite}
    (h : ∀ write ∈ writes, write.IsSized) :
    let after := ((create files stamp.toInt).writeAll writes).flush.files
    ((∃ write ∈ writes, write.file = duplicatesFile) →
      HoldsLines after duplicatesFile DuplicateRecord.ofDocument? stamp.toInt
        (writes.flatMap SinkWrite.records)) ∧
      (∀ ranking, (∃ write ∈ writes, write.file = domainsFile ranking) →
        HoldsLines after (domainsFile ranking) RankedEntry.ofDocument? stamp.toInt
          (writes.flatMap (SinkWrite.entries ranking))) ∧
      ∀ name, (∀ write ∈ writes, write.file ≠ name) →
        Sorted.find? Order.texts name after = Sorted.find? Order.texts name files := by
  intro after
  have hfiles := ((Awaits.create files stamp.toInt).writeAll writes).find?_files_flush
  rw [stamp_writeAll] at hfiles
  have hwritten {name : String} (hname : ∃ write ∈ writes, write.file = name) :
      Sorted.find? Order.texts name after = some (linesTo stamp.toInt name writes) := by
    refine (hfiles name).trans (if_pos ?_)
    simpa [isWritten] using hname
  refine ⟨fun hname => ?_, fun ranking hname => ?_, fun name hname => ?_⟩
  · have hfile := hwritten hname
    rw [linesTo_duplicatesFile] at hfile
    refine holdsLines_of_map hfile fun record hrecord => ?_
    obtain ⟨write, hwrite, hrecord⟩ := List.mem_flatMap.mp hrecord
    exact record.isLineOf (SinkWrite.isSized_of_mem_records (h write hwrite) record hrecord) stamp
  · have hfile := hwritten hname
    rw [linesTo_domainsFile] at hfile
    refine holdsLines_of_map hfile fun entry hentry => ?_
    obtain ⟨write, hwrite, hentry⟩ := List.mem_flatMap.mp hentry
    obtain ⟨hrank, hstats⟩ := SinkWrite.isSized_of_mem_entries (h write hwrite) hentry
    exact entry.isLineOf hrank hstats stamp
  · refine (hfiles name).trans (if_neg ?_)
    simpa [isWritten] using hname

/-- A file that is written to twice keeps both batches, and a domain may have any characters. -/
theorem holdsLines_flush_of_broken_domain :
    let files : LineFiles := [("duplicates.jsonl", ["earlier"]),
      ("second_level_domains.jsonl", ["earlier"])]
    let stamp : Int64 := 1700000000
    let record : DuplicateRecord := ⟨-1, .title, 1, 2, true, [Int64.minValue, 7]⟩
    let broken := "\"a\\b\r\n\x01\u2028é"
    let stats : DomainStats String := ⟨broken, 1, 0, 1, [⟨broken, 1, [broken]⟩], []⟩
    let writes : List SinkWrite := [.duplicates [], .domains .full [(1, stats)],
      .duplicates [record], .domains .full [(1, stats), (0, stats)]]
    let after := ((create files stamp.toInt).writeAll writes).flush.files
    (∀ write ∈ writes, write.IsSized) ∧
      HoldsLines after duplicatesFile DuplicateRecord.ofDocument? stamp.toInt [record] ∧
      HoldsLines after (domainsFile .full) RankedEntry.ofDocument? stamp.toInt
        [⟨.full, 1, stats⟩, ⟨.full, 1, stats⟩, ⟨.full, 2, stats⟩] ∧
      Sorted.find? Order.texts (domainsFile .secondLevel) after = some ["earlier"] := by
  intro files stamp record broken stats writes after
  have hstats : stats.IsSized := by
    constructor <;> decide
  have hsized : ∀ write ∈ writes, write.IsSized := by
    have hrecord : record.IsSized := ⟨by decide, by decide⟩
    have hsize (n : Nat) : ∀ domain ∈ [(n, stats)], domain.2.IsSized :=
      List.forall_mem_singleton.mpr hstats
    simp only [writes, List.forall_mem_cons, List.not_mem_nil, false_imp_iff, implies_true,
      and_true]
    exact ⟨List.forall_mem_nil _, ⟨by decide, hsize 1⟩, List.forall_mem_singleton.mpr hrecord,
      by decide, List.forall_mem_cons.mpr ⟨hstats, hsize 0⟩⟩
  obtain ⟨hduplicates, hrankings, hothers⟩ := holdsLines_flush files stamp hsized
  refine ⟨hsized, hduplicates ⟨.duplicates [], List.mem_cons_self .., rfl⟩,
    hrankings .full ⟨.domains .full [(1, stats)], by simp [writes], rfl⟩, ?_⟩
  refine (hothers (domainsFile .secondLevel) ?_).trans rfl
  simp [writes, SinkWrite.file, duplicatesFile, domainsFile]

end LineSink

end CrawlAudit
