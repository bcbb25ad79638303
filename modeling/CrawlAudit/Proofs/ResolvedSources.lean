import CrawlAudit.Proofs.StreamReading
import CrawlAudit.Resolver

/-!
# Sources resolved in one batch

The sources of a whole ranking are pooled and resolved with one call. Where a resolver answers each
key on its own, this gives the texts that a call for each single source would give. The resolvers
on entries, on the table of requests and on the stream of urls answer so: of the entries or rows
that match a key, the last one decides.
-/

namespace CrawlAudit

namespace Resolver

variable {κ : Type}

/-- A resolver answers each key on its own: with the text of the key, or not at all where it has
none, whatever else is asked for. A key of a batch that is answered is also answered alone. -/
structure AnswersBy [BEq κ] (resolver : Resolver κ) (text? : κ → Option String) : Prop where
  lookup_eq : ∀ keys known, resolver keys = .ok known →
    ∀ key ∈ keys, known.lookup key = text? key
  exists_alone : ∀ keys known, resolver keys = .ok known →
    ∀ key ∈ keys, ∃ alone, resolver [key] = .ok alone

/-- The text of the last entry of a key. -/
def lastEntryText? [BEq κ] (entries : List (κ × String)) (key : κ) : Option String :=
  ((entries.filter fun e => key == e.1).getLast?).map Prod.snd

/-- The text of the last request of a key that has one. -/
def lastRequestText? (store : TableStore) (key : String) : Option String := do
  let table ← store.table? TableStore.requestTable
  let requests := table.rows.filter fun row => (table.cell row "query").keyText? == some key
  (requests.filterMap fun row => (table.cell row "string").keyText?).getLast?

/-- The url of the last row of an id. -/
def lastUrl? (directory : Option Directory) (id : Int64) : Option String := do
  let rows := (← directory).castRows .patterns
  let row ← (rows.filter fun row => row.integer? 0 == some id).getLast?
  urlOfRow? row

end Resolver

namespace Outlink

/-- A destination with the texts of its known sources, in order. -/
structure ShowsDestination (text? : Int64 → Option String) (destination : Destination Int64)
    (shown : Destination String) : Prop where
  url : shown.url = destination.url
  uniqueLinks : shown.uniqueLinks = destination.uniqueLinks
  sources : shown.sources = destination.sources.filterMap text?

/-- A ranked domain with the texts of its known sources, all else unchanged. -/
structure ShowsDomain (text? : Int64 → Option String) (domain : RankedDomain Int64)
    (shown : RankedDomain String) : Prop where
  count : shown.1 = domain.1
  name : shown.2.domain = domain.2.domain
  follow : shown.2.follow = domain.2.follow
  nofollow : shown.2.nofollow = domain.2.nofollow
  uniqueFollow : shown.2.uniqueFollow = domain.2.uniqueFollow
  followSample : List.Forall₂ (ShowsDestination text?) domain.2.followSample shown.2.followSample
  nofollowSample :
    List.Forall₂ (ShowsDestination text?) domain.2.nofollowSample shown.2.nofollowSample

end Outlink

namespace Resolver

section

variable {κ : Type} [BEq κ]

theorem answersBy_of_error {resolver : Resolver κ}
    (h : ∀ keys, ∃ fault, resolver keys = .error fault) (text? : κ → Option String) :
    resolver.AnswersBy text? := by
  have hnone {keys : List κ} {known : List (κ × String)} (hknown : resolver keys = .ok known) :
      False := by
    obtain ⟨fault, hfault⟩ := h keys
    cases hfault.symm.trans hknown
  exact ⟨fun _ _ hknown => (hnone hknown).elim, fun _ _ hknown => (hnone hknown).elim⟩

theorem lookup_reverse (entries : List (κ × String)) (key : κ) :
    entries.reverse.lookup key = lastEntryText? entries key := by
  rw [List.lookup_eq_findSome?, ← List.getLast?_filterMap, lastEntryText?, ← List.getLast?_map,
    ← List.filterMap_eq_map, List.filterMap_filter]
  rfl

theorem lastEntryText?_filterMap (entryOf : Row → Option (κ × String)) (rows : List Row) (key : κ) :
    lastEntryText? (rows.filterMap entryOf) key =
      (rows.filterMap fun row =>
        (entryOf row).bind fun e => if key == e.1 then some e.2 else none).getLast? := by
  rw [lastEntryText?, ← List.getLast?_map, ← List.filterMap_eq_map, List.filterMap_filter,
    List.filterMap_filterMap]
  rfl

variable [LawfulBEq κ]

theorem lookup_answers (entries : List (κ × String)) (keys : List κ) (key : κ) :
    (answers entries keys).lookup key =
      if keys.contains key then entries.reverse.lookup key else none := by
  induction keys with
  | nil => rfl
  | cons k keys ih =>
      rw [answers] at ih ⊢
      by_cases hkey : key = k
      · subst hkey
        cases hlookup : entries.reverse.lookup key <;> simp [hlookup, ih]
      · have hne : (key == k) = false := beq_false_of_ne hkey
        cases hlookup : entries.reverse.lookup k <;> simp [hlookup, ih, List.lookup_cons, hne]

/-- A resolver that looks every key up in the same entries answers each key on its own. -/
theorem answersBy_of_answers {resolver : Resolver κ} {entries : List (κ × String)}
    (h : ∀ keys, resolver keys = .ok (answers entries keys)) :
    resolver.AnswersBy (lastEntryText? entries) where
  lookup_eq keys known hknown key hkey := by
    cases (h keys).symm.trans hknown
    rw [lookup_answers, if_pos (List.contains_iff_mem.mpr hkey), lookup_reverse]
  exists_alone _ _ _ key _ := ⟨_, h [key]⟩

theorem answersBy_ofEntries (entries : List (κ × String)) :
    (ofEntries entries).AnswersBy (lastEntryText? entries) :=
  answersBy_of_answers fun _ => rfl

end

theorem lastRequestText?_eq {store : TableStore} {table : Table} {keyColumn textColumn : Nat}
    (htable : store.table? TableStore.requestTable = some table)
    (hkey : table.columnIndex? "query" = some keyColumn)
    (htext : table.columnIndex? "string" = some textColumn) :
    lastEntryText? (table.rows.filterMap (requestText? keyColumn textColumn)) =
      lastRequestText? store := by
  funext key
  rw [lastEntryText?_filterMap, lastRequestText?, htable]
  change _ = List.getLast? _
  rw [List.filterMap_filter]
  refine congrArg (fun f => (table.rows.filterMap f).getLast?) (funext fun row => ?_)
  rw [Table.cell, Table.cell, hkey, htext, Table.cellAt, Table.cellAt, requestText?]
  cases (row.cell keyColumn).keyText? with
  | none => rfl
  | some found =>
      cases (row.cell textColumn).keyText? with
      | none => simp
      | some text =>
          by_cases hfound : found = key
          · simp [hfound]
          · simp [hfound, Ne.symm hfound]

theorem answersBy_ofRequests (store : TableStore) :
    (ofRequests store).AnswersBy (lastRequestText? store) := by
  cases htable : store.table? TableStore.requestTable with
  | none =>
      have htext : lastEntryText? [] = lastRequestText? store := by
        funext key
        rw [lastRequestText?, htable]
        rfl
      rw [← htext]
      refine answersBy_of_answers fun keys => ?_
      rw [ofRequests, htable]
      exact congrArg Except.ok (List.filterMap_eq_nil_iff.mpr fun _ _ => rfl).symm
  | some table =>
      cases hkey : table.columnIndex? "query" with
      | none =>
          refine answersBy_of_error (fun keys => ⟨.badRequest .missingRequestColumns, ?_⟩) _
          simp only [ofRequests, htable, hkey]
      | some keyColumn =>
          cases htext : table.columnIndex? "string" with
          | none =>
              refine answersBy_of_error (fun keys => ⟨.badRequest .missingRequestColumns, ?_⟩) _
              simp only [ofRequests, htable, hkey, htext]
          | some textColumn =>
              rw [← lastRequestText?_eq htable hkey htext]
              refine answersBy_of_answers fun keys => ?_
              simp only [ofRequests, htable, hkey, htext]

theorem isSome_urlOfRow? {directory : Directory} {row : Row}
    (h : row ∈ (directory.reading .patterns).rows) : (urlOfRow? row).isSome := by
  obtain ⟨line, hline⟩ := Directory.exists_line_of_mem_reading h
  obtain ⟨raws, hlength, hcells⟩ := StreamSchema.exists_raws_of_castLine hline
  rcases raws with _ | ⟨id, _ | ⟨protocol, _ | ⟨host, raws⟩⟩⟩
  case cons.cons.cons =>
    simp only [StreamSchema.patterns, List.zip_cons_cons] at hcells
    obtain _ | ⟨-, _ | ⟨hprotocol, _ | ⟨hhost, -⟩⟩⟩ := hcells
    cases hprotocol
    cases hhost
    rfl
  all_goals simp [StreamSchema.patterns] at hlength

theorem getLast?_filterMap_of_isSome {α β : Type} {f : α → Option β} {xs : List α}
    (h : ∀ a ∈ xs, (f a).isSome) : (xs.filterMap f).getLast? = xs.getLast?.bind f := by
  rcases List.eq_nil_or_concat xs with rfl | ⟨xs, a, rfl⟩
  · rfl
  · obtain ⟨b, hb⟩ := Option.isSome_iff_exists.mp (h a (by simp))
    simp [hb]

theorem lastUrl?_eq {directory : Directory} (h : ¬directory.HasCorruptShard .patterns) :
    lastEntryText? ((directory.reading .patterns).rows.filterMap urlText?) =
      lastUrl? (some directory) := by
  funext id
  have hrows := Directory.rows_reading h
  rw [lastEntryText?_filterMap]
  change _ = ((directory.castRows .patterns).filter fun row =>
    row.integer? 0 == some id).getLast?.bind urlOfRow?
  rw [← hrows, ← getLast?_filterMap_of_isSome, List.filterMap_filter]
  · refine congrArg (fun f => ((directory.reading .patterns).rows.filterMap f).getLast?)
      (funext fun row => ?_)
    rw [urlText?]
    cases row.integer? 0 with
    | none => rfl
    | some found =>
        by_cases hfound : found = id
        · cases urlOfRow? row <;> simp [hfound]
        · cases urlOfRow? row <;> simp [hfound, Ne.symm hfound]
  · exact fun row hrow => isSome_urlOfRow? (List.mem_of_mem_filter hrow)

theorem ofUrlStream_eq_ok {directory : Directory} (h : ¬directory.HasCorruptShard .patterns)
    (keys : List Int64) : ofUrlStream (some directory) keys =
      .ok (answers ((directory.reading .patterns).rows.filterMap urlText?) keys) := by
  rw [ofUrlStream, Directory.ofDirectory_eq]
  change (directory.reading .patterns).check.bind _ = _
  rw [Directory.check_reading_eq_ok h]
  rfl

theorem ofUrlStream_eq_error {directory : Directory} (h : directory.HasCorruptShard .patterns)
    (keys : List Int64) : ∃ fault, ofUrlStream (some directory) keys = .error fault := by
  obtain ⟨fault, hfault⟩ := Directory.check_reading_eq_error h
  refine ⟨fault, ?_⟩
  rw [ofUrlStream, Directory.ofDirectory_eq]
  change (directory.reading .patterns).check.bind _ = _
  rw [hfault]
  rfl

theorem answersBy_ofUrlStream (directory : Option Directory) :
    (ofUrlStream directory).AnswersBy (lastUrl? directory) := by
  cases directory with
  | none => exact answersBy_of_error (fun keys => ⟨.unreadable, rfl⟩) _
  | some directory =>
      by_cases hcorrupt : directory.HasCorruptShard .patterns
      · exact answersBy_of_error (ofUrlStream_eq_error hcorrupt) _
      · rw [← lastUrl?_eq hcorrupt]
        exact answersBy_of_answers (ofUrlStream_eq_ok hcorrupt)

end Resolver

namespace Outlink

open Resolver

variable {text? : Int64 → Option String} {known : List (Int64 × String)}

theorem mem_allSources {domains : List (RankedDomain Int64)} {id : Int64} :
    id ∈ allSources domains ↔ ∃ d ∈ domains, id ∈ sampledSources d.2 := by
  rw [allSources, List.mem_eraseDups, Order.mem_sort, List.mem_flatMap]

theorem mem_sampledSources {stats : DomainStats Int64} {id : Int64} :
    id ∈ sampledSources stats ↔
      (∃ d ∈ stats.followSample, id ∈ d.sources) ∨ ∃ d ∈ stats.nofollowSample, id ∈ d.sources := by
  rw [sampledSources, List.mem_flatMap]
  simp only [List.mem_append, or_and_right, exists_or]

theorem forall₂_showDestinations {destinations : List (Destination Int64)}
    (h : ∀ d ∈ destinations, ∀ id ∈ d.sources, known.lookup id = text? id) :
    List.Forall₂ (ShowsDestination text?) destinations (showDestinations known destinations) := by
  rw [showDestinations, List.forall₂_map_right_iff, List.forall₂_same]
  exact fun d hd => ⟨rfl, rfl, List.filterMap_congr (h d hd)⟩

theorem showsDomain_showStats {domain : RankedDomain Int64}
    (h : ∀ id ∈ sampledSources domain.2, known.lookup id = text? id) :
    ShowsDomain text? domain (domain.1, showStats known domain.2) where
  count := rfl
  name := rfl
  follow := rfl
  nofollow := rfl
  uniqueFollow := rfl
  followSample := forall₂_showDestinations fun d hd id hid =>
    h id (mem_sampledSources.mpr (Or.inl ⟨d, hd, hid⟩))
  nofollowSample := forall₂_showDestinations fun d hd id hid =>
    h id (mem_sampledSources.mpr (Or.inr ⟨d, hd, hid⟩))

/-- With a resolver that answers each key on its own, the ranking is resolved wherever the resolver
answers, with the same domains in the same order, and the sources become the texts that a call for
each of them alone gives. The resolvers of the library answer each key on its own: by the last
entry, the last request with a text, and the last url of the key. -/
theorem resolveSources_of_answersBy :
    (∀ (resolver : Resolver Int64) text?, resolver.AnswersBy text? → ∀ domains,
      ((∃ shown, resolveSources domains resolver = .ok shown) ↔
        ∃ known, resolver (allSources domains) = .ok known) ∧
      ∀ shown, resolveSources domains resolver = .ok shown →
        List.Forall₂ (ShowsDomain text?) domains shown ∧
        ∀ d ∈ domains, ∀ id ∈ sampledSources d.2,
          ∃ alone, resolver [id] = .ok alone ∧ alone.lookup id = text? id) ∧
    (∀ (κ : Type) [BEq κ] [LawfulBEq κ] (entries : List (κ × String)),
      (ofEntries entries).AnswersBy (lastEntryText? entries)) ∧
    (∀ store, (ofRequests store).AnswersBy (lastRequestText? store)) ∧
    ∀ directory, (ofUrlStream directory).AnswersBy (lastUrl? directory) := by
  refine ⟨fun resolver text? h domains => ⟨?_, fun shown hshown => ?_⟩,
    fun κ _ _ entries => answersBy_ofEntries entries, answersBy_ofRequests, answersBy_ofUrlStream⟩
  · constructor
    · rintro ⟨shown, hshown⟩
      obtain ⟨known, hknown, -⟩ := Fault.bind_eq_ok.mp hshown
      exact ⟨known, hknown⟩
    · rintro ⟨known, hknown⟩
      exact ⟨_, Fault.bind_eq_ok.mpr ⟨known, hknown, rfl⟩⟩
  · obtain ⟨known, hknown, ⟨⟩⟩ := Fault.bind_eq_ok.mp hshown
    have hpooled {d : RankedDomain Int64} (hd : d ∈ domains) {id : Int64}
        (hid : id ∈ sampledSources d.2) : id ∈ allSources domains :=
      mem_allSources.mpr ⟨d, hd, hid⟩
    refine ⟨?_, fun d hd id hid => ?_⟩
    · rw [List.forall₂_map_right_iff, List.forall₂_same]
      exact fun d hd => showsDomain_showStats fun id hid =>
        h.lookup_eq _ known hknown id (hpooled hd hid)
    · obtain ⟨alone, halone⟩ := h.exists_alone _ known hknown id (hpooled hd hid)
      exact ⟨alone, halone, h.lookup_eq _ alone halone id (List.mem_singleton_self id)⟩

/-- Two domains that share sources, one of them with two urls and one with none. -/
theorem resolveSources_of_shared_sources :
    let text := "1\thttp\ta.com\t/\t\n2\thttp\tb.com\t/old\t\n2\thttps\tb.com\t/new\tx=1\n"
    let directory : Directory := [("urlids.txt.0", .file (Utf8.encode text.toList))]
    let domains : List (RankedDomain Int64) :=
      [(3, ⟨"c.com", 3, 1, 3, [⟨"http://c.com/", 3, [2, 9, 1]⟩], [⟨"http://c.com/x", 1, [2]⟩]⟩),
        (1, ⟨"d.com", 1, 0, 1, [⟨"http://d.com/", 1, [9]⟩], []⟩)]
    (ofUrlStream (some directory)).AnswersBy (lastUrl? (some directory)) ∧
      [2, 9, 1].filterMap (lastUrl? (some directory)) = ["https://b.com/new?x=1", "http://a.com/"] ∧
      ∃ shown, resolveSources domains (ofUrlStream (some directory)) = .ok shown ∧
        List.Forall₂ (ShowsDomain (lastUrl? (some directory))) domains shown := by
  intro text directory domains
  obtain ⟨hresolved, -, -, hurls⟩ := resolveSources_of_answersBy
  have hanswers := hurls (some directory)
  obtain ⟨hok, hshown⟩ := hresolved _ _ hanswers domains
  have hwhole : ¬directory.HasCorruptShard .patterns := by decide +kernel
  obtain ⟨shown, h⟩ := hok.mpr ⟨_, ofUrlStream_eq_ok hwhole (allSources domains)⟩
  exact ⟨hanswers, by decide +kernel, shown, h, (hshown shown h).1⟩

end Outlink

end CrawlAudit
