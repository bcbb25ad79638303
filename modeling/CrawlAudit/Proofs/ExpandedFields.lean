import CrawlAudit.Proofs.NestedPaths

/-!
# Expanded fields

A requested field stands for the counters under it, or for itself where there are none. If no
counter lies under another one, all that comes out stands for itself, and a counter comes out once
for each requested field on the way to it.
-/

namespace CrawlAudit.FieldCatalog

/-- The parts of the field between its dots are the first parts of the counter, and not all of
them. -/
def IsDottedPrefix (field counter : String) : Prop :=
  Nesting.segments field <+: Nesting.segments counter ∧ field ≠ counter

/-- No counter comes twice, and none is a dotted prefix of another one. -/
structure HasSeparateCounters (catalog : FieldCatalog) : Prop where
  distinct : catalog.counters.Nodup
  apart : ∀ counter ∈ catalog.counters, ∀ other ∈ catalog.counters, ¬IsDottedPrefix counter other

variable {catalog : FieldCatalog} {fields : List String} {field counter : String}

theorem isUnder_iff_isDottedPrefix :
    isUnder field counter = true ↔ IsDottedPrefix field counter := by
  rw [IsDottedPrefix, Nesting.prefix_segments_iff]
  constructor
  · intro h
    refine ⟨Or.inr h, ?_⟩
    rintro rfl
    have hlength := (List.isPrefixOf_iff_prefix.mp h).length_le
    rw [List.length_append, List.length_singleton] at hlength
    omega
  · rintro ⟨rfl | hunder, hne⟩
    · exact absurd rfl hne
    · exact hunder

instance (field counter : String) : Decidable (IsDottedPrefix field counter) :=
  decidable_of_iff _ isUnder_iff_isDottedPrefix

theorem mem_children :
    counter ∈ catalog.children field ↔
      counter ∈ catalog.counters ∧ IsDottedPrefix field counter := by
  rw [children, List.mem_filter, isUnder_iff_isDottedPrefix]

theorem hasChildren_eq_false_iff :
    catalog.hasChildren field = false ↔
      ∀ counter ∈ catalog.counters, ¬IsDottedPrefix field counter := by
  rw [hasChildren, Bool.not_eq_false', List.isEmpty_iff, List.eq_nil_iff_forall_not_mem]
  simp only [mem_children, not_and]

theorem HasSeparateCounters.hasChildren_eq_false (h : catalog.HasSeparateCounters)
    (hcounter : counter ∈ catalog.counters) : catalog.hasChildren counter = false :=
  hasChildren_eq_false_iff.mpr (h.apart counter hcounter)

theorem expand_cons_of_hasChildren (h : catalog.hasChildren field = true) :
    catalog.expand (field :: fields) = catalog.children field ++ catalog.expand fields := by
  rw [expand, List.flatMap_cons, if_pos h]
  rfl

theorem expand_cons_of_not_hasChildren (h : catalog.hasChildren field = false) :
    catalog.expand (field :: fields) = field :: catalog.expand fields := by
  rw [expand, List.flatMap_cons, if_neg (Bool.eq_false_iff.mp h)]
  rfl

theorem mem_expand :
    field ∈ catalog.expand fields ↔
      field ∈ fields ∧ catalog.hasChildren field = false ∨
        field ∈ catalog.counters ∧ ∃ f ∈ fields, IsDottedPrefix f field := by
  rw [expand, List.mem_flatMap]
  constructor
  · rintro ⟨f, hf, hfield⟩
    cases hchildren : catalog.hasChildren f with
    | true =>
        rw [if_pos hchildren] at hfield
        obtain ⟨hcounter, hprefix⟩ := mem_children.mp hfield
        exact Or.inr ⟨hcounter, f, hf, hprefix⟩
    | false =>
        rw [if_neg (Bool.eq_false_iff.mp hchildren)] at hfield
        obtain rfl := List.mem_singleton.mp hfield
        exact Or.inl ⟨hf, hchildren⟩
  · rintro (⟨hf, hleaf⟩ | ⟨hcounter, f, hf, hprefix⟩)
    · refine ⟨field, hf, ?_⟩
      rw [if_neg (Bool.eq_false_iff.mp hleaf)]
      exact List.mem_singleton_self field
    · have hchildren : catalog.hasChildren f = true := by
        by_contra hnone
        exact hasChildren_eq_false_iff.mp (Bool.eq_false_iff.mpr hnone) field hcounter hprefix
      refine ⟨f, hf, ?_⟩
      rw [if_pos hchildren]
      exact mem_children.mpr ⟨hcounter, hprefix⟩

theorem expand_eq_self (h : ∀ field ∈ fields, catalog.hasChildren field = false) :
    catalog.expand fields = fields := by
  induction fields with
  | nil => rfl
  | cons field fields ih =>
      obtain ⟨hfield, hfields⟩ := List.forall_mem_cons.mp h
      rw [expand_cons_of_not_hasChildren hfield, ih hfields]

theorem count_children (hdistinct : catalog.counters.Nodup) :
    (catalog.children field).count counter =
      if counter ∈ catalog.counters ∧ IsDottedPrefix field counter then 1 else 0 := by
  have hchildren : (catalog.children field).Nodup := hdistinct.filter _
  rw [hchildren.count]
  exact if_congr mem_children rfl rfl

/-- A field that stands for itself comes once for each request of it and, if it is a counter, once
for each request of what it lies under. -/
theorem count_expand (hdistinct : catalog.counters.Nodup)
    (hleaf : catalog.hasChildren field = false) :
    (catalog.expand fields).count field =
      fields.countP fun f => f = field ∨ field ∈ catalog.counters ∧ IsDottedPrefix f field := by
  induction fields with
  | nil => rfl
  | cons f fields ih =>
      cases hf : catalog.hasChildren f with
      | true =>
          -- the counters under `f` take its place, and `f` is not the field, which is kept
          have hne : f ≠ field := by
            rintro rfl
            rw [hf] at hleaf
            cases hleaf
          rw [expand_cons_of_hasChildren hf, List.count_append, count_children hdistinct, ih,
            List.countP_cons, Nat.add_comm]
          simp only [hne, false_or, decide_eq_true_eq]
      | false =>
          have hnone : ¬(field ∈ catalog.counters ∧ IsDottedPrefix f field) :=
            fun h => hasChildren_eq_false_iff.mp hf field h.1 h.2
          rw [expand_cons_of_not_hasChildren hf, List.count_cons, ih, List.countP_cons]
          simp only [hnone, or_false, decide_eq_true_eq, beq_iff_eq]

theorem hasSeparateCounters_crawl : crawl.HasSeparateCounters :=
  ⟨by decide, by decide +kernel⟩

/-- What comes out has no counters under it, so that it stays as it is when it is expanded again. A
counter comes out once for each request of it or of a dotted prefix of it, and a field that is
neither a counter nor a prefix of one comes out once for each request of it. -/
theorem expand_of_hasSeparateCounters (h : catalog.HasSeparateCounters) (fields : List String) :
    catalog.expand (catalog.expand fields) = catalog.expand fields ∧
      (∀ field ∈ catalog.expand fields, catalog.hasChildren field = false) ∧
      (∀ counter ∈ catalog.counters,
        (counter ∈ catalog.expand fields ↔
          ∃ field ∈ fields, field = counter ∨ IsDottedPrefix field counter) ∧
        (catalog.expand fields).count counter =
          fields.countP fun field => field = counter ∨ IsDottedPrefix field counter) ∧
      ∀ field ∉ catalog.counters, catalog.hasChildren field = false →
        (catalog.expand fields).count field = fields.count field := by
  have hleaves : ∀ field ∈ catalog.expand fields, catalog.hasChildren field = false := by
    intro field hfield
    rcases mem_expand.mp hfield with ⟨-, hleaf⟩ | ⟨hcounter, -⟩
    · exact hleaf
    · exact h.hasChildren_eq_false hcounter
  refine ⟨expand_eq_self hleaves, hleaves, fun counter hcounter => ⟨?_, ?_⟩,
    fun field hfield hleaf => ?_⟩
  · constructor
    · intro hmem
      rcases mem_expand.mp hmem with ⟨hself, -⟩ | ⟨-, f, hf, hprefix⟩
      · exact ⟨counter, hself, Or.inl rfl⟩
      · exact ⟨f, hf, Or.inr hprefix⟩
    · rintro ⟨f, hf, rfl | hprefix⟩
      · exact mem_expand.mpr (Or.inl ⟨hf, h.hasChildren_eq_false hcounter⟩)
      · exact mem_expand.mpr (Or.inr ⟨hcounter, f, hf, hprefix⟩)
  · rw [count_expand h.distinct (h.hasChildren_eq_false hcounter)]
    simp only [hcounter, true_and]
  · rw [count_expand h.distinct hleaf]
    simp only [hfield, false_and, or_false]
    rfl

/-- A counter that is requested by its name and by two prefixes of it, and a field that only looks
like a prefix. -/
theorem expand_of_hasSeparateCounters_of_nested_prefixes :
    let fields := ["error_links", "error_links.4xx", "error_links.4xx.n", "error_links.4xx.nb"]
    crawl.HasSeparateCounters ∧ "error_links.4xx.nb" ∈ crawl.counters ∧
      "error_links.4xx.n" ∉ crawl.counters ∧ crawl.hasChildren "error_links.4xx.n" = false ∧
      crawl.expand (crawl.expand fields) = crawl.expand fields ∧
      (∀ field ∈ crawl.expand fields, crawl.hasChildren field = false) ∧
      (crawl.expand fields).count "error_links.4xx.nb" = 3 ∧
      (crawl.expand fields).count "error_links.4xx.n" = 1 := by
  intro fields
  have hcounter : "error_links.4xx.nb" ∈ crawl.counters := by decide
  have hother : "error_links.4xx.n" ∉ crawl.counters := by decide
  have hleaf : crawl.hasChildren "error_links.4xx.n" = false := by decide
  obtain ⟨htwice, hleaves, hcounters, hothers⟩ :=
    expand_of_hasSeparateCounters hasSeparateCounters_crawl fields
  exact ⟨hasSeparateCounters_crawl, hcounter, hother, hleaf, htwice, hleaves,
    (hcounters _ hcounter).2.trans (by decide), (hothers _ hother hleaf).trans (by decide)⟩

-- A counter above another one comes out of a prefix first and is expanded the second time.
example :
    let catalog : FieldCatalog := ⟨[], ["links.ok", "links.ok.nb"], []⟩
    catalog.expand ["links"] = ["links.ok", "links.ok.nb"] ∧
      catalog.expand (catalog.expand ["links"]) = ["links.ok.nb", "links.ok.nb"] := by
  decide

end CrawlAudit.FieldCatalog
