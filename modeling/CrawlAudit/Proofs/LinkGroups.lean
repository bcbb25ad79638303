import CrawlAudit.Outlink.Ranking
import CrawlAudit.Proofs.Distinct

/-!
# The links of a domain

Links that are entered one by one fall into the groups of their domains. The groups stand in the
order of their first links, each with exactly the links of its domain.
-/

namespace CrawlAudit.Outlink

/-- The links of a domain. -/
def linksOf (domain? : Outlink → Option String) (links : List Outlink) (domain : String) :
    List Outlink :=
  links.filter fun link => domain? link = some domain

/-- The domains of some links in order of their first links. -/
def domainsOf (domain? : Outlink → Option String) (links : List Outlink) : List String :=
  (links.filterMap domain?).eraseDups

/-- The position of the first link of a domain. -/
def firstPosition (domain? : Outlink → Option String) (links : List Outlink) (domain : String) :
    Nat :=
  links.findIdx fun link => domain? link = some domain

section

variable (domain? : Outlink → Option String)

theorem mem_domainsOf {links : List Outlink} {domain : String} :
    domain ∈ domainsOf domain? links ↔ ∃ link ∈ links, domain? link = some domain := by
  rw [domainsOf, List.mem_eraseDups, List.mem_filterMap]

theorem nodup_domainsOf (links : List Outlink) : (domainsOf domain? links).Nodup :=
  Distinct.nodup_eraseDups _

theorem linksOf_concat (links : List Outlink) (link : Outlink) (domain : String) :
    linksOf domain? (links ++ [link]) domain =
      if domain? link = some domain then linksOf domain? links domain ++ [link]
      else linksOf domain? links domain := by
  rw [linksOf, List.filter_append]
  by_cases h : domain? link = some domain
  · simp [h, linksOf]
  · simp [h, linksOf]

theorem domainsOf_concat (links : List Outlink) (link : Outlink) :
    domainsOf domain? (links ++ [link]) =
      match domain? link with
      | some domain =>
        if domain ∈ domainsOf domain? links then domainsOf domain? links
        else domainsOf domain? links ++ [domain]
      | none => domainsOf domain? links := by
  rw [domainsOf, List.filterMap_append]
  cases h : domain? link with
  | none => simp [h, domainsOf]
  | some domain =>
      rw [List.filterMap_cons_some h, List.filterMap_nil, Distinct.eraseDups_concat]
      simp only [domainsOf, List.mem_eraseDups]

theorem enterGroup_map (domain : String) (link : Outlink) (linksOf : String → List Outlink)
    {domains : List String} (h : domains.Nodup) :
    enterGroup domain link (domains.map fun d => (d, linksOf d)) =
      (domains.map fun d => (d, if d = domain then linksOf d ++ [link] else linksOf d)) ++
        if domain ∈ domains then [] else [(domain, [link])] := by
  induction domains with
  | nil => rfl
  | cons d domains ih =>
      obtain ⟨hd, hdomains⟩ := List.nodup_cons.mp h
      rw [List.map_cons, enterGroup]
      by_cases heq : d = domain
      · subst heq
        have hrest : (domains.map fun e => (e, if e = d then linksOf e ++ [link] else linksOf e)) =
            domains.map fun e => (e, linksOf e) :=
          List.map_congr_left fun e he => by rw [if_neg (ne_of_mem_of_not_mem he hd)]
        simp [hrest]
      · simp [heq, Ne.symm heq, ih hdomains]

theorem groupByDomain_concat (links : List Outlink) (link : Outlink) :
    groupByDomain domain? (links ++ [link]) =
      enterLink domain? (groupByDomain domain? links) link := by
  rw [groupByDomain, List.foldl_append]
  rfl

/-- The groups are the domains in order of appearance, each with its links. -/
theorem groupByDomain_eq (links : List Outlink) :
    groupByDomain domain? links =
      (domainsOf domain? links).map fun d => (d, linksOf domain? links d) := by
  induction links using List.reverseRecOn with
  | nil => rfl
  | append_singleton links link ih =>
      rw [groupByDomain_concat, ih, enterLink, domainsOf_concat]
      simp only [linksOf_concat]
      cases hlink : domain? link with
      | none => simp
      | some domain =>
          simp only [enterGroup_map domain link _ (nodup_domainsOf domain? links),
            Option.some_inj, eq_comm]
          by_cases hmem : domain ∈ domainsOf domain? links
          · simp [hmem]
          · have hnil : linksOf domain? links domain = [] := by
              rw [linksOf, List.filter_eq_nil_iff]
              intro l hl heq
              exact hmem ((mem_domainsOf domain?).mpr ⟨l, hl, by simpa using heq⟩)
            simp [hmem, hnil]

theorem firstPosition_lt {links : List Outlink} {domain : String}
    (h : domain ∈ domainsOf domain? links) : firstPosition domain? links domain < links.length := by
  obtain ⟨link, hlink, hdomain⟩ := (mem_domainsOf domain?).mp h
  exact List.findIdx_lt_length_of_exists ⟨link, hlink, by simp [hdomain]⟩

theorem firstPosition_concat_of_mem {links : List Outlink} {domain : String}
    (h : domain ∈ domainsOf domain? links) (link : Outlink) :
    firstPosition domain? (links ++ [link]) domain = firstPosition domain? links domain := by
  rw [firstPosition, List.findIdx_append]
  exact if_pos (firstPosition_lt domain? h)

theorem length_le_firstPosition_concat {links : List Outlink} {domain : String}
    (h : domain ∉ domainsOf domain? links) (link : Outlink) :
    links.length ≤ firstPosition domain? (links ++ [link]) domain := by
  have hnew : ¬(links.findIdx fun link => domain? link = some domain) < links.length := by
    intro hlt
    have hfound := List.findIdx_getElem (w := hlt)
    exact h ((mem_domainsOf domain?).mpr ⟨_, List.getElem_mem hlt, by simpa using hfound⟩)
  rw [firstPosition, List.findIdx_append, if_neg hnew]
  exact Nat.le_add_left _ _

theorem pairwise_firstPosition (links : List Outlink) :
    (domainsOf domain? links).Pairwise fun d e =>
      firstPosition domain? links d < firstPosition domain? links e := by
  induction links using List.reverseRecOn with
  | nil => exact List.Pairwise.nil
  | append_singleton links link ih =>
      have hold : (domainsOf domain? links).Pairwise fun d e =>
          firstPosition domain? (links ++ [link]) d < firstPosition domain? (links ++ [link]) e :=
        ih.imp_of_mem fun hd he hlt => by
          rwa [firstPosition_concat_of_mem domain? hd, firstPosition_concat_of_mem domain? he]
      rw [domainsOf_concat]
      cases hlink : domain? link with
      | none => exact hold
      | some domain =>
          by_cases hmem : domain ∈ domainsOf domain? links
          · simpa [hmem] using hold
          · simp only [hmem, if_false]
            refine List.pairwise_append.mpr ⟨hold, List.pairwise_singleton _ _, ?_⟩
            intro d hd e he
            obtain rfl := List.mem_singleton.mp he
            rw [firstPosition_concat_of_mem domain? hd]
            exact Nat.lt_of_lt_of_le (firstPosition_lt domain? hd)
              (length_le_firstPosition_concat domain? hmem link)

theorem perm_flatMap_linksOf (links : List Outlink) {domains : List String} (h : domains.Nodup) :
    (domains.flatMap (linksOf domain? links)).Perm
      (links.filter fun link => (domain? link).any (· ∈ domains)) := by
  induction domains with
  | nil =>
      have hnil : links.filter (fun link => (domain? link).any (· ∈ ([] : List String))) = [] :=
        List.filter_eq_nil_iff.mpr fun link _ => by cases domain? link <;> simp
      rw [hnil]
      exact .refl _
  | cons d domains ih =>
      obtain ⟨hd, hdomains⟩ := List.nodup_cons.mp h
      rw [List.flatMap_cons]
      refine ((ih hdomains).append_left _).trans ?_
      have hsplit := List.filter_append_perm (fun link => domain? link = some d)
        (links.filter fun link => (domain? link).any (· ∈ d :: domains))
      rw [List.filter_filter, List.filter_filter] at hsplit
      refine .trans (.of_eq ?_) hsplit
      congr 1
      · refine List.filter_congr fun link _ => ?_
        by_cases hlink : domain? link = some d
        · simp [hlink]
        · simp [hlink]
      · refine List.filter_congr fun link _ => ?_
        cases hlink : domain? link with
        | none => rfl
        | some e =>
            by_cases heq : e = d
            · simp [heq, hd]
            · simp [heq]

theorem domain?_of_mem_linksOf {links : List Outlink} {domain : String} {link : Outlink}
    (h : link ∈ linksOf domain? links domain) : domain? link = some domain :=
  of_decide_eq_true (List.mem_filter.mp h).2

theorem card_pairs_flatMap
    (hurl : ∀ l l' : Outlink, l.url = l'.url → domain? l = domain? l')
    (links : List Outlink) {domains : List String} (h : domains.Nodup) :
    ((domains.flatMap (linksOf domain? links)).map fun l => (l.source, l.url)).toFinset.card =
      (domains.map fun d =>
        ((linksOf domain? links d).map fun l => (l.source, l.url)).toFinset.card).sum := by
  have hapart : domains.Pairwise fun d e =>
      ∀ pair ∈ (linksOf domain? links d).map fun l => (l.source, l.url),
        pair ∉ (linksOf domain? links e).map fun l => (l.source, l.url) := by
    -- two links with one pair have one url, and so they have one domain
    refine h.imp fun {d e} hne pair hd he => hne ?_
    obtain ⟨l, hl, rfl⟩ := List.mem_map.mp hd
    obtain ⟨l', hl', hpair⟩ := List.mem_map.mp he
    rw [← Option.some_inj, ← domain?_of_mem_linksOf domain? hl,
      ← domain?_of_mem_linksOf domain? hl']
    exact hurl l l' (congrArg Prod.snd hpair).symm
  rw [List.map_flatMap, Distinct.card_toFinset_flatMap hapart]

end

end CrawlAudit.Outlink
