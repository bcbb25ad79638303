import CrawlAudit.Proofs.DomainLevels
import CrawlAudit.Proofs.SeparatedTexts

/-!
# Registrable ends of hosts

The second level domain of a link is the end of its host with a single dot in it. For a host that
ends in two labels these are the two labels, so that links to different ones are kept apart. A
host that is written with the dot of the root is cut in front of its last label, and all such
hosts of one top level domain are taken together.
-/

namespace CrawlAudit.Outlink

/-- Pieces without a dot and the one dot between them. -/
structure JoinsPieces (domain second last : List Char) : Prop where
  second_plain : '.' ∉ second
  last_plain : '.' ∉ last
  joined : domain = second ++ '.' :: last

/-- Two labels with a dot between them; a label is not empty. -/
def IsTwoLabels (domain : List Char) : Prop :=
  ∃ second last, second ≠ [] ∧ last ≠ [] ∧ JoinsPieces domain second last

/-- The host is the domain or a host under it. -/
def EndsAtLabel (host domain : List Char) : Prop :=
  host = domain ∨ ∃ front, host = front ++ '.' :: domain

/-- The last two labels of a host. The dot of the root may follow the last one. -/
structure IsRegistrableEnd (host domain : String) : Prop where
  twoLabels : IsTwoLabels domain.toList
  ends : EndsAtLabel host.toList domain.toList ∨ EndsAtLabel host.toList (domain.toList ++ ['.'])

theorem JoinsPieces.splitOn {domain second last : List Char}
    (h : JoinsPieces domain second last) : domain.splitOn '.' = [second, last] := by
  rw [h.joined, List.splitOn_append_cons_self, List.splitOn_eq_singleton h.second_plain,
    List.splitOn_eq_singleton h.last_plain, List.singleton_append]

theorem lastTwoLabels?_eq_some_iff {host key : String} :
    lastTwoLabels? host = some key ↔
      (∃ second last, JoinsPieces key.toList second last) ∧
        EndsAtLabel host.toList key.toList := by
  constructor
  · intro h
    rw [lastTwoLabels?] at h
    split at h
    · rename_i last second rest hreverse
      obtain rfl := Option.some.inj h
      rw [String.toList_ofList]
      have hsplit : host.toList.splitOn '.' = rest.reverse ++ [second, last] := by
        rw [← List.reverse_reverse (host.toList.splitOn '.'), hreverse]
        simp
      obtain ⟨-, hplain, hhost⟩ := SeparatedText.splitOn_eq_iff.mp hsplit
      have hjoined : ['.'].intercalate [second, last] = second ++ '.' :: last := by
        simp [List.intercalate_cons_cons]
      refine ⟨⟨second, last, hplain second (by simp), hplain last (by simp), rfl⟩, ?_⟩
      rcases eq_or_ne rest.reverse [] with hrest | hrest
      · rw [hrest, List.nil_append, hjoined] at hhost
        exact .inl hhost
      · rw [SeparatedText.intercalate_append hrest (List.cons_ne_nil _ _), hjoined] at hhost
        exact .inr ⟨_, hhost⟩
    · cases h
  · rintro ⟨⟨second, last, hkey⟩, hends⟩
    have hreverse : ∃ rest, (host.toList.splitOn '.').reverse = last :: second :: rest := by
      rcases hends with hhost | ⟨front, hhost⟩
      · exact ⟨[], by rw [hhost, hkey.splitOn]; rfl⟩
      · refine ⟨(front.splitOn '.').reverse, ?_⟩
        rw [hhost, List.splitOn_append_cons_self, hkey.splitOn, List.reverse_append]
        rfl
    obtain ⟨rest, hrest⟩ := hreverse
    rw [lastTwoLabels?, hrest]
    exact congrArg some (by rw [← hkey.joined, String.ofList_toList])

theorem getLast?_ne_dot {host domain : List Char} (htwo : IsTwoLabels domain)
    (hends : EndsAtLabel host domain) : host.getLast? ≠ some '.' := by
  obtain ⟨second, last, -, hlast, -, hplain, rfl⟩ := htwo
  have hhost : ∃ front, host = front ++ last := by
    rcases hends with rfl | ⟨front, rfl⟩
    · exact ⟨second ++ ['.'], by simp⟩
    · exact ⟨front ++ '.' :: second ++ ['.'], by simp⟩
  obtain ⟨front, rfl⟩ := hhost
  rw [List.getLast?_append_of_ne_nil front hlast]
  exact fun hdot => hplain (List.mem_of_getLast? hdot)

/-- The last two pieces of a host with a registrable end are this end, unless the dot of the root
is one of the dots that are counted. -/
theorem lastTwoLabels?_of_isRegistrableEnd {host domain : String} {second last : List Char}
    (h : IsRegistrableEnd host domain) (hdomain : JoinsPieces domain.toList second last) :
    lastTwoLabels? host =
      some (if host.toList.getLast? = some '.' then String.ofList (last ++ ['.']) else domain) := by
  rw [lastTwoLabels?_eq_some_iff]
  rcases h.ends with hends | hends
  · rw [if_neg (getLast?_ne_dot h.twoLabels hends)]
    exact ⟨⟨second, last, hdomain⟩, hends⟩
  · -- the piece behind the dot of the root is empty, and the last label is the one before it
    have hend : EndsAtLabel host.toList (last ++ ['.']) := by
      rw [hdomain.joined] at hends
      rcases hends with hhost | ⟨front, hhost⟩
      · exact .inr ⟨second, by rw [hhost]; simp⟩
      · exact .inr ⟨front ++ '.' :: second, by rw [hhost]; simp⟩
    have hdot : host.toList.getLast? = some '.' := by
      rcases hends with hhost | ⟨front, hhost⟩
      · rw [hhost, List.getLast?_concat]
      · rw [hhost, ← List.cons_append, ← List.append_assoc, List.getLast?_concat]
    rw [if_pos hdot, String.toList_ofList]
    exact ⟨⟨last, [], hdomain.last_plain, List.not_mem_nil, rfl⟩, hend⟩

/-- Each link to a host with a dot has a second level domain: the end of the host with one dot. If
the host has two labels at its end these are the domain, unless the dot of the root follows them;
links to hosts without it are told apart by these labels. -/
theorem secondLevelDomain?_of_fullDomain? {link : Outlink} {host : String}
    (h : fullDomain? link = some host) :
    (∃ key, secondLevelDomain? link = some key ∧
      (∃ second last, JoinsPieces key.toList second last) ∧
      EndsAtLabel host.toList key.toList) ∧
    (∀ domain second last, IsRegistrableEnd host domain →
      JoinsPieces domain.toList second last →
      secondLevelDomain? link = some
        (if host.toList.getLast? = some '.' then String.ofList (last ++ ['.']) else domain)) ∧
    ∀ (other : Outlink) (host' domain domain' : String), fullDomain? other = some host' →
      IsRegistrableEnd host domain → IsRegistrableEnd host' domain' →
      host.toList.getLast? ≠ some '.' → host'.toList.getLast? ≠ some '.' →
      (secondLevelDomain? link = secondLevelDomain? other ↔ domain = domain') := by
  have hsecond {l : Outlink} {d : String} (hl : fullDomain? l = some d) :
      secondLevelDomain? l = lastTwoLabels? d := by
    rw [fullDomain?] at hl
    rw [secondLevelDomain?, hl, Option.bind_some]
  refine ⟨?_, ?_, ?_⟩
  · obtain ⟨key, hkey⟩ := exists_lastTwoLabels? h
    exact ⟨key, (hsecond h).trans hkey, lastTwoLabels?_eq_some_iff.mp hkey⟩
  · intro domain second last hend hdomain
    rw [hsecond h, lastTwoLabels?_of_isRegistrableEnd hend hdomain]
  · intro other host' domain domain' hother hend hend' hdot hdot'
    obtain ⟨second, last, -, -, hdomain⟩ := hend.twoLabels
    obtain ⟨second', last', -, -, hdomain'⟩ := hend'.twoLabels
    rw [hsecond h, hsecond hother, lastTwoLabels?_of_isRegistrableEnd hend hdomain,
      lastTwoLabels?_of_isRegistrableEnd hend' hdomain', if_neg hdot, if_neg hdot',
      Option.some.injEq]

/-- A host under a registrable domain, and another domain. -/
theorem secondLevelDomain?_of_fullDomain?_of_two_sites :
    let link (url : String) : Outlink := ⟨0, "a", 0, -1, url⟩
    let www := link "git://www.foo.com/x"
    let org := link "git://foo.org"
    fullDomain? www = some "www.foo.com" ∧ fullDomain? org = some "foo.org" ∧
      IsRegistrableEnd "www.foo.com" "foo.com" ∧ IsRegistrableEnd "foo.org" "foo.org" ∧
      JoinsPieces "foo.com".toList "foo".toList "com".toList ∧
      "www.foo.com".toList.getLast? ≠ some '.' ∧ "foo.org".toList.getLast? ≠ some '.' ∧
      secondLevelDomain? www = some "foo.com" ∧
      (secondLevelDomain? www = secondLevelDomain? org ↔ "foo.com" = "foo.org") := by
  intro link www org
  have hwww : fullDomain? www = some "www.foo.com" := by decide +kernel
  have horg : fullDomain? org = some "foo.org" := by decide +kernel
  have hcom : JoinsPieces "foo.com".toList "foo".toList "com".toList :=
    ⟨by decide, by decide, by decide⟩
  have hfoo : IsRegistrableEnd "www.foo.com" "foo.com" :=
    ⟨⟨_, _, by decide, by decide, hcom⟩, .inl (.inr ⟨"www".toList, by decide⟩)⟩
  have hother : IsRegistrableEnd "foo.org" "foo.org" :=
    ⟨⟨"foo".toList, "org".toList, by decide, by decide, by decide, by decide, by decide⟩,
      .inl (.inl rfl)⟩
  have hdot : "www.foo.com".toList.getLast? ≠ some '.' := by decide
  have hdot' : "foo.org".toList.getLast? ≠ some '.' := by decide
  obtain ⟨-, hkey, happart⟩ := secondLevelDomain?_of_fullDomain? hwww
  exact ⟨hwww, horg, hfoo, hother, hcom, hdot, hdot', hkey _ _ _ hfoo hcom,
    happart org _ _ _ horg hfoo hother hdot hdot'⟩

/-- Hosts that are written with the dot of the root have two labels at their ends, which their
second level domain does not hold: two sites are taken together. -/
theorem secondLevelDomain?_merges_rooted_hosts :
    let link (url : String) : Outlink := ⟨0, "a", 0, -1, url⟩
    let foo := link "git://foo.com./"
    let bar := link "git://bar.com./"
    fullDomain? foo = some "foo.com." ∧ fullDomain? bar = some "bar.com." ∧
      IsRegistrableEnd "foo.com." "foo.com" ∧ IsRegistrableEnd "bar.com." "bar.com" ∧
      secondLevelDomain? foo = some "com." ∧ secondLevelDomain? bar = some "com." ∧
      ¬IsRegistrableEnd "foo.com." "com." := by
  intro link foo bar
  have hfoo : IsRegistrableEnd "foo.com." "foo.com" :=
    ⟨⟨"foo".toList, "com".toList, by decide, by decide, by decide, by decide, by decide⟩,
      .inr (.inl (by decide))⟩
  have hbar : IsRegistrableEnd "bar.com." "bar.com" :=
    ⟨⟨"bar".toList, "com".toList, by decide, by decide, by decide, by decide, by decide⟩,
      .inr (.inl (by decide))⟩
  have hcom : ¬IsTwoLabels "com.".toList :=
    fun htwo => getLast?_ne_dot htwo (.inl rfl) (by decide)
  exact ⟨by decide +kernel, by decide +kernel, hfoo, hbar, by decide +kernel, by decide +kernel,
    fun h => hcom h.twoLabels⟩

end CrawlAudit.Outlink
