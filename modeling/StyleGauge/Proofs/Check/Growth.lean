import StyleGauge.Proofs.Check.Comparison
import StyleGauge.Proofs.Check.Grades
import StyleGauge.Proofs.Report.Gate

/-!
# More stylesheets

What is found in stylesheets is found in them together with others behind. Groups only grow: the
first place of a declaration, a property or a file stays the first, and a count does not get
smaller. Only layers are no longer missed once one of the stylesheets has some.
-/

namespace StyleGauge

open Listing (Matches)
open Number (Fault)

/-! ### Grades -/

namespace Severity

theorem rank_ofRepetition_le {m n minimum : Int} (h : m ≤ n) {s t : Severity}
    (hs : ofRepetition (.int m) (.int minimum) = .ok s)
    (ht : ofRepetition (.int n) (.int minimum) = .ok t) : t.rank ≤ s.rank := by
  rw [ofRepetition_int] at hs ht
  obtain rfl := Except.ok.inj hs
  obtain rfl := Except.ok.inj ht
  split_ifs <;> first | omega | decide

theorem rank_ofOverrides_le {m n spread spread' : Int} (hcount : m ≤ n) (h : spread ≤ spread') :
    (ofOverrides (.int n) (.int spread')).rank ≤ (ofOverrides (.int m) (.int spread)).rank := by
  rw [ofOverrides_int, ofOverrides_int]
  split_ifs <;> first | omega | decide

end Severity

/-! ### Scores -/

/-- A specificity whose components are integers. -/
def Specificity.IsWhole (s : Specificity) : Prop :=
  ∃ ids classes elements : Int, s = ⟨.int ids, .int classes, .int elements⟩

theorem Specificity.IsWhole.exists_score {s : Specificity} (h : s.IsWhole) :
    ∃ n : Int, s.score = .ok (.int n) := by
  obtain ⟨ids, classes, elements, rfl⟩ := h
  exact ⟨_, rfl⟩

/-- The first selector of every rule has a specificity of integers. -/
def AreWhole (sheets : List Stylesheet) : Prop :=
  ∀ site ∈ sites sheets, site.rule.firstSpecificity.IsWhole

theorem areWhole_of_isParsed {sheets : List Stylesheet} (h : ∀ s ∈ sheets, s.IsParsed) :
    AreWhole sheets := by
  intro site hsite
  simp only [sites, List.mem_flatMap, List.mem_map] at hsite
  obtain ⟨s, hs, r, hr, rfl⟩ := hsite
  unfold Rule.firstSpecificity
  cases hselectors : r.selectors with
  | nil => exact ⟨0, 0, 0, rfl⟩
  | cons first rest =>
    obtain ⟨ids, classes, elements, hcounts, -⟩ :=
      (h s hs).isCounted r hr first (by simp [hselectors])
    exact ⟨ids, classes, elements, hcounts⟩

/-! ### Issues -/

/-- The evidence `e'` differs from `e` at most in a greater count. -/
def Evidence.Grows (e e' : Evidence) : Prop :=
  e' = e ∨ ∃ m n : Int, e.count = some m ∧ m ≤ n ∧ e' = { e with count := some n }

namespace Issue

/-- The issue `j` is `i` with more stylesheets: its evidence differs at most in a greater count. If
the check is one that is graded by what can only grow, it is at least as severe. -/
structure Grows (graded : Check → Prop) (i j : Issue) : Prop where
  check : j.check = i.check
  evidence : i.evidence.Grows j.evidence
  severity : graded i.check → j.severity.rank ≤ i.severity.rank

variable {graded : Check → Prop}

theorem Grows.refl (i : Issue) : i.Grows graded i :=
  ⟨rfl, .inl rfl, fun _ => Nat.le_refl _⟩

/-- A check that goes from candidate to candidate finds the same issues among more candidates. -/
theorem matches_collect_append {α : Type} {cs ds : List α}
    {issue? : α → Except Fault (Option Issue)} {xs ys : List Issue} (hxs : collect cs issue? = .ok xs)
    (hys : collect (cs ++ ds) issue? = .ok ys) : Matches (Grows graded) xs ys := by
  have hcandidates : Matches Eq cs (cs ++ ds) :=
    Matches.of_subperm (fun _ _ => rfl) (List.sublist_append_left cs ds).subperm
  refine matches_collect hxs hys hcandidates ?_
  rintro c _ - rfl i hi o ho
  obtain rfl := Except.ok.inj (hi.symm.trans ho)
  exact ⟨i, rfl, .refl i⟩

end Issue

namespace Check

/-- The checks that grade an issue by what can only grow with more stylesheets. With numbers that
are no integers the scores of definitions can come closer together by rounding. -/
def GradesByGrowth (sheets : List Stylesheet) : Check → Prop
  | deepSelectors | highSpecificity | duplicateDeclarations | layoutRiskHotspot => True
  | overridePressure => AreWhole sheets
  | importantAbuse | missingLayers => False

variable {sheets more : List Stylesheet} {i : Issue} {o : Option Issue}

/-! ### Important declarations -/

namespace ImportantAbuse

theorem total_append (a b : List Site) : total (a ++ b) = total a + total b := by
  rw [total, List.map_append, Listing.total_append]
  rfl

theorem byFile_append (a b : List Stylesheet) :
    byFile (a ++ b) = Listing.groups Site.file
      (((sites a).filter fun s => s.rule.importantCount ≠ 0) ++
        (sites b).filter fun s => s.rule.importantCount ≠ 0) := by
  rw [byFile, sites_append, List.filter_append]

theorem exists_grows {limit : Int} {g g' : String × List Site} (hkey : g'.1 = g.1)
    (hne : g.2 ≠ []) (hinit : g.2 <+: g'.2) (hi : fileIssue? limit g = .ok (some i))
    (ho : fileIssue? limit g' = .ok o) :
    ∃ j, o = some j ∧ i.Grows (GradesByGrowth sheets) j := by
  obtain ⟨hcount, s, -, rfl⟩ := fileIssue?_eq_some_iff.1 hi
  have hle : total g.2 ≤ total g'.2 := by
    obtain ⟨rest, hrest⟩ := hinit
    rw [← hrest, total_append]
    exact Nat.le_add_right _ _
  have hfirst : g'.2.head? = g.2.head? := Listing.head?_eq_of_isPrefix hne hinit
  cases o with
  | none =>
    have := fileIssue?_eq_none_iff.1 ho
    omega
  | some j =>
    obtain ⟨-, t, -, rfl⟩ := fileIssue?_eq_some_iff.1 ho
    refine ⟨_, rfl, rfl, .inr ⟨_, _, rfl, Int.ofNat_le.2 hle, ?_⟩, False.elim⟩
    rw [hkey, hfirst]
    rfl

end ImportantAbuse

/-! ### Repeated declarations -/

namespace DuplicateDeclarations

/-- The declaration `r'` is `r` with more places behind. -/
def Extends (r r' : Duplication.Repeated) : Prop :=
  r'.key = r.key ∧ r.locations ≠ [] ∧ r.locations <+: r'.locations

theorem matches_declarations (sheets more : List Stylesheet) (minimum : Int) :
    Matches Extends (Duplication.declarations sheets minimum)
      (Duplication.declarations (sheets ++ more) minimum) := by
  have hkeyed : Duplication.keyed (sheets ++ more) =
      Duplication.keyed sheets ++ Duplication.keyed more := by
    simp [Duplication.keyed]
  unfold Duplication.declarations
  rw [hkeyed]
  refine ((Listing.matches_groups_append _ _ _).map ?_).filter ?_
  · rintro g g' ⟨hkey, hne, hinit⟩
    exact ⟨hkey, mt List.map_eq_nil_iff.1 hne, hinit.map _⟩
  · rintro r r' ⟨-, -, hinit⟩ hr
    have := hinit.length_le
    simp only [decide_eq_true_eq] at hr ⊢
    omega

theorem exists_grows {minimum : Int} {r r' : Duplication.Repeated} (h : Extends r r')
    (hi : issue? minimum r = .ok (some i)) (ho : issue? minimum r' = .ok o) :
    ∃ j, o = some j ∧ i.Grows (GradesByGrowth sheets) j := by
  obtain ⟨s, hs, rfl⟩ := issue?_eq_some_iff.1 hi
  obtain ⟨t, ht, ho⟩ := bind_eq_ok_iff.1 ho
  obtain rfl := pure_eq_ok_iff.1 ho
  obtain ⟨hkey, hne, hinit⟩ := h
  have hle : r.count ≤ r'.count := hinit.length_le
  have hfirst : r'.locations.head? = r.locations.head? := Listing.head?_eq_of_isPrefix hne hinit
  refine ⟨_, rfl, rfl, .inr ⟨_, _, rfl, Int.ofNat_le.2 hle, ?_⟩, fun _ => ?_⟩
  · simp only [issue, Duplication.Repeated.property, Duplication.Repeated.value, hkey, hfirst]
  · exact Severity.rank_ofRepetition_le (Int.ofNat_le.2 hle) hs ht

end DuplicateDeclarations

/-! ### Competing definitions -/

namespace OverridePressure

/-- The property `o'` is `o` with more definitions behind. -/
def Extends (o o' : Duplication.Override) : Prop :=
  o'.property = o.property ∧ o.definitions ≠ [] ∧ o.definitions <+: o'.definitions

theorem matches_overrides (sheets more : List Stylesheet) (minimum : Int) :
    Matches Extends (Duplication.overrides sheets minimum)
      (Duplication.overrides (sheets ++ more) minimum) := by
  have hdefined : Duplication.defined (sheets ++ more) =
      Duplication.defined sheets ++ Duplication.defined more := by
    simp [Duplication.defined]
  unfold Duplication.overrides
  rw [hdefined]
  refine ((Listing.matches_groups_append _ _ _).map ?_).filter ?_
  · rintro g g' ⟨hkey, hne, hinit⟩
    exact ⟨hkey, mt List.map_eq_nil_iff.1 hne, hinit.map _⟩
  · rintro r r' ⟨-, -, hinit⟩ hr
    have := hinit.length_le
    simp only [decide_eq_true_eq] at hr ⊢
    omega

/-- Integers among which there are others are no closer together. -/
theorem spread_le_append (n : Int) (ns ms : List Int) :
    ns.foldl max n - ns.foldl min n ≤ (ns ++ ms).foldl max n - (ns ++ ms).foldl min n := by
  rw [List.foldl_append, List.foldl_append]
  have hmax := Listing.foldl_max_le_iff.1 (le_refl (ms.foldl max (ns.foldl max n)))
  have hmin := Listing.le_foldl_min_iff.1 (le_refl (ms.foldl min (ns.foldl min n)))
  omega

theorem exists_eq_map_int {definitions : List Duplication.Definition} {scores : List Number}
    (hwhole : ∀ d ∈ definitions, d.specificity.IsWhole)
    (h : (definitions.mapM fun d => d.specificity.score) = .ok scores) :
    ∃ ns : List Int, scores = ns.map .int := by
  refine Number.exists_eq_map_int fun x hx => ?_
  obtain ⟨d, hd, hscore⟩ := (mem_of_mapM_eq_ok h).1 hx
  obtain ⟨n, hn⟩ := (hwhole d hd).exists_score
  exact ⟨n, Except.ok.inj (hscore.symm.trans hn)⟩

/-- Integer scores are no closer together in the extended property. -/
theorem exists_spread_le {o o' : Duplication.Override} (h : Extends o o')
    (hwhole : ∀ d ∈ o'.definitions, d.specificity.IsWhole) {scores scores' : List Number}
    (hscores : (o.definitions.mapM fun d => d.specificity.score) = .ok scores)
    (hscores' : (o'.definitions.mapM fun d => d.specificity.score) = .ok scores') :
    ∃ m n : Int, (range scores).2.sub (range scores).1 = .ok (.int m) ∧
      (range scores').2.sub (range scores').1 = .ok (.int n) ∧ m ≤ n := by
  obtain ⟨-, hne, rest, hrest⟩ := h
  rw [← hrest] at hwhole
  rw [← hrest, List.mapM_append, bind_eq_ok_iff] at hscores'
  obtain ⟨_, hfront, hscores'⟩ := hscores'
  obtain ⟨back, hback, hscores'⟩ := bind_eq_ok_iff.1 hscores'
  obtain rfl := pure_eq_ok_iff.1 hscores'
  obtain rfl := Except.ok.inj (hscores.symm.trans hfront)
  obtain ⟨ns, rfl⟩ :=
    exists_eq_map_int (fun d hd => hwhole d (List.mem_append_left rest hd)) hscores
  obtain ⟨ms, rfl⟩ := exists_eq_map_int (fun d hd => hwhole d (List.mem_append_right _ hd)) hback
  cases ns with
  | nil =>
    obtain ⟨d, hd⟩ := List.exists_mem_of_ne_nil _ hne
    obtain ⟨x, hx⟩ := forall_of_mapM_eq_ok hscores d hd
    cases (mem_of_mapM_eq_ok hscores).2 ⟨d, hd, hx⟩
  | cons n ns =>
    rw [← List.map_append, List.cons_append, range_map_int, range_map_int]
    exact ⟨_, _, rfl, rfl, spread_le_append n ns ms⟩

theorem exists_grows {p p' : Duplication.Override} (h : Extends p p')
    (hwhole : AreWhole sheets → ∀ d ∈ p'.definitions, d.specificity.IsWhole)
    (hi : issue? p = .ok (some i)) (ho : issue? p' = .ok o) :
    ∃ j, o = some j ∧ i.Grows (GradesByGrowth sheets) j := by
  obtain ⟨scores, hscores, spread, hspread, rfl⟩ := issue?_eq_some_iff.1 hi
  obtain ⟨scores', hscores', ho⟩ := bind_eq_ok_iff.1 ho
  obtain ⟨spread', hspread', ho⟩ := bind_eq_ok_iff.1 ho
  obtain rfl := pure_eq_ok_iff.1 ho
  have hle : p.definitions.length ≤ p'.definitions.length := h.2.2.length_le
  have hfirst : p'.definitions.head? = p.definitions.head? :=
    Listing.head?_eq_of_isPrefix h.2.1 h.2.2
  refine ⟨_, rfl, rfl, .inr ⟨_, _, rfl, Int.ofNat_le.2 hle, ?_⟩, fun hgrades => ?_⟩
  · simp only [issue, h.1, hfirst]
  · obtain ⟨m, n, hm, hn, hmn⟩ := exists_spread_le h (hwhole hgrades) hscores hscores'
    obtain rfl := Except.ok.inj (hm.symm.trans hspread)
    obtain rfl := Except.ok.inj (hn.symm.trans hspread')
    exact Severity.rank_ofOverrides_le (Int.ofNat_le.2 hle) hmn

theorem isWhole_of_mem_overrides {minimum : Int} {p : Duplication.Override}
    (hwhole : AreWhole sheets) (hp : p ∈ Duplication.overrides sheets minimum) :
    ∀ d ∈ p.definitions, d.specificity.IsWhole := by
  obtain ⟨g, hg, rfl⟩ := List.mem_map.1 (List.mem_filter.1 hp).1
  intro d hd
  obtain ⟨x, hx, rfl⟩ := List.mem_map.1 hd
  have hx := (Listing.sublist_of_mem_groups hg).subset hx
  simp only [Duplication.defined, List.mem_flatMap, List.mem_map] at hx
  obtain ⟨site, hsite, _, -, rfl⟩ := hx
  exact hwhole site hsite

end OverridePressure

/-! ### Checks -/

variable {t : Thresholds} {xs ys : List Issue}

/-- What a check other than that for layers finds, it finds with more stylesheets. -/
theorem matches_run_append {check : Check} (hlayers : check ≠ .missingLayers)
    (hxs : check.run sheets t = .ok xs) (hys : check.run (sheets ++ more) t = .ok ys) :
    Matches (Issue.Grows (GradesByGrowth (sheets ++ more))) xs ys := by
  cases check with
  | deepSelectors | highSpecificity =>
    simp only [run, DeepSelectors.run, HighSpecificity.run, selectorSites_append] at hxs hys
    exact Issue.matches_collect_append hxs hys
  | importantAbuse =>
    obtain ⟨files, hfiles, hxs⟩ := bind_eq_ok_iff.1 hxs
    obtain ⟨files', hfiles', hys⟩ := bind_eq_ok_iff.1 hys
    obtain rfl := pure_eq_ok_iff.1 hxs
    obtain rfl := pure_eq_ok_iff.1 hys
    rw [ImportantAbuse.byFile_append] at hfiles'
    refine Matches.append (Issue.matches_collect hfiles hfiles'
      (Listing.matches_groups_append _ _ _) ?_) ?_
    · rintro g g' - ⟨hkey, hne, hinit⟩ i hi o ho
      exact ImportantAbuse.exists_grows hkey hne hinit hi ho
    · rw [ImportantAbuse.onLayout, ImportantAbuse.onLayout, sites_append, List.flatMap_append,
        List.map_append]
      exact Matches.of_subperm (fun i _ => .refl i) (List.sublist_append_left _ _).subperm
  | duplicateDeclarations =>
    refine Issue.matches_collect hxs hys (DuplicateDeclarations.matches_declarations _ _ _) ?_
    intro r r' _ hr i hi o ho
    exact DuplicateDeclarations.exists_grows hr hi ho
  | layoutRiskHotspot =>
    obtain rfl := Except.ok.inj hxs
    obtain rfl := Except.ok.inj hys
    rw [LayoutRiskHotspot.run, LayoutRiskHotspot.run, sites_append, List.filterMap_append]
    exact Matches.of_subperm (fun i _ => .refl i) (List.sublist_append_left _ _).subperm
  | overridePressure =>
    refine Issue.matches_collect hxs hys (OverridePressure.matches_overrides _ _ _) ?_
    intro p p' hmem hp i hi o ho
    exact OverridePressure.exists_grows hp
      (fun hwhole => OverridePressure.isWhole_of_mem_overrides hwhole hmem) hi ho
  | missingLayers => exact absurd rfl hlayers

/-! ### Runs -/

/-- With more stylesheets behind, every issue but that of missing layers is found again: the issues
can be matched with different ones of the larger run, in which only counts have grown, and the
checks that grade by what can only grow do not grade less severely. Both runs come to an end if the
stylesheets come from reading and at least one important declaration is allowed. Specificities that
come from reading are made of integers, as grading by how far scores are apart needs them. -/
theorem runAll_append {config : Config} (hlimit : 1 ≤ config.thresholds.maxImportantPerFile)
    (sheets more : List Stylesheet) :
    ((∀ s ∈ sheets ++ more, Report.IsRead s) → (sheets ++ more).length < 2 ^ 63 →
        ∃ small large, runAll sheets config = .ok small ∧
          runAll (sheets ++ more) config = .ok large) ∧
      ((∀ s ∈ sheets ++ more, s.IsParsed) → AreWhole (sheets ++ more)) ∧
      ∀ small large, runAll sheets config = .ok small → runAll (sheets ++ more) config = .ok large →
        ∃ f : Fin (small.filter (·.check ≠ .missingLayers)).length → Fin large.length,
          Function.Injective f ∧ ∀ k : Fin (small.filter (·.check ≠ .missingLayers)).length,
            (small.filter (·.check ≠ .missingLayers))[k].Grows
              (GradesByGrowth (sheets ++ more)) large[f k] := by
  refine ⟨?_, areWhole_of_isParsed, ?_⟩
  · intro hread hlength
    have hfewer : sheets.length ≤ (sheets ++ more).length := by simp
    obtain ⟨r, hr⟩ := Report.exists_ofStylesheets_of_isRead
      (fun s hs => hread s (List.mem_append_left more hs)) (hfewer.trans_lt hlength) hlimit ""
    obtain ⟨q, hq⟩ := Report.exists_ofStylesheets_of_isRead hread hlength hlimit ""
    obtain ⟨small, hsmall⟩ := Report.exists_runAll_eq_ok hr
    obtain ⟨large, hlarge⟩ := Report.exists_runAll_eq_ok hq
    exact ⟨small, large, hsmall, hlarge⟩
  · intro small large hsmall hlarge
    refine Matches.exists_injective ?_
    refine matches_runAll hsmall hlarge rfl (fun c => decide (c ≠ .missingLayers)) ?_
    intro c hc xs ys hxs hys
    exact matches_run_append (of_decide_eq_true hc) hxs hys

/-- A declaration that is said three times in one file, and in a layer of the other once more. -/
theorem runAll_append_twoTexts :
    let first := Stylesheet.ofText "#a\x7bcolor:red\x7db\x7bcolor:red\x7dc\x7bcolor:red\x7d" "a.css"
    let second := Stylesheet.ofText "@layer x\x7bd\x7bcolor:red\x7d\x7d" "b.css"
    (1 : Int) ≤ ({} : Config).thresholds.maxImportantPerFile ∧
      ∃ small large, runAll [first] {} = .ok small ∧ runAll ([first] ++ [second]) {} = .ok large ∧
        (small.filter (·.check ≠ .missingLayers)) ≠ [] ∧
        ∃ f : Fin (small.filter (·.check ≠ .missingLayers)).length → Fin large.length,
          Function.Injective f ∧ ∀ k : Fin (small.filter (·.check ≠ .missingLayers)).length,
            (small.filter (·.check ≠ .missingLayers))[k].Grows
              (GradesByGrowth ([first] ++ [second])) large[f k] := by
  intro first second
  have hlimit : 1 ≤ ({} : Config).thresholds.maxImportantPerFile := by decide
  have hread : ∀ s ∈ [first] ++ [second], Report.IsRead s := by
    intro s hs
    rcases List.mem_pair.1 hs with rfl | rfl <;> exact .text _ (by decide +kernel)
  have happend := runAll_append hlimit [first] [second]
  obtain ⟨small, large, hsmall, hlarge⟩ := happend.1 hread (by decide)
  obtain ⟨found, hfound⟩ := exists_run_of_runAll_eq_ok hsmall .duplicateDeclarations rfl
  have hsome : duplicateDeclarations.run [first] ({} : Config).thresholds ≠ .ok [] := by
    decide +kernel
  obtain ⟨i, hi⟩ := List.exists_mem_of_ne_nil found fun hnil => hsome (hnil ▸ hfound)
  have hmem : i ∈ small :=
    (mem_of_runAll_eq_ok hsmall).2 ⟨.duplicateDeclarations, rfl, found, hfound, hi⟩
  have hcheck : i.check ≠ .missingLayers := by
    rw [check_of_mem_run hfound i hi]
    decide
  refine ⟨hlimit, small, large, hsmall, hlarge, ?_, happend.2.2 small large hsmall hlarge⟩
  exact List.ne_nil_of_mem (List.mem_filter.2 ⟨hmem, decide_eq_true hcheck⟩)

/-- Scores that are not integers, or too great to be rounded. With a sixth score that is a floating
point number the spread of thirty is rounded to zero, and with one that has to be compared with a
limit out of range there are no issues at all. -/
theorem runAll_append_inexact :
    let rule (score : Number) : Rule :=
      { selectors := [{ raw := "a", depth := 5, specificity := { elements := score } }]
        declarations := [⟨"color", "red", false⟩]
        file := "a.css" }
    let sheet (scores : List Number) : Stylesheet := { file := "a.css", rules := scores.map rule }
    let graded (sheets : List Stylesheet) (config : Config) :=
      (runAll sheets config).map fun issues => issues.map fun i => (i.check, i.severity)
    let off : Toggles := ⟨false, false, false, false, false, false, false⟩
    let pressure : Config := { toggles := off.set true .overridePressure }
    let scores : List Number :=
      [.int (2 ^ 58 + 33), .int (2 ^ 58 + 63), .int (2 ^ 58 + 63), .int (2 ^ 58 + 63),
        .int (2 ^ 58 + 63)]
    let depth : Config :=
      { toggles := (off.set true .deepSelectors).set true .highSpecificity
        thresholds := { maxSpecificityScore := 10 ^ 309 } }
    graded [sheet scores] pressure = .ok [(.overridePressure, .medium)] ∧
      graded ([sheet scores] ++ [sheet [.float (Binary64.ofInt (2 ^ 58 + 64))]]) pressure =
        .ok [(.overridePressure, .low)] ∧
      graded [sheet [0]] depth = .ok [(.deepSelectors, .medium)] ∧
      graded ([sheet [0]] ++ [sheet [.int (15 * 10 ^ 308)]]) depth = .error .integerTooLarge := by
  simp only [runAll, runWith, show bySeverity = _ from funext bySeverity_eq_flatMap]
  decide +kernel

end Check

end StyleGauge
