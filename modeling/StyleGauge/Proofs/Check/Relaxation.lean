import Mathlib.Data.Multiset.Basic
import StyleGauge.Proofs.Check.Comparison
import StyleGauge.Proofs.Check.Grades
import StyleGauge.Proofs.Report.Outcome

/-!
# Looser thresholds

A threshold decides what is reported and how severe it is. With greater thresholds nothing is found
that smaller ones do not find, and a deep selector or a repeated declaration is not graded worse.
-/

namespace StyleGauge

open Listing (Matches)
open Number (Fault)

namespace Issue

/-- What tells an issue from others: the id of its check, and its evidence. -/
def finding (i : Issue) : String × Evidence :=
  (i.check.id, i.evidence)

/-- The issue `j` of a stricter run is that of a looser one: it is the same finding. A deep selector
or a repeated declaration is at least as severe in the stricter run. -/
structure IsStricter (i j : Issue) : Prop where
  check : j.check = i.check
  evidence : j.evidence = i.evidence
  severity : i.check = .deepSelectors ∨ i.check = .duplicateDeclarations →
    j.severity.rank ≤ i.severity.rank

theorem IsStricter.refl (i : Issue) : IsStricter i i :=
  ⟨rfl, rfl, fun _ => Nat.le_refl _⟩

theorem IsStricter.finding_eq {i j : Issue} (h : IsStricter i j) : i.finding = j.finding := by
  rw [finding, finding, h.check, h.evidence]

end Issue

namespace Check

/-! ### Candidates -/

section

variable {i : Issue} {o : Option Issue} {limit limit' : Int}

theorem DeepSelectors.exists_isStricter {c : Site × Selector} (hle : limit ≤ limit')
    (hi : issue? limit' c = .ok (some i)) (ho : issue? limit c = .ok o) :
    ∃ j, o = some j ∧ i.IsStricter j := by
  obtain ⟨hdepth, s, hs, rfl⟩ := issue?_eq_some_iff.1 hi
  have hissue := issue?_eq_some_iff.2 ⟨hle.trans_lt hdepth, _, Severity.ofDepth_int _ _, rfl⟩
  obtain rfl := Except.ok.inj (hissue.symm.trans ho)
  obtain rfl := Except.ok.inj ((Severity.ofDepth_int _ _).symm.trans hs)
  refine ⟨_, rfl, rfl, rfl, fun _ => ?_⟩
  simp only [issue]
  split_ifs <;> first | omega | decide

theorem HighSpecificity.exists_isStricter {c : Site × Selector} (hle : limit ≤ limit')
    (hi : issue? limit' c = .ok (some i)) (ho : issue? limit c = .ok o) :
    ∃ j, o = some j ∧ i.IsStricter j := by
  obtain ⟨score, hscore, hreport, s, hs, rfl⟩ := issue?_eq_some_iff.1 hi
  cases o with
  | none =>
    obtain ⟨score', hscore', hnone⟩ := issue?_eq_none_iff.1 ho
    obtain rfl := Except.ok.inj (hscore.symm.trans hscore')
    rw [Bool.and_eq_true] at hnone
    rw [Number.le_int_trans hnone.1 hle, hnone.2] at hreport
    cases hreport
  | some j =>
    obtain ⟨score', -, -, s', -, rfl⟩ := issue?_eq_some_iff.1 ho
    refine ⟨_, rfl, rfl, rfl, ?_⟩
    rintro (h | h) <;> cases h

theorem ImportantAbuse.exists_isStricter {g : String × List Site} (hle : limit ≤ limit')
    (hi : fileIssue? limit' g = .ok (some i)) (ho : fileIssue? limit g = .ok o) :
    ∃ j, o = some j ∧ i.IsStricter j := by
  obtain ⟨hcount, s, hs, rfl⟩ := fileIssue?_eq_some_iff.1 hi
  cases o with
  | none =>
    have := fileIssue?_eq_none_iff.1 ho
    omega
  | some j =>
    obtain ⟨-, s', -, rfl⟩ := fileIssue?_eq_some_iff.1 ho
    refine ⟨_, rfl, rfl, rfl, ?_⟩
    rintro (h | h) <;> cases h

theorem DuplicateDeclarations.exists_isStricter {r : Duplication.Repeated} (hle : limit ≤ limit')
    (hi : issue? limit' r = .ok (some i)) (ho : issue? limit r = .ok o) :
    ∃ j, o = some j ∧ i.IsStricter j := by
  obtain ⟨s, hs, rfl⟩ := issue?_eq_some_iff.1 hi
  have hissue := issue?_eq_some_iff.2 ⟨_, Severity.ofRepetition_int r.count limit, rfl⟩
  obtain rfl := Except.ok.inj (hissue.symm.trans ho)
  obtain rfl := Except.ok.inj ((Severity.ofRepetition_int _ _).symm.trans hs)
  refine ⟨_, rfl, rfl, rfl, fun _ => ?_⟩
  simp only [issue]
  split_ifs <;> first | omega | decide

end

/-! ### Checks -/

variable {sheets : List Stylesheet} {t t' : Thresholds} {xs ys : List Issue}

/-- Declarations that are repeated often enough for the greater threshold are so for the smaller
one. -/
theorem declarations_sublist {minimum minimum' : Int} (hle : minimum ≤ minimum') :
    (Duplication.declarations sheets minimum').Sublist
      (Duplication.declarations sheets minimum) := by
  refine List.monotone_filter_right _ fun r hr => ?_
  simp only [decide_eq_true_eq] at hr ⊢
  exact hle.trans hr

/-- What a check finds with greater thresholds it finds with smaller ones. -/
theorem matches_run_of_le (hle : ∀ threshold, t.get threshold ≤ t'.get threshold) {check : Check}
    (h' : check.run sheets t' = .ok xs) (h : check.run sheets t = .ok ys) :
    Matches Issue.IsStricter xs ys := by
  have hsame : ∀ {α : Type} (cs : List α), Matches Eq cs cs :=
    fun cs => Matches.of_subperm (fun _ _ => rfl) (.refl cs)
  have hall : ∀ issues, Matches Issue.IsStricter issues issues :=
    fun issues => Matches.of_subperm (fun i _ => .refl i) (.refl issues)
  cases check with
  | deepSelectors =>
    refine Issue.matches_collect h' h (hsame _) ?_
    rintro c _ - rfl i hi o ho
    exact DeepSelectors.exists_isStricter (hle .maxSelectorDepth) hi ho
  | highSpecificity =>
    refine Issue.matches_collect h' h (hsame _) ?_
    rintro c _ - rfl i hi o ho
    exact HighSpecificity.exists_isStricter (hle .maxSpecificityScore) hi ho
  | importantAbuse =>
    obtain ⟨files', hfiles', hxs⟩ := bind_eq_ok_iff.1 h'
    obtain ⟨files, hfiles, hys⟩ := bind_eq_ok_iff.1 h
    obtain rfl := pure_eq_ok_iff.1 hxs
    obtain rfl := pure_eq_ok_iff.1 hys
    refine Matches.append (Issue.matches_collect hfiles' hfiles (hsame _) ?_) (hall _)
    rintro g _ - rfl i hi o ho
    exact ImportantAbuse.exists_isStricter (hle .maxImportantPerFile) hi ho
  | duplicateDeclarations =>
    have hmin := hle .maxDuplicateDeclarations
    refine Issue.matches_collect h' h (Matches.of_subperm (fun _ _ => rfl)
      (declarations_sublist hmin).subperm) ?_
    rintro r _ - rfl i hi o ho
    exact DuplicateDeclarations.exists_isStricter hmin hi ho
  | layoutRiskHotspot | overridePressure | missingLayers =>
    obtain rfl := Except.ok.inj (h'.symm.trans h)
    exact hall _

/-! ### Runs -/

/-- With the same checks on and no threshold smaller, a run has no finding that it did not have
before, and deep selectors and repeated declarations are not graded worse: the issues can be matched
with different ones of the stricter run. Both runs come to an end if the stylesheets come from
reading and at least one important declaration is allowed. -/
theorem runAll_relaxed {strict relaxed : Config} (htoggles : relaxed.toggles = strict.toggles)
    (hle : ∀ threshold, strict.thresholds.get threshold ≤ relaxed.thresholds.get threshold)
    (hlimit : 1 ≤ strict.thresholds.maxImportantPerFile) (sheets : List Stylesheet) :
    ((∀ s ∈ sheets, Report.IsRead s) → sheets.length < 2 ^ 63 →
        ∃ few many, runAll sheets relaxed = .ok few ∧ runAll sheets strict = .ok many) ∧
      ∀ few many, runAll sheets relaxed = .ok few → runAll sheets strict = .ok many →
        (few.map Issue.finding : Multiset (String × Evidence)) ≤ many.map Issue.finding ∧
        ∃ f : Fin few.length → Fin many.length, Function.Injective f ∧
          ∀ k : Fin few.length, few[k].IsStricter many[f k] := by
  constructor
  · intro hread hlength
    have hrelaxed := hlimit.trans (hle .maxImportantPerFile)
    obtain ⟨r, hr⟩ := Report.exists_ofStylesheets_of_isRead hread hlength hrelaxed ""
    obtain ⟨q, hq⟩ := Report.exists_ofStylesheets_of_isRead hread hlength hlimit ""
    obtain ⟨few, hfew⟩ := Report.exists_runAll_eq_ok hr
    obtain ⟨many, hmany⟩ := Report.exists_runAll_eq_ok hq
    exact ⟨few, many, hfew, hmany⟩
  · intro few many hfew hmany
    have hmatches : Matches Issue.IsStricter few many := by
      have h := matches_runAll hfew hmany htoggles (fun _ => true) fun c _ xs ys hxs hys =>
        matches_run_of_le hle hxs hys
      rwa [List.filter_true] at h
    exact ⟨hmatches.subperm_map fun i j hij => hij.finding_eq, hmatches.exists_injective⟩

/-- An id is reported also where all thresholds are greater. -/
theorem runAll_relaxed_oneText :
    let sheets := [Stylesheet.ofText "a b c d e\x7bcolor:red\x7d#a\x7bcolor:red\x7d"]
    let relaxed : Config := { thresholds := ⟨9, 99, 9, 9⟩ }
    relaxed.toggles = ({} : Config).toggles ∧
      (∀ threshold, ({} : Config).thresholds.get threshold ≤ relaxed.thresholds.get threshold) ∧
      (1 : Int) ≤ ({} : Config).thresholds.maxImportantPerFile ∧
      ∃ few many, runAll sheets relaxed = .ok few ∧ runAll sheets {} = .ok many ∧ few ≠ [] ∧
        (few.map Issue.finding : Multiset (String × Evidence)) ≤ many.map Issue.finding := by
  intro sheets relaxed
  have hle : ∀ threshold,
      ({} : Config).thresholds.get threshold ≤ relaxed.thresholds.get threshold := by
    intro threshold
    cases threshold <;> decide
  have hread : ∀ s ∈ sheets, Report.IsRead s := by
    intro s hs
    obtain rfl := List.mem_singleton.1 hs
    exact .text _ (by decide +kernel)
  have hrelaxed := @runAll_relaxed {} relaxed rfl hle (by decide) sheets
  obtain ⟨few, many, hfew, hmany⟩ := hrelaxed.1 hread (by decide)
  obtain ⟨found, hfound⟩ := exists_run_of_runAll_eq_ok hfew .highSpecificity rfl
  have hid : highSpecificity.run sheets relaxed.thresholds ≠ .ok [] := by decide +kernel
  obtain ⟨i, hi⟩ := List.exists_mem_of_ne_nil found fun hnil => hid (hnil ▸ hfound)
  have hmem : i ∈ few := (mem_of_runAll_eq_ok hfew).2 ⟨.highSpecificity, rfl, found, hfound, hi⟩
  exact ⟨rfl, hle, by decide, few, many, hfew, hmany, List.ne_nil_of_mem hmem,
    (hrelaxed.2 few many hfew hmany).1⟩

/-- A threshold that is too great for a floating point number is no ground for a grade: the stricter
run raises a fault where the looser one has an issue. -/
theorem runAll_relaxed_integerTooLarge :
    let tall : Selector := { raw := "a b c d e", depth := 5, specificity := .zero }
    let wide : Selector :=
      { raw := "f", depth := 1, specificity := { elements := .int (15 * 10 ^ 308) } }
    let rule : Rule := { selectors := [tall, wide], declarations := [], file := "a.css" }
    let sheets : List Stylesheet := [{ file := "a.css", rules := [rule] }]
    let toggles : Toggles := { missingLayers := false }
    let strict : Config := { toggles, thresholds := { maxSpecificityScore := 10 ^ 309 } }
    let relaxed : Config := { toggles, thresholds := { maxSpecificityScore := 10 ^ 310 } }
    relaxed.toggles = strict.toggles ∧
      (∀ threshold, strict.thresholds.get threshold ≤ relaxed.thresholds.get threshold) ∧
      1 ≤ strict.thresholds.maxImportantPerFile ∧
      runAll sheets relaxed = .ok [DeepSelectors.issue 4 .medium ⟨"a.css", rule⟩ tall] ∧
      runAll sheets strict = .error .integerTooLarge := by
  intro tall wide rule sheets toggles strict relaxed
  refine ⟨rfl, ?_, by decide, ?_, ?_⟩
  · intro threshold
    cases threshold <;> decide +kernel
  · have hruns : runEach ((enabled relaxed.toggles).map detector) sheets relaxed =
        .ok [DeepSelectors.issue 4 .medium ⟨"a.css", rule⟩ tall] := by decide +kernel
    rw [runAll, runWith, List.map_nil, List.append_nil, hruns]
    exact congrArg Except.ok (List.mergeSort_singleton ..)
  · have hruns : runEach ((enabled strict.toggles).map detector) sheets strict =
        .error .integerTooLarge := by decide +kernel
    rw [runAll, runWith, List.map_nil, List.append_nil, hruns]
    rfl

end Check

end StyleGauge
