import Mathlib.Data.List.Nodup
import StyleGauge.Proofs.Check.Order
import StyleGauge.Proofs.Matching

/-!
# Two runs compared

The issues of a run are those of its checks, put together. So the issues of one run can be matched
with those of another check by check, and the issues of a check candidate by candidate.
-/

namespace StyleGauge

open Listing (Matches)
open Number (Fault)

namespace Issue

variable {α β : Type}

theorem toOption_join_eq_some_iff {x : Except Fault (Option Issue)} {i : Issue} :
    x.toOption.join = some i ↔ x = .ok (some i) := by
  cases x <;> simp [Except.toOption]

/-- The issues collected are those of the candidates that are issues, in order. -/
theorem eq_filterMap_of_collect_eq_ok {candidates : List α}
    {issue? : α → Except Fault (Option Issue)} {issues : List Issue}
    (h : collect candidates issue? = .ok issues) :
    issues = candidates.filterMap fun c => (issue? c).toOption.join := by
  obtain ⟨found, hfound, hissues⟩ := bind_eq_ok_iff.1 h
  obtain rfl := pure_eq_ok_iff.1 hissues
  have hfound' : candidates.mapM issue? =
      .ok (candidates.map fun c => (issue? c).toOption.join) := by
    refine mapM_eq_ok_map fun c hc => ?_
    obtain ⟨o, ho⟩ := forall_of_mapM_eq_ok hfound c hc
    rw [ho]
    rfl
  obtain rfl := Except.ok.inj (hfound.symm.trans hfound')
  exact List.filterMap_map ..

/-- Matched candidates have matched issues, if a candidate is an issue whenever its partner is
one. -/
theorem matches_collect {cs : List α} {ds : List β} {f : α → Except Fault (Option Issue)}
    {g : β → Except Fault (Option Issue)} {xs ys : List Issue} {q : α → β → Prop}
    {r : Issue → Issue → Prop} (hf : collect cs f = .ok xs) (hg : collect ds g = .ok ys)
    (hcandidates : Matches q cs ds)
    (hstep : ∀ c, ∀ d ∈ ds, q c d → ∀ i, f c = .ok (some i) → ∀ o, g d = .ok o →
      ∃ j, o = some j ∧ r i j) :
    Matches r xs ys := by
  have hends : ∀ d ∈ ds, ∃ o, g d = .ok o := by
    obtain ⟨found, hfound, -⟩ := bind_eq_ok_iff.1 hg
    exact forall_of_mapM_eq_ok hfound
  rw [eq_filterMap_of_collect_eq_ok hf, eq_filterMap_of_collect_eq_ok hg]
  refine hcandidates.filterMap fun c d hd hcd i hi => ?_
  obtain ⟨o, ho⟩ := hends d hd
  obtain ⟨j, rfl, hij⟩ := hstep c d hd hcd i (toOption_join_eq_some_iff.1 hi) o ho
  exact ⟨j, by rw [ho]; rfl, hij⟩

end Issue

namespace Check

variable {sheets sheets' : List Stylesheet} {config config' : Config} {issues issues' : List Issue}

/-- What a check finds in a run that comes to an end. -/
theorem run_eq_ok_found (h : runAll sheets config = .ok issues) {check : Check}
    (hon : config.toggles.get check = true) :
    check.run sheets config.thresholds = .ok (check.detector.found sheets config) :=
  Detector.Ends.eq_ok (d := check.detector) (exists_run_of_runAll_eq_ok h check hon)

/-- The issues of a run are those of its checks. -/
theorem perm_flatMap_found (h : runAll sheets config = .ok issues) :
    issues.Perm ((enabled config.toggles).flatMap fun c => c.detector.found sheets config) := by
  have hruns : runAll sheets config = .ok (bySeverity
      (((enabled config.toggles).map detector ++ []).flatMap fun (d : Detector) =>
        d.found sheets config)) :=
    runWith_eq_ok (fun c hc => exists_run_of_runAll_eq_ok h c hc) (by simp)
  rw [List.append_nil, List.flatMap_map] at hruns
  obtain rfl := Except.ok.inj (hruns.symm.trans h)
  exact bySeverity_perm _

theorem filter_perm_flatMap_found (h : runAll sheets config = .ok issues) (p : Check → Bool) :
    (issues.filter fun i => p i.check).Perm
      (((enabled config.toggles).filter p).flatMap fun c => c.detector.found sheets config) := by
  rw [← filter_check_flatMap_found p fun c hc =>
    exists_run_of_runAll_eq_ok h c (mem_enabled.1 hc)]
  exact (perm_flatMap_found h).filter _

/-- The issues of one check in a run are what the check finds. -/
theorem filter_check_perm_found (h : runAll sheets config = .ok issues) {check : Check}
    (hon : config.toggles.get check = true) :
    (issues.filter fun i => i.check = check).Perm (check.detector.found sheets config) := by
  have hone : (enabled config.toggles).filter (fun c => decide (c = check)) = [check] := by
    have hmem := mem_enabled.2 hon
    have hnodup : (enabled config.toggles).Nodup := nodup_all.sublist List.filter_sublist
    rw [List.filter_eq, List.count_eq_one_of_mem hnodup hmem]
    rfl
  have hfilter := filter_perm_flatMap_found h fun c => decide (c = check)
  rwa [hone, List.flatMap_singleton] at hfilter

/-- Two runs with the same checks are compared check by check. Checks may be left out of the first
run. -/
theorem matches_runAll (h : runAll sheets config = .ok issues)
    (h' : runAll sheets' config' = .ok issues') (htoggles : config.toggles = config'.toggles)
    (p : Check → Bool) {r : Issue → Issue → Prop}
    (hchecks : ∀ c : Check, p c = true → ∀ xs ys, c.run sheets config.thresholds = .ok xs →
      c.run sheets' config'.thresholds = .ok ys → Matches r xs ys) :
    Matches r (issues.filter fun i => p i.check) issues' := by
  refine Matches.of_perm ?_ (filter_perm_flatMap_found h p)
  have hsub : (((enabled config'.toggles).filter p).flatMap
      fun c => c.detector.found sheets' config').Subperm issues' :=
    (filter_perm_flatMap_found h' p).symm.subperm.trans List.filter_sublist.subperm
  refine Matches.trans_subperm ?_ hsub
  rw [htoggles]
  refine Matches.flatMap fun c hc => ?_
  obtain ⟨hon, hp⟩ := List.mem_filter.1 hc
  have hon := mem_enabled.1 hon
  exact hchecks c hp _ _ (run_eq_ok_found h (htoggles ▸ hon)) (run_eq_ok_found h' hon)

end Check

end StyleGauge
