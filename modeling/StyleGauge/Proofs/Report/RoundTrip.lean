import StyleGauge.Proofs.Json.Readable
import StyleGauge.Proofs.Json.Records
import StyleGauge.Report.Record

/-!
# Reports read back

The text of a report is read as its record, and its record as the report, whatever is set in it and
whatever is not: `parse_text_and_ofJson_toJson`.
-/

namespace StyleGauge

open Json (lookup_setIfSome optional_eq_ok listOf_eq_ok keys_setIfSome_sublist)

/-! ### What a report may hold

Every floating point number is written as the format has it, and no severity is counted twice. This
is what makes the record of a report a well-formed value.
-/

/-- The components are numbers as the format has them. -/
def Specificity.IsWellTyped (s : Specificity) : Prop :=
  s.ids.IsCanonical ∧ s.classes.IsCanonical ∧ s.elements.IsCanonical

/-- The mean depth and the specificities are numbers as the format has them. -/
def FileMetrics.IsWellTyped (m : FileMetrics) : Prop :=
  m.averageDepth.IsCanonical ∧ m.maxSpecificity.IsWellTyped ∧ m.averageSpecificity.IsWellTyped

/-- The mean depth and the specificities are numbers as the format has them. -/
def GlobalMetrics.IsWellTyped (m : GlobalMetrics) : Prop :=
  m.averageDepth.IsCanonical ∧ m.maxSpecificity.IsWellTyped ∧ m.averageSpecificity.IsWellTyped

/-- The specificity and the score are numbers as the format has them. -/
def RankedSelector.IsWellTyped (s : RankedSelector) : Prop :=
  s.specificity.IsWellTyped ∧ s.score.IsCanonical

/-- The confidence and the specificity, if there is one, are numbers as the format has them. -/
def Issue.IsWellTyped (i : Issue) : Prop :=
  i.confidence.IsCanonical ∧ ∀ s ∈ i.evidence.specificity, s.IsWellTyped

/-- The scores are numbers as the format has them. -/
def CategoryScores.IsWellTyped (s : CategoryScores) : Prop :=
  s.specificity.IsCanonical ∧ s.cascade.IsCanonical ∧ s.duplication.IsCanonical ∧
    s.layoutRisk.IsCanonical

/-- The scores are numbers as the format has them, and no severity is counted twice. -/
def Summary.IsWellTyped (s : Summary) : Prop :=
  s.overallScore.IsCanonical ∧ s.categoryScores.IsWellTyped ∧ (s.bySeverity.map Prod.fst).Nodup

/-- All parts are well-typed. A number may be a NaN, which is as the format has it. -/
def Report.IsWellTyped (r : Report) : Prop :=
  r.summary.IsWellTyped ∧ r.global.IsWellTyped ∧ (∀ m ∈ r.files, m.IsWellTyped) ∧
    (∀ i ∈ r.issues, i.IsWellTyped) ∧ ∀ s ∈ r.worstSelectors, s.IsWellTyped

instance (s : Specificity) : Decidable s.IsWellTyped :=
  inferInstanceAs (Decidable (_ ∧ _ ∧ _))

instance (m : FileMetrics) : Decidable m.IsWellTyped :=
  inferInstanceAs (Decidable (_ ∧ _ ∧ _))

instance (m : GlobalMetrics) : Decidable m.IsWellTyped :=
  inferInstanceAs (Decidable (_ ∧ _ ∧ _))

instance (s : RankedSelector) : Decidable s.IsWellTyped :=
  inferInstanceAs (Decidable (_ ∧ _))

instance (i : Issue) : Decidable i.IsWellTyped :=
  inferInstanceAs (Decidable (_ ∧ ∀ s ∈ i.evidence.specificity, s.IsWellTyped))

instance (s : CategoryScores) : Decidable s.IsWellTyped :=
  inferInstanceAs (Decidable (_ ∧ _ ∧ _ ∧ _))

instance (s : Summary) : Decidable s.IsWellTyped :=
  inferInstanceAs (Decidable (_ ∧ _ ∧ (s.bySeverity.map Prod.fst).Nodup))

instance (r : Report) : Decidable r.IsWellTyped :=
  inferInstanceAs (Decidable (_ ∧ _ ∧ (∀ m ∈ r.files, m.IsWellTyped) ∧
    (∀ i ∈ r.issues, i.IsWellTyped) ∧ ∀ s ∈ r.worstSelectors, s.IsWellTyped))

/-! ### Well-formed records -/

@[simp] theorem Specificity.isWellFormed_toJson_iff {s : Specificity} :
    s.toJson.IsWellFormed ↔ s.IsWellTyped := by
  simp [toJson, IsWellTyped]

@[simp] theorem FileMetrics.isWellFormed_toJson_iff {m : FileMetrics} :
    m.toJson.IsWellFormed ↔ m.IsWellTyped := by
  simp [toJson, IsWellTyped]

@[simp] theorem GlobalMetrics.isWellFormed_toJson_iff {m : GlobalMetrics} :
    m.toJson.IsWellFormed ↔ m.IsWellTyped := by
  simp [toJson, IsWellTyped]

@[simp] theorem RankedSelector.isWellFormed_toJson_iff {s : RankedSelector} :
    s.toJson.IsWellFormed ↔ s.IsWellTyped := by
  cases h : s.line <;> simp [toJson, IsWellTyped, Json.setIfSome, h]

@[simp] theorem CategoryScores.isWellFormed_toJson_iff {s : CategoryScores} :
    s.toJson.IsWellFormed ↔ s.IsWellTyped := by
  simp [toJson, IsWellTyped]

/-- The keys of evidence are among the keys of evidence in which all is set. -/
theorem Evidence.nodup_keys (e : Evidence) : (e.toJson.fields.map Prod.fst).Nodup := by
  have hkeys : (e.toJson.fields.map Prod.fst).Sublist (["file"] ++ ["selector"] ++ ["property"] ++
      ["value"] ++ ["line"] ++ ["column"] ++ ["specificity"] ++ ["depth"] ++ ["count"]) := by
    simp only [toJson, Json.fields, List.map_append]
    repeat' apply List.Sublist.append
    all_goals first | exact keys_setIfSome_sublist _ _ _ | exact List.Sublist.refl _
  exact hkeys.nodup (by decide)

@[simp] theorem Evidence.isWellFormed_toJson_iff {e : Evidence} :
    e.toJson.IsWellFormed ↔ ∀ s ∈ e.specificity, s.IsWellTyped := by
  refine Json.isWellFormed_object_iff.trans ((and_iff_right e.nodup_keys).trans ?_)
  simp only [List.forall_mem_append, List.forall_mem_singleton, Json.forall_mem_setIfSome]
  simp

@[simp] theorem Suggestion.isWellFormed_toJson (s : Suggestion) : s.toJson.IsWellFormed := by
  simp [toJson]

@[simp] theorem Issue.isWellFormed_toJson_iff {i : Issue} :
    i.toJson.IsWellFormed ↔ i.IsWellTyped := by
  simp [toJson, IsWellTyped]

@[simp] theorem Recommendation.isWellFormed_toJson (r : Recommendation) :
    r.toJson.IsWellFormed := by
  simp [toJson]

theorem Severity.name_injective : Function.Injective name := by
  intro s t h
  have hread := ofJson_name s
  rw [h, ofJson_name] at hread
  exact (Except.ok.inj hread).symm

@[simp] theorem Summary.isWellFormed_counts_iff {counts : List (Severity × Int)} :
    (Json.object (counts.map fun c => (c.1.name, Json.ofInt c.2))).IsWellFormed ↔
      (counts.map Prod.fst).Nodup := by
  have hkeys : (counts.map fun c => (c.1.name, Json.ofInt c.2)).map Prod.fst =
      (counts.map Prod.fst).map Severity.name := by
    rw [List.map_map, List.map_map]
    rfl
  rw [Json.isWellFormed_object_iff, hkeys, List.nodup_map_iff Severity.name_injective]
  simp only [List.forall_mem_map, Json.isWellFormed_ofInt, implies_true, and_true]

@[simp] theorem Summary.isWellFormed_toJson_iff {s : Summary} :
    s.toJson.IsWellFormed ↔ s.IsWellTyped := by
  have hcounts := @isWellFormed_counts_iff s.bySeverity
  unfold toJson
  generalize Json.object (s.bySeverity.map _) = counts at hcounts ⊢
  simp [IsWellTyped, hcounts]

@[simp] theorem Report.isWellFormed_toJson_iff {r : Report} :
    r.toJson.IsWellFormed ↔ r.IsWellTyped := by
  simp [toJson, IsWellTyped]

/-! ### Records read back -/

namespace Evidence

theorem get?_toJson (e : Evidence) {key : String} (hkey : key ≠ "file") : e.toJson.get? key =
    (if key = "selector" then e.selector.map Json.string else none).or
      ((if key = "property" then e.property.map Json.string else none).or
        ((if key = "value" then e.value.map Json.string else none).or
          ((if key = "line" then e.line.map Json.ofInt else none).or
            ((if key = "column" then e.column.map Json.ofInt else none).or
              ((if key = "specificity" then e.specificity.map Specificity.toJson else none).or
                ((if key = "depth" then e.depth.map Json.ofInt else none).or
                  (if key = "count" then e.count.map Json.ofInt else none))))))) := by
  simp [toJson, List.lookup_append, List.lookup_cons, beq_false_of_ne hkey, lookup_setIfSome]

theorem specificityOf_toJson (e : Evidence) : specificityOf e.toJson = .ok e.specificity := by
  have hget : e.toJson.get? "specificity" = e.specificity.map Specificity.toJson := by
    simp [get?_toJson]
  rw [specificityOf, hget]
  cases e.specificity <;> rfl

/-- Evidence is read as it is, whatever is set in it. -/
@[simp] theorem ofJson_toJson (e : Evidence) : ofJson e.toJson = .ok e := by
  have hstring {key : String} {o : Option String} (h : e.toJson.get? key = o.map Json.string) :
      e.toJson.optional key Json.string? = .ok o :=
    optional_eq_ok h (fun _ => rfl) rfl
  have hint {key : String} {o : Option Int} (h : e.toJson.get? key = o.map Json.ofInt) :
      e.toJson.optional key Json.int? = .ok o :=
    optional_eq_ok h (fun _ => rfl) rfl
  have hselector : e.toJson.optional "selector" Json.string? = .ok e.selector :=
    hstring (by simp [get?_toJson])
  have hproperty : e.toJson.optional "property" Json.string? = .ok e.property :=
    hstring (by simp [get?_toJson])
  have hvalue : e.toJson.optional "value" Json.string? = .ok e.value :=
    hstring (by simp [get?_toJson])
  have hline : e.toJson.optional "line" Json.int? = .ok e.line :=
    hint (by simp [get?_toJson])
  have hcolumn : e.toJson.optional "column" Json.int? = .ok e.column :=
    hint (by simp [get?_toJson])
  have hdepth : e.toJson.optional "depth" Json.int? = .ok e.depth :=
    hint (by simp [get?_toJson])
  have hcount : e.toJson.optional "count" Json.int? = .ok e.count :=
    hint (by simp [get?_toJson])
  simp only [ofJson, ok_bind, hselector, hproperty, hvalue, hline, hcolumn, hdepth, hcount,
    specificityOf_toJson]
  rfl

end Evidence

/-- An issue is read as it is. -/
@[simp] theorem Issue.ofJson_toJson (i : Issue) : ofJson i.toJson = .ok i := by
  have hcheck : i.toJson.field "id" = .ok (.string i.check.id) := rfl
  have hseverity : i.toJson.field "severity" = .ok (.string i.severity.name) := rfl
  have hevidence : i.toJson.field "evidence" = .ok i.evidence.toJson := rfl
  have hsuggestions : i.toJson.listOf "suggestions" Suggestion.ofJson = .ok i.suggestions :=
    listOf_eq_ok rfl fun s _ => s.ofJson_toJson
  have htags : i.toJson.listOf "tags" Tag.ofJson = .ok i.tags :=
    listOf_eq_ok rfl fun t _ => Tag.ofJson_name t
  simp only [ofJson, ok_bind, hcheck, Check.ofJson_id, hseverity, Severity.ofJson_name, hevidence,
    Evidence.ofJson_toJson, hsuggestions, htags]
  rfl

/-- A recommendation is read as it is. -/
@[simp] theorem Recommendation.ofJson_toJson (r : Recommendation) : ofJson r.toJson = .ok r := by
  have hchecks : r.toJson.listOf "relatedIssueIds" Check.ofJson = .ok r.checks :=
    listOf_eq_ok rfl fun c _ => Check.ofJson_id c
  simp only [ofJson, hchecks]
  rfl

namespace Summary

theorem countsOf_object (counts : List (Severity × Int)) :
    countsOf (.object (counts.map fun c => (c.1.name, Json.ofInt c.2))) = .ok counts := by
  have hcount : ∀ c ∈ counts, (do
      return (← Severity.ofJson (.string c.1.name),
        ← Json.expect c.1.name Json.int? (Json.ofInt c.2))) = .ok (id c) := by
    intro c _
    rw [Severity.ofJson_name]
    rfl
  have hmap := mapM_eq_ok_map hcount
  rw [List.map_id] at hmap
  rw [countsOf, Json.fields, List.mapM_map]
  exact hmap

/-- A summary is read as it is. -/
@[simp] theorem ofJson_toJson (s : Summary) : ofJson s.toJson = .ok s := by
  have hcounts : s.toJson.field "issuesBySeverity" =
      .ok (.object (s.bySeverity.map fun c => (c.1.name, Json.ofInt c.2))) := rfl
  simp only [ofJson, ok_bind, hcounts, countsOf_object]
  rfl

end Summary

namespace Report

/-- A report is read as it is. -/
@[simp] theorem ofJson_toJson (r : Report) : ofJson r.toJson = .ok r := by
  have hsummary : r.toJson.field "summary" = .ok r.summary.toJson := rfl
  have hglobal : r.toJson.field "globalMetrics" = .ok r.global.toJson := rfl
  have hfiles : r.toJson.listOf "fileMetrics" FileMetrics.ofJson = .ok r.files :=
    listOf_eq_ok rfl fun m _ => m.ofJson_toJson
  have hissues : r.toJson.listOf "issues" Issue.ofJson = .ok r.issues :=
    listOf_eq_ok rfl fun i _ => i.ofJson_toJson
  have hworst : r.toJson.listOf "topSelectors" RankedSelector.ofJson = .ok r.worstSelectors :=
    listOf_eq_ok rfl fun s _ => s.ofJson_toJson
  have hrecommendations : r.toJson.listOf "recommendations" Recommendation.ofJson =
      .ok r.recommendations :=
    listOf_eq_ok rfl fun a _ => a.ofJson_toJson
  simp only [ofJson, ok_bind, hsummary, Summary.ofJson_toJson, hglobal, GlobalMetrics.ofJson_toJson,
    hfiles, hissues, hworst, hrecommendations]
  rfl

/-- The well-typed reports are those whose records some text stands for. -/
theorem isWellTyped_iff_exists_parse {r : Report} :
    r.IsWellTyped ↔ ∃ text, Json.parse text = .ok r.toJson :=
  isWellFormed_toJson_iff.symm.trans Json.isWellFormed_iff_exists_parse

/-- The text of a report is read as the record of the report, and the record as the report. Reports
are equal here if they have the same parts: a NaN is read back as a NaN, although as a floating point
number it compares unequal to itself. -/
theorem parse_text_and_ofJson_toJson {r : Report} (h : r.IsWellTyped) :
    Json.parse r.text = .ok r.toJson ∧ ofJson r.toJson = .ok r :=
  ⟨Json.parse_render (isWellFormed_toJson_iff.2 h) (some 0), ofJson_toJson r⟩

/-- A report with texts that need escapes, great and small numbers, and evidence and selectors with
and without what may be missing. -/
def mixed : Report where
  version := ""
  timestamp := "\"\\\n\t\x7f\u00e9\ufeff"
  summary := {
    overallScore := .float (.finite true 0 (-1074))
    categoryScores := { cascade := .float (.finite true (2 ^ 52) 0), layoutRisk := .int (-10 ^ 30) }
    bySeverity := [(.low, 0), (.critical, -1)] }
  global := { averageDepth := .float (.finite false 0x1999999999999A (-56)) }
  files := [
    { file := "𝒞.css", averageDepth := .float (.finite false (2 ^ 52) (-51)) },
    { file := "" }]
  issues := [
    { check := .deepSelectors, severity := .high, confidence := 0, title := "", why := ""
      evidence := { file := "a.css", selector := some "", line := some 0, count := some 0 }
      suggestions := [⟨"", "/"⟩], tags := [.layer, .layer] },
    { check := .missingLayers, severity := .low, confidence := .float (.finite false 1 (-1074))
      title := "[]", why := "\x7b\x7d", evidence := { file := "", specificity := some {} } }]
  worstSelectors := [⟨"a", "", {}, 0, .float (.finite false (2 ^ 52) 971), none⟩,
    ⟨"", "b", {}, -1, 0, some 0⟩]
  recommendations := [⟨"", "", "", "", []⟩, ⟨"c", "t", "d", "p", [.missingLayers]⟩]

/-- The text of a report with something of everything. -/
theorem parse_text_and_ofJson_toJson_mixed : mixed.IsWellTyped ∧
    Json.parse mixed.text = .ok mixed.toJson ∧ ofJson mixed.toJson = .ok mixed :=
  ⟨by decide, parse_text_and_ofJson_toJson (by decide)⟩

end Report

end StyleGauge
