import StyleGauge.Proofs.Config.Fields
import Mathlib.Data.List.Nodup

/-!
# The last entry counts

A configuration is what its entries say one after the other: the first one that does not fit is
the error, and if there is none, every field has the value of the last entry that sets it. So the
order of entries for different fields does not matter, and a configuration that is written out is
read back as it was.
-/

namespace StyleGauge

open Text (camelCase)

namespace Config

/-! ### What comes of an entry -/

/-- What comes of an entry, whether it stands in a section or not. -/
def Entry.findings (e : Entry) : List Finding :=
  match e.level with
  | .top => entryFindings (e.key, e.value)
  | .thresholds => sectionFindings "threshold" Threshold.ofName? thresholdFinding
      (.object [(e.key, e.value)])
  | .checks => sectionFindings "rule" Check.ofName? toggleFinding (.object [(e.key, e.value)])

/-- A section is read field by field. -/
theorem sectionFindings_object {ν : Type} (label : String) (name? : String → Option ν)
    (value : ν → String → Json → Finding) (fields : List (String × Json)) :
    sectionFindings label name? value (.object fields) =
      fields.flatMap fun f => sectionFindings label name? value (.object [f]) := by
  cases fields with
  | nil => rfl
  | cons f fields =>
    simp [sectionFindings, Json.isEmpty, List.filterMap_eq_flatMap_toList]

theorem entryFindings_eq_flatMap (f : String × Json) :
    entryFindings f = (expanded f).flatMap Entry.findings := by
  unfold expanded
  split
  · simp only [entryFindings, List.flatMap_map, Entry.findings]
    exact sectionFindings_object ..
  · simp only [entryFindings, List.flatMap_map, Entry.findings]
    exact sectionFindings_object ..
  · simp [Entry.findings]

theorem findings_eq_flatMap (fields : List (String × Json)) :
    findings fields = (traversal fields).flatMap Entry.findings := by
  rw [traversal, List.flatMap_assoc, findings]
  exact congrArg (fields.flatMap ·) (funext entryFindings_eq_flatMap)

theorem ofFindings_append (c : Config) (xs ys : List Finding) :
    ofFindings c (xs ++ ys) = ofFindings c xs >>= fun d => ofFindings d ys := by
  induction xs generalizing c with
  | nil => rfl
  | cons x xs ih =>
    cases x with
    | setting s => exact ih _
    | unknown label key => exact ih _
    | error e => rfl

namespace Entry

/-- An entry of a traversal: a section that is a mapping has been replaced by its entries. -/
def IsSingle (e : Entry) : Prop :=
  e.IsSection → ∀ fields, e.value ≠ .object fields

/-- An entry that sets a field leads to what its value is worth for the field. -/
theorem Sets.findings_eq {e : Entry} {f : Field} (h : e.Sets f) :
    e.findings = [f.finding e.label e.value] := by
  obtain ⟨level, key, v⟩ := e
  obtain ⟨⟨hlevel, hkey⟩, hv⟩ := h
  cases f with
  | threshold t =>
    obtain rfl : level = .thresholds := hlevel
    have ht : Threshold.ofName? key = some t := Threshold.ofName?_eq_some_iff.2 hkey
    have hlabel : "threshold" ++ " " ++ key = "threshold " ++ key := rfl
    cases v <;> simp_all [findings, sectionFindings, Json.isEmpty, label, Field.finding]
  | toggle check =>
    obtain rfl : level = .checks := hlevel
    have hcheck : Check.ofName? key = some check := Check.ofName?_eq_some_iff.2 hkey
    have hlabel : "rule" ++ " " ++ key = "rule " ++ key := rfl
    cases v <;> simp_all [findings, sectionFindings, Json.isEmpty, label, Field.finding]
  | _ =>
    obtain rfl : level = .top := hlevel
    rcases hkey with rfl | rfl <;> cases v <;> first | exact absurd rfl hv | rfl

/-- A section that is no mapping is an error, unless it says nothing. -/
theorem sectionFindings_of_not_object {ν : Type} {label : String} {name? : String → Option ν}
    {value : ν → String → Json → Finding} {v : Json} (h : ∀ fields, v ≠ .object fields) :
    sectionFindings label name? value v =
      if v.isEmpty then [] else [.error (.notMapping (label ++ "s") v)] := by
  cases v with
  | object fields => exact absurd rfl (h fields)
  | _ => rfl

theorem Refused.findings_eq {e : Entry} {err : ConfigError} (h : e.Refused err) :
    e.findings = [.error err] := by
  cases h with
  | value hf h => rw [hf.findings_eq, Field.finding_eq_error_iff.2 h]
  | notMapping hs hv h =>
    obtain ⟨level, key, v⟩ := e
    obtain ⟨rfl, rfl | rfl⟩ := hs
    · have : entryFindings ("thresholds", v) = _ := entryFindings.eq_8 v (by rintro rfl; cases hv)
      rw [findings, this, sectionFindings_of_not_object h, hv]
      rfl
    · have : entryFindings ("rules", v) = _ := entryFindings.eq_9 v (by rintro rfl; cases hv)
      rw [findings, this, sectionFindings_of_not_object h, hv]
      rfl

/-- An entry of a section that sets nothing is of no effect. -/
theorem ofFindings_sectionFindings_of_null {ν : Type} {label : String} {name? : String → Option ν}
    {value : ν → String → Json → Finding} {key : String} {v : Json}
    (h : ∀ n, name? key = some n → v = .null) (c : Config) :
    ofFindings c (sectionFindings label name? value (.object [(key, v)])) = .ok c := by
  cases hname : name? key with
  | none => simp [sectionFindings, Json.isEmpty, hname, ofFindings]
  | some n => simp [sectionFindings, Json.isEmpty, hname, h n hname, ofFindings]

/-- An entry outside of the sections that sets nothing and is not refused is of no effect. -/
theorem ofFindings_entryFindings_of_not_sets {f : String × Json}
    (hs : IsSingle ⟨.top, f.1, f.2⟩) (h : ∀ g, ¬ Sets ⟨.top, f.1, f.2⟩ g)
    (hr : ∀ err, ¬ Refused ⟨.top, f.1, f.2⟩ err) (c : Config) :
    ofFindings c (entryFindings f) = .ok c := by
  have hempty (hsection : IsSection ⟨.top, f.1, f.2⟩) : f.2.isEmpty = true := by
    by_contra hv
    exact hr _ (.notMapping hsection (Bool.eq_false_of_not_eq_true hv) (hs hsection))
  fun_cases entryFindings f with
  | case1 key => rfl
  | case2 v hv => exact absurd ⟨⟨rfl, .inl rfl⟩, hv⟩ (h .included)
  | case3 v hv => exact absurd ⟨⟨rfl, .inl rfl⟩, hv⟩ (h .excluded)
  | case4 v hv => exact absurd ⟨⟨rfl, .inr rfl⟩, hv⟩ (h .ignored)
  | case5 v hv => exact absurd ⟨⟨rfl, .inl rfl⟩, hv⟩ (h .ignored)
  | case6 v hv => exact absurd ⟨⟨rfl, .inr rfl⟩, hv⟩ (h .maxScore)
  | case7 v hv => exact absurd ⟨⟨rfl, .inl rfl⟩, hv⟩ (h .maxScore)
  | case8 v hv =>
    have hsection : IsSection ⟨.top, "thresholds", v⟩ := ⟨rfl, .inl rfl⟩
    rw [sectionFindings_of_not_object (hs hsection), if_pos (hempty hsection), ofFindings]
  | case9 v hv =>
    have hsection : IsSection ⟨.top, "rules", v⟩ := ⟨rfl, .inr rfl⟩
    rw [sectionFindings_of_not_object (hs hsection), if_pos (hempty hsection), ofFindings]
  | case10 key v hv => rfl

theorem ofFindings_findings_of_not_sets {e : Entry} (hs : e.IsSingle) (h : ∀ f, ¬ e.Sets f)
    (hr : ∀ err, ¬ e.Refused err) (c : Config) : ofFindings c e.findings = .ok c := by
  obtain ⟨level, key, v⟩ := e
  have hnull (f : Field) (hf : Names ⟨level, key, v⟩ f) : v = .null :=
    not_not.1 fun hv => h f ⟨hf, hv⟩
  cases level with
  | top => exact ofFindings_entryFindings_of_not_sets (f := (key, v)) hs h hr c
  | thresholds =>
    exact ofFindings_sectionFindings_of_null (fun t ht =>
      hnull (.threshold t) ⟨rfl, Threshold.ofName?_eq_some_iff.1 ht⟩) c
  | checks =>
    exact ofFindings_sectionFindings_of_null (fun check hcheck =>
      hnull (.toggle check) ⟨rfl, Check.ofName?_eq_some_iff.1 hcheck⟩) c

/-- All that can come of an entry: it is refused, or it sets one field, or it is of no effect. -/
theorem findings_cases {e : Entry} (hs : e.IsSingle) :
    (∃ err, e.Refused err) ∨ (∀ err, ¬ e.Refused err) ∧
      ((∃ s, e.findings = [.setting s] ∧ e.Sets s.field ∧ e.value = s.value) ∨
        (∀ f, ¬ e.Sets f) ∧ ∀ c, ofFindings c e.findings = .ok c) := by
  by_cases hr : ∃ err, e.Refused err
  · exact .inl hr
  · simp only [not_exists] at hr
    refine .inr ⟨hr, ?_⟩
    by_cases hf : ∃ f, e.Sets f
    · obtain ⟨f, hf⟩ := hf
      left
      cases hfinding : f.finding e.label e.value with
      | error err => exact absurd (.value hf (Field.finding_eq_error_iff.1 hfinding)) (hr err)
      | unknown label key => exact absurd hfinding Field.finding_ne_unknown
      | setting s =>
        obtain ⟨rfl, hv⟩ := Field.finding_eq_setting_iff.1 hfinding
        exact ⟨s, by rw [hf.findings_eq, hfinding], hf, hv⟩
    · simp only [not_exists] at hf
      exact .inr ⟨hf, ofFindings_findings_of_not_sets hs hf hr⟩

/-- No entry names two fields. -/
theorem Names.eq {e : Entry} {f g : Field} (hf : e.Names f) (hg : e.Names g) : f = g := by
  obtain ⟨hlevel, hkey⟩ := hf
  obtain ⟨hlevel', hkey'⟩ := hg
  have hsame : f.level = g.level := hlevel.symm.trans hlevel'
  cases f with
  | threshold t =>
    cases g with
    | threshold t' =>
      exact congrArg _ (Option.some.inj ((Threshold.ofName?_eq_some_iff.2 hkey).symm.trans
        (Threshold.ofName?_eq_some_iff.2 hkey')))
    | _ => cases hsame
  | toggle check =>
    cases g with
    | toggle check' =>
      exact congrArg _ (Option.some.inj ((Check.ofName?_eq_some_iff.2 hkey).symm.trans
        (Check.ofName?_eq_some_iff.2 hkey')))
    | _ => cases hsame
  | _ =>
    cases g with
    | threshold | toggle => cases hsame
    | _ =>
      first
      | rfl
      | rcases hkey with hkey | hkey <;> rcases hkey' with hkey' | hkey' <;>
          exact absurd (hkey.symm.trans hkey') (by decide +kernel)

/-- An entry is an error exactly if it is refused. -/
theorem ofFindings_findings_eq_error_iff {e : Entry} (hs : e.IsSingle) {c : Config}
    {err : ConfigError} : ofFindings c e.findings = .error err ↔ e.Refused err := by
  constructor
  · intro h
    rcases findings_cases hs with ⟨err', hr⟩ | ⟨-, ⟨s, hfindings, -⟩ | ⟨-, hidle⟩⟩
    · rw [hr.findings_eq] at h
      rwa [← Except.error.inj h]
    · rw [hfindings] at h
      cases h
    · rw [hidle] at h
      cases h
  · intro hr
    rw [hr.findings_eq]
    rfl

/-- An entry that is not refused gives its value to the field that it sets, if there is one, and
leaves all others as they are. -/
theorem ofFindings_findings_of_not_refused {e : Entry} (hs : e.IsSingle)
    (hr : ∀ err, ¬ e.Refused err) (c : Config) : ∃ d, ofFindings c e.findings = .ok d ∧
      ∀ f, d.value f = if e.Sets f then e.value else c.value f := by
  rcases findings_cases hs with ⟨err, hr'⟩ | ⟨-, ⟨s, hfindings, hsets, hv⟩ | ⟨hsets, hidle⟩⟩
  · exact absurd hr' (hr err)
  · refine ⟨c.apply s, by rw [hfindings]; rfl, fun f => ?_⟩
    have hfield : e.Sets f ↔ f = s.field :=
      ⟨fun hf => hf.1.eq hsets.1, fun hf => hf ▸ hsets⟩
    simp only [value_apply, hfield, hv]
  · exact ⟨c, hidle c, fun f => by rw [if_neg (hsets f)]⟩

end Entry

/-! ### What comes of all entries -/

theorem isSingle_of_mem_traversal {fields : List (String × Json)} {e : Entry}
    (h : e ∈ traversal fields) : e.IsSingle := by
  obtain ⟨f, -, hf⟩ := List.mem_flatMap.1 h
  rintro ⟨hlevel, hkey⟩ gs hv
  unfold expanded at hf
  split at hf
  · obtain ⟨g, -, rfl⟩ := List.mem_map.1 hf
    cases hlevel
  · obtain ⟨g, -, rfl⟩ := List.mem_map.1 hf
    cases hlevel
  · rename_i hthresholds hrules
    obtain rfl := List.mem_singleton.1 hf
    rcases hkey with hkey | hkey
    · exact hthresholds gs hkey hv
    · exact hrules gs hkey hv

/-- Reading stops at the first entry that is refused. -/
theorem ofFindings_flatMap_eq_error_iff {entries : List Entry} (hs : ∀ e ∈ entries, e.IsSingle)
    {c : Config} {err : ConfigError} :
    ofFindings c (entries.flatMap Entry.findings) = .error err ↔
      ∃ before e after, entries = before ++ e :: after ∧
        (∀ x ∈ before, ∀ err', ¬ x.Refused err') ∧ e.Refused err := by
  induction entries generalizing c with
  | nil => simp [ofFindings]
  | cons e entries ih =>
    have hsingle : e.IsSingle := hs e (by simp)
    rw [List.flatMap_cons, ofFindings_append]
    by_cases hr : ∃ err', e.Refused err'
    · obtain ⟨err', hr⟩ := hr
      have hstep := (Entry.ofFindings_findings_eq_error_iff (c := c) hsingle).2 hr
      rw [hstep]
      constructor
      · intro h
        obtain rfl := Except.error.inj h
        exact ⟨[], e, entries, rfl, by simp, hr⟩
      · rintro ⟨_ | ⟨x, before⟩, e', after, hsplit, hbefore, hr'⟩
        · obtain ⟨rfl, rfl⟩ := List.cons_eq_cons.1 hsplit
          exact hstep.symm.trans ((Entry.ofFindings_findings_eq_error_iff hsingle).2 hr')
        · obtain ⟨rfl, rfl⟩ := List.cons_eq_cons.1 hsplit
          exact absurd hr (hbefore e (by simp) err')
    · simp only [not_exists] at hr
      obtain ⟨d, hstep, -⟩ := Entry.ofFindings_findings_of_not_refused hsingle hr c
      rw [hstep, ok_bind, ih fun x hx => hs x (by simp [hx])]
      constructor
      · rintro ⟨before, x, after, rfl, hbefore, hx⟩
        exact ⟨e :: before, x, after, rfl, by simpa [hr] using hbefore, hx⟩
      · rintro ⟨_ | ⟨x, before⟩, e', after, hsplit, hbefore, hr'⟩
        · obtain ⟨rfl, rfl⟩ := List.cons_eq_cons.1 hsplit
          exact absurd hr' (hr err)
        · obtain ⟨rfl, rfl⟩ := List.cons_eq_cons.1 hsplit
          exact ⟨before, e', after, rfl, fun y hy => hbefore y (by simp [hy]), hr'⟩

theorem getLast?_valuesOf_cons (f : Field) (e : Entry) (entries : List Entry) (v : Json) :
    (valuesOf f (e :: entries)).getLast?.getD v =
      (valuesOf f entries).getLast?.getD (if e.Sets f then e.value else v) := by
  unfold valuesOf
  by_cases h : e.Sets f
  · simp [h, List.getLast?_cons]
  · simp [h]

/-- If no entry is refused, every field has the value that was given to it last. -/
theorem ofFindings_flatMap_of_not_refused {entries : List Entry}
    (hs : ∀ e ∈ entries, e.IsSingle) (hr : ∀ e ∈ entries, ∀ err, ¬ e.Refused err) (c : Config) :
    ∃ d, ofFindings c (entries.flatMap Entry.findings) = .ok d ∧
      ∀ f, d.value f = (valuesOf f entries).getLast?.getD (c.value f) := by
  induction entries generalizing c with
  | nil => exact ⟨c, rfl, fun f => rfl⟩
  | cons e entries ih =>
    obtain ⟨d, hstep, hd⟩ :=
      Entry.ofFindings_findings_of_not_refused (hs e (by simp)) (hr e (by simp)) c
    obtain ⟨d', hrun, hd'⟩ :=
      ih (fun x hx => hs x (by simp [hx])) (fun x hx => hr x (by simp [hx])) d
    refine ⟨d', ?_, fun f => ?_⟩
    · rw [List.flatMap_cons, ofFindings_append, hstep, ok_bind, hrun]
    · rw [hd', hd, getLast?_valuesOf_cons]

theorem ofEntries_eq_error_iff {fields : List (String × Json)} {err : ConfigError} :
    ofEntries fields = .error err ↔ ∃ before e after, traversal fields = before ++ e :: after ∧
      (∀ x ∈ before, ∀ err', ¬ x.Refused err') ∧ e.Refused err := by
  rw [ofEntries, findings_eq_flatMap]
  exact ofFindings_flatMap_eq_error_iff fun e he => isSingle_of_mem_traversal he

theorem exists_ofEntries_eq_error {fields : List (String × Json)}
    (h : ∃ e ∈ traversal fields, ∃ err, e.Refused err) : ∃ err, ofEntries fields = .error err := by
  classical
  have hsome : ((traversal fields).find? fun e => decide (∃ err, e.Refused err)).isSome := by
    simpa using h
  obtain ⟨e, hfirst⟩ := Option.isSome_iff_exists.1 hsome
  obtain ⟨hrefused, before, after, hsplit, hbefore⟩ := List.find?_eq_some_iff_append.1 hfirst
  obtain ⟨err, hr⟩ := of_decide_eq_true hrefused
  exact ⟨err, ofEntries_eq_error_iff.2 ⟨before, e, after, hsplit, by simpa using hbefore, hr⟩⟩

theorem ofEntries_eq_ok_iff {fields : List (String × Json)} {c : Config} :
    ofEntries fields = .ok c ↔ (∀ e ∈ traversal fields, ∀ err, ¬ e.Refused err) ∧
      ∀ f, c.value f = (valuesOf f (traversal fields)).getLast?.getD (({} : Config).value f) := by
  have hs : ∀ e ∈ traversal fields, e.IsSingle := fun e he => isSingle_of_mem_traversal he
  constructor
  · intro h
    have hr : ∀ e ∈ traversal fields, ∀ err, ¬ e.Refused err := by
      by_contra hrefused
      obtain ⟨err, herr⟩ := exists_ofEntries_eq_error (by push Not at hrefused; exact hrefused)
      cases h.symm.trans herr
    obtain ⟨d, hd, hvalues⟩ := ofFindings_flatMap_of_not_refused hs hr {}
    rw [← findings_eq_flatMap] at hd
    obtain rfl := Except.ok.inj (hd.symm.trans h)
    exact ⟨hr, hvalues⟩
  · rintro ⟨hr, hvalues⟩
    obtain ⟨d, hd, hvalues'⟩ := ofFindings_flatMap_of_not_refused hs hr {}
    rw [← findings_eq_flatMap] at hd
    rw [eq_of_value_eq fun f => (hvalues f).trans (hvalues' f).symm]
    exact hd

theorem exists_ofEntries_eq_ok {fields : List (String × Json)}
    (h : ∀ e ∈ traversal fields, ∀ err, ¬ e.Refused err) : ∃ c, ofEntries fields = .ok c := by
  obtain ⟨c, hc, -⟩ :=
    ofFindings_flatMap_of_not_refused (fun e he => isSingle_of_mem_traversal he) h {}
  exact ⟨c, by rw [ofEntries, findings_eq_flatMap, hc]⟩

/-! ### The order of entries -/

/-- Mappings with the same entries, in whatever order, also in the sections. -/
inductive Rearranged : List (String × Json) → List (String × Json) → Prop
  | order {fields others : List (String × Json)} (h : fields.Perm others) : Rearranged fields others
  | inSection {key : String} (hkey : key = "thresholds" ∨ key = "rules")
      {inner others : List (String × Json)} (h : inner.Perm others)
      (before after : List (String × Json)) :
      Rearranged (before ++ (key, .object inner) :: after)
        (before ++ (key, .object others) :: after)
  | trans {a b c : List (String × Json)} (h₁ : Rearranged a b) (h₂ : Rearranged b c) :
      Rearranged a c

theorem Rearranged.perm_traversal {fields others : List (String × Json)}
    (h : Rearranged fields others) : (traversal fields).Perm (traversal others) := by
  induction h with
  | order h => exact h.flatMap_right _
  | inSection hkey h before after =>
    simp only [traversal, List.flatMap_append, List.flatMap_cons]
    refine List.Perm.append_left _ (List.Perm.append_right _ ?_)
    rcases hkey with rfl | rfl
    · exact h.map _
    · exact h.map _
  | trans _ _ ih₁ ih₂ => exact ih₁.trans ih₂

/-- The order of entries does not matter if no two set the same field. -/
theorem ofEntries_eq_of_rearranged {fields others : List (String × Json)} {c : Config}
    (h : Rearranged fields others) (hone : ∀ f, (valuesOf f (traversal fields)).length ≤ 1)
    (hc : ofEntries fields = .ok c) : ofEntries others = .ok c := by
  have hperm := h.perm_traversal
  obtain ⟨hr, hvalues⟩ := ofEntries_eq_ok_iff.1 hc
  refine ofEntries_eq_ok_iff.2 ⟨fun e he => hr e (hperm.mem_iff.2 he), fun f => ?_⟩
  have hsame : (valuesOf f (traversal fields)).Perm (valuesOf f (traversal others)) :=
    (hperm.filter _).map _
  have : valuesOf f (traversal fields) = valuesOf f (traversal others) := by
    match hlist : valuesOf f (traversal fields), hone f with
    | [], _ => rw [hlist] at hsame; exact hsame.nil_eq
    | [v], _ => rw [hlist] at hsame; exact List.singleton_perm.1 hsame
  rw [hvalues, this]

/-! ### Configurations that are written out -/

/-- The fields in the order in which they are written out. -/
def Field.all : List Field :=
  [.included, .excluded] ++ Threshold.all.map .threshold ++ [.ignored, .maxScore] ++
    Check.all.map .toggle

theorem Field.mem_all (f : Field) : f ∈ all := by
  cases f with
  | threshold t => cases t <;> decide
  | toggle check => cases check <;> decide
  | _ => decide

theorem Field.nodup_all : all.Nodup := by
  decide

theorem Field.camelCase_ne_section (f : Field) (h : f.level = .top) :
    ¬ (camelCase f.name = "thresholds" ∨ camelCase f.name = "rules") := by
  cases f with
  | threshold t => cases h
  | toggle check => cases h
  | _ => decide +kernel

/-- The entry for a field. -/
def entryOf (c : Config) (f : Field) : Entry :=
  ⟨f.level, camelCase f.name, c.value f⟩

theorem names_entryOf (c : Config) (f : Field) : (entryOf c f).Names f :=
  ⟨rfl, .inr rfl⟩

theorem sets_entryOf_iff {c : Config} {f g : Field} : (entryOf c g).Sets f ↔ g = f := by
  constructor
  · intro h
    exact (names_entryOf c g).eq h.1
  · rintro rfl
    exact ⟨names_entryOf c g, by cases g <;> exact nofun⟩

/-- The entries of a configuration that is written out are those of its fields. -/
theorem traversal_toJson (c : Config) :
    traversal c.toJson.fields = Field.all.map (entryOf c) := by
  rfl

theorem not_refused_entryOf (c : Config) (f : Field) (err : ConfigError) :
    ¬ (entryOf c f).Refused err := by
  rintro (⟨hf, h⟩ | ⟨⟨hlevel, hkey⟩, -, -⟩)
  · obtain rfl := sets_entryOf_iff.1 hf
    obtain ⟨s, hs, hv⟩ : ∃ s : Setting, f = s.field ∧ c.value f = s.value := by
      cases f with
      | included => exact ⟨.included c.included, rfl, rfl⟩
      | excluded => exact ⟨.excluded c.excluded, rfl, rfl⟩
      | ignored => exact ⟨.ignored c.ignored, rfl, rfl⟩
      | maxScore => exact ⟨.maxScore c.maxScore, rfl, rfl⟩
      | threshold t => exact ⟨.threshold t (c.thresholds.get t), rfl, rfl⟩
      | toggle check => exact ⟨.toggle check (c.toggles.get check), rfl, rfl⟩
    have herror := Field.finding_eq_error_iff.2 h
    have hsetting : f.finding (entryOf c f).label (c.value f) = .setting s :=
      Field.finding_eq_setting_iff.2 ⟨hs, hv⟩
    cases herror.symm.trans hsetting
  · exact f.camelCase_ne_section hlevel hkey

/-- A configuration that is written out is read back as it was. -/
theorem ofEntries_toJson (c : Config) : ofEntries c.toJson.fields = .ok c := by
  refine ofEntries_eq_ok_iff.2 ⟨?_, fun f => ?_⟩
  · rw [traversal_toJson]
    intro e he
    obtain ⟨f, -, rfl⟩ := List.mem_map.1 he
    exact not_refused_entryOf c f
  · have hvalues : valuesOf f (traversal c.toJson.fields) = [c.value f] := by
      have hone : Field.all.filter (· = f) = [f] := by
        rw [List.filter_eq, List.count_eq_one_of_mem Field.nodup_all f.mem_all,
          List.replicate_one]
      simp only [traversal_toJson, valuesOf, List.filter_map, Function.comp_def, sets_entryOf_iff,
        hone]
      rfl
    rw [hvalues]
    rfl

/-- The first entry that does not fit is the error. If there is none, every field has the value of
the last entry that sets it, or its default. So entries for different fields may change places, and
every configuration is read back from what it is written out as. -/
theorem ofEntries_refuses_first_and_keeps_last :
    (∀ fields err, ofEntries fields = .error err ↔
      ∃ before e after, traversal fields = before ++ e :: after ∧
        (∀ x ∈ before, ∀ err', ¬ x.Refused err') ∧ e.Refused err) ∧
    (∀ fields c, ofEntries fields = .ok c ↔
      (∀ e ∈ traversal fields, ∀ err, ¬ e.Refused err) ∧
        ∀ f, c.value f =
          (valuesOf f (traversal fields)).getLast?.getD (({} : Config).value f)) ∧
    (∀ fields others c, Rearranged fields others →
      (∀ f, (valuesOf f (traversal fields)).length ≤ 1) →
        ofEntries fields = .ok c → ofEntries others = .ok c) ∧
    ∀ c : Config, ofEntries c.toJson.fields = .ok c :=
  ⟨fun _ _ => ofEntries_eq_error_iff, fun _ _ => ofEntries_eq_ok_iff,
    fun _ _ _ h hone hc => ofEntries_eq_of_rearranged h hone hc, ofEntries_toJson⟩

/-- Two spellings of one name, a null, an unknown key and a section whose entries change places;
and a truth value where an integer has to be. -/
theorem ofEntries_refuses_first_and_keeps_last_thresholds :
    let a : List (String × Json) := [("max_selector_depth", .ofInt 3), ("depth", .bool true)]
    let b : List (String × Json) := [("depth", .bool true), ("max_selector_depth", .ofInt 3)]
    let fields : List (String × Json) :=
      [("maxScore", .null), ("thresholds", .object a), ("max_score", .ofInt 7)]
    let others : List (String × Json) :=
      [("maxScore", .null), ("thresholds", .object b), ("max_score", .ofInt 7)]
    let c : Config := { maxScore := 7, thresholds := { maxSelectorDepth := 3 } }
    (Rearranged fields others ∧ (∀ f, (valuesOf f (traversal fields)).length ≤ 1) ∧
      ofEntries fields = .ok c ∧ ofEntries others = .ok c) ∧
    (ofEntries [("include", .null), ("maxScore", .bool true), ("rules", .ofInt 1)] =
      .error (.notInteger "maxScore" (.bool true))) ∧
    ofEntries c.toJson.fields = .ok c := by
  intro a b fields others c
  obtain ⟨herror, -, hrearranged, hwritten⟩ := ofEntries_refuses_first_and_keeps_last
  have h : Rearranged fields others := .inSection (.inl rfl) (.swap _ _ _) [_] [_]
  have hone : ∀ f, (valuesOf f (traversal fields)).length ≤ 1 := by
    intro f
    cases f with
    | threshold t => cases t <;> decide +kernel
    | toggle check => cases check <;> decide +kernel
    | _ => decide +kernel
  refine ⟨⟨h, hone, rfl, hrearranged fields others c h hone rfl⟩, ?_, hwritten c⟩
  have hsets : Entry.Sets ⟨.top, "maxScore", .bool true⟩ .maxScore := ⟨⟨rfl, .inr rfl⟩, nofun⟩
  have hnull : ∀ err, ¬ Entry.Refused ⟨.top, "include", .null⟩ err := by
    rintro err (⟨hf, -⟩ | ⟨-, hv, -⟩)
    · exact hf.2 rfl
    · cases hv
  exact (herror _ _).2 ⟨[⟨.top, "include", .null⟩], ⟨.top, "maxScore", .bool true⟩, [_], rfl,
    by simpa using hnull, .value hsets (.notInteger nofun)⟩

end Config

end StyleGauge
