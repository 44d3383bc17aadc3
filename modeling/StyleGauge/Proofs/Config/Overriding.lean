import StyleGauge.Config.File
import StyleGauge.Proofs.Config.Entries
import StyleGauge.Proofs.Json.Values
import Mathlib.Data.List.TakeWhile

/-!
# Entries set over a configuration file

An entry that is set over others takes the place of the one under the same key. So it counts unless
an entry under the other spelling of the name stands behind that place: this one was the last of the
two, and it still is.
-/

namespace StyleGauge

/-- A field that is there keeps its place when it is set. -/
theorem Json.setField_append_cons {key : String} {before after : List (String × Json)} {old : Json}
    (h : key ∉ before.map Prod.fst) (value : Json) :
    setField key value (before ++ (key, old) :: after) = before ++ (key, value) :: after := by
  induction before with
  | nil => simp [setField]
  | cons f before ih =>
    rw [List.map_cons, List.mem_cons, not_or] at h
    rw [List.cons_append, setField, if_neg (Ne.symm h.1), ih h.2, List.cons_append]

namespace Config

open Text (camelCase)

/-! ### Traversals of parts -/

theorem traversal_append (fields others : List (String × Json)) :
    traversal (fields ++ others) = traversal fields ++ traversal others :=
  List.flatMap_append

theorem valuesOf_append (f : Field) (entries others : List Entry) :
    valuesOf f (entries ++ others) = valuesOf f entries ++ valuesOf f others := by
  rw [valuesOf, List.filter_append, List.map_append]
  rfl

theorem Entry.Names.not_isSection {e : Entry} {f : Field} (h : e.Names f) : ¬ e.IsSection := by
  rintro ⟨hlevel, hkey⟩
  have hf : f.level = .top := h.1.symm.trans hlevel
  rcases h.2 with hname | hname
  · rw [hname] at hkey
    cases f with
    | threshold t => cases hf
    | toggle check => cases hf
    | _ => revert hkey; decide +kernel
  · exact f.camelCase_ne_section hf (hname ▸ hkey)

/-- An entry outside of the sections that names a field is an entry of its own. -/
theorem expanded_of_names {key : String} {value : Json} {f : Field}
    (h : Entry.Names ⟨.top, key, value⟩ f) : expanded (key, value) = [⟨.top, key, value⟩] := by
  have hsection := h.not_isSection
  unfold expanded
  split
  · rename_i heq
    obtain ⟨rfl, -⟩ := Prod.mk.inj heq
    exact absurd ⟨rfl, .inl rfl⟩ hsection
  · rename_i heq
    obtain ⟨rfl, -⟩ := Prod.mk.inj heq
    exact absurd ⟨rfl, .inr rfl⟩ hsection
  · rename_i heq
    obtain ⟨rfl, rfl⟩ := Prod.mk.inj heq
    rfl

/-- The entries that stand outside of the sections are those of the mapping itself. -/
theorem mem_of_mem_traversal {fields : List (String × Json)} {e : Entry}
    (h : e ∈ traversal fields) (hlevel : e.level = .top) : (e.key, e.value) ∈ fields := by
  obtain ⟨f, hf, he⟩ := List.mem_flatMap.1 h
  unfold expanded at he
  split at he
  · obtain ⟨g, -, rfl⟩ := List.mem_map.1 he
    cases hlevel
  · obtain ⟨g, -, rfl⟩ := List.mem_map.1 he
    cases hlevel
  · obtain rfl := List.mem_singleton.1 he
    exact hf

theorem mem_valuesOf {f : Field} {entries : List Entry} {v : Json} :
    v ∈ valuesOf f entries ↔ ∃ e ∈ entries, e.Sets f ∧ e.value = v := by
  simp [valuesOf, and_assoc]

theorem valuesOf_eq_nil {f : Field} {entries : List Entry} (h : ∀ e ∈ entries, ¬ e.Sets f) :
    valuesOf f entries = [] := by
  rw [valuesOf, List.filter_eq_nil_iff.2 (by simpa using h), List.map_nil]

/-! ### Setting one entry -/

/-- An entry in the place of others for the same field counts, unless a later one does. -/
theorem ofEntries_of_replaced {fields others : List (String × Json)}
    {before olds after : List Entry} {e : Entry} {f : Field} {c : Config}
    (hfields : traversal fields = before ++ (olds ++ after))
    (hothers : traversal others = before ++ ([e] ++ after)) (holds : ∀ o ∈ olds, o.Names f)
    (hsets : e.Sets f) (hfits : ∀ err, ¬ e.Refused err) (hc : ofEntries fields = .ok c) :
    ∃ d, ofEntries others = .ok d ∧ (∀ g, g ≠ f → d.value g = c.value g) ∧
      (valuesOf f after ≠ [] → d.value f = c.value f) ∧
      (valuesOf f after = [] → d.value f = e.value) := by
  obtain ⟨hr, hvalues⟩ := ofEntries_eq_ok_iff.1 hc
  obtain ⟨d, hd⟩ : ∃ d, ofEntries others = .ok d := by
    refine exists_ofEntries_eq_ok fun x hx => ?_
    rw [hothers, List.mem_append, List.mem_append, List.mem_singleton] at hx
    rcases hx with hx | rfl | hx
    · exact hr x (by simp [hfields, hx])
    · exact hfits
    · exact hr x (by simp [hfields, hx])
  obtain ⟨-, hvalues'⟩ := ofEntries_eq_ok_iff.1 hd
  refine ⟨d, hd, fun g hg => ?_, fun hafter => ?_, fun hafter => ?_⟩
  · have hold : valuesOf g olds = [] := valuesOf_eq_nil fun o ho h => hg (h.1.eq (holds o ho))
    have hnew : valuesOf g [e] = [] := valuesOf_eq_nil fun o ho h => by
      obtain rfl := List.mem_singleton.1 ho
      exact hg (h.1.eq hsets.1)
    rw [hvalues, hvalues', hfields, hothers]
    simp only [valuesOf_append, hold, hnew]
  · rw [hvalues, hvalues', hfields, hothers]
    simp only [valuesOf_append, List.getLast?_append, List.getLast?_eq_some_getLast hafter,
      Option.some_or]
  · have hnew : valuesOf f [e] = [e.value] := by simp [valuesOf, hsets]
    rw [hvalues', hothers, valuesOf_append, valuesOf_append, hafter, hnew, List.append_nil,
      List.getLast?_concat]
    rfl

/-- Where a key stands that is there, it stands once. -/
theorem exists_eq_append_cons {key : String} {fields : List (String × Json)}
    (hkeys : (fields.map Prod.fst).Nodup) (hmem : key ∈ fields.map Prod.fst) :
    ∃ before old after, fields = before ++ (key, old) :: after ∧
      key ∉ before.map Prod.fst ∧ key ∉ after.map Prod.fst := by
  obtain ⟨⟨key, old⟩, hold, rfl⟩ := List.mem_map.1 hmem
  obtain ⟨before, after, rfl⟩ := List.append_of_mem hold
  rw [List.map_append, List.map_cons, List.nodup_append, List.nodup_cons] at hkeys
  exact ⟨before, old, after, rfl, fun h => hkeys.2.2 _ h _ List.mem_cons_self rfl, hkeys.2.1.1⟩

/-- The entries behind the one under a key. -/
def behind (key : String) (fields : List (String × Json)) : List (String × Json) :=
  (fields.dropWhile fun f => f.1 ≠ key).tail

theorem behind_of_notMem {key : String} {fields : List (String × Json)}
    (h : key ∉ fields.map Prod.fst) : behind key fields = [] := by
  have hall : ∀ f ∈ fields, decide (f.1 ≠ key) = true := fun f hf =>
    decide_eq_true fun heq => h (heq ▸ List.mem_map_of_mem hf)
  rw [behind, List.dropWhile_eq_nil_iff.2 hall, List.tail_nil]

theorem behind_append_cons {key : String} {before after : List (String × Json)} {old : Json}
    (h : key ∉ before.map Prod.fst) : behind key (before ++ (key, old) :: after) = after := by
  have hall : ∀ f ∈ before, decide (f.1 ≠ key) = true := fun f hf =>
    decide_eq_true fun heq => h (heq ▸ List.mem_map_of_mem hf)
  rw [behind, List.dropWhile_append_of_pos hall, List.dropWhile_cons_of_neg (by simp),
    List.tail_cons]

theorem notMem_behind {fields : List (String × Json)} (hkeys : (fields.map Prod.fst).Nodup)
    (key : String) : key ∉ (behind key fields).map Prod.fst := by
  by_cases hmem : key ∈ fields.map Prod.fst
  · obtain ⟨before, old, after, rfl, hbefore, hafter⟩ := exists_eq_append_cons hkeys hmem
    rwa [behind_append_cons hbefore]
  · simp [behind_of_notMem hmem]

/-- An entry that is set over others takes the place of the one under the same key, and counts
unless an entry for the same field stands behind that place. -/
theorem ofEntries_setField {fields : List (String × Json)} {key : String} {value : Json} {f : Field}
    {c : Config} (hkeys : (fields.map Prod.fst).Nodup) (hsets : Entry.Sets ⟨.top, key, value⟩ f)
    (hfits : ∀ err, ¬ Entry.Refused ⟨.top, key, value⟩ err) (hc : ofEntries fields = .ok c) :
    ∃ d, ofEntries (Json.setField key value fields) = .ok d ∧
      (∀ g, g ≠ f → d.value g = c.value g) ∧
      (valuesOf f (traversal (behind key fields)) ≠ [] → d.value f = c.value f) ∧
      (valuesOf f (traversal (behind key fields)) = [] → d.value f = value) := by
  have hnew : ∀ fs, traversal ((key, value) :: fs) = [⟨.top, key, value⟩] ++ traversal fs :=
    fun fs => by rw [traversal, List.flatMap_cons, expanded_of_names hsets.1]; rfl
  by_cases hmem : key ∈ fields.map Prod.fst
  · obtain ⟨before, old, after, rfl, hbefore, -⟩ := exists_eq_append_cons hkeys hmem
    have hnames : Entry.Names ⟨.top, key, old⟩ f := hsets.1
    have hfields : traversal (before ++ (key, old) :: after) =
        traversal before ++ ([⟨.top, key, old⟩] ++ traversal after) := by
      rw [traversal_append, ← expanded_of_names hnames]
      rfl
    rw [behind_append_cons hbefore, Json.setField_append_cons hbefore]
    refine ofEntries_of_replaced hfields ?_ (by simpa using hnames) hsets hfits hc
    rw [traversal_append, hnew]
  · have hfields : traversal fields = traversal fields ++ ([] ++ traversal []) := by
      simp [traversal]
    rw [behind_of_notMem hmem, Json.setField_of_notMem hmem]
    refine ofEntries_of_replaced hfields ?_ (by simp) hsets hfits hc
    rw [traversal_append, hnew]

/-! ### The score that passes -/

/-- The other spelling of the name stands, with a value, behind the one that is set. -/
def HidesMaxScore (fields : List (String × Json)) : Prop :=
  ∃ v, ("max_score", v) ∈ behind "maxScore" fields ∧ v ≠ .null

theorem valuesOf_maxScore_behind {fields : List (String × Json)}
    (hkeys : (fields.map Prod.fst).Nodup) :
    valuesOf .maxScore (traversal (behind "maxScore" fields)) ≠ [] ↔ HidesMaxScore fields := by
  have hcamel : camelCase "max_score" = "maxScore" := by decide +kernel
  have hnotMem := notMem_behind hkeys "maxScore"
  constructor
  · intro h
    obtain ⟨v, hv⟩ := List.exists_mem_of_ne_nil _ h
    obtain ⟨e, he, ⟨⟨hlevel, hkey⟩, hnull⟩, rfl⟩ := mem_valuesOf.1 hv
    have hmem := mem_of_mem_traversal he hlevel
    rcases hkey with hkey | hkey
    · rw [show e.key = "max_score" from hkey] at hmem
      exact ⟨e.value, hmem, hnull⟩
    · rw [show e.key = "maxScore" from hkey.trans hcamel] at hmem
      exact absurd (List.mem_map_of_mem hmem) hnotMem
  · rintro ⟨v, hmem, hnull⟩
    have hnames : Entry.Names ⟨.top, "max_score", v⟩ .maxScore := ⟨rfl, .inl rfl⟩
    refine List.ne_nil_of_mem (mem_valuesOf.2 ⟨_, List.mem_flatMap.2 ⟨_, hmem, ?_⟩,
      ⟨hnames, hnull⟩, rfl⟩)
    rw [expanded_of_names hnames]
    exact List.mem_singleton_self _

/-- The entries of a configuration file in JSON are those of the object in it. -/
theorem found_of_json {w : Workspace} {p file : Path} {text : String}
    {fields : List (String × Json)} (hfile : find? w p = some file) (hjson : isYaml file = false)
    (htext : w.readText file = .ok text) (hblank : (Text.trim text.toList).isEmpty = false)
    (hparse : Json.parse text = .ok (.object fields)) : found w p = .ok (some fields) := by
  have hvalue : readValue (isYaml file) text = .ok (.object fields) := by
    simp [readValue, hjson, hblank, hparse, Except.mapError]
  have hload : load w file = .ok fields := by
    simp only [load, htext, Except.mapError, ok_bind, hvalue, entriesOf]
  simp only [found, hfile, hload]
  rfl

/-- The score given on top of a configuration file is the one that counts, and nothing else of the
file changes, exactly if the file does not name the score in both spellings, the one with an
underscore last, or the score is what the file says. -/
theorem ofEntries_resolve_maxScore (w : Workspace) (p : Path) {fields : List (String × Json)}
    {c : Config} (hfound : found w p = .ok (some fields)) (hkeys : (fields.map Prod.fst).Nodup)
    (hc : ofEntries fields = .ok c) (n : Int) :
    ∃ entries d, resolve w p true [("maxScore", .ofInt n)] = .ok entries ∧
      ofEntries entries = .ok d ∧
      (d = { c with maxScore := n } ↔ (HidesMaxScore fields → c.maxScore = n)) ∧
      (HidesMaxScore fields → d = c) := by
  have hsets : Entry.Sets ⟨.top, "maxScore", .ofInt n⟩ .maxScore := ⟨⟨rfl, .inr rfl⟩, nofun⟩
  have hfits : ∀ err, ¬ Entry.Refused ⟨.top, "maxScore", .ofInt n⟩ err :=
    not_refused_entryOf { c with maxScore := n } .maxScore
  obtain ⟨d, hd, hothers, hhidden, hshown⟩ := ofEntries_setField hkeys hsets hfits hc
  refine ⟨Json.setField "maxScore" (.ofInt n) fields, d, ?_, hd, ?_⟩
  · rw [resolve, if_pos rfl, hfound]
    rfl
  · rw [valuesOf_maxScore_behind hkeys] at hhidden
    have hhides (h : HidesMaxScore fields) : d = c := by
      refine eq_of_value_eq fun g => ?_
      by_cases hg : g = .maxScore
      · exact hg ▸ hhidden h
      · exact hothers g hg
    have hcounts (h : ¬ HidesMaxScore fields) : d = { c with maxScore := n } := by
      have hnil := not_not.1 (mt (valuesOf_maxScore_behind hkeys).1 h)
      refine eq_of_value_eq fun g => ?_
      cases g with
      | maxScore => exact hshown hnil
      | _ => exact hothers _ nofun
    refine ⟨⟨fun hd h => ?_, fun h => ?_⟩, hhides⟩
    · exact congrArg Config.maxScore ((hhides h).symm.trans hd)
    · by_cases hh : HidesMaxScore fields
      · rw [hhides hh, ← h hh]
      · exact hcounts hh

/-- A directory with a configuration file in it. -/
def directoryWith (text : String) : Workspace :=
  { tree := .directory [(".csscomplexityrc.json", .file text.toUTF8.toList)], current := [] }

theorem ofEntries_resolve_maxScore_lastSpelling :
    let fields : List (String × Json) :=
      [("max_score", .ofInt 20), ("include", .null), ("maxScore", .ofInt 10)]
    let w := directoryWith "\x7b\"max_score\": 20, \"include\": null, \"maxScore\": 10\x7d"
    let p := Path.ofRoot []
    found w p = .ok (some fields) ∧ (fields.map Prod.fst).Nodup ∧
      ofEntries fields = .ok { maxScore := 10 } ∧
      ∃ entries, resolve w p true [("maxScore", .ofInt 5)] = .ok entries ∧
        ofEntries entries = .ok { maxScore := 5 } := by
  intro fields w p
  have hwell : (Json.object fields).IsWellFormed :=
    Json.isWellFormed_object_iff.2
      ⟨by decide, by simp [fields, Json.isWellFormed_ofInt, Json.IsWellFormed.null]⟩
  have hfile : find? w p = some (Path.ofRoot [".csscomplexityrc.json"]) := by decide +kernel
  have hfound : found w p = .ok (some fields) :=
    found_of_json hfile (by decide +kernel) (by decide +kernel) (by decide +kernel)
      (Json.parse_render hwell none)
  have hshown : ¬ HidesMaxScore fields := by
    rintro ⟨v, hv, -⟩
    cases hv
  obtain ⟨entries, d, hresolve, hd, hiff, -⟩ :=
    ofEntries_resolve_maxScore w p hfound (by decide) rfl 5
  obtain rfl := hiff.2 fun h => absurd h hshown
  exact ⟨hfound, by decide, rfl, entries, hresolve, hd⟩

/-- A file that names the score in both spellings, the one with an underscore last, wins over the
score given on top of it. -/
theorem ofEntries_resolve_maxScore_hidden :
    let fields : List (String × Json) := [("maxScore", .ofInt 10), ("max_score", .ofInt 20)]
    let w := directoryWith "\x7b\"maxScore\": 10, \"max_score\": 20\x7d"
    let p := Path.ofRoot []
    found w p = .ok (some fields) ∧ (fields.map Prod.fst).Nodup ∧
      ofEntries fields = .ok { maxScore := 20 } ∧
      ∃ entries d, resolve w p true [("maxScore", .ofInt 5)] = .ok entries ∧
        ofEntries entries = .ok d ∧ d.maxScore = 20 ∧ d.maxScore ≠ 5 := by
  intro fields w p
  have hwell : (Json.object fields).IsWellFormed :=
    Json.isWellFormed_object_iff.2 ⟨by decide, by simp [fields, Json.isWellFormed_ofInt]⟩
  have hfile : find? w p = some (Path.ofRoot [".csscomplexityrc.json"]) := by decide +kernel
  have hfound : found w p = .ok (some fields) :=
    found_of_json hfile (by decide +kernel) (by decide +kernel) (by decide +kernel)
      (Json.parse_render hwell none)
  have hresolve : resolve w p true [("maxScore", .ofInt 5)] =
      .ok [("maxScore", .ofInt 5), ("max_score", .ofInt 20)] := by
    rw [resolve, if_pos rfl, hfound]
    rfl
  exact ⟨hfound, by decide, rfl, _, { maxScore := 20 }, hresolve, rfl, rfl, by decide⟩

end Config

end StyleGauge
