import StyleGauge.Config.Setting
import StyleGauge.Proofs.Outcome
import StyleGauge.Text.Parts
import Mathlib.Data.Set.List

/-!
# Fields of a configuration

A configuration is a value for each of its fields. An entry names a field by one of two spellings,
in a section or outside of all, and what it says about the field either fits or is rejected.
-/

namespace StyleGauge

namespace Text

/-- A word with a capital as its first letter. -/
def capitalized : List Char → List Char
  | [] => []
  | c :: rest => c.toUpper :: rest

/-- A name of words joined by underscores, its words told apart by capitals instead. -/
def camelCase (name : String) : String :=
  match parts '_' name.toList with
  | [] => ""
  | first :: words => String.ofList (first ++ words.flatMap capitalized)

end Text

open Text (camelCase)

/-- What a table has under either of the two names that each of its members goes by. -/
theorem find?_spelled_eq_some_iff {α : Type} {all : List α} {key name : α → String}
    (hkey : ∀ a, all.find? (fun b => key b == key a || name b == key a) = some a)
    (hname : ∀ a, all.find? (fun b => key b == name a || name b == name a) = some a)
    {s : String} {a : α} :
    all.find? (fun b => key b == s || name b == s) = some a ↔ s = name a ∨ s = key a := by
  constructor
  · intro h
    have := List.find?_some h
    simp only [Bool.or_eq_true, beq_iff_eq] at this
    exact this.elim (fun h => .inr h.symm) (fun h => .inl h.symm)
  · rintro (rfl | rfl)
    · exact hname a
    · exact hkey a

theorem Thresholds.eq_of_get_eq {a b : Thresholds} (h : ∀ t, a.get t = b.get t) : a = b := by
  cases a
  cases b
  congr 1
  exacts [h .maxSelectorDepth, h .maxSpecificityScore, h .maxImportantPerFile,
    h .maxDuplicateDeclarations]

theorem Toggles.eq_of_get_eq {a b : Toggles} (h : ∀ check, a.get check = b.get check) :
    a = b := by
  cases a
  cases b
  congr 1
  exacts [h .deepSelectors, h .highSpecificity, h .importantAbuse, h .duplicateDeclarations,
    h .layoutRiskHotspot, h .overridePressure, h .missingLayers]

theorem Threshold.key_eq_camelCase (t : Threshold) : t.key = camelCase t.name := by
  cases t <;> decide +kernel

theorem Threshold.ofName?_eq_some_iff {s : String} {t : Threshold} :
    ofName? s = some t ↔ s = t.name ∨ s = camelCase t.name := by
  rw [← key_eq_camelCase]
  exact find?_spelled_eq_some_iff (by intro t; cases t <;> decide +kernel)
    (by intro t; cases t <;> decide +kernel)

theorem Check.key_eq_camelCase (c : Check) : c.key = camelCase c.name := by
  cases c <;> decide +kernel

theorem Check.ofName?_eq_some_iff {s : String} {c : Check} :
    ofName? s = some c ↔ s = c.name ∨ s = camelCase c.name := by
  rw [← key_eq_camelCase]
  exact find?_spelled_eq_some_iff (by intro c; cases c <;> decide +kernel)
    (by intro c; cases c <;> decide +kernel)

namespace Config

/-! ### Fields -/

/-- Where an entry stands: outside of the sections, or in one of them. -/
inductive Level where
  | top
  | thresholds
  | checks
  deriving DecidableEq, Repr

/-- A field of a configuration. -/
inductive Field where
  | included
  | excluded
  | ignored
  | maxScore
  | threshold (t : Threshold)
  | toggle (check : Check)
  deriving DecidableEq, Repr

/-- What the value of a field has to be. -/
inductive Kind where
  | patterns
  | integer
  | boolean
  deriving DecidableEq, Repr

/-- What a value is rejected with that is not of the kind that it has to be. -/
inductive Kind.Rejects (label : String) : Kind → Json → ConfigError → Prop
  | notPatterns {v : Json} (h : ∀ items, v ≠ .array items) :
      Rejects label .patterns v (.notPatterns label v)
  | notStrings (texts : List String) {item : Json} (rest : List Json) (h : ∀ s, item ≠ .string s) :
      Rejects label .patterns (.array (texts.map .string ++ item :: rest)) (.notStrings label item)
  | notInteger {v : Json} (h : ∀ n, v ≠ .ofInt n) : Rejects label .integer v (.notInteger label v)
  | notBoolean {v : Json} (h : ∀ b, v ≠ .bool b) : Rejects label .boolean v (.notBoolean label v)

namespace Field

/-- Where the entries of a field stand. -/
def level : Field → Level
  | threshold _ => .thresholds
  | toggle _ => .checks
  | _ => .top

/-- The name of a field, its words joined by underscores. -/
def name : Field → String
  | included => "include"
  | excluded => "exclude"
  | ignored => "ignore_patterns"
  | maxScore => "max_score"
  | threshold t => t.name
  | toggle check => check.name

/-- What the value of a field has to be. -/
def kind : Field → Kind
  | included | excluded | ignored => .patterns
  | maxScore | threshold _ => .integer
  | toggle _ => .boolean

end Field

/-- The value of a field, as it stands in an entry. -/
def value (c : Config) : Field → Json
  | .included => .ofStrings c.included
  | .excluded => .ofStrings c.excluded
  | .ignored => .ofStrings c.ignored
  | .maxScore => .ofInt c.maxScore
  | .threshold t => .ofInt (c.thresholds.get t)
  | .toggle check => .bool (c.toggles.get check)

end Config

namespace Setting

/-- The field that a setting is for. -/
def field : Setting → Config.Field
  | .included _ => .included
  | .excluded _ => .excluded
  | .ignored _ => .ignored
  | .maxScore _ => .maxScore
  | .threshold t _ => .threshold t
  | .toggle check _ => .toggle check

/-- The value that a setting gives to its field. -/
def value : Setting → Json
  | .included texts | .excluded texts | .ignored texts => .ofStrings texts
  | .maxScore n | .threshold _ n => .ofInt n
  | .toggle _ b => .bool b

end Setting

namespace Config

/-! ### Entries -/

/-- An entry and where it stands. -/
structure Entry where
  level : Level
  key : String
  value : Json

instance (v : Json) : Decidable (v = .null) :=
  match v with
  | .null => isTrue rfl
  | .bool _ | .number _ | .string _ | .array _ | .object _ => isFalse nofun

namespace Entry

/-- What messages call an entry. -/
def label (e : Entry) : String :=
  match e.level with
  | .top => e.key
  | .thresholds => "threshold " ++ e.key
  | .checks => "rule " ++ e.key

/-- An entry names a field by either spelling of its name, at the place of the field. -/
def Names (e : Entry) (f : Field) : Prop :=
  e.level = f.level ∧ (e.key = f.name ∨ e.key = camelCase f.name)

instance (e : Entry) (f : Field) : Decidable (e.Names f) :=
  inferInstanceAs (Decidable (_ ∧ _))

/-- An entry sets the field that it names, unless its value is null. -/
def Sets (e : Entry) (f : Field) : Prop :=
  e.Names f ∧ e.value ≠ .null

instance (e : Entry) (f : Field) : Decidable (e.Sets f) :=
  inferInstanceAs (Decidable (_ ∧ _))

/-- An entry under the name of a section. -/
def IsSection (e : Entry) : Prop :=
  e.level = .top ∧ (e.key = "thresholds" ∨ e.key = "rules")

/-- An entry is refused if it sets a field to a value that does not fit, or if it stands for a
section, says something and is no mapping. -/
inductive Refused (e : Entry) : ConfigError → Prop
  | value {f : Field} {err : ConfigError} (hf : e.Sets f)
      (h : f.kind.Rejects e.label e.value err) : e.Refused err
  | notMapping (hs : e.IsSection) (hv : e.value.isEmpty = false)
      (h : ∀ fields, e.value ≠ .object fields) : e.Refused (.notMapping e.key e.value)

end Entry

/-- The entries of a mapping, with those of a section in its place. -/
def expanded : String × Json → List Entry
  | ("thresholds", .object fields) => fields.map fun f => ⟨.thresholds, f.1, f.2⟩
  | ("rules", .object fields) => fields.map fun f => ⟨.checks, f.1, f.2⟩
  | (key, value) => [⟨.top, key, value⟩]

/-- All entries of a mapping in the order in which they are read. -/
def traversal (fields : List (String × Json)) : List Entry :=
  fields.flatMap expanded

/-- The values that entries set a field to, in order. -/
def valuesOf (f : Field) (entries : List Entry) : List Json :=
  (entries.filter fun e => e.Sets f).map (·.value)

/-! ### What comes of a value -/

theorem patterns_eq_ok_iff {label : String} {v : Json} {texts : List String} :
    patterns label v = .ok texts ↔ v = .ofStrings texts := by
  constructor
  · intro h
    unfold patterns at h
    split at h
    · have := map_eq_of_mapM_eq_ok (g := Json.string) (k := id) h fun x y hxy => by
        split at hxy <;> simp_all
      simp [Json.ofStrings, this]
    · simp at h
  · rintro rfl
    simp only [patterns, Json.ofStrings, List.mapM_map]
    exact (mapM_eq_ok_map (g := id) fun _ _ => rfl).trans (by rw [List.map_id])

theorem patterns_eq_error_iff {label : String} {v : Json} {err : ConfigError} :
    patterns label v = .error err ↔ Kind.patterns.Rejects label v err := by
  unfold patterns
  constructor
  · intro h
    split at h
    · obtain ⟨before, item, rest, rfl, hbefore, hitem⟩ := mapM_eq_error_iff.1 h
      obtain ⟨texts, rfl⟩ : before ∈ Set.range (List.map Json.string) := by
        rw [Set.range_list_map]
        intro y hy
        obtain ⟨s, hs⟩ := hbefore y hy
        split at hs <;> simp_all
      split at hitem
      · simp at hitem
      · obtain rfl := Except.error.inj hitem
        exact .notStrings texts rest (by assumption)
    · obtain rfl := Except.error.inj h
      exact .notPatterns (by assumption)
  · rintro (h | ⟨texts, rest, h⟩)
    · split
      · exact absurd rfl (h _)
      · rfl
    · refine mapM_eq_error_iff.2 ⟨_, _, rest, rfl, by simp, ?_⟩
      split
      · exact absurd rfl (h _)
      · rfl

theorem integer_eq_ok_iff {label : String} {v : Json} {n : Int} :
    integer label v = .ok n ↔ v = .ofInt n := by
  unfold integer Json.int? Json.ofInt
  split <;> split at * <;> simp_all

theorem integer_eq_error_iff {label : String} {v : Json} {err : ConfigError} :
    integer label v = .error err ↔ Kind.integer.Rejects label v err := by
  constructor
  · intro h
    have hv : ∀ n, v ≠ .ofInt n := fun n hn => by simp [integer_eq_ok_iff.2 hn] at h
    unfold integer at h
    split at h
    · simp at h
    · obtain rfl := Except.error.inj h
      exact .notInteger hv
  · rintro (_ | _ | h)
    cases hv : integer label v with
    | ok n => exact absurd (integer_eq_ok_iff.1 hv) (h n)
    | error e =>
      unfold integer at hv
      split at hv <;> simp_all

theorem boolean_eq_ok_iff {label : String} {v : Json} {b : Bool} :
    boolean label v = .ok b ↔ v = .bool b := by
  cases v <;> simp [boolean, Json.bool?]

theorem boolean_eq_error_iff {label : String} {v : Json} {err : ConfigError} :
    boolean label v = .error err ↔ Kind.boolean.Rejects label v err := by
  constructor
  · intro h
    have hv : ∀ b, v ≠ .bool b := fun b hb => by simp [boolean_eq_ok_iff.2 hb] at h
    unfold boolean at h
    split at h
    · simp at h
    · obtain rfl := Except.error.inj h
      exact .notBoolean hv
  · rintro (_ | _ | _ | h)
    cases hv : boolean label v with
    | ok b => exact absurd (boolean_eq_ok_iff.1 hv) (h b)
    | error e =>
      unfold boolean at hv
      split at hv <;> simp_all

theorem Finding.ofValue_eq_setting_iff {α : Type} {setting : α → Setting}
    {x : Except ConfigError α} {s : Setting} :
    ofValue setting x = .setting s ↔ ∃ a, x = .ok a ∧ setting a = s := by
  cases x <;> simp [ofValue]

theorem Finding.ofValue_eq_error_iff {α : Type} {setting : α → Setting}
    {x : Except ConfigError α} {err : ConfigError} :
    ofValue setting x = .error err ↔ x = .error err := by
  cases x <;> simp [ofValue]

/-- What comes of a value for a field. -/
def Field.finding (label : String) (v : Json) : Field → Finding
  | included => .ofValue .included (patterns label v)
  | excluded => .ofValue .excluded (patterns label v)
  | ignored => .ofValue .ignored (patterns label v)
  | maxScore => .ofValue .maxScore (integer label v)
  | threshold t => thresholdFinding t label v
  | toggle check => toggleFinding check label v

theorem Field.finding_eq_setting_iff {f : Field} {label : String} {v : Json} {s : Setting} :
    f.finding label v = .setting s ↔ f = s.field ∧ v = s.value := by
  cases f <;> cases s <;>
    simp [finding, thresholdFinding, toggleFinding, Finding.ofValue_eq_setting_iff,
      patterns_eq_ok_iff, integer_eq_ok_iff, boolean_eq_ok_iff, Setting.field, Setting.value,
      and_comm, -Bool.exists_bool]

theorem Field.finding_eq_error_iff {f : Field} {label : String} {v : Json} {err : ConfigError} :
    f.finding label v = .error err ↔ f.kind.Rejects label v err := by
  cases f <;>
    simp only [finding, thresholdFinding, toggleFinding, Finding.ofValue_eq_error_iff, kind,
      patterns_eq_error_iff, integer_eq_error_iff, boolean_eq_error_iff]

theorem Field.finding_ne_unknown {f : Field} {label l k : String} {v : Json} :
    f.finding label v ≠ .unknown l k := by
  cases f <;> simp only [finding, thresholdFinding, toggleFinding] <;>
    unfold Finding.ofValue <;> split <;> simp

theorem value_apply (c : Config) (s : Setting) (f : Field) :
    (c.apply s).value f = if f = s.field then s.value else c.value f := by
  cases s <;> cases f <;>
    simp [apply, value, Setting.field, Setting.value, Thresholds.get_set, Toggles.get_set] <;>
    grind

theorem ofStrings_inj {a b : List String} : Json.ofStrings a = Json.ofStrings b ↔ a = b := by
  simp [Json.ofStrings, List.map_inj_right]

/-- A configuration is known by the values of its fields. -/
theorem eq_of_value_eq {c d : Config} (h : ∀ f, c.value f = d.value f) : c = d := by
  have hthresholds : c.thresholds = d.thresholds :=
    Thresholds.eq_of_get_eq fun t => by simpa [value, Json.ofInt] using h (.threshold t)
  have htoggles : c.toggles = d.toggles :=
    Toggles.eq_of_get_eq fun check => by simpa [value] using h (.toggle check)
  have hincluded := h .included
  have hexcluded := h .excluded
  have hignored := h .ignored
  have hmaxScore := h .maxScore
  simp only [value, ofStrings_inj, Json.ofInt, Json.number.injEq, Number.int.injEq] at *
  cases c
  cases d
  simp_all

end Config

end StyleGauge
