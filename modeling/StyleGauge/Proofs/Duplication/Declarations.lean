import StyleGauge.Proofs.Report.Outcome
import StyleGauge.Proofs.Stylesheet.Flattening
import StyleGauge.Proofs.Stylesheet.Parsed

/-!
# Groups of declarations

Repeated declarations are groups of what rules declare, by property and normalized value. The two
are kept as one text with a colon between them. No property that is read has a colon, so that the
text says which they are, however many colons the value has.
-/

namespace StyleGauge

/-! ### Declarations that say the same -/

namespace Declaration

variable {d e : Declaration}

/-- Two declarations of one property whose values are the same but for case and blanks around. -/
def SaysSame (d e : Declaration) : Prop :=
  d.property = e.property ∧ d.normalizedValue = e.normalizedValue

instance (d e : Declaration) : Decidable (SaysSame d e) :=
  inferInstanceAs (Decidable (_ ∧ _))

theorem SaysSame.key_eq (h : d.SaysSame e) : d.key = e.key := by
  rw [key, key, h.1, h.2]

/-- A property ends at the first colon of its text. -/
theorem colon_not_mem_of_parse? {text : List Char} (h : parse? text = some d) :
    ':' ∉ d.property.toList := by
  have hproperty : d.property = String.ofList (Text.trim (text.takeWhile (· != ':'))) := by
    simp only [parse?] at h
    split at h
    · cases h
    · split_ifs at h
      obtain rfl := Option.some.inj h
      rfl
  rw [hproperty, String.toList_ofList]
  intro hmem
  have hmem := (Text.trim_isInfix _).subset hmem
  have := List.all_eq_true.1 (List.all_takeWhile ..) ':' hmem
  simp at this

theorem toList_key (d : Declaration) :
    d.key.toList = d.property.toList ++ ':' :: d.normalizedValue.toList := by
  simp [key]

end Declaration

/-! ### Declarations that are read -/

namespace Stylesheet

theorem declaration?_bare (node : Node) : node.bare.declaration? = node.declaration? := by
  cases node <;> rfl

/-- A step finds declarations where a piece of text stands for them. -/
theorem Scan.Finds.exists_parse?_eq_some {s : Scan} {v : Visit} (h : s.Finds v) {d : Declaration}
    (hv : v.node.declaration? = some d) : ∃ text, Declaration.parse? text = some d := by
  cases h with
  | block hs hread => cases hv
  | statement hs hread hrest => cases hv
  | rule hat hread => cases hv
  | declaration hat hread hrest hopen hparse =>
    obtain rfl := Option.some.inj hv
    exact ⟨_, hparse⟩

/-- A declaration of a rule is what a piece of text stands for. -/
theorem IsParsed.exists_parse?_eq_some {sheet : Stylesheet} (h : sheet.IsParsed) :
    ∀ r ∈ sheet.rules, ∀ d ∈ r.declarations, ∃ text, Declaration.parse? text = some d := by
  intro r hr d hd
  cases h with
  | failure => cases hr
  | text source file =>
    rw [rules_ofText_eq_filterMap] at hr
    obtain ⟨v, hv, hrule⟩ := List.mem_filterMap.1 hr
    rw [declarations_of_rule?_eq_some hrule] at hd
    obtain ⟨w, hw, hdeclaration⟩ := List.mem_filterMap.1 hd
    -- the declaration is visited after the rule that it is beneath
    obtain ⟨before, after, hvisits⟩ := List.append_of_mem hv
    obtain ⟨rest, rfl⟩ := exists_eq_beneath_append hvisits
    have hmem : w ∈ visitsOf [] (scan (withoutComments source.toList)) := by
      rw [hvisits]
      simp [hw]
    obtain ⟨s, -, hfinds⟩ := (inSourceOrder_visitsOf_scan _).exists_finds hmem
    exact hfinds.exists_parse?_eq_some (by rw [Visit.bare, declaration?_bare, hdeclaration])

end Stylesheet

namespace Duplication

variable {sheets : List Stylesheet} {minimum : Int} {r : Repeated} {d e : Declaration}

/-! ### Keys -/

/-- A group holds the declarations that have its key. -/
def Repeated.Holds (r : Repeated) (d : Declaration) : Prop :=
  d.key = r.key

/-- The property and the value of a group are those of any declaration that it holds. -/
theorem Repeated.property_and_value_of_holds (hcolon : ':' ∉ d.property.toList) (h : r.Holds d) :
    r.property = d.property ∧ r.value = d.normalizedValue := by
  have hbefore : ∀ c ∈ d.property.toList, (c != ':') = true := by
    intro c hc
    rw [bne_iff_ne]
    rintro rfl
    exact hcolon hc
  have hkey : r.key.toList = d.property.toList ++ ':' :: d.normalizedValue.toList := by
    rw [← h, Declaration.toList_key]
  constructor
  · rw [property, hkey, List.takeWhile_append_of_pos hbefore]
    simp
  · rw [value, hkey, List.dropWhile_append_of_pos hbefore]
    simp

/-- Keys tell declarations apart that do not say the same. -/
theorem key_eq_key_iff (hd : ':' ∉ d.property.toList) (he : ':' ∉ e.property.toList) :
    d.key = e.key ↔ d.SaysSame e := by
  refine ⟨fun h => ?_, Declaration.SaysSame.key_eq⟩
  have hheld : Repeated.Holds ⟨e.key, []⟩ d := h
  have hheld' : Repeated.Holds ⟨e.key, []⟩ e := rfl
  obtain ⟨hproperty, hvalue⟩ := Repeated.property_and_value_of_holds hd hheld
  obtain ⟨hproperty', hvalue'⟩ := Repeated.property_and_value_of_holds he hheld'
  exact ⟨hproperty.symm.trans hproperty', hvalue.symm.trans hvalue'⟩

/-! ### What is said where -/

/-- What the rules of stylesheets declare, with the places, in the order in which it is met. -/
def said (sheets : List Stylesheet) : List (Declaration × Location) :=
  (sites sheets).flatMap fun s => s.rule.declarations.map (·, s.location)

/-- Where the same is said as by a declaration. -/
def placesOf (sheets : List Stylesheet) (d : Declaration) : List Location :=
  ((said sheets).filter fun o => o.1.SaysSame d).map Prod.snd

theorem keyed_eq_map_said (sheets : List Stylesheet) :
    keyed sheets = (said sheets).map fun o => (o.1.key, o.2) := by
  simp [keyed, said, List.map_flatMap, Function.comp_def]

theorem colon_not_mem_of_mem_said (hparsed : ∀ s ∈ sheets, s.IsParsed)
    {o : Declaration × Location} (ho : o ∈ said sheets) : ':' ∉ o.1.property.toList := by
  obtain ⟨site, hsite, ho⟩ := List.mem_flatMap.1 ho
  obtain ⟨d, hd, rfl⟩ := List.mem_map.1 ho
  obtain ⟨sheet, hsheet, hsite⟩ := List.mem_flatMap.1 hsite
  obtain ⟨rule, hrule, rfl⟩ := List.mem_map.1 hsite
  obtain ⟨text, htext⟩ := (hparsed sheet hsheet).exists_parse?_eq_some rule hrule d hd
  exact Declaration.colon_not_mem_of_parse? htext

theorem map_fst_said (sheets : List Stylesheet) :
    (said sheets).map Prod.fst = (sheets.flatMap Stylesheet.rules).flatMap Rule.declarations := by
  simp [said, sites, List.map_flatMap, List.flatMap_assoc, List.flatMap_map, Function.comp_def]

/-! ### Groups -/

/-- What is said by a declaration, with all places where it is said. -/
def groupOf (sheets : List Stylesheet) (d : Declaration) : Repeated :=
  ⟨d.key, placesOf sheets d⟩

/-- Every declaration that is met is said somewhere. -/
theorem placesOf_ne_nil {o : Declaration × Location} (ho : o ∈ said sheets) :
    placesOf sheets o.1 ≠ [] := by
  refine List.ne_nil_of_mem (List.mem_map_of_mem (List.mem_filter.2 ⟨ho, ?_⟩))
  exact decide_eq_true ⟨rfl, rfl⟩

theorem filter_keyed (hparsed : ∀ s ∈ sheets, s.IsParsed) {o : Declaration × Location}
    (ho : o ∈ said sheets) :
    ((keyed sheets).filter fun k => k.1 = o.1.key).map Prod.snd = placesOf sheets o.1 := by
  have hcolon := colon_not_mem_of_mem_said hparsed ho
  rw [keyed_eq_map_said, List.filter_map, List.map_map, placesOf]
  refine congrArg (List.map Prod.snd) (List.filter_congr fun p hp => decide_eq_decide.2 ?_)
  exact key_eq_key_iff (colon_not_mem_of_mem_said hparsed hp) hcolon

theorem mem_declarations_iff (hparsed : ∀ s ∈ sheets, s.IsParsed) :
    r ∈ declarations sheets minimum ↔
      ∃ o ∈ said sheets, groupOf sheets o.1 = r ∧ minimum ≤ r.count := by
  have hkey : ∀ k, k ∈ (keyed sheets).map Prod.fst ↔ ∃ o ∈ said sheets, o.1.key = k := by
    intro k
    rw [keyed_eq_map_said, List.map_map, List.mem_map]
    rfl
  rw [declarations, List.mem_filter, List.mem_map]
  simp only [Listing.mem_groups_iff, hkey, decide_eq_true_iff]
  constructor
  · rintro ⟨⟨g, ⟨⟨o, ho, hkey⟩, hitems⟩, rfl⟩, hcount⟩
    exact ⟨o, ho, by rw [groupOf, ← filter_keyed hparsed ho, hitems, hkey], hcount⟩
  · rintro ⟨o, ho, rfl, hcount⟩
    refine ⟨⟨(o.1.key, (keyed sheets).filter fun k => k.1 = o.1.key), ⟨⟨o, ho, rfl⟩, rfl⟩, ?_⟩,
      hcount⟩
    rw [groupOf, ← filter_keyed hparsed ho]

/-- With a small minimum nothing that is said is left out. -/
theorem declarations_of_le_one (hminimum : minimum ≤ 1) :
    declarations sheets minimum =
      (Listing.groups Prod.fst (keyed sheets)).map fun g => ⟨g.1, g.2.map Prod.snd⟩ := by
  rw [declarations, List.filter_eq_self]
  intro r hr
  obtain ⟨g, hg, rfl⟩ := List.mem_map.1 hr
  have hpos := Listing.length_pos_of_mem_groups hg
  rw [decide_eq_true_iff, List.length_map]
  omega

theorem declarations_eq_filter {least : Int} (hleast : least ≤ 1) (minimum : Int) :
    declarations sheets minimum =
      (declarations sheets least).filter fun r => minimum ≤ r.count := by
  rw [declarations_of_le_one hleast]
  rfl

/-- The groups hold all declarations among them. -/
theorem total_count_declarations (hminimum : minimum ≤ 1) :
    Listing.total ((declarations sheets minimum).map Repeated.count) = (said sheets).length := by
  have hgroups := Listing.total_length_groups Prod.fst (keyed sheets)
  rw [keyed_eq_map_said, List.length_map, ← keyed_eq_map_said] at hgroups
  rw [declarations_of_le_one hminimum, List.map_map, ← hgroups]
  simp [Function.comp_def, Repeated.count]

/-- Where a group is met first. -/
def firstSaid (sheets : List Stylesheet) (r : Repeated) : Nat :=
  (said sheets).findIdx fun o => o.1.key = r.key

theorem pairwise_declarations (sheets : List Stylesheet) (minimum : Int) :
    (declarations sheets minimum).Pairwise fun a b => firstSaid sheets a < firstSaid sheets b := by
  have hfirst : ∀ k, ((keyed sheets).map Prod.fst).idxOf k =
      (said sheets).findIdx fun o => o.1.key = k := by
    intro k
    rw [keyed_eq_map_said, List.map_map, List.idxOf, List.findIdx_map]
    rfl
  have hgroups := Listing.pairwise_idxOf_distinct ((keyed sheets).map Prod.fst)
  simp only [hfirst] at hgroups
  rw [declarations, Listing.groups, List.map_map]
  refine List.Pairwise.filter _ (List.pairwise_map.2 ?_)
  exact hgroups

/-- Groups of the declarations that are said at least `minimum` times. -/
structure AreGroups (sheets : List Stylesheet) (minimum : Int) (rs : List Repeated) : Prop where
  /-- One group holds two declarations that are met if they say the same, and say it often
  enough. -/
  held_iff : ∀ o ∈ said sheets, ∀ p ∈ said sheets,
    (∃ r ∈ rs, r.Holds o.1 ∧ r.Holds p.1) ↔
      o.1.SaysSame p.1 ∧ minimum ≤ (placesOf sheets o.1).length
  /-- No declaration is held by two groups. -/
  unique : ∀ r ∈ rs, ∀ r' ∈ rs, ∀ d, r.Holds d → r'.Holds d → r = r'
  /-- A group holds something that is met. -/
  exists_held : ∀ r ∈ rs, ∃ o ∈ said sheets, r.Holds o.1
  /-- A group has the places where what it holds is said, in order. -/
  locations_eq : ∀ r ∈ rs, ∀ o ∈ said sheets, r.Holds o.1 → r.locations = placesOf sheets o.1
  /-- A group tells the property and the normalized value of what it holds. -/
  property_and_value : ∀ r ∈ rs, ∀ o ∈ said sheets, r.Holds o.1 →
    r.property = o.1.property ∧ r.value = o.1.normalizedValue
  /-- Groups come in the order in which they are met. -/
  ordered : rs.Pairwise fun a b => firstSaid sheets a < firstSaid sheets b

/-- A group that holds a declaration is the group of that declaration. -/
theorem eq_groupOf_of_holds (hparsed : ∀ s ∈ sheets, s.IsParsed)
    (hr : r ∈ declarations sheets minimum) {o : Declaration × Location} (ho : o ∈ said sheets)
    (h : r.Holds o.1) : r = groupOf sheets o.1 := by
  obtain ⟨p, hp, rfl, -⟩ := (mem_declarations_iff hparsed).1 hr
  have hkey : o.1.key = p.1.key := h
  rw [groupOf, groupOf, ← filter_keyed hparsed ho, ← filter_keyed hparsed hp, hkey]

theorem areGroups_declarations (hparsed : ∀ s ∈ sheets, s.IsParsed) (minimum : Int) :
    AreGroups sheets minimum (declarations sheets minimum) where
  held_iff o ho p hp := by
    have hsame : o.1.key = p.1.key ↔ o.1.SaysSame p.1 :=
      key_eq_key_iff (colon_not_mem_of_mem_said hparsed ho) (colon_not_mem_of_mem_said hparsed hp)
    rw [← hsame]
    constructor
    · rintro ⟨r, hr, hro, hrp⟩
      obtain rfl := eq_groupOf_of_holds hparsed hr ho hro
      obtain ⟨-, -, -, hcount⟩ := (mem_declarations_iff hparsed).1 hr
      exact ⟨hrp.symm, hcount⟩
    · rintro ⟨hkey, hcount⟩
      exact ⟨groupOf sheets o.1, (mem_declarations_iff hparsed).2 ⟨o, ho, rfl, hcount⟩, rfl,
        hkey.symm⟩
  unique r hr r' hr' d hd hd' := by
    obtain ⟨o, ho, rfl, -⟩ := (mem_declarations_iff hparsed).1 hr
    have hkey : o.1.key = r'.key := Eq.trans (Eq.symm hd) hd'
    exact (eq_groupOf_of_holds hparsed hr' ho hkey).symm
  exists_held r hr := by
    obtain ⟨o, ho, rfl, -⟩ := (mem_declarations_iff hparsed).1 hr
    exact ⟨o, ho, rfl⟩
  locations_eq r hr o ho h := by
    rw [eq_groupOf_of_holds hparsed hr ho h]
    rfl
  property_and_value r _ o ho h :=
    Repeated.property_and_value_of_holds (colon_not_mem_of_mem_said hparsed ho) h
  ordered := pairwise_declarations sheets minimum

/-- Repeated declarations are groups of all that is declared. With a minimum of one or less none is
left out: each declaration that is met is held by one group, two by the same one if they say the
same, and the groups count as many declarations as the metrics do. With a greater minimum the
groups are those of them that are large enough. -/
theorem declarations_partition (hparsed : ∀ s ∈ sheets, s.IsParsed) :
    (∀ minimum, AreGroups sheets minimum (declarations sheets minimum)) ∧
      (∀ least ≤ 1,
        (∀ minimum, declarations sheets minimum =
          (declarations sheets least).filter fun r => minimum ≤ r.count) ∧
        (∀ o ∈ said sheets, ∃! r, r ∈ declarations sheets least ∧ r.Holds o.1) ∧
        (∀ o ∈ said sheets, ∀ p ∈ said sheets,
          (∃ r ∈ declarations sheets least, r.Holds o.1 ∧ r.Holds p.1) ↔ o.1.SaysSame p.1) ∧
        ∀ files g, sheets.mapM Stylesheet.metrics = .ok files →
          GlobalMetrics.ofFiles files = .ok g → g.declarations =
            (Listing.total ((declarations sheets least).map Repeated.count) : Nat)) ∧
      ((∀ s ∈ sheets, Report.IsRead s) → sheets.length < 2 ^ 63 →
        ∃ files g, sheets.mapM Stylesheet.metrics = .ok files ∧
          GlobalMetrics.ofFiles files = .ok g) := by
  have hgroups := areGroups_declarations hparsed
  refine ⟨hgroups, fun least hleast => ?_, fun hread hlength => ?_⟩
  · have henough : ∀ o ∈ said sheets, least ≤ (placesOf sheets o.1).length := by
      intro o ho
      have := List.length_pos_iff.2 (placesOf_ne_nil ho)
      omega
    refine ⟨declarations_eq_filter hleast, fun o ho => ?_, fun o ho p hp => ?_,
      fun files g hfiles hg => ?_⟩
    · obtain ⟨r, hr, hheld, -⟩ :=
        ((hgroups least).held_iff o ho o ho).2 ⟨⟨rfl, rfl⟩, henough o ho⟩
      exact ⟨r, ⟨hr, hheld⟩, fun r' hr' => (hgroups least).unique r' hr'.1 r hr o.1 hr'.2 hheld⟩
    · rw [(hgroups least).held_iff o ho p hp]
      exact and_iff_left (henough o ho)
    · have htotals := congrArg Totals.declarations (GlobalMetrics.totals_eq_ofRules hfiles hg)
      rw [total_count_declarations hleast, ← List.length_map Prod.fst, map_fst_said]
      exact htotals
  · obtain ⟨files, hfiles, hlength, hwithin⟩ :=
      Report.yields_files (Report.areSized_of_isRead hread hlength)
    obtain ⟨g, hg, -⟩ := GlobalMetrics.yields_ofFiles hlength hwithin
    exact ⟨files, g, hfiles, hg⟩

/-- Two files that say the same in different case, once in a rule in a rule, and with two colons. -/
theorem declarations_partition_nested :
    let sheets := [Stylesheet.ofText ".a\x7bcolor:RED;src:url(a:b)\x7d" "a.css",
      Stylesheet.ofText ".b\x7bcolor: red;.c\x7bsrc:URL(A:B)\x7d\x7d" "b.css"]
    (∀ s ∈ sheets, s.IsParsed) ∧
      AreGroups sheets 3 [⟨"src:url(a:b)", [⟨"a.css", some 1, ".a"⟩, ⟨"b.css", some 1, ".b"⟩,
        ⟨"b.css", some 1, ".c"⟩]⟩] ∧
      ∃ files g, sheets.mapM Stylesheet.metrics = .ok files ∧
        GlobalMetrics.ofFiles files = .ok g ∧ g.declarations = 5 := by
  intro sheets
  have hread : ∀ s ∈ sheets, Report.IsRead s := by
    intro s hs
    rcases List.mem_pair.1 hs with rfl | rfl
    · exact .text _ (by decide +kernel)
    · exact .text _ (by decide +kernel)
  have hparsed : ∀ s ∈ sheets, s.IsParsed := by
    intro s hs
    rcases List.mem_pair.1 hs with rfl | rfl <;> exact .text _ _
  obtain ⟨hgroups, hall, hmetrics⟩ := declarations_partition hparsed
  have hthree : declarations sheets 3 = [⟨"src:url(a:b)", [⟨"a.css", some 1, ".a"⟩,
      ⟨"b.css", some 1, ".b"⟩, ⟨"b.css", some 1, ".c"⟩]⟩] := by decide +kernel
  have hcount : Listing.total ((declarations sheets 1).map Repeated.count) = 5 := by
    decide +kernel
  obtain ⟨files, g, hfiles, hg⟩ := hmetrics hread (by decide)
  refine ⟨hparsed, hthree ▸ hgroups 3, files, g, hfiles, hg, ?_⟩
  rw [(hall 1 (by decide)).2.2.2 files g hfiles hg, hcount]
  rfl

end Duplication

end StyleGauge
