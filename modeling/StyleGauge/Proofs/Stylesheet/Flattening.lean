import StyleGauge.Duplication
import StyleGauge.Proofs.Metrics.Range
import StyleGauge.Proofs.Metrics.Totals
import StyleGauge.Proofs.Stylesheet.SourceOrder

/-!
# Declarations count for the rules around them

The rules of a stylesheet are the rules of its tree that select something, each with all the
declarations beneath it, those of a rule in it in one piece. So a declaration is listed and counted
once for each such rule around it, and not at all if there is none.
-/

namespace StyleGauge

/-! ### Repeated declarations -/

namespace Duplication

/-- How many declarations of rules there are of a kind, rule by rule. -/
def declaredIn (p : Declaration → Bool) (rules : List Rule) : Nat :=
  Listing.total (rules.map fun r => r.declarations.countP p)

theorem length_filter_keyed (s : Stylesheet) (key : String) :
    ((keyed [s]).filter fun k => k.1 = key).length = declaredIn (·.key = key) s.rules := by
  rw [keyed, sites_cons, sites_nil, List.append_nil, List.flatMap_map,
    ← List.countP_eq_length_filter, List.countP_flatMap]
  simp only [Function.comp_def, List.countP_map]
  rfl

/-- A key is listed once, with a place for each declaration that has it, or not at all if there is
none. -/
theorem map_count_filter_declarations (s : Stylesheet) (key : String) :
    ((declarations [s] 1).filter fun r => r.key = key).map Repeated.count =
      if declaredIn (·.key = key) s.rules = 0 then [] else [declaredIn (·.key = key) s.rules] := by
  rw [← length_filter_keyed, declarations, List.filter_comm, List.filter_map]
  simp only [Function.comp_def, Listing.filter_groups]
  by_cases hkey : key ∈ (keyed [s]).map Prod.fst
  · have hpos : 0 < ((keyed [s]).filter fun k => k.1 = key).length := by
      obtain ⟨k, hk, rfl⟩ := List.mem_map.1 hkey
      exact List.length_pos_of_mem (List.mem_filter.2 ⟨hk, decide_eq_true rfl⟩)
    have henough : (1 : Int) ≤ ((keyed [s]).filter fun k => k.1 = key).length := by
      exact_mod_cast hpos
    rw [if_pos hkey, if_neg hpos.ne', List.map_singleton,
      List.filter_cons_of_pos (by simpa only [List.length_map] using decide_eq_true henough)]
    simp [Repeated.count]
  · have hnil : ((keyed [s]).filter fun k => k.1 = key).length = 0 := by
      rw [List.length_eq_zero_iff, List.filter_eq_nil_iff]
      rintro k hk hkey'
      exact hkey (List.mem_map.2 ⟨k, hk, of_decide_eq_true hkey'⟩)
    rw [if_neg hkey, if_pos hnil]
    rfl

end Duplication

namespace Stylesheet

variable {file : String} {v w : Visit} {r r' : Rule}

/-! ### Rules in rules -/

/-- Whether a block is that of a rule with a branch of its selectors that is not blank. -/
def Head.selects : Head → Bool
  | rule prelude _ => Selector.splitList prelude.toList ≠ []
  | atRule .. => false

/-- The declarations that a walk meets. -/
def declarationsIn (visits : List Visit) : List Declaration :=
  visits.filterMap fun v => v.node.declaration?

theorem exists_beneath_eq (v : Visit) : ∃ outer nodes, v.beneath = visitsOf outer nodes := by
  obtain ⟨outer, node⟩ := v
  cases node with
  | declaration d => exact ⟨outer, [], by simp [Visit.beneath]⟩
  | rule prelude start children => exact ⟨_, children, rfl⟩
  | block name params children => exact ⟨_, children, rfl⟩
  | statement name params => exact ⟨outer, [], by simp [Visit.beneath]⟩

theorem declarations_of_rule?_eq_some (h : v.rule? file = some r) :
    r.declarations = declarationsIn v.beneath := by
  obtain ⟨prelude, start, -, -, hdeclarations, -⟩ := Visit.of_rule?_eq_some h
  exact hdeclarations

theorem declaration?_of_rule?_eq_some (h : v.rule? file = some r) : v.node.declaration? = none := by
  obtain ⟨prelude, start, hnode, -⟩ := Visit.of_rule?_eq_some h
  cases hcase : v.node with
  | declaration d => cases hcase ▸ hnode
  | rule prelude start children => rfl
  | block name params children => rfl
  | statement name params => rfl

/-- The declarations of a rule in a rule are those of the outer one from the inner rule on, as far
as its block goes. -/
theorem exists_declarations_eq (hv : v.rule? file = some r) (hw : w.rule? file = some r')
    {before after : List Visit} (h : v.beneath = before ++ w :: after) :
    ∃ rest, after = w.beneath ++ rest ∧
      r.declarations = declarationsIn before ++ r'.declarations ++ declarationsIn rest := by
  obtain ⟨outer, nodes, hbeneath⟩ := exists_beneath_eq v
  obtain ⟨rest, rfl⟩ := exists_eq_beneath_append (hbeneath.symm.trans h)
  refine ⟨rest, rfl, ?_⟩
  rw [declarations_of_rule?_eq_some hv, declarations_of_rule?_eq_some hw, h]
  simp [declarationsIn, declaration?_of_rule?_eq_some hw]

theorem isSome_rule?_iff (file : String) (v : Visit) :
    (v.rule? file).isSome ↔ v.node.head?.any Head.selects := by
  obtain ⟨outer, node⟩ := v
  cases node with
  | rule prelude start children => simp [Visit.rule?, Node.head?, Head.selects]
  | declaration d => simp [Visit.rule?, Node.head?]
  | block name params children => simp [Visit.rule?, Node.head?, Head.selects]
  | statement name params => simp [Visit.rule?, Node.head?]

/-- Rules taken out of a tree on a walk through it. -/
structure AreFlattened (file : String) (visits : List Visit) (rules : List Rule) : Prop where
  /-- There is one rule for each rule of the tree that selects something, in the order of the
  walk. -/
  rules_eq : rules = visits.filterMap (Visit.rule? file)
  isSome_iff : ∀ v ∈ visits, (v.rule? file).isSome ↔ v.node.head?.any Head.selects
  /-- A rule has the declarations beneath it, in the order of the walk. -/
  declarations_eq : ∀ v ∈ visits, ∀ r, v.rule? file = some r →
    r.declarations = declarationsIn v.beneath
  /-- What is beneath a node follows it in one piece. -/
  exists_beneath : ∀ before v after, visits = before ++ v :: after →
    ∃ rest, after = v.beneath ++ rest
  /-- So do the declarations of a rule in a rule. -/
  exists_declarations : ∀ v ∈ visits, ∀ r, v.rule? file = some r → ∀ before w after,
    v.beneath = before ++ w :: after → ∀ r', w.rule? file = some r' → ∃ rest,
      after = w.beneath ++ rest ∧
        r.declarations = declarationsIn before ++ r'.declarations ++ declarationsIn rest

theorem areFlattened_ofText (source file : String) :
    AreFlattened file (visitsOf [] (scan (withoutComments source.toList)))
      (ofText source file).rules where
  rules_eq := rules_ofText_eq_filterMap source file
  isSome_iff v _ := isSome_rule?_iff file v
  declarations_eq _ _ _ hv := declarations_of_rule?_eq_some hv
  exists_beneath _ _ _ h := exists_eq_beneath_append h
  exists_declarations _ _ _ hv _ _ _ h _ hw := exists_declarations_eq hv hw h

/-! ### Counting -/

/-- How often the declarations of a kind count on a walk: once for each rule around them that
selects something. -/
def timesCounted (p : Declaration → Bool) (visits : List Visit) : Nat :=
  Listing.total (visits.map fun v =>
    if v.node.declaration?.any p then v.outer.countP Head.selects else 0)

open Duplication (declaredIn)

section

variable {p : Declaration → Bool}

theorem timesCounted_append (a b : List Visit) :
    timesCounted p (a ++ b) = timesCounted p a + timesCounted p b := by
  rw [timesCounted, List.map_append, Listing.total_append]
  rfl

theorem timesCounted_singleton (v : Visit) :
    timesCounted p [v] = if v.node.declaration?.any p then v.outer.countP Head.selects else 0 :=
  rfl

theorem declaredIn_append (a b : List Rule) :
    declaredIn p (a ++ b) = declaredIn p a + declaredIn p b := by
  rw [declaredIn, List.map_append, Listing.total_append]
  rfl

theorem rule?_of_leaf {node : Node} (h : node.head? = none) (file : String) (outer : List Head) :
    (Visit.mk outer node).rule? file = none := by
  cases node <;> simp_all [Visit.rule?, Node.head?]

theorem countP_declarations_of_leaf {node : Node} (h : node.head? = none) :
    node.declarations.countP p = if node.declaration?.any p then 1 else 0 := by
  cases node with
  | declaration d =>
    rw [Node.declarations, Node.declaration?, Option.any_some, List.countP_singleton]
  | rule prelude start children => cases h
  | block name params children => cases h
  | statement name params => simp [Node.declarations, Node.declaration?]

/-- A rule that selects something is a rule with all the declarations beneath it. -/
theorem declaredIn_rule?_close (file : String) (outer : List Head) (head : Head)
    (children : List Node) :
    declaredIn p ([Visit.mk outer (head.close children)].filterMap (Visit.rule? file)) =
      if head.selects then (declarationsOf children).countP p else 0 := by
  cases head with
  | rule prelude start =>
    rw [declarationsOf_eq_filterMap (.rule prelude start :: outer)]
    by_cases h : Selector.splitList prelude.toList = []
    · simp [Visit.rule?, Head.close, Head.selects, h, declaredIn]
    · simp [Visit.rule?, Head.close, Head.selects, h, declaredIn, Visit.declarations,
        Visit.beneath]
  | atRule name params => rfl

/-- On a walk a declaration counts for the rules around all of the walk, and for those that the walk
goes through. -/
theorem timesCounted_visitsOf (p : Declaration → Bool) (file : String) (outer : List Head)
    (nodes : List Node) :
    timesCounted p (visitsOf outer nodes) =
      outer.countP Head.selects * (declarationsOf nodes).countP p +
        declaredIn p ((visitsOf outer nodes).filterMap (Visit.rule? file)) := by
  induction outer, nodes using nodes_induction with
  | nil => simp [timesCounted, declaredIn]
  | leaf outer node nodes hleaf ih =>
    rw [visitsOf_cons, visits_of_leaf hleaf, timesCounted_append, timesCounted_singleton, ih,
      declarationsOf_cons, List.countP_append, countP_declarations_of_leaf hleaf,
      List.singleton_append, List.filterMap_cons_none (rule?_of_leaf hleaf file outer)]
    split_ifs <;> ring
  | close outer head children nodes ihchildren ihnodes =>
    rw [visitsOf_cons, visits_close, List.cons_append, ← List.singleton_append,
      timesCounted_append, timesCounted_append, timesCounted_singleton, ihchildren, ihnodes,
      declaration?_close, declarationsOf_cons, declarations_close, List.countP_append,
      List.countP_cons, List.filterMap_append, List.filterMap_append, declaredIn_append,
      declaredIn_append, declaredIn_rule?_close]
    -- the declarations of the block count once more if the rule selects something
    cases head.selects <;>
      simp only [Option.any_none, Bool.false_eq_true, if_false, if_true] <;> ring

/-- The rules of a stylesheet declare what its tree declares, once for each rule around it. -/
theorem declaredIn_rules_ofText (p : Declaration → Bool) (source file : String) :
    declaredIn p (ofText source file).rules =
      timesCounted p (visitsOf [] (scan (withoutComments source.toList))) := by
  rw [timesCounted_visitsOf p file, rules_ofText_eq_filterMap, List.countP_nil, Nat.zero_mul,
    Nat.zero_add]

end

theorem HasMetrics.declarations_eq {s : Stylesheet} {m : FileMetrics} (h : s.HasMetrics m) :
    m.declarations = declaredIn (fun _ => true) s.rules := by
  have htotal : m.declarations = (s.rules.flatMap Rule.declarations).length :=
    congrArg Totals.declarations h.totals
  rw [htotal, List.length_flatMap, declaredIn]
  simp only [List.countP_true]
  rfl

theorem HasMetrics.important_eq {s : Stylesheet} {m : FileMetrics} (h : s.HasMetrics m) :
    m.important = declaredIn (·.important) s.rules :=
  congrArg Totals.important h.totals

theorem exists_metrics_ofText {source : String} (file : String) (h : source.length < 2 ^ 63) :
    ∃ m, (ofText source file).metrics = .ok m := by
  have hsized : (ofText source file).IsSized (2 ^ 64) :=
    (isSized_ofText source file).mono (by omega)
  obtain ⟨m, hm, -⟩ := hsized.metrics
  exact ⟨m, hm⟩

/-- The rules of a stylesheet are the rules of its tree that select something, in source order, each
with the declarations beneath it. So a declaration counts once for each such rule around it, where
repeated declarations are listed and where declarations are counted. -/
theorem rules_flattened (source file : String) :
    let visits := visitsOf [] (scan (withoutComments source.toList))
    let sheet := ofText source file
    InSourceOrder (withoutComments source.toList) visits ∧
      AreFlattened file visits sheet.rules ∧
      (∀ key, ((Duplication.declarations [sheet] 1).filter fun r => r.key = key).map
          Duplication.Repeated.count =
        if timesCounted (·.key = key) visits = 0 then [] else [timesCounted (·.key = key) visits]) ∧
      (∀ m, sheet.metrics = .ok m → m.declarations = timesCounted (fun _ => true) visits ∧
        m.important = timesCounted (·.important) visits) ∧
      (source.length < 2 ^ 63 → ∃ m, sheet.metrics = .ok m) := by
  intro visits sheet
  have hcount : ∀ p, declaredIn p sheet.rules = timesCounted p visits :=
    fun p => declaredIn_rules_ofText p source file
  refine ⟨inSourceOrder_visitsOf_scan _, areFlattened_ofText source file, ?_, ?_,
    exists_metrics_ofText file⟩
  · intro key
    rw [Duplication.map_count_filter_declarations, hcount]
  · intro m hm
    have hmetrics := hasMetrics hm
    rw [hmetrics.declarations_eq, hmetrics.important_eq, hcount, hcount]
    exact ⟨rfl, rfl⟩

/-- A rule in a rule without selectors, in a rule in a block: what is in the inner rule counts
twice, what is in the block alone does not count. -/
theorem rules_flattened_nested :
    let source := "@media x\x7ba:b;p\x7b ,\x7bq\x7bc:D!important\x7d\x7de:f\x7d\x7d"
    let visits := visitsOf [] (scan (withoutComments source.toList))
    let sheet := ofText source
    AreFlattened defaultFile visits sheet.rules ∧
      (sheet.rules.map fun r => r.declarations.map (·.key)) = [["c:d", "e:f"], ["c:d"]] ∧
      ((Duplication.declarations [sheet] 1).filter fun r => r.key = "a:b").map
        Duplication.Repeated.count = [] ∧
      ((Duplication.declarations [sheet] 1).filter fun r => r.key = "c:d").map
        Duplication.Repeated.count = [2] ∧
      ∃ m, sheet.metrics = .ok m ∧ m.declarations = 3 ∧ m.important = 2 := by
  intro source visits sheet
  obtain ⟨-, hflattened, hkeys, hmetrics, hexists⟩ := rules_flattened source defaultFile
  obtain ⟨m, hm⟩ := hexists (by decide)
  obtain ⟨hdeclarations, himportant⟩ := hmetrics m hm
  refine ⟨hflattened, by decide +kernel, ?_, ?_, m, hm, ?_, ?_⟩
  · exact (hkeys "a:b").trans (by decide +kernel)
  · exact (hkeys "c:d").trans (by decide +kernel)
  · rw [hdeclarations]
    decide +kernel
  · rw [himportant]
    decide +kernel

end Stylesheet

end StyleGauge
