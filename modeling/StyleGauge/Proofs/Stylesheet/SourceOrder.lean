import Mathlib.Data.List.DropRight
import StyleGauge.Proofs.Stylesheet.Closing
import StyleGauge.Proofs.Stylesheet.Walk

/-!
# A walk goes along the source

A step of a scan finds one node at most, inside of the blocks that are open, and puts it behind all
that was found before. So a walk through the tree of a text meets the nodes in the order in which
the scan finds them, each at a later position than the one before it, and the blocks around a node
on the walk are those that were open when it was found.
-/

namespace StyleGauge.Stylesheet

open Text (Position)

namespace Scan

variable {s t u : Scan}

/-! ### What has been found -/

/-- What stands before the blocks that are open. -/
def heads (s : Scan) : List Head :=
  s.outer.map OpenBlock.head

/-- The nodes that have been found, in the order of a walk. -/
def found (s : Scan) : List Visit :=
  (visitsOf [] s.finish).map Visit.bare

/-- A node that is added to the innermost block is the last one of the walk. -/
theorem visitsOf_closeAll_cons (outer : List OpenBlock) (node : Node) (nodes : List Node) :
    (visitsOf [] (closeAll outer (node :: nodes))).map Visit.bare =
      (visitsOf [] (closeAll outer nodes)).map Visit.bare ++
        (node.visits (outer.map OpenBlock.head)).map Visit.bare := by
  induction outer generalizing node nodes with
  | nil => simp [closeAll, visitsOf_append]
  | cons b outer ih =>
    rw [closeAll, closeAll, ih, ih, visits_close, visits_close, List.reverse_cons, visitsOf_append]
    simp [Visit.bare]

theorem found_add (s : Scan) (node : Node) :
    (s.add node).found = s.found ++ (node.visits s.heads).map Visit.bare :=
  visitsOf_closeAll_cons s.outer node s.nodes

theorem found_add_of_leaf {node : Node} (h : node.head? = none) (s : Scan) :
    (s.add node).found = s.found ++ [⟨s.heads, node⟩] := by
  rw [found_add, visits_of_leaf h, List.map_singleton, Visit.bare, bare_of_leaf h]

theorem found_openBlock (s : Scan) (head : Head) :
    (s.openBlock head).found = s.found ++ [⟨s.heads, head.close []⟩] := by
  have hadd := found_add s (head.close [])
  rw [visits_close, visitsOf_nil, List.map_singleton, Visit.bare, bare_close] at hadd
  exact hadd

theorem found_closeBlock (s : Scan) : s.closeBlock.found = s.found := by
  rw [found, finish_closeBlock, found]

/-! ### What a step finds -/

/-- The next step finds a node, which has nothing beneath it yet, inside of the blocks that are
open. -/
inductive Finds (s : Scan) : Visit → Prop
  | block {text params rest : List Char} (hs : s.skipSeparators.rest = '@' :: text)
    (hread : readUntil .start (text.dropWhile isAtNameChar) = (params, '\x7b' :: rest)) :
    s.Finds ⟨s.heads, .block (String.ofList (text.takeWhile isAtNameChar))
      (String.ofList (Text.trim params)) []⟩
  | statement {text params rest : List Char} (hs : s.skipSeparators.rest = '@' :: text)
    (hread : readUntil .start (text.dropWhile isAtNameChar) = (params, rest))
    (hrest : rest.head? ≠ some '\x7b') :
    s.Finds ⟨s.heads, .statement (String.ofList (text.takeWhile isAtNameChar))
      (String.ofList (Text.trim params))⟩
  | rule {prelude rest : List Char} (hat : s.skipSeparators.rest.head? ≠ some '@')
    (hread : readUntil .start s.skipSeparators.rest = (prelude, '\x7b' :: rest)) :
    s.Finds ⟨s.heads, .rule (String.ofList (Text.trim prelude)) s.skipSeparators.place []⟩
  | declaration {d : Declaration} {text rest : List Char}
    (hat : s.skipSeparators.rest.head? ≠ some '@')
    (hread : readUntil .start s.skipSeparators.rest = (text, rest))
    (hrest : rest.head? ≠ some '\x7b') (hopen : s.outer ≠ [])
    (hparse : Declaration.parse? text = some d) :
    s.Finds ⟨s.heads, .declaration d⟩

theorem found_afterText (s : Scan) (text after : List Char) (head : Head)
    (complete : Scan → Scan) :
    (∃ rest, after = '\x7b' :: rest ∧
        (s.afterText text after head complete).found = s.found ++ [⟨s.heads, head.close []⟩]) ∨
      after.head? ≠ some '\x7b' ∧
        (s.afterText text after head complete).found = (complete s).found := by
  unfold afterText
  split
  · rename_i rest
    exact .inl ⟨rest, rfl, found_openBlock s head⟩
  · exact .inr ⟨by simp, rfl⟩
  · rename_i hbrace hsemi
    refine .inr ⟨fun hhead => ?_, rfl⟩
    obtain ⟨rest, hrest⟩ := List.head?_eq_some_iff.1 hhead
    exact hbrace rest hrest

theorem found_addDeclaration (s : Scan) (text : List Char) :
    (∃ d, s.outer ≠ [] ∧ Declaration.parse? text = some d ∧
        (s.addDeclaration text).found = s.found ++ [⟨s.heads, .declaration d⟩]) ∨
      (s.addDeclaration text).found = s.found := by
  unfold addDeclaration
  split
  · rename_i d b outer hparse houter
    exact .inl ⟨d, by simp [houter], hparse, found_add_of_leaf rfl s⟩
  · exact .inr rfl

/-- A step finds one node or none, and leaves what was found before. -/
theorem Step.found_eq (h : s.Step t) :
    t.found = s.found ∨ ∃ v, s.Finds v ∧ t.found = s.found ++ [v] := by
  cases h with
  | close hs => exact .inl (found_closeBlock s.skipSeparators)
  | @atRule text hs =>
    unfold readAtRule
    rcases found_afterText s.skipSeparators _ _ _ _ with ⟨rest, hrest, hfound⟩ | ⟨hrest, hfound⟩
    · exact .inr ⟨_, .block hs (Prod.ext rfl hrest), hfound⟩
    · exact .inr ⟨_, .statement hs rfl hrest, hfound.trans (found_add_of_leaf rfl _)⟩
  | @item c cs hs hbrace hat =>
    have hat : s.skipSeparators.rest.head? ≠ some '@' := by simpa [hs] using hat
    unfold readItem
    rcases found_afterText s.skipSeparators _ _ _ _ with ⟨rest, hrest, hfound⟩ | ⟨hrest, hfound⟩
    · exact .inr ⟨_, .rule hat (Prod.ext rfl hrest), hfound⟩
    · rcases found_addDeclaration s.skipSeparators _ with ⟨d, hopen, hparse, hadd⟩ | hadd
      · exact .inr ⟨_, .declaration hat rfl hrest hopen hparse, hfound.trans hadd⟩
      · exact .inl (hfound.trans hadd)

/-! ### What a scan finds -/

/-- The walk through the tree of a scan goes on from what has been found with what the steps to come
find, in their order. -/
theorem exists_finds (s : Scan) : ∃ finds : List (Scan × Visit),
    (finds.map Prod.fst).Sublist s.trace ∧ (∀ p ∈ finds, p.1.Finds p.2) ∧
      (visitsOf [] s.run).map Visit.bare = s.found ++ finds.map Prod.snd := by
  fun_induction run s with
  | case1 s h => exact ⟨[], List.nil_sublist _, by simp, (List.append_nil _).symm⟩
  | case2 s t h hlt ih =>
    obtain ⟨finds, hsub, hfinds, hrun⟩ := ih
    rw [trace_of_step? h]
    rcases (step_of_step? h).found_eq with hfound | ⟨v, hv, hfound⟩
    · exact ⟨finds, hsub.cons s, hfinds, by rw [hrun, hfound]⟩
    · refine ⟨(s, v) :: finds, hsub.cons_cons s, List.forall_mem_cons.2 ⟨hv, hfinds⟩, ?_⟩
      rw [hrun, hfound, List.append_assoc, List.singleton_append, List.map_cons]

/-! ### Where the steps of a scan begin -/

theorem skipSeparators_skipSeparators (s : Scan) :
    s.skipSeparators.skipSeparators = s.skipSeparators := by
  have hdrop : (s.rest.dropWhile isSeparator).dropWhile isSeparator =
      s.rest.dropWhile isSeparator := List.dropWhile_idempotent ..
  have htake : (s.rest.dropWhile isSeparator).takeWhile isSeparator = [] := by
    have happ := List.takeWhile_append_dropWhile (p := isSeparator)
      (l := s.rest.dropWhile isSeparator)
    rw [hdrop] at happ
    exact List.append_left_eq_self.1 happ
  simp only [skipSeparators, moveOver, hdrop, htake, Position.afterAll_nil]

/-- A step takes something from where it begins to read. -/
theorem exists_taken_of_step? (h : s.step? = some t) :
    ∃ taken, taken ≠ [] ∧ t.place = s.skipSeparators.place.afterAll taken := by
  have hskip : s.skipSeparators.step? = some t := by
    rw [step?, skipSeparators_skipSeparators, ← step?, h]
  obtain ⟨taken, hrest, hplace⟩ := follows_step? hskip
  refine ⟨taken, ?_, hplace⟩
  rintro rfl
  have hlt := rest_step?_length_lt hskip
  rw [hrest, List.nil_append] at hlt
  omega

theorem follows_of_mem_trace (h : u ∈ s.trace) : u.Follows s := by
  fun_induction trace s with
  | case1 s hs =>
    obtain rfl := List.mem_singleton.1 h
    exact .refl u
  | case2 s t hs hlt ih =>
    rcases List.mem_cons.1 h with rfl | h
    · exact .refl u
    · exact (ih h).trans (follows_step? hs)

/-- Each step of a scan begins at a later position than the steps before it. -/
theorem pairwise_precedes_trace (s : Scan) :
    s.trace.Pairwise fun u v => u.skipSeparators.place.Precedes v.skipSeparators.place := by
  fun_induction trace s with
  | case1 s hs => exact List.pairwise_singleton ..
  | case2 s t hs hlt ih =>
    refine List.pairwise_cons.2 ⟨fun v hv => ?_, ih⟩
    obtain ⟨taken, hne, hplace⟩ := exists_taken_of_step? hs
    obtain ⟨more, -, hmore⟩ := (follows_skipSeparators v).trans (follows_of_mem_trace hv)
    rw [hmore, hplace, ← Position.afterAll_append]
    exact Position.precedes_afterAll _ (List.append_ne_nil_of_left_ne_nil hne more)

end Scan

/-! ### Texts -/

/-- Visits in the order of the source: each node is one that a step of a scan of the text finds, and
the step begins at a later position than the steps that find the nodes before. -/
def InSourceOrder (text : List Char) (visits : List Visit) : Prop :=
  ∃ finds : List (Scan × Visit), visits.map Visit.bare = finds.map Prod.snd ∧
    (∀ p ∈ finds, p.1.Follows (.start text) ∧ p.1.Finds p.2) ∧
    finds.Pairwise fun p q => p.1.skipSeparators.place.Precedes q.1.skipSeparators.place

/-- The walk through the tree of a text goes along the text. -/
theorem inSourceOrder_visitsOf_scan (text : List Char) :
    InSourceOrder text (visitsOf [] (scan text)) := by
  obtain ⟨finds, hsub, hfinds, hrun⟩ := (Scan.start text).exists_finds
  have hstart : (Scan.start text).found = [] := by
    rw [Scan.found, Scan.finish, Scan.start, Scan.closeAll]
    simp
  rw [hstart, List.nil_append] at hrun
  have hplaces := (Scan.pairwise_precedes_trace (.start text)).sublist hsub
  rw [List.pairwise_map] at hplaces
  refine ⟨finds, hrun, fun p hp => ⟨?_, hfinds p hp⟩, hplaces⟩
  exact Scan.follows_of_mem_trace (hsub.mem (List.mem_map_of_mem hp))

theorem InSourceOrder.exists_finds {text : List Char} {visits : List Visit}
    (h : InSourceOrder text visits) {v : Visit} (hv : v ∈ visits) :
    ∃ s : Scan, s.Follows (.start text) ∧ s.Finds v.bare := by
  obtain ⟨finds, heq, hfinds, -⟩ := h
  obtain ⟨p, hp, hbare⟩ := List.mem_map.1 (heq ▸ List.mem_map_of_mem hv)
  exact ⟨p.1, (hfinds p hp).1, hbare ▸ (hfinds p hp).2⟩

end StyleGauge.Stylesheet
