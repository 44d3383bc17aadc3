import StyleGauge.Proofs.Stylesheet.Settled

/-!
# Stylesheets one after the other

What is wrong with a stylesheet stays within it if the stylesheet leaves nothing open: a stylesheet
that is put behind a settled one has the rules that it has alone, so many characters further on.
-/

namespace StyleGauge.Stylesheet

open Text (Position)

/-! ### Trees -/

/-- Behind a settled text, a scan goes on at the top level. -/
theorem Settled.scan_append {text : List Char} (h : Settled text) (more : List Char) :
    scan (withoutComments text ++ more) =
      (Scan.mk [] (scan (withoutComments text)).reverse
        (Position.start.afterAll (withoutComments text)) more).run := by
  have hclosed : (Scan.start (withoutComments text)).last.outer = [] :=
    List.isEmpty_iff.1 h.closed
  have hnodes : (scan (withoutComments text)).reverse =
      (Scan.start (withoutComments text)).last.nodes := by
    rw [scan, Scan.run_eq_finish_last, Scan.finish, hclosed, Scan.closeAll, List.reverse_reverse]
  have hplace := Scan.afterAll_rest_last (Scan.start (withoutComments text))
  calc scan (withoutComments text ++ more)
    _ = ((Scan.start (withoutComments text)).followedBy more).run := rfl
    _ = ((Scan.start (withoutComments text)).last.moveOver
          (Scan.start (withoutComments text)).last.rest more).run :=
      Scan.run_followedBy_eq (h.readsAlike more)
    _ = _ := by
      rw [Scan.moveOver, hplace, hclosed, hnodes]
      rfl

/-- The rules and the layers of a text behind a settled one. -/
theorem Settled.tree_append {text : List Char} (h : Settled text) (more : List Char) :
    (∀ layer, rulesOf layer (scan (withoutComments text ++ more)) =
      rulesOf layer (scan (withoutComments text)) ++
        (rulesOf layer (scan more)).map (FlatRule.mapPlace
          (placeIn (withoutComments text ++ more) (withoutComments text).length))) ∧
      layerParamsOf (scan (withoutComments text ++ more)) =
        layerParamsOf (scan (withoutComments text)) ++ layerParamsOf (scan more) := by
  -- what follows the settled text is scanned behind its nodes, which stay below
  obtain ⟨⟨-, -, hstack⟩, -⟩ := within_scan (withoutComments text) more []
    (scan (withoutComments text)).reverse [] (.inl rfl)
  obtain ⟨own, hrun, hown⟩ := hstack.closeAll
  rw [List.append_nil] at hown
  have hrun : scan (withoutComments text ++ more) = scan (withoutComments text) ++ own.reverse := by
    rw [h.scan_append more, Scan.run_eq_finish_last]
    refine hrun.trans ?_
    rw [Scan.closeAll, List.reverse_append, List.reverse_reverse]
  have hown : mapPlacesAll (placeIn (withoutComments text ++ more) (withoutComments text).length)
      (scan more) = withoutDeclarations own.reverse := by
    rw [scan, Scan.run_eq_finish_last, Scan.finish, Scan.mapPlacesAll_closeAll]
    exact hown
  constructor
  · intro layer
    rw [hrun, rulesOf_append, ← rulesOf_mapPlacesAll, hown, rulesOf_withoutDeclarations]
  · rw [hrun, layerParamsOf_append, ← layerParamsOf_mapPlacesAll (scan more), hown,
      layerParamsOf_withoutDeclarations]

/-! ### Stylesheets -/

/-- A stylesheet behind a settled one keeps its rules, its layers, and whether it uses layers. -/
theorem ofText_append_of_settled {before : String} (h : Settled before.toList)
    (text file : String) :
    (∃ later, (ofText (before ++ text) file).rules = (ofText before file).rules ++ later ∧
        List.Forall₂ (Rule.IsShifted text.toList (before ++ text).toList before.length)
          (ofText text file).rules later) ∧
      (ofText (before ++ text) file).layers = (ofText before file).layers ++
        (ofText text file).layers.filter (· ∉ (ofText before file).layers) ∧
      (ofText (before ++ text) file).usesLayers =
        ((ofText before file).usesLayers || (ofText text file).usesLayers) := by
  have htext : withoutComments (before ++ text).toList =
      withoutComments before.toList ++ withoutComments text.toList := by
    rw [String.toList_append]
    exact h.withoutComments_append _
  have hlength : (withoutComments before.toList).length = before.length := by
    rw [withoutComments, blankComments_length, String.length_toList]
  obtain ⟨hrules, hparams⟩ := h.tree_append (withoutComments text.toList)
  rw [← htext] at hrules hparams
  have hshift := forall₂_rules_isShifted text file (before ++ text).toList before.length
  refine ⟨⟨_, ?_, hshift⟩, ?_, ?_⟩
  · show (rulesOf none _).filterMap _ = _
    rw [hrules, List.filterMap_append, hlength]
    rfl
  · show Listing.distinct (List.flatMap layerNames (layerParamsOf _)) = _
    rw [hparams, List.flatMap_append, Listing.distinct_append]
    simp only [ofText, ofTree, Listing.mem_distinct]
  · show (!(layerParamsOf _).isEmpty) = (!(layerParamsOf _).isEmpty || _)
    rw [hparams]
    cases layerParamsOf (scan (withoutComments before.toList)) with
    | nil => rfl
    | cons params more => rfl

/-- Stray braces, a comment and an unknown at-rule come first; an open block and layers, one of them
known already, come behind. -/
theorem ofText_append_of_settled_strayBraces :
    let before := "\x7d a\x7bcolor:red\x7d /* \x7b */ \x7d @x y; @layer base, one;"
    let text := "@layer base\x7b b\x7bcolor:blue\x7d \x7d @layer two, one; c\x7b"
    Settled before.toList ∧
      (∃ later, (ofText (before ++ text)).rules = (ofText before).rules ++ later ∧
        List.Forall₂ (Rule.IsShifted text.toList (before ++ text).toList before.length)
          (ofText text).rules later) ∧
      (ofText (before ++ text)).layers = ["base", "one", "two"] ∧
      (ofText (before ++ text)).usesLayers = true := by
  intro before text
  have hsettled : Settled before.toList := by decide +kernel
  have hlayers : (ofText before).layers = ["base", "one"] := by decide +kernel
  have hlayers' : (ofText text).layers = ["base", "two", "one"] := by decide +kernel
  have huses : (ofText before).usesLayers = true := by decide +kernel
  obtain ⟨hrules, hboth, huses'⟩ := ofText_append_of_settled hsettled text defaultFile
  refine ⟨hsettled, hrules, ?_, ?_⟩
  · rw [hboth, hlayers, hlayers']
    decide
  · rw [huses', huses]
    rfl

end StyleGauge.Stylesheet
