import StyleGauge.Proofs.Stylesheet.Locality
import StyleGauge.Stylesheet.Basic

/-!
# Closing braces at the end

Blocks that are open at the end are closed there, and braces that close nothing are skipped. So it
does not matter how many closing braces a text ends with, as long as none of them stands in a
string, in brackets or in a comment that the text leaves open, or is escaped.
-/

namespace StyleGauge.Stylesheet

open Text (Nesting)

/-- A text behind which a closing brace counts: it leaves no comment open, and a read that goes to
its end leaves no string, bracket or escape open. Blocks may be left open, and so may the text
before a block or a declaration. -/
structure Closable (text : List Char) : Prop where
  code : modeAfter .code text = .code
  isTop : ∀ read ∈ (Scan.start (withoutComments text)).reads,
    (readUntil .start read).2 = [] → (Nesting.start.advanceAll .oneLine read).isTop = true

instance (text : List Char) : Decidable (Closable text) :=
  decidable_of_iff
    (modeAfter .code text = .code ∧
      ∀ read ∈ (Scan.start (withoutComments text)).reads,
        (readUntil .start read).2 = [] → (Nesting.start.advanceAll .oneLine read).isTop = true)
    ⟨fun ⟨h₁, h₂⟩ => ⟨h₁, h₂⟩, fun ⟨h₁, h₂⟩ => ⟨h₁, h₂⟩⟩

/-- Every read of the text is the same with braces behind it. -/
theorem Closable.readsAlike {text : List Char} (h : Closable text) (k : Nat) :
    ∀ read ∈ (Scan.start (withoutComments text)).reads, ReadsAlike read (List.replicate k '}') := by
  intro read hread
  by_cases hstop : (readUntil .start read).2 = []
  · refine .inr ⟨h.isTop read hread hstop, fun c hc => ?_⟩
    exact List.eq_of_mem_replicate (List.mem_of_mem_head? hc)
  · exact .inl hstop

theorem withoutComments_replicate (k : Nat) :
    withoutComments (List.replicate k '}') = List.replicate k '}' := by
  refine withoutComments_eq_self fun h => ?_
  have hslash : '/' ∈ List.replicate k '}' := h.subset List.mem_cons_self
  exact absurd (List.eq_of_mem_replicate hslash) (by decide)

theorem Closable.withoutComments_append {text : List Char} (h : Closable text) (k : Nat) :
    withoutComments (text ++ List.replicate k '}') =
      withoutComments text ++ List.replicate k '}' := by
  have hborder : NoCommentBetween (withoutComments text) (List.replicate k '}') := by
    intro _ hstar
    exact absurd (List.eq_of_mem_replicate (List.mem_of_mem_head? hstar)) (by decide)
  rw [Stylesheet.withoutComments_append h.code hborder, withoutComments_replicate]

namespace Scan

/-- A block that is closed by a brace is the block that the end would close. -/
theorem finish_closeBlock (s : Scan) : s.closeBlock.finish = s.finish := by
  obtain ⟨outer, nodes, place, rest⟩ := s
  cases outer with
  | nil => rfl
  | cons b outer => rfl

/-- Braces at the end make no difference, however many blocks are open. -/
theorem run_eq_finish_of_replicate {s : Scan} {k : Nat} (hs : s.rest = List.replicate k '}') :
    s.run = s.finish := by
  induction k generalizing s with
  | zero =>
    refine run_of_step?_eq_none (step?_eq_none_iff.2 ?_)
    rw [skipSeparators, hs]
    rfl
  | succ k ih =>
    rw [List.replicate_succ] at hs
    rw [run_closing hs, ih rfl]
    exact finish_closeBlock s

end Scan

theorem Closable.scan_append {text : List Char} (h : Closable text) (k : Nat) :
    scan (withoutComments text ++ List.replicate k '}') = scan (withoutComments text) := by
  calc scan (withoutComments text ++ List.replicate k '}')
    _ = ((Scan.start (withoutComments text)).followedBy (List.replicate k '}')).run := rfl
    _ = ((Scan.start (withoutComments text)).last.moveOver
          (Scan.start (withoutComments text)).last.rest (List.replicate k '}')).run :=
      Scan.run_followedBy_eq (h.readsAlike k)
    _ = (Scan.start (withoutComments text)).last.finish := Scan.run_eq_finish_of_replicate rfl
    _ = scan (withoutComments text) := (Scan.run_eq_finish_last _).symm

/-- Closing braces at the end of a text change nothing, whether they close a block or not. -/
theorem ofText_append_braces {text : String} (h : Closable text.toList) (k : Nat) (file : String) :
    ofText (text ++ String.ofList (List.replicate k '}')) file = ofText text file := by
  have htext : withoutComments (text ++ String.ofList (List.replicate k '}')).toList =
      withoutComments text.toList ++ List.replicate k '}' := by
    rw [String.toList_append, String.toList_ofList]
    exact h.withoutComments_append k
  rw [ofText, ofText, htext, h.scan_append k]

/-- Three blocks are open, and so is a declaration; the last two of five braces close nothing. -/
theorem ofText_append_braces_openBlocks :
    let text := "@layer base \x7b @media x\x7b a:not([b=\"\x7d\"]) \x7b c: d; e: f /* \x7d */"
    Closable text.toList ∧
      ofText (text ++ String.ofList (List.replicate 5 '}')) = ofText text := by
  intro text
  have hclosable : Closable text.toList := by decide +kernel
  exact ⟨hclosable, ofText_append_braces hclosable 5 defaultFile⟩

end StyleGauge.Stylesheet
