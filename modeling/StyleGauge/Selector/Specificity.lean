import StyleGauge.Number.Basic

/-!
# Specificity

How strongly a selector binds in the cascade: the count of its ids, of its classes, and of its
elements. Averages have fractional components, so a component is any number.
-/

namespace StyleGauge

open Number (Fault)

/-- The three counts that decide which rule wins, ids first. -/
structure Specificity where
  /-- Id selectors. -/
  ids : Number := 0
  /-- Class, attribute and pseudo-class selectors. -/
  classes : Number := 0
  /-- Type selectors and pseudo-elements. -/
  elements : Number := 0
  deriving DecidableEq, Repr, Inhabited

namespace Specificity

/-- The specificity of no selector. -/
def zero : Specificity := {}

/-- The specificity of whole counts. -/
def ofCounts (ids classes elements : Nat) : Specificity :=
  ⟨.ofNat ids, .ofNat classes, .ofNat elements⟩

/-- One number for ranking and for thresholds: an id weighs a hundred, a class ten. -/
def score (s : Specificity) : Except Fault Number := do
  let ids ← s.ids.mul 100
  let classes ← s.classes.mul 10
  (← ids.add classes).add s.elements

/-- Positive if `a` wins over `b`, negative if it loses: the first components that differ decide,
whatever the scores are. -/
def compare (a b : Specificity) : Except Fault Number :=
  if !a.ids.eq b.ids then a.ids.sub b.ids
  else if !a.classes.eq b.classes then a.classes.sub b.classes
  else a.elements.sub b.elements

/-- The greatest specificity of a list, the first of equal ones; that of no selector if the list
is empty. -/
def maximum : List Specificity → Except Fault Specificity
  | [] => .ok zero
  | s :: rest =>
    rest.foldlM (fun best t => do return if (0 : Number).lt (← t.compare best) then t else best) s

/-- The mean of each component, rounded to two places. -/
def average (specificities : List Specificity) : Except Fault Specificity :=
  if specificities.isEmpty then .ok zero
  else do
    let component (get : Specificity → Number) : Except Fault Number := do
      (← Number.average (specificities.map get)).roundHalfUp 2
    return ⟨← component ids, ← component classes, ← component elements⟩

/-- The three components, separated by commas. -/
def text (s : Specificity) : String :=
  s.ids.text ++ "," ++ s.classes.text ++ "," ++ s.elements.text

@[simp] theorem score_ofCounts (i c e : Nat) :
    (ofCounts i c e).score = .ok (.int (100 * i + 10 * c + e)) := by
  simp only [score, ofCounts, Number.ofNat]
  show Except.ok (Number.int (_ * 100 + _ * 10 + _)) = _
  rw [Int.mul_comm (i : Int), Int.mul_comm (c : Int)]

end Specificity

end StyleGauge
