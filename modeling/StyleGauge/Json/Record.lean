import StyleGauge.Json.Basic

/-!
# Records in JSON

Objects with known fields. Fields are read one after the other, and the first that does not fit
says why.
-/

namespace StyleGauge.Json

/-- Why a value is not the record that is expected. -/
inductive Misfit where
  /-- A field is missing. -/
  | missing (key : String)
  /-- A value is not a member of a kind of names. -/
  | notMember (value : Json) (kind : String)
  /-- The value of a field is of another kind than the field. -/
  | wrongKind (key : String)

/-- The text of a misfit. -/
def Misfit.message : Misfit → String
  | missing key => Text.quoted key
  | notMember value kind => s!"{value.shown} is not a valid {kind}"
  | wrongKind key => "unexpected kind of value: " ++ Text.quoted key

/-- The value of a field. -/
def field (key : String) (j : Json) : Except Misfit Json :=
  match j.get? key with
  | some value => .ok value
  | none => .error (.missing key)

/-- A value seen as one of a certain kind. -/
def expect {α : Type} (key : String) (view? : Json → Option α) (value : Json) : Except Misfit α :=
  match view? value with
  | some a => .ok a
  | none => .error (.wrongKind key)

/-- The number that a value is. -/
def number? : Json → Option Number
  | number n => some n
  | _ => none

/-- The items that a value has. -/
def items? : Json → Option (List Json)
  | array items => some items
  | _ => none

/-- A field that has to be there. -/
def required {α : Type} (key : String) (view? : Json → Option α) (j : Json) : Except Misfit α := do
  expect key view? (← j.field key)

/-- A field that may be missing or null. -/
def optional {α : Type} (key : String) (view? : Json → Option α) (j : Json) :
    Except Misfit (Option α) :=
  match j.get? key with
  | none | some null => .ok none
  | some value => some <$> expect key view? value

/-- A field that has a default where it is missing. -/
def withDefault {α : Type} (key : String) (default : α) (view? : Json → Option α) (j : Json) :
    Except Misfit α :=
  match j.get? key with
  | none => .ok default
  | some value => expect key view? value

/-- The items of a field, none where it is missing, each read in turn. -/
def listOf {α : Type} (key : String) (read : Json → Except Misfit α) (j : Json) :
    Except Misfit (List α) := do
  (← j.withDefault key [] items?).mapM read

/-- A field that is written only if it is set. -/
def setIfSome {α : Type} (key : String) (write : α → Json) : Option α → List (String × Json)
  | none => []
  | some a => [(key, write a)]

end StyleGauge.Json
