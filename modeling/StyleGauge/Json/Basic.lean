import StyleGauge.Number.Basic
import StyleGauge.Text.Quoted

/-!
# JSON values

Values as they are read from configuration files and written into reports. An object keeps its
fields in order, and no key stands twice in what the readers give. A number keeps the difference
between an integer and a floating point number.
-/

namespace StyleGauge

/-- A JSON value. -/
inductive Json where
  | null
  | bool (value : Bool)
  | number (value : Number)
  | string (value : String)
  | array (items : List Json)
  | object (fields : List (String × Json))
  deriving Inhabited

namespace Json

/-- The fields of an object; any other value has none. -/
def fields : Json → List (String × Json)
  | object fs => fs
  | _ => []

/-- The value of a key. -/
def get? (key : String) (value : Json) : Option Json :=
  value.fields.lookup key

/-- The fields with one of them set: in its place if the key is there, else at the end. -/
def setField (key : String) (value : Json) : List (String × Json) → List (String × Json)
  | [] => [(key, value)]
  | f :: fs => if f.1 = key then (key, value) :: fs else f :: setField key value fs

/-- The fields with those of a second list set in turn. -/
def setFields (fs others : List (String × Json)) : List (String × Json) :=
  others.foldl (fun fs f => setField f.1 f.2 fs) fs

/-- Whether a value counts as nothing given: null, false, zero and everything empty. -/
def isEmpty : Json → Bool
  | null => true
  | bool b => !b
  | number n => n.eq 0
  | string s => s.isEmpty
  | array items => items.isEmpty
  | object fs => fs.isEmpty

/-- The word for the kind of a value. -/
def kind : Json → String
  | null => "NoneType"
  | bool _ => "bool"
  | number (.int _) => "int"
  | number (.float _) => "float"
  | string _ => "str"
  | array _ => "list"
  | object _ => "dict"

/-- The integer that a value is; a floating point number is none. -/
def int? : Json → Option Int
  | number (.int n) => some n
  | _ => none

/-- The truth value that a value is. -/
def bool? : Json → Option Bool
  | bool b => some b
  | _ => none

/-- The text that a value is. -/
def string? : Json → Option String
  | string s => some s
  | _ => none

/-- An integer as a value. -/
def ofInt (n : Int) : Json :=
  number (.int n)

/-- A list of texts as a value. -/
def ofStrings (texts : List String) : Json :=
  array (texts.map string)

@[simp] theorem get?_object (key : String) (fs : List (String × Json)) :
    (object fs).get? key = fs.lookup key := rfl

/-! ### Values in messages -/

mutual

/-- A value as a message shows it. -/
def shown : Json → String
  | null => "None"
  | bool b => if b then "True" else "False"
  | number n => n.text
  | string s => Text.quoted s
  | array items => "[" ++ ", ".intercalate (shownItems items) ++ "]"
  | object fs => "\x7b" ++ ", ".intercalate (shownFields fs) ++ "\x7d"

/-- The items of a list as a message shows them. -/
def shownItems : List Json → List String
  | [] => []
  | item :: items => shown item :: shownItems items

/-- The fields of an object as a message shows them. -/
def shownFields : List (String × Json) → List String
  | [] => []
  | (key, value) :: fs => (Text.quoted key ++ ": " ++ shown value) :: shownFields fs

end

end Json

end StyleGauge
