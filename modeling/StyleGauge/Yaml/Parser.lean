import StyleGauge.Yaml.Scalar
import StyleGauge.Yaml.Text

/-!
# Reading YAML

A reader by recursive descent for one document of mappings, lists and scalars, both in block
notation, where the columns tell what belongs together, and between brackets. Tags, anchors and
other notations are refused. Keys are read as texts; of a key that stands twice the last value
counts, at the place of the first.
-/

namespace StyleGauge.Yaml

/-- A value that has been read. -/
structure Read where
  value : Json
  /-- Whether a scalar goes over a line end. -/
  crossed : Bool
  /-- The next place where a token may stand. -/
  next : Cursor

/-- Holds of the characters that a document may hold. -/
def isAllowed (c : Char) : Bool :=
  let n := c.toNat
  c == '\t' || c == '\n' || c == '\r' || (0x20 ≤ n && n ≤ 0x7E) || n == 0x85 ||
    (0xA0 ≤ n && n ≤ 0xD7FF) || (0xE000 ≤ n && n ≤ 0xFFFD) || 0x10000 ≤ n

/-- How far the colon of a key may stand from where the key starts. -/
def keyReach : Nat := 1024

/-- The text of a key; lists and mappings are none. -/
def keyText? : Json → Option String
  | .null => some "null"
  | .bool b => some (if b then "true" else "false")
  | .number n => some n.text
  | .string s => some s
  | .array _ => none
  | .object _ => none

/-- The scalar at a place. -/
def scalar? (flow : Bool) (least : Nat) (cur : Cursor) : Option Read :=
  match cur.rest with
  | [] => none
  | c :: rest =>
    if c == '"' || c == '\'' then
      (quoted cur).map fun s => ⟨.string (String.ofList s.text), s.crossed, s.after.skip⟩
    else if startsPlain flow c rest then
      let s := plain flow least cur
      (Scalar.ofPlain? s.text).map fun value => ⟨value, s.crossed, s.after.skip⟩
    else none

/-- Whether what has been read from a place on is a key: it stands on one line with its colon, not
too far from it. -/
def isKey (start : Cursor) (r : Read) : Bool :=
  !r.crossed && !r.next.fresh && start.rest.length ≤ r.next.rest.length + keyReach

/-- The key at a place, and the place after its colon. -/
def key? (cur : Cursor) : Option (String × Cursor) := do
  let r ← scalar? false 0 cur
  if r.next.isAtColon false && isKey cur r then
    return (← keyText? r.value, r.next.pass 1)
  else none

/-! ### Between brackets -/

/-- An item between brackets: a value, and a second one if a colon follows. -/
structure Entry where
  value : Json
  second : Option Json
  next : Cursor

/-- The value of an item in a list. A key with a value is a mapping of its own. -/
def Entry.item? (e : Entry) : Option Json :=
  match e.second with
  | none => some e.value
  | some v => (keyText? e.value).map fun key => .object [(key, v)]

/-- The field of a mapping that an item is. A key alone has a null value. -/
def Entry.field? (e : Entry) : Option (String × Json) :=
  (keyText? e.value).map fun key => (key, e.second.getD .null)

mutual

/-- A value between brackets. -/
def flowNode? : Nat → Cursor → Option Read
  | 0, _ => none
  | fuel + 1, cur =>
    if cur.isOver then none
    else
      match cur.rest with
      | '[' :: _ => do
        let (entries, after) ← flowEntries? fuel ']' (cur.pass 1).skip
        return ⟨.array (← entries.mapM Entry.item?), false, after.skip⟩
      | '\x7b' :: _ => do
        let (entries, after) ← flowEntries? fuel '\x7d' (cur.pass 1).skip
        return ⟨.object (Json.setFields [] (← entries.mapM Entry.field?)), false, after.skip⟩
      | _ => scalar? true 0 cur

/-- An item between brackets. -/
def flowEntry? : Nat → Cursor → Option Entry
  | 0, _ => none
  | fuel + 1, cur => do
    let r ← flowNode? fuel cur
    if !r.next.isAtColon true then return ⟨r.value, none, r.next⟩
    else if !isKey cur r then none
    else
      let place := (r.next.pass 1).skip
      match place.rest with
      | ',' :: _ | ']' :: _ | '\x7d' :: _ => return ⟨r.value, some .null, place⟩
      | _ =>
        let second ← flowNode? fuel place
        return ⟨r.value, some second.value, second.next⟩

/-- The items up to a closing bracket, and the place after it. -/
def flowEntries? : Nat → Char → Cursor → Option (List Entry × Cursor)
  | 0, _, _ => none
  | fuel + 1, close, cur =>
    if cur.rest.head? == some close then some ([], cur.pass 1)
    else do
      let e ← flowEntry? fuel cur
      match e.next.rest with
      | c :: _ =>
        if c == close then return ([e], e.next.pass 1)
        else if c == ',' then
          let (more, after) ← flowEntries? fuel close (e.next.pass 1).skip
          return (e :: more, after)
        else none
      | [] => none

end

/-! ### Blocks -/

/-- Whether a block that starts at a column ends before a place: the document is over, or a line
starts further to the left. -/
def endsBlock (column : Nat) (next : Cursor) : Bool :=
  next.isOver || (next.fresh && next.column < column)

/-- Whether a block that starts at a column goes on at a place. -/
def goesOn (column : Nat) (next : Cursor) : Bool :=
  next.fresh && next.column == column

mutual

/-- A value in block notation, and the next place. Further lines of a plain scalar start at the
least column or further to the right. A mapping or a list may start here only if `nested`. -/
def node? : Nat → Nat → Bool → Cursor → Option (Json × Cursor)
  | 0, _, _, _ => none
  | fuel + 1, least, nested, cur =>
    if cur.isAtDash then
      if nested then do
        let (items, next) ← items? fuel false cur.column cur
        return (.array items, next)
      else none
    else
      match cur.rest with
      | '[' :: _ | '\x7b' :: _ => (flowNode? fuel cur).map fun r => (r.value, r.next)
      | _ =>
        match key? cur with
        | some (key, after) =>
          if nested then do
            let (fields, next) ← fields? fuel cur.column key after
            return (.object (Json.setFields [] fields), next)
          else none
        | none => do
          let r ← scalar? false least cur
          if r.next.isAtColon false then none else return (r.value, r.next)

/-- The items of a list whose dashes stand at a column, from a dash on. A list that is the value of
a key at the same column ends where a line does not start with a dash. -/
def items? : Nat → Bool → Nat → Cursor → Option (List Json × Cursor)
  | 0, _, _, _ => none
  | fuel + 1, underKey, column, cur => do
    let place := (cur.pass 1).skip
    let (item, next) ←
      if !place.isOver && (!place.fresh || column < place.column) then
        node? fuel (column + 1) true place
      else some (.null, place)
    if endsBlock column next then return ([item], next)
    else if goesOn column next && next.isAtDash then
      let (more, last) ← items? fuel underKey column next
      return (item :: more, last)
    else if goesOn column next && underKey then return ([item], next)
    else none

/-- The fields of a mapping whose keys stand at a column, from the value of a key on. -/
def fields? : Nat → Nat → String → Cursor → Option (List (String × Json) × Cursor)
  | 0, _, _, _ => none
  | fuel + 1, column, key, cur => do
    let place := cur.skip
    let (value, next) ←
      if place.isOver then some (.null, place)
      else if !place.fresh then node? fuel (column + 1) false place
      else if column < place.column then node? fuel (column + 1) true place
      else if place.column == column && place.isAtDash then
        (items? fuel true column place).map fun (items, next) => (.array items, next)
      else some (.null, place)
    if endsBlock column next then return ([(key, value)], next)
    else if goesOn column next then
      let (nextKey, after) ← key? next
      let (more, last) ← fields? fuel column nextKey after
      return ((key, value) :: more, last)
    else none

end

/-! ### Documents -/

/-- Whether nothing follows a document but marks of its end. -/
def isClosed : Nat → Cursor → Bool
  | 0, _ => false
  | fuel + 1, cur =>
    cur.rest.isEmpty || (cur.isAtMark endMark && isClosed fuel (cur.pass endMark.length).skip)

/-- How many steps are enough for a text: every step but a few reads a character. -/
def enoughSteps (cs : List Char) : Nat :=
  4 * cs.length + 16

/-- The value of a document and the place after it, from where its first token may stand. -/
def document? (fuel : Nat) (cur : Cursor) : Option (Json × Cursor) :=
  if cur.rest.isEmpty then some (.null, cur)
  else if cur.isAtMark endMark then none
  else if cur.isAtMark startMark then
    let place := (cur.pass startMark.length).skip
    if place.isOver then some (.null, place) else node? fuel 0 place.fresh place
  else node? fuel 0 true cur

/-- The value that a text stands for, if it is one document. -/
def parse? (text : String) : Option Json :=
  let cs := text.toList
  let body := if cs.head? == some '\ufeff' then cs.tail else cs
  let fuel := enoughSteps body
  if cs.all isAllowed then
    match document? fuel (Cursor.skip ⟨body, 0, true⟩) with
    | some (value, next) => if isClosed fuel next then some value else none
    | none => none
  else none

end StyleGauge.Yaml
