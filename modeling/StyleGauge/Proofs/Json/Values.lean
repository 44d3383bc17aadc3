import StyleGauge.Proofs.Json.Numeral
import StyleGauge.Proofs.Json.Strings

/-!
# Values read back

The text of a value is read as that value, in every layout: `parse_render`. What it takes is that no
key of an object stands twice and that floating point numbers are written as the format has them.
-/

namespace StyleGauge.Json

/-- No key of an object stands twice, and every number is one that reading can give. -/
inductive IsWellFormed : Json → Prop where
  | null : IsWellFormed null
  | bool (b : Bool) : IsWellFormed (bool b)
  | number {n : Number} (hn : n.IsCanonical) : IsWellFormed (number n)
  | string (s : String) : IsWellFormed (string s)
  | array {items : List Json} (hitems : ∀ item ∈ items, IsWellFormed item) :
    IsWellFormed (array items)
  | object {fs : List (String × Json)} (hkeys : (fs.map Prod.fst).Nodup)
    (hvalues : ∀ f ∈ fs, IsWellFormed f.2) : IsWellFormed (object fs)

@[simp] theorem isWellFormed_number_iff {n : Number} : (number n).IsWellFormed ↔ n.IsCanonical :=
  ⟨fun | .number hn => hn, .number⟩

@[simp] theorem isWellFormed_ofInt (n : Int) : (ofInt n).IsWellFormed :=
  .number (n := .int n) trivial

@[simp] theorem isWellFormed_string (s : String) : (string s).IsWellFormed :=
  .string s

@[simp] theorem isWellFormed_array_iff {items : List Json} :
    (array items).IsWellFormed ↔ ∀ item ∈ items, item.IsWellFormed :=
  ⟨fun | .array hitems => hitems, .array⟩

@[simp] theorem isWellFormed_object_iff {fs : List (String × Json)} :
    (object fs).IsWellFormed ↔ (fs.map Prod.fst).Nodup ∧ ∀ f ∈ fs, f.2.IsWellFormed :=
  ⟨fun | .object hkeys hvalues => ⟨hkeys, hvalues⟩, fun h => .object h.1 h.2⟩

/-! ### Fields -/

theorem setField_of_notMem {key : String} {fs : List (String × Json)}
    (h : key ∉ fs.map Prod.fst) (value : Json) : setField key value fs = fs ++ [(key, value)] := by
  induction fs with
  | nil => rfl
  | cons f fs ih =>
    rw [List.map_cons, List.mem_cons, not_or] at h
    rw [setField, if_neg (Ne.symm h.1), ih h.2, List.cons_append]

/-- Fields with different keys are set one after the other. -/
theorem setFields_of_nodup {fs others : List (String × Json)}
    (h : ((fs ++ others).map Prod.fst).Nodup) : setFields fs others = fs ++ others := by
  induction others generalizing fs with
  | nil => exact (List.append_nil fs).symm
  | cons f others ih =>
    have hnotMem : f.1 ∉ fs.map Prod.fst := by
      rw [List.map_append, List.map_cons, List.nodup_append] at h
      exact fun hmem => h.2.2 _ hmem _ List.mem_cons_self rfl
    rw [List.append_cons] at h ⊢
    rw [setFields, List.foldl_cons, setField_of_notMem hnotMem]
    exact ih h

namespace Reader

variable {cs rest : List Char}

/-! ### Spaces -/

/-- Nothing but spaces that may stand between tokens. -/
def AreSpaces (cs : List Char) : Prop :=
  ∀ c ∈ cs, isSpace c = true

theorem AreSpaces.skipSpaces_append {spaces : List Char} (h : AreSpaces spaces) (cs : List Char) :
    skipSpaces (spaces ++ cs) = skipSpaces cs :=
  List.dropWhile_append_of_pos h

theorem skipSpaces_cons {c : Char} (h : isSpace c = false) (cs : List Char) :
    skipSpaces (c :: cs) = c :: cs := by
  simp [skipSpaces, h]

theorem AreSpaces.skipSpaces_append_cons {spaces : List Char} (hspaces : AreSpaces spaces)
    {c : Char} (hc : isSpace c = false) (cs : List Char) :
    skipSpaces (spaces ++ c :: cs) = c :: cs := by
  rw [hspaces.skipSpaces_append, skipSpaces_cons hc]

/-- Spaces do not go on with a numeral. -/
theorem AreSpaces.endsNumeral_append_cons {spaces : List Char} (hspaces : AreSpaces spaces)
    {c : Char} (hc : c.isDigit = false ∧ c ≠ '.' ∧ c ≠ 'e' ∧ c ≠ 'E') (cs : List Char) :
    EndsNumeral (spaces ++ c :: cs) := by
  cases spaces with
  | nil =>
    intro d hd
    obtain rfl := Option.some.inj hd
    exact hc
  | cons space spaces =>
    intro d hd
    obtain rfl := Option.some.inj hd
    have hspace := hspaces space List.mem_cons_self
    simp only [isSpace, Bool.or_eq_true, beq_iff_eq] at hspace
    rcases hspace with ((rfl | rfl) | rfl) | rfl <;> decide

theorem areSpaces_lineStart (layout : Layout) : AreSpaces (lineStart layout).toList := by
  cases layout with
  | none =>
    intro c hc
    cases hc
  | some depth =>
    intro c hc
    rw [lineStart, String.toList_append, List.mem_append] at hc
    rcases hc with hc | hc
    · rw [List.mem_singleton.1 hc]
      rfl
    · rw [String.toList_ofList] at hc
      rw [List.eq_of_mem_replicate hc]
      rfl

/-- What stands between two items is a comma and spaces. -/
theorem exists_separator_append_lineStart (layout : Layout) :
    ∃ gap, AreSpaces gap ∧
      (separator layout).toList ++ (lineStart (layout.map (· + 1))).toList = ',' :: gap := by
  cases layout with
  | none =>
    refine ⟨[' '], ?_, rfl⟩
    intro c hc
    rw [List.mem_singleton.1 hc]
    rfl
  | some depth =>
    refine ⟨_, areSpaces_lineStart (some (depth + 1)), ?_⟩
    change ",".toList ++ _ = _
    rfl

/-! ### Words, numbers and strings -/

theorem readPlain_cons_eq_none {c : Char}
    (hc : c ∈ ['"', '\x7b', '[', ' ', '\t', '\n', '\r', ']', '\ufeff']) (cs : List Char) :
    readPlain (c :: cs) = none := by
  simp only [List.mem_cons, List.not_mem_nil, or_false] at hc
  rcases hc with rfl | rfl | rfl | rfl | rfl | rfl | rfl | rfl | rfl <;> rfl

theorem readValue_of_readPlain {value : Json} (h : readPlain cs = some (value, rest)) :
    Reads (readValue cs) value rest := by
  cases cs with
  | nil => cases h
  | cons c cs =>
    have hc : c ∉ ['"', '\x7b', '[', ' ', '\t', '\n', '\r', ']', '\ufeff'] := by
      intro hc
      rw [readPlain_cons_eq_none hc] at h
      cases h
    simp only [List.mem_cons, not_or] at hc
    rw [readValue, if_neg hc.1, if_neg hc.2.1, if_neg hc.2.2.1]
    split <;> rename_i heq <;> rw [h] at heq <;> cases heq
    exact reads_ok _

theorem readValue_string {s : List Char} (h : Reads (readString ('"' :: cs) cs) s rest) :
    Reads (readValue ('"' :: cs)) (string (String.ofList s)) rest := by
  obtain ⟨_, h⟩ := h.exists_eq
  rw [readValue.eq_def]
  simp only [if_true, h]
  exact reads_ok _

/-- A value starts with no space, no closing bracket and no byte order mark. -/
theorem exists_eq_cons_of_reads {value : Json} (h : Reads (readValue cs) value rest) :
    ∃ c tail, cs = c :: tail ∧ isSpace c = false ∧ c ≠ ']' ∧ c ≠ '\ufeff' := by
  obtain ⟨_, h⟩ := h.exists_eq
  cases cs with
  | nil =>
    rw [readValue.eq_def] at h
    cases h
  | cons c cs =>
    have hc : c ∉ [' ', '\t', '\n', '\r', ']', '\ufeff'] := by
      intro hc
      have hnone := readPlain_cons_eq_none (List.mem_append_right ['"', '\x7b', '['] hc) cs
      have hother : c ≠ '"' ∧ c ≠ '\x7b' ∧ c ≠ '[' := by
        simp only [List.mem_cons, List.not_mem_nil, or_false] at hc
        rcases hc with rfl | rfl | rfl | rfl | rfl | rfl <;> decide
      rw [readValue, if_neg hother.1, if_neg hother.2.1, if_neg hother.2.2] at h
      split at h
      · cases h
      · rename_i heq
        rw [hnone] at heq
        cases heq
    simp only [List.mem_cons, List.not_mem_nil, or_false, not_or] at hc
    refine ⟨c, cs, rfl, ?_, hc.2.2.2.2.1, hc.2.2.2.2.2⟩
    simp [isSpace, hc]

theorem skipSpaces_of_reads {value : Json} (h : Reads (readValue cs) value rest) :
    skipSpaces cs = cs := by
  obtain ⟨c, tail, rfl, hspace, -⟩ := exists_eq_cons_of_reads h
  exact skipSpaces_cons hspace tail

/-! ### Items and fields -/

theorem readItems_singleton {item : Json} {after : List Char} (h : Reads (readValue cs) item after)
    (hclosing : skipSpaces after = ']' :: rest) : Reads (readItems cs) [item] rest := by
  obtain ⟨_, h⟩ := h.exists_eq
  rw [readItems.eq_def]
  simp only [h]
  split
  · rename_i heq
    cases hclosing.symm.trans heq
    exact reads_ok _
  · rename_i heq
    cases hclosing.symm.trans heq
  · rename_i hno _
    exact absurd hclosing (hno rest)

theorem readItems_cons {item : Json} {items : List Json} {after more : List Char}
    (h : Reads (readValue cs) item after) (hcomma : skipSpaces after = ',' :: more)
    (hmore : Reads (readItems (skipSpaces more)) items rest) :
    Reads (readItems cs) (item :: items) rest := by
  obtain ⟨_, h⟩ := h.exists_eq
  obtain ⟨_, hmore⟩ := hmore.exists_eq
  rw [readItems.eq_def]
  simp only [h]
  split
  · rename_i heq
    cases hcomma.symm.trans heq
  · rename_i heq
    cases hcomma.symm.trans heq
    simp only [hmore]
    exact reads_ok _
  · rename_i hno
    exact absurd hcomma (hno more)

/-- A field is a key, a colon and a value. -/
def ReadsField (cs : List Char) (f : String × Json) (rest : List Char) : Prop :=
  ∃ afterQuote afterKey afterColon, cs = '"' :: afterQuote ∧
    Reads (readString cs afterQuote) f.1.toList afterKey ∧
    skipSpaces afterKey = ':' :: afterColon ∧
    Reads (readValue (skipSpaces afterColon)) f.2 rest

theorem readFields_singleton {f : String × Json} {after : List Char} (h : ReadsField cs f after)
    (hclosing : skipSpaces after = '\x7d' :: rest) : Reads (readFields cs) [f] rest := by
  obtain ⟨afterQuote, afterKey, afterColon, rfl, hkey, hcolon, hvalue⟩ := h
  obtain ⟨_, hkey⟩ := hkey.exists_eq
  obtain ⟨_, hvalue⟩ := hvalue.exists_eq
  rw [readFields.eq_def]
  simp only [ne_eq, not_true_eq_false, if_false, hkey, String.ofList_toList]
  split
  · rename_i heq
    cases hcolon.symm.trans heq
    simp only [hvalue]
    split
    · rename_i heq
      cases hclosing.symm.trans heq
      exact reads_ok _
    · rename_i heq
      cases hclosing.symm.trans heq
    · rename_i hno _
      exact absurd hclosing (hno rest)
  · rename_i hno
    exact absurd hcolon (hno afterColon)

theorem readFields_cons {f : String × Json} {fs : List (String × Json)} {after more : List Char}
    (h : ReadsField cs f after) (hcomma : skipSpaces after = ',' :: more)
    (hmore : Reads (readFields (skipSpaces more)) fs rest) :
    Reads (readFields cs) (f :: fs) rest := by
  obtain ⟨afterQuote, afterKey, afterColon, rfl, hkey, hcolon, hvalue⟩ := h
  obtain ⟨_, hkey⟩ := hkey.exists_eq
  obtain ⟨_, hvalue⟩ := hvalue.exists_eq
  obtain ⟨_, hmore⟩ := hmore.exists_eq
  rw [readFields.eq_def]
  simp only [ne_eq, not_true_eq_false, if_false, hkey, String.ofList_toList]
  split
  · rename_i heq
    cases hcolon.symm.trans heq
    simp only [hvalue]
    split
    · rename_i heq
      cases hcomma.symm.trans heq
    · rename_i heq
      cases hcomma.symm.trans heq
      simp only [hmore]
      exact reads_ok _
    · rename_i hno
      exact absurd hcomma (hno more)
  · rename_i hno
    exact absurd hcolon (hno afterColon)

theorem readValue_emptyArray (rest : List Char) :
    Reads (readValue ('[' :: ']' :: rest)) (array []) rest := by
  rw [readValue.eq_def]
  exact reads_ok (Nat.lt_succ_of_lt (Nat.lt_succ_self _))

theorem readValue_emptyObject (rest : List Char) :
    Reads (readValue ('\x7b' :: '\x7d' :: rest)) (object []) rest := by
  rw [readValue.eq_def]
  exact reads_ok (Nat.lt_succ_of_lt (Nat.lt_succ_self _))

/-- A row of items starts with a value. -/
theorem exists_reads_of_readItems {items : List Json} (h : Reads (readItems cs) items rest) :
    ∃ item after, Reads (readValue cs) item after := by
  obtain ⟨_, h⟩ := h.exists_eq
  rw [readItems.eq_def] at h
  split at h
  · cases h
  · rename_i item after hlt hvalue
    exact ⟨item, after, by rw [hvalue]; exact reads_ok hlt⟩

/-- A row of fields starts with a quote. -/
theorem exists_eq_quote_of_readFields {fs : List (String × Json)}
    (h : Reads (readFields cs) fs rest) : ∃ tail, cs = '"' :: tail := by
  obtain ⟨_, h⟩ := h.exists_eq
  cases cs with
  | nil =>
    rw [readFields.eq_def] at h
    cases h
  | cons quote tail =>
    rw [readFields.eq_def] at h
    by_cases hquote : quote = '"'
    · exact ⟨tail, by rw [hquote]⟩
    · simp only [ne_eq, hquote, not_false_eq_true, if_true] at h
      cases h

theorem readValue_array {items : List Json} (h : Reads (readItems (skipSpaces cs)) items rest) :
    Reads (readValue ('[' :: cs)) (array items) rest := by
  obtain ⟨_, _, hfirst⟩ := exists_reads_of_readItems h
  obtain ⟨c, tail, hcons, -, hbracket, -⟩ := exists_eq_cons_of_reads hfirst
  obtain ⟨_, h⟩ := h.exists_eq
  rw [readValue.eq_def]
  simp only [if_false, if_true, Char.reduceEq]
  split
  · -- the row would start with its closing bracket
    rename_i heq
    cases hcons.symm.trans heq
    exact absurd rfl hbracket
  · simp only [h]
    exact reads_ok _

theorem readValue_object {fs : List (String × Json)} (hkeys : (fs.map Prod.fst).Nodup)
    (h : Reads (readFields (skipSpaces cs)) fs rest) :
    Reads (readValue ('\x7b' :: cs)) (object fs) rest := by
  have hset : setFields [] fs = fs := setFields_of_nodup hkeys
  obtain ⟨tail, hcons⟩ := exists_eq_quote_of_readFields h
  obtain ⟨_, h⟩ := h.exists_eq
  rw [readValue.eq_def]
  simp only [if_false, if_true, Char.reduceEq]
  split
  · rename_i heq
    cases hcons.symm.trans heq
  · simp only [h, hset]
    exact reads_ok _

/-! ### Rows -/

/-- How a row is read, one after the other, up to a closing bracket. -/
structure ReadsRow {α : Type} (closing : Char) (one : List Char → α → List Char → Prop)
    (row : List Char → List α → List Char → Prop) : Prop where
  /-- What is read starts with no space. -/
  start {cs : List Char} {a : α} {rest : List Char} : one cs a rest → skipSpaces cs = cs
  /-- The last of a row has the closing bracket after it. -/
  singleton {cs : List Char} {a : α} {after rest : List Char} : one cs a after →
    skipSpaces after = closing :: rest → row cs [a] rest
  /-- All others have a comma after them, and the rest of the row. -/
  cons {cs : List Char} {a : α} {after more : List Char} {as : List α} {rest : List Char} :
    one cs a after → skipSpaces after = ',' :: more → row (skipSpaces more) as rest →
      row cs (a :: as) rest

theorem readsRow_items : ReadsRow ']' (fun cs item rest => Reads (readValue cs) item rest)
    (fun cs items rest => Reads (readItems cs) items rest) where
  start := skipSpaces_of_reads
  singleton := readItems_singleton
  cons := readItems_cons

theorem readsRow_fields : ReadsRow '\x7d' ReadsField
    (fun cs fs rest => Reads (readFields cs) fs rest) where
  start := by
    rintro _ _ _ ⟨_, _, _, rfl, -⟩
    exact skipSpaces_cons rfl _
  singleton := readFields_singleton
  cons := readFields_cons

section

variable {α : Type} {closing : Char} {one : List Char → α → List Char → Prop}
  {row : List Char → List α → List Char → Prop} {a : α} {as : List α}

/-- The row is read, if each of it is read with whatever may follow it. -/
theorem ReadsRow.reads (h : ReadsRow closing one row) (hclosing : closing = ']' ∨ closing = '\x7d')
    {text : α → List Char} (hone : ∀ b ∈ a :: as, ∀ after, EndsNumeral after →
      one (text b ++ after) b after)
    {spaces gap last : List Char} (hspaces : AreSpaces spaces) (hgap : AreSpaces gap)
    (hlast : AreSpaces last) (rest : List Char) :
    row (skipSpaces (spaces ++ (text a ++ ((as.flatMap fun b => ',' :: (gap ++ text b)) ++
      (last ++ closing :: rest))))) (a :: as) rest := by
  rw [hspaces.skipSpaces_append]
  induction as generalizing a with
  | nil =>
    rw [List.flatMap_nil, List.nil_append]
    have ha := hone a List.mem_cons_self (last ++ closing :: rest)
      (hlast.endsNumeral_append_cons (by rcases hclosing with rfl | rfl <;> decide) rest)
    rw [h.start ha]
    exact h.singleton ha
      (hlast.skipSpaces_append_cons (by rcases hclosing with rfl | rfl <;> rfl) rest)
  | cons b as ih =>
    -- the comma ends what is read first, also where that is a number
    rw [List.flatMap_cons, List.cons_append, List.cons_append, List.append_assoc, List.append_assoc]
    have ha := hone a List.mem_cons_self
      (',' :: (gap ++ (text b ++ ((as.flatMap fun b => ',' :: (gap ++ text b)) ++
        (last ++ closing :: rest))))) (fun c hc => by cases hc; decide)
    rw [h.start ha]
    refine h.cons ha (skipSpaces_cons rfl _) ?_
    rw [hgap.skipSpaces_append]
    exact ih fun c hc => hone c (List.mem_cons_of_mem a hc)

theorem toList_intercalate_cons (between start t : String) (ts : List String) :
    (between.intercalate ((t :: ts).map (start ++ ·))).toList = start.toList ++ (t.toList ++
      ts.flatMap fun t => between.toList ++ start.toList ++ t.toList) := by
  induction ts generalizing t with
  | nil => simp
  | cons u ts ih =>
    rw [List.map_cons, List.map_cons, String.intercalate_cons_cons, String.toList_append,
      ← List.map_cons, ih]
    simp

/-- What stands between brackets is read as the row. -/
theorem ReadsRow.bracketed (h : ReadsRow closing one row)
    (hclosing : closing = ']' ∨ closing = '\x7d') {text : α → String}
    (hone : ∀ b ∈ a :: as, ∀ after, EndsNumeral after → one ((text b).toList ++ after) b after)
    (layout : Layout) (opening : String) {closingText : String}
    (hclosingText : closingText.toList = [closing]) (rest : List Char) :
    ∃ inner, (bracketed layout opening closingText ((a :: as).map text)).toList ++ rest =
      opening.toList ++ inner ∧ row (skipSpaces inner) (a :: as) rest := by
  obtain ⟨gap, hgap, hbetween⟩ := exists_separator_append_lineStart layout
  have hread := h.reads hclosing hone (areSpaces_lineStart (layout.map (· + 1))) hgap
    (areSpaces_lineStart layout) rest
  refine ⟨_, ?_, hread⟩
  simp only [Json.bracketed, List.map_cons, List.isEmpty_cons, Bool.false_eq_true, if_false]
  rw [← List.map_cons, String.toList_append, String.toList_append, String.toList_append,
    toList_intercalate_cons, hbetween, hclosingText, List.flatMap_map]
  simp

end

/-! ### Values -/

theorem renderItems_eq_map (layout : Layout) (items : List Json) :
    renderItems layout items = items.map (render layout) := by
  induction items with
  | nil => rfl
  | cons item items ih => rw [renderItems, ih, List.map_cons]

/-- The text of a field. -/
def fieldText (layout : Layout) (f : String × Json) : String :=
  stringText f.1 ++ ": " ++ render layout f.2

theorem renderFields_eq_map (layout : Layout) (fs : List (String × Json)) :
    renderFields layout fs = fs.map (fieldText layout) := by
  induction fs with
  | nil => rfl
  | cons f fs ih =>
    obtain ⟨key, value⟩ := f
    rw [renderFields, ih, List.map_cons]
    rfl

theorem toList_stringText_append (s : String) (rest : List Char) :
    (stringText s).toList ++ rest = '"' :: (s.toList.flatMap escapedChar ++ '"' :: rest) := by
  simp [stringText]

theorem readsField_fieldText {layout : Layout} {f : String × Json} {after : List Char}
    (h : Reads (readValue ((render layout f.2).toList ++ after)) f.2 after) :
    ReadsField ((fieldText layout f).toList ++ after) f after := by
  refine ⟨_, _, ' ' :: ((render layout f.2).toList ++ after), ?_,
    readString_flatMap_escapedChar f.1.toList (':' :: ' ' :: ((render layout f.2).toList ++ after)),
    skipSpaces_cons rfl _, ?_⟩
  · simp [fieldText, stringText]
  · have hspace : AreSpaces [' '] := fun c hc => by rw [List.mem_singleton.1 hc]; rfl
    have hskip := hspace.skipSpaces_append ((render layout f.2).toList ++ after)
    rw [List.singleton_append] at hskip
    rwa [hskip, skipSpaces_of_reads h]

/-- The text of a value is read as the value, whatever follows, unless it goes on with a numeral. -/
theorem readValue_render {value : Json} (h : value.IsWellFormed) (layout : Layout)
    {rest : List Char} (hrest : EndsNumeral rest) :
    Reads (readValue ((render layout value).toList ++ rest)) value rest := by
  induction h generalizing layout rest with
  | null =>
    rw [render]
    exact readValue_of_readPlain rfl
  | bool b =>
    rw [render]
    cases b <;> exact readValue_of_readPlain rfl
  | number hn => exact readValue_of_readPlain (readPlain_numberText hn hrest)
  | string s =>
    have hread := readValue_string (readString_flatMap_escapedChar s.toList rest)
    rw [String.ofList_toList] at hread
    rw [render, toList_stringText_append]
    exact hread
  | @array items hitems ih =>
    rw [render, renderItems_eq_map]
    cases items with
    | nil =>
      rw [List.map_nil, bracketed, List.isEmpty_nil, if_pos rfl]
      exact readValue_emptyArray rest
    | cons item items =>
      obtain ⟨inner, htext, hread⟩ := readsRow_items.bracketed (.inl rfl)
        (fun b hb after hafter => ih b hb _ hafter) layout "["
        (show "]".toList = [']'] from rfl) rest
      rw [htext]
      exact readValue_array hread
  | @object fs hkeys hvalues ih =>
    rw [render, renderFields_eq_map]
    cases fs with
    | nil =>
      rw [List.map_nil, bracketed, List.isEmpty_nil, if_pos rfl]
      exact readValue_emptyObject rest
    | cons f fs =>
      obtain ⟨inner, htext, hread⟩ := readsRow_fields.bracketed (.inr rfl)
        (fun g hg after hafter => readsField_fieldText (ih g hg _ hafter)) layout "\x7b"
        (show "\x7d".toList = ['\x7d'] from rfl) rest
      rw [htext]
      exact readValue_object hkeys hread

theorem readText_of_reads {value : Json} {after : List Char} (hmark : cs.head? ≠ some '\ufeff')
    (h : Reads (readValue (skipSpaces cs)) value after) (hafter : skipSpaces after = []) :
    readText cs = .ok value := by
  obtain ⟨_, h⟩ := h.exists_eq
  simp only [readText, hmark, if_false, h, hafter, List.isEmpty_nil, if_true]

end Reader

open Reader

/-- The text of a value is that value's. -/
theorem parse_render {value : Json} (h : value.IsWellFormed) (layout : Layout) :
    parse (render layout value) = .ok value := by
  have hread := readValue_render h layout (show EndsNumeral [] by rintro c ⟨⟩)
  rw [List.append_nil] at hread
  obtain ⟨c, tail, htext, -, -, hmark⟩ := exists_eq_cons_of_reads hread
  have hhead : (render layout value).toList.head? ≠ some '\ufeff' := by
    rw [htext]
    exact fun hhead => hmark (Option.some.inj hhead)
  have hall : readText (render layout value).toList = .ok value :=
    readText_of_reads hhead (by rwa [skipSpaces_of_reads hread]) rfl
  simp only [parse, hall]

end StyleGauge.Json
