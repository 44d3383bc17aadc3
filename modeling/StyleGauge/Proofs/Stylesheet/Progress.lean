import StyleGauge.Proofs.Stylesheet.Closing

/-!
# A scan goes on and comes to an end

The steps of a scan make up readings of blocks. The reading of a block takes turns; the last one
finds the brace that closes the block, or the end of the text. A turn that opens a block holds the
whole reading of that block. The text as a whole is read like a block that no brace closes. Every
turn but the last one of a reading moves on, so that there are no more of them than characters.
-/

namespace StyleGauge.Stylesheet.Scan

/-! ### Readings -/

/-- How many blocks are open. -/
def depth (s : Scan) : Nat :=
  s.outer.length

/-- How many characters have been gone over. -/
def offset (s : Scan) : Nat :=
  s.place.offset

/-- The next step opens a block. -/
def Opens (s t : Scan) : Prop :=
  s.step? = some t ∧ t.depth = s.depth + 1

/-- The last turn of the reading of a block. -/
inductive Returns (s : Scan) : Scan → Prop
  /-- Nothing is left, and the block is closed if it is still open. -/
  | atEnd (h : s.step? = none) : s.Returns s.skipSeparators.closeBlock
  /-- The step closes the block. -/
  | atBrace {t : Scan} (h : s.step? = some t) (hdepth : t.depth < s.depth) : s.Returns t

/-- The reading of the block that is the innermost one at the start. The number counts the turns
but the last one, those of the readings of blocks inside of it among them. -/
inductive ReadsBlock : Scan → Nat → Scan → Prop
  | last {s t : Scan} (h : s.Returns t) : s.ReadsBlock 0 t
  | item {s t u : Scan} {n : Nat} (h : s.step? = some t) (hdepth : t.depth = s.depth)
    (hrest : t.ReadsBlock n u) : s.ReadsBlock (n + 1) u
  | block {s t u v : Scan} {m n : Nat} (h : s.Opens t) (hinside : t.ReadsBlock m u)
    (hrest : u.ReadsBlock n v) : s.ReadsBlock (m + n + 1) v

/-- A turn that is not the last one of its reading. -/
inductive Turn (s : Scan) : Scan → Prop
  | item {t : Scan} (h : s.step? = some t) (hdepth : t.depth = s.depth) : s.Turn t
  | block {t u : Scan} {n : Nat} (h : s.Opens t) (hinside : t.ReadsBlock n u) : s.Turn u

/-- In the reading of a text, of which readings of blocks are parts, a turn begins here. -/
inductive BeginsTurn (text : List Char) : Scan → Prop
  | start : BeginsTurn text (start text)
  | inside {s t : Scan} (hs : BeginsTurn text s) (h : s.Opens t) : BeginsTurn text t
  | next {s t : Scan} (hs : BeginsTurn text s) (h : s.Turn t) : BeginsTurn text t

variable {s t u : Scan} {n : Nat}

/-! ### Depths -/

theorem depth_closeBlock (s : Scan) : s.closeBlock.depth = s.depth - 1 := by
  obtain ⟨outer, nodes, place, rest⟩ := s
  cases outer with
  | nil => rfl
  | cons b outer => rfl

theorem outer_addDeclaration (s : Scan) (text : List Char) :
    (s.addDeclaration text).outer = s.outer := by
  unfold addDeclaration
  split
  · rfl
  · rfl

/-- A text opens one block at most, and closes none. -/
theorem depth_afterText {text after : List Char} {head : Head} {complete : Scan → Scan}
    (h : (complete s).outer = s.outer) :
    (s.afterText text after head complete).depth = s.depth ∨
      (s.afterText text after head complete).depth = s.depth + 1 := by
  unfold afterText
  split
  · exact .inr rfl
  · exact .inl (congrArg List.length h)
  · exact .inl (congrArg List.length h)

/-- A step goes one block further in or out at most. It is a brace that a block is closed by. -/
theorem depth_step? (h : s.step? = some t) : t.depth = s.depth ∨ t.depth = s.depth + 1 ∨
    t.depth + 1 = s.depth ∧ s.skipSeparators.rest = '}' :: t.rest := by
  cases step_of_step? h with
  | @close rest hs =>
    have hclose : (s.skipSeparators.closeBlock.moveOver ['}'] rest).depth = s.depth - 1 :=
      depth_closeBlock s.skipSeparators
    by_cases hdepth : s.depth = 0
    · left
      rw [hclose, hdepth]
    · right; right
      refine ⟨?_, hs⟩
      rw [hclose]
      omega
  | atRule hs =>
    exact (depth_afterText rfl).imp_right .inl
  | item hs hbrace hat =>
    exact (depth_afterText (outer_addDeclaration ..)).imp_right .inl

/-! ### Offsets -/

/-- What has been gone over and what is left make up the text. -/
theorem Follows.offset_add_length (h : t.Follows s) :
    t.offset + t.rest.length = s.offset + s.rest.length := by
  obtain ⟨taken, hrest, hplace⟩ := h
  rw [offset, offset, hplace, hrest, Text.Position.offset_afterAll, List.length_append,
    Nat.add_assoc]

theorem Follows.offset_le (h : t.Follows s) : s.offset ≤ t.offset := by
  obtain ⟨taken, -, hplace⟩ := h
  rw [offset, offset, hplace, Text.Position.offset_afterAll]
  exact Nat.le_add_right _ _

theorem offset_lt_of_step? (h : s.step? = some t) : s.offset < t.offset := by
  have hsum := (follows_step? h).offset_add_length
  have hlt := rest_step?_length_lt h
  omega

/-! ### The reading of a block -/

theorem follows_closeBlock (s : Scan) : s.closeBlock.Follows s :=
  ⟨[], by simp, by simp⟩

theorem Returns.follows (h : s.Returns t) : t.Follows s := by
  cases h with
  | atEnd h => exact (follows_closeBlock _).trans (follows_skipSeparators s)
  | atBrace h hdepth => exact follows_step? h

theorem ReadsBlock.follows (h : s.ReadsBlock n t) : t.Follows s := by
  induction h with
  | last h => exact h.follows
  | item h hdepth hrest ih => exact ih.trans (follows_step? h)
  | block h hinside hrest ihInside ih => exact (ih.trans ihInside).trans (follows_step? h.1)

theorem Returns.depth_eq (h : s.Returns t) : t.depth = s.depth - 1 := by
  cases h with
  | atEnd h => exact depth_closeBlock s.skipSeparators
  | atBrace h hdepth =>
    obtain heq | heq | ⟨heq, -⟩ := depth_step? h
    all_goals omega

/-- The reading of a block closes that block and no other one. -/
theorem ReadsBlock.depth_eq (h : s.ReadsBlock n t) : t.depth = s.depth - 1 := by
  induction h with
  | last h => exact h.depth_eq
  | item h hdepth hrest ih => rw [ih, hdepth]
  | block h hinside hrest ihInside ih => rw [ih, ihInside, h.2, Nat.add_sub_cancel]

/-- Every turn but the last one takes a character of its own. -/
theorem ReadsBlock.offset_add_le (h : s.ReadsBlock n t) : s.offset + n ≤ t.offset := by
  induction h with
  | last h => exact h.follows.offset_le
  | item h hdepth hrest ih =>
    have := offset_lt_of_step? h
    omega
  | block h hinside hrest ihInside ih =>
    have := offset_lt_of_step? h.1
    omega

/-- Nothing is left at the later scan, or a block was open and the scan went over a brace last. -/
def EndsAt (s t : Scan) : Prop :=
  t.rest = [] ∨ 0 < s.depth ∧ ∃ taken, s.rest = taken ++ '}' :: t.rest

theorem EndsAt.of_follows (h : t.EndsAt u) (hst : t.Follows s) (hdepth : t.depth = s.depth) :
    s.EndsAt u := by
  refine h.imp_right fun ⟨hpos, later, hlater⟩ => ?_
  obtain ⟨taken, hrest, -⟩ := hst
  exact ⟨hdepth ▸ hpos, taken ++ later, by rw [hrest, hlater, List.append_assoc]⟩

theorem Returns.endsAt (h : s.Returns t) : s.EndsAt t := by
  cases h with
  | atEnd h =>
    left
    rw [rest_closeBlock]
    exact step?_eq_none_iff.1 h
  | atBrace h hdepth =>
    obtain heq | heq | ⟨heq, hrest⟩ := depth_step? h
    · omega
    · omega
    · obtain ⟨taken, htaken, -⟩ := follows_skipSeparators s
      exact .inr ⟨by omega, taken, by rw [htaken, hrest]⟩

theorem ReadsBlock.endsAt (h : s.ReadsBlock n t) : s.EndsAt t := by
  induction h with
  | last h => exact h.endsAt
  | item h hdepth hrest ih => exact ih.of_follows (follows_step? h) hdepth
  | block h hinside hrest ihInside ih =>
    refine ih.of_follows (hinside.follows.trans (follows_step? h.1)) ?_
    rw [hinside.depth_eq, h.2, Nat.add_sub_cancel]

/-- Every block is read to its end. -/
theorem exists_readsBlock (s : Scan) : ∃ n t, s.ReadsBlock n t := by
  cases h : s.step? with
  | none => exact ⟨0, _, .last (.atEnd h)⟩
  | some t =>
    have hlt := rest_step?_length_lt h
    obtain ⟨m, u, hu⟩ := t.exists_readsBlock
    obtain heq | heq | ⟨heq, -⟩ := depth_step? h
    · exact ⟨m + 1, u, .item h heq hu⟩
    · have hle : u.rest.length ≤ t.rest.length := by
        have hsum := hu.follows.offset_add_length
        have hoffset := hu.follows.offset_le
        omega
      obtain ⟨n, v, hv⟩ := u.exists_readsBlock
      exact ⟨m + n + 1, v, .block ⟨h, heq⟩ hu hv⟩
    · exact ⟨0, t, .last (.atBrace h (by omega))⟩
termination_by s.rest.length

theorem run_eq_finish_of_rest (h : s.rest = []) : s.run = s.finish :=
  run_eq_finish_of_replicate (k := 0) h

theorem Returns.run_eq (h : s.Returns t) : s.run = t.run := by
  cases h with
  | atEnd h =>
    have hrest : s.skipSeparators.closeBlock.rest = [] := by
      rw [rest_closeBlock]
      exact step?_eq_none_iff.1 h
    calc s.run = s.skipSeparators.finish := run_of_step?_eq_none h
      _ = s.skipSeparators.closeBlock.finish := (finish_closeBlock _).symm
      _ = s.skipSeparators.closeBlock.run := (run_eq_finish_of_rest hrest).symm
  | atBrace h hdepth => exact run_of_step? h

/-- What is made of the text behind a block does not depend on whether the block is read as one. -/
theorem ReadsBlock.run_eq (h : s.ReadsBlock n t) : s.run = t.run := by
  induction h with
  | last h => exact h.run_eq
  | item h hdepth hrest ih => rw [run_of_step? h, ih]
  | block h hinside hrest ihInside ih => rw [run_of_step? h.1, ihInside, ih]

/-! ### Turns -/

theorem Turn.follows (h : s.Turn t) : t.Follows s := by
  cases h with
  | item h hdepth => exact follows_step? h
  | block h hinside => exact hinside.follows.trans (follows_step? h.1)

theorem Turn.offset_lt (h : s.Turn t) : s.offset < t.offset := by
  cases h with
  | item h hdepth => exact offset_lt_of_step? h
  | block h hinside => exact (offset_lt_of_step? h.1).trans_le hinside.follows.offset_le

theorem returns_or_turn (s : Scan) : (∃ t, s.Returns t) ∨ ∃ t, s.Turn t := by
  cases h : s.step? with
  | none => exact .inl ⟨_, .atEnd h⟩
  | some t =>
    obtain heq | heq | ⟨heq, -⟩ := depth_step? h
    · exact .inr ⟨t, .item h heq⟩
    · obtain ⟨n, u, hu⟩ := t.exists_readsBlock
      exact .inr ⟨u, .block ⟨h, heq⟩ hu⟩
    · exact .inl ⟨t, .atBrace h (by omega)⟩

theorem BeginsTurn.follows {text : List Char} (h : BeginsTurn text s) :
    s.Follows (Scan.start text) := by
  induction h with
  | start => exact .refl _
  | inside hs h ih => exact (follows_step? h.1).trans ih
  | next hs h ih => exact h.follows.trans ih

theorem offset_add_length_of_follows_start {text : List Char} (h : s.Follows (start text)) :
    s.offset + s.rest.length = text.length := by
  rw [h.offset_add_length, start, offset]
  exact Nat.zero_add _

/-! ### The reading of a text -/

/-- The reading of a text goes on with every turn and comes to the end of the text. -/
structure MakesProgress (text : List Char) : Prop where
  /-- A turn is the last one of its reading, or another one follows. -/
  returns_or_turn : ∀ {s}, BeginsTurn text s → (∃ t, s.Returns t) ∨ ∃ t, s.Turn t
  /-- The next turn begins further on. -/
  offset_lt_next : ∀ {s t}, BeginsTurn text s → s.Turn t → s.offset < t.offset
  /-- What is inside of a block begins further on than the turn that opens it. -/
  offset_lt_inside : ∀ {s t}, BeginsTurn text s → s.Opens t → s.offset < t.offset
  /-- A block inside of the text is read, and its reading ends behind a brace or where the text
  does. -/
  inside_returns : ∀ {s t}, BeginsTurn text s → s.Opens t → (∃ n u, t.ReadsBlock n u) ∧
    ∀ n u, t.ReadsBlock n u → u.offset ≤ text.length ∧
      (u.offset = text.length ∨ ∃ taken, t.rest = taken ++ '}' :: u.rest)
  /-- The text as a whole is read to its end, in no more turns before the last ones than it has
  characters, and with its tree as the result. -/
  finishes : (∃ n t, (start text).ReadsBlock n t) ∧
    ∀ n t, (start text).ReadsBlock n t →
      n ≤ text.length ∧ t.offset = text.length ∧ t.finish = scan text

theorem makesProgress (text : List Char) : MakesProgress text where
  returns_or_turn _ := Scan.returns_or_turn _
  offset_lt_next _ h := h.offset_lt
  offset_lt_inside _ h := offset_lt_of_step? h.1
  inside_returns := by
    intro s t hs h
    constructor
    · exact t.exists_readsBlock
    · intro n u hu
      have hfollows : u.Follows (start text) :=
        hu.follows.trans ((follows_step? h.1).trans hs.follows)
      have hlength := offset_add_length_of_follows_start hfollows
      refine ⟨by omega, ?_⟩
      cases hu.endsAt with
      | inl hend =>
        rw [hend] at hlength
        exact .inl hlength
      | inr hbrace => exact .inr hbrace.2
  finishes := by
    constructor
    · exact (start text).exists_readsBlock
    · intro n t ht
      -- No block is open at the start of a text, so that no brace ends its reading.
      have hend : t.rest = [] := ht.endsAt.resolve_right fun h => absurd h.1 (Nat.lt_irrefl 0)
      have hlength := offset_add_length_of_follows_start ht.follows
      rw [hend] at hlength
      have hturns : n ≤ t.offset := (Nat.le_add_left _ _).trans ht.offset_add_le
      refine ⟨hlength ▸ hturns, hlength, ?_⟩
      rw [scan, ht.run_eq, run_eq_finish_of_rest hend]

/-- A brace closes nothing, an at-rule has no name, and the end leaves its block and an escape
open. -/
theorem makesProgress_openBlock :
    let text := "\x7d;@\x7bb:\\".toList
    (∃ s t u, BeginsTurn text s ∧ s.Opens t ∧ t.Turn u ∧ s.offset < t.offset ∧
        t.offset < u.offset ∧ ∃ v, t.ReadsBlock 1 v ∧ v.offset ≤ text.length) ∧
      ∃ t, (start text).ReadsBlock 3 t ∧ 3 ≤ text.length ∧ t.offset = text.length ∧
        t.finish = scan text := by
  intro text
  let s : Scan := ⟨[], [], ⟨1, 1, 2⟩, ";@\x7bb:\\".toList⟩
  let t : Scan := ⟨[⟨.atRule "" "", []⟩], [], ⟨4, 1, 5⟩, "b:\\".toList⟩
  let u : Scan := ⟨t.outer, [.declaration ⟨"b", "\\", false⟩], ⟨7, 1, 8⟩, []⟩
  have hs : (start text).step? = some s := rfl
  have ht : s.step? = some t := rfl
  have hu : t.step? = some u := by rfl
  have hend : u.step? = none := rfl
  have hbegins : BeginsTurn text s := .next .start (.item hs rfl)
  have hopens : s.Opens t := ⟨ht, rfl⟩
  have hturn : t.Turn u := .item hu rfl
  have hinside : t.ReadsBlock 1 u.skipSeparators.closeBlock := .item hu rfl (.last (.atEnd hend))
  have hwhole : (start text).ReadsBlock 3 u.skipSeparators.closeBlock.skipSeparators.closeBlock :=
    .item hs rfl (.block hopens hinside (.last (.atEnd rfl)))
  have h := makesProgress text
  refine ⟨⟨s, t, u, hbegins, hopens, hturn, h.offset_lt_inside hbegins hopens,
    h.offset_lt_next (.inside hbegins hopens) hturn, _, hinside, ?_⟩, _, hwhole, ?_⟩
  · exact ((h.inside_returns hbegins hopens).2 _ _ hinside).1
  · exact h.finishes.2 _ _ hwhole

end StyleGauge.Stylesheet.Scan
