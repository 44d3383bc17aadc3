import StyleGauge.Text.Blank

/-!
# Trimmed texts

A text is trimmed if it neither begins nor ends with a blank. Trimming makes every text trimmed and
leaves trimmed texts alone, and blanks put around a text do not change what trimming makes of it.
-/

namespace StyleGauge.Text

/-- A text that has no blanks at either end. -/
def Trimmed (cs : List Char) : Prop :=
  trim cs = cs

instance (cs : List Char) : Decidable (Trimmed cs) :=
  inferInstanceAs (Decidable (trim cs = cs))

/-! ### One end -/

@[simp] theorem trimStart_nil : trimStart [] = [] := rfl

theorem trimStart_cons_of_not_isBlank {c : Char} (h : isBlank c = false) (cs : List Char) :
    trimStart (c :: cs) = c :: cs := by
  simp [trimStart, h]

theorem trimStart_eq_self_iff {cs : List Char} :
    trimStart cs = cs ↔ ∀ c ∈ cs.head?, isBlank c = false := by
  cases cs with
  | nil => simp
  | cons c cs =>
    cases h : isBlank c with
    | false => simp [trimStart_cons_of_not_isBlank h, h]
    | true =>
      have hl := trimStart_length_le cs
      have hne : trimStart cs ≠ c :: cs := by
        intro heq
        rw [heq, List.length_cons] at hl
        omega
      simp [trimStart_cons_of_isBlank h, hne, h]

theorem isBlank_head?_trimStart (cs : List Char) :
    ∀ c ∈ (trimStart cs).head?, isBlank c = false := by
  induction cs with
  | nil => simp
  | cons c cs ih =>
    cases h : isBlank c with
    | false => simp [trimStart_cons_of_not_isBlank h, h]
    | true => simpa [trimStart_cons_of_isBlank h] using ih

@[simp] theorem trimStart_trimStart (cs : List Char) : trimStart (trimStart cs) = trimStart cs :=
  trimStart_eq_self_iff.2 (isBlank_head?_trimStart cs)

theorem trimStart_append_of_blanks {blanks : List Char} (h : ∀ c ∈ blanks, isBlank c = true)
    (cs : List Char) : trimStart (blanks ++ cs) = trimStart cs := by
  induction blanks with
  | nil => rfl
  | cons c blanks ih =>
    rw [List.cons_append, trimStart_cons_of_isBlank (h c (by simp))]
    exact ih fun x hx => h x (List.mem_cons_of_mem c hx)

/-- What is not all blank keeps what follows it. -/
theorem trimStart_append {cs : List Char} (h : trimStart cs ≠ []) (more : List Char) :
    trimStart (cs ++ more) = trimStart cs ++ more := by
  induction cs with
  | nil => simp at h
  | cons c cs ih =>
    cases hc : isBlank c with
    | false => simp [trimStart_cons_of_not_isBlank hc]
    | true =>
      rw [trimStart_cons_of_isBlank hc] at h ⊢
      rw [List.cons_append, trimStart_cons_of_isBlank hc, ih h]

theorem trimEnd_eq_reverse (cs : List Char) : trimEnd cs = (trimStart cs.reverse).reverse := rfl

theorem trimEnd_eq_self_iff {cs : List Char} :
    trimEnd cs = cs ↔ ∀ c ∈ cs.getLast?, isBlank c = false := by
  rw [trimEnd_eq_reverse, List.reverse_eq_iff, trimStart_eq_self_iff, List.head?_reverse]

theorem trimEnd_isPrefix (cs : List Char) : trimEnd cs <+: cs := by
  rw [trimEnd_eq_reverse, ← List.reverse_suffix, List.reverse_reverse]
  exact List.dropWhile_suffix isBlank

theorem trimStart_isSuffix (cs : List Char) : trimStart cs <:+ cs :=
  List.dropWhile_suffix isBlank

/-! ### Both ends -/

theorem trim_isInfix (cs : List Char) : trim cs <:+: cs :=
  (trimEnd_isPrefix _).isInfix.trans (trimStart_isSuffix cs).isInfix

/-- A text is trimmed if it neither begins nor ends with a blank. -/
theorem trimmed_iff {cs : List Char} :
    Trimmed cs ↔ (∀ c ∈ cs.head?, isBlank c = false) ∧ ∀ c ∈ cs.getLast?, isBlank c = false := by
  constructor
  · intro h
    -- both steps of trimming shorten, so neither of them can have done anything
    have hstart : trimStart cs = cs := by
      refine (trimStart_isSuffix cs).eq_of_length_le ?_
      have := (trimEnd_isPrefix (trimStart cs)).length_le
      rwa [show trimEnd (trimStart cs) = cs from h] at this
    have hend : trimEnd cs = cs := by
      rw [Trimmed, trim, hstart] at h
      exact h
    exact ⟨trimStart_eq_self_iff.1 hstart, trimEnd_eq_self_iff.1 hend⟩
  · rintro ⟨hhead, hlast⟩
    rw [Trimmed, trim, trimStart_eq_self_iff.2 hhead, trimEnd_eq_self_iff.2 hlast]

theorem Trimmed.isBlank_head {c : Char} {cs : List Char} (h : Trimmed (c :: cs)) :
    isBlank c = false :=
  (trimmed_iff.1 h).1 c rfl

theorem trimmed_trim (cs : List Char) : Trimmed (trim cs) := by
  refine trimmed_iff.2 ⟨?_, ?_⟩
  · intro c hc
    have hpre : trim cs <+: trimStart cs := trimEnd_isPrefix _
    obtain ⟨rest, hrest⟩ := List.head?_eq_some_iff.1 hc
    rw [hrest] at hpre
    obtain ⟨more, hmore⟩ := hpre
    exact isBlank_head?_trimStart cs c (by rw [← hmore]; rfl)
  · intro c hc
    rw [trim, trimEnd_eq_reverse, List.getLast?_reverse] at hc
    exact isBlank_head?_trimStart _ c hc

theorem trimStart_trim (cs : List Char) : trimStart (trim cs) = trim cs :=
  trimStart_eq_self_iff.2 (trimmed_iff.1 (trimmed_trim cs)).1

/-- Trimming loses nothing but blanks. -/
theorem filter_trim (cs : List Char) :
    (trim cs).filter (!isBlank ·) = cs.filter (!isBlank ·) := by
  have hstart : ∀ cs : List Char, (trimStart cs).filter (!isBlank ·) = cs.filter (!isBlank ·) := by
    intro cs
    induction cs with
    | nil => rfl
    | cons c cs ih =>
      cases hc : isBlank c with
      | true => rw [trimStart_cons_of_isBlank hc, ih, List.filter_cons_of_neg (by simp [hc])]
      | false => rw [trimStart_cons_of_not_isBlank hc]
  rw [trim, trimEnd_eq_reverse, List.filter_reverse, hstart, List.filter_reverse, List.reverse_reverse,
    hstart]

/-- Blanks alone are what trimming takes away altogether. -/
theorem trim_eq_nil_iff {cs : List Char} : trim cs = [] ↔ ∀ c ∈ cs, isBlank c = true := by
  constructor
  · intro h
    have hfilter := filter_trim cs
    rw [h] at hfilter
    simpa using List.filter_eq_nil_iff.1 hfilter.symm
  · intro h
    have hstart : trimStart cs = [] := by
      simpa using trimStart_append_of_blanks h []
    rw [trim, hstart]
    rfl

theorem trim_append_of_blanks {blanks : List Char} (h : ∀ c ∈ blanks, isBlank c = true)
    (cs : List Char) : trim (blanks ++ cs) = trim cs := by
  rw [trim, trimStart_append_of_blanks h, trim]

/-- Of a text that does not begin with a blank, trimming only takes off blanks at its end. -/
theorem exists_blanks_eq_trim_append {cs : List Char} (h : ∀ c ∈ cs.head?, isBlank c = false) :
    ∃ blanks, cs = trim cs ++ blanks ∧ ∀ c ∈ blanks, isBlank c = true := by
  refine ⟨(cs.reverse.takeWhile isBlank).reverse, ?_, fun c hc => ?_⟩
  · rw [trim, trimStart_eq_self_iff.2 h, trimEnd, ← List.reverse_append,
      List.takeWhile_append_dropWhile, List.reverse_reverse]
  · exact List.all_eq_true.1 (List.all_takeWhile ..) c (List.mem_reverse.1 hc)

/-- Blanks before a text are lost. -/
theorem trim_cons_of_isBlank {c : Char} (h : isBlank c = true) (cs : List Char) :
    trim (c :: cs) = trim cs := by
  rw [trim, trimStart_cons_of_isBlank h, trim]

/-- A text is trimmed if its two halves are, each at the end that stays one. -/
theorem trimmed_append {a b : List Char} (ha : Trimmed a) (hb : Trimmed b) (hna : a ≠ [])
    (hnb : b ≠ []) (middle : List Char) : Trimmed (a ++ middle ++ b) := by
  refine trimmed_iff.2 ⟨?_, ?_⟩
  · obtain ⟨c, cs, rfl⟩ := List.exists_cons_of_ne_nil hna
    exact (trimmed_iff.1 ha).1
  · rw [List.getLast?_append, List.getLast?_eq_some_getLast hnb, Option.some_or,
      ← List.getLast?_eq_some_getLast hnb]
    exact (trimmed_iff.1 hb).2

end StyleGauge.Text
