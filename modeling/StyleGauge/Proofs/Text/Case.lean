import Mathlib.Tactic.Common
import StyleGauge.Text.Case

/-!
# Letters of either case

The lower case form of a text in ASCII is that of its letters one by one. A text beyond ASCII can
have an ASCII form as well, but the only letters that come about so are `i` and `k`.
-/

namespace StyleGauge.Text

theorem isFormOf_eq {letter c : Char} (hc : c.toLower.isLower = true) :
    isFormOf letter c = (c.toLower == letter) := by
  have hforms : c ≠ '\u0130' ∧ c ≠ '\u0131' ∧ c ≠ '\u017f' := by
    refine ⟨?_, ?_, ?_⟩ <;>
      · rintro rfl
        exact absurd hc (by decide)
  rw [Bool.eq_iff_iff]
  simp [isFormOf, hforms]

theorem toNat_lt_of_isLower {c : Char} (hc : c.isLower = true) : c.toNat < 0x80 := by
  have hle : c.toNat ≤ 'z'.toNat := of_decide_eq_true (Bool.and_eq_true_iff.1 hc).2
  exact Nat.lt_of_le_of_lt hle (by decide)

theorem toNat_lt_of_isAlphanum {c : Char} (hc : c.isAlphanum = true) : c.toNat < 0x80 := by
  rcases Bool.or_eq_true_iff.1 hc with halpha | hdigit
  · rcases Bool.or_eq_true_iff.1 halpha with hupper | hlower
    · have hle : c.toNat ≤ 'Z'.toNat := (of_decide_eq_true hupper).2
      exact Nat.lt_of_le_of_lt hle (by decide)
    · exact toNat_lt_of_isLower hlower
  · have hle : c.toNat ≤ '9'.toNat := of_decide_eq_true (Bool.and_eq_true_iff.1 hdigit).2
    exact Nat.lt_of_le_of_lt hle (by decide)

theorem toNat_lt_of_isLower_toLower {c : Char} (hc : c.toLower.isLower = true) :
    c.toNat < 0x80 := by
  by_cases hupper : c.val ≥ 'A'.val ∧ c.val ≤ 'Z'.val
  · have hle : c.toNat ≤ 'Z'.toNat := hupper.2
    exact Nat.lt_of_le_of_lt hle (by decide)
  · have hsame : c.toLower = c := dif_neg hupper
    exact toNat_lt_of_isLower (hsame ▸ hc)

/-! ### In ASCII -/

/-- What holds of the characters of ASCII one by one. -/
theorem forall_of_ascii {p : Char → Prop} (h : ∀ n < 0x80, p (Char.ofNat n)) (c : Char)
    (hc : c.toNat < 0x80) : p c := by
  have hn := h c.toNat hc
  rwa [Char.ofNat_toNat] at hn

/-- In ASCII the lower case form of a text is that of its characters. -/
theorem lowerAfter_eq_map {cs : List Char} (hcs : ∀ c ∈ cs, c.toNat < 0x80) (before : List Char) :
    lowerAfter before cs = cs.map Char.toLower := by
  induction cs generalizing before with
  | nil => rfl
  | cons c cs ih =>
    obtain ⟨hc, hcs⟩ := List.forall_mem_cons.1 hcs
    have hsigma : c ≠ capitalSigma := by
      rintro rfl
      exact absurd hc (by decide)
    rw [lowerAfter, if_neg hsigma, lowerChar, if_pos hc, ih hcs]
    rfl

/-! ### Beyond ASCII -/

/-- A run does not lead into ASCII, unless it is that of the Kelvin sign. -/
theorem le_first_add_distance : ∀ run ∈ lowerRuns,
    run.last < 0x80 ∨ 0x80 ≤ (run.first + run.distance).toNat ∨
      run.first = 0x212a ∧ run.last = 0x212a ∧ run.distance = -8383 := by
  decide +kernel

theorem not_isLower_ofNat {n : Nat} (h : 0x80 ≤ n) : (Char.ofNat n).isLower = false := by
  rw [Bool.eq_false_iff]
  intro hlower
  by_cases hvalid : n.isValidChar
  · have hlt : n < 0x80 := by
      rw [Char.ofNat, dif_pos hvalid] at hlower
      exact toNat_lt_of_isLower hlower
    omega
  · rw [Char.ofNat, dif_neg hvalid] at hlower
    exact absurd hlower (by decide)

/-- A character beyond ASCII moves out of ASCII, unless it is the Kelvin sign. -/
theorem isLower_of_move?_eq_some {n : Nat} {run : CaseRun} {d : Char} (hrun : run ∈ lowerRuns)
    (hn : 0x80 ≤ n) (h : run.move? n = some d) (hd : d.isLower = true) : d = 'k' := by
  unfold CaseRun.move? at h
  split_ifs at h with hin
  simp only [Bool.and_eq_true, decide_eq_true_eq] at hin
  obtain rfl := Option.some.inj h
  rcases le_first_add_distance run hrun with hlast | hfirst | ⟨hfirst, hlast, hdistance⟩
  · omega
  · exact absurd hd (by rw [not_isLower_ofNat (by omega)]; decide)
  · obtain rfl : n = 0x212a := by omega
    rw [hdistance]
    rfl

/-- The lower case form of a character beyond ASCII does not begin with a letter of ASCII, but for
the two that have a form outside. -/
theorem exists_lowerChar_eq_cons {c : Char} (hc : 0x80 ≤ c.toNat) :
    ∃ d ds, lowerChar c = d :: ds ∧ (d.isLower = true → d = 'i' ∨ d = 'k') := by
  rw [lowerChar, if_neg (by omega)]
  split_ifs with hdotted
  · exact ⟨_, _, rfl, fun _ => .inl rfl⟩
  · refine ⟨_, _, rfl, fun hd => .inr ?_⟩
    cases hmove : lowerRuns.findSome? (CaseRun.move? c.toNat) with
    | none =>
      rw [hmove, Option.getD_none] at hd
      have := toNat_lt_of_isLower hd
      omega
    | some d =>
      rw [hmove, Option.getD_some] at hd
      obtain ⟨run, hrun, hd'⟩ := List.exists_of_findSome?_eq_some hmove
      exact isLower_of_move?_eq_some hrun hc hd' hd

/-- A word of small letters other than `i` and `k` is the lower case form of texts in ASCII only. -/
theorem lowerAfter_eq_iff {word : List Char}
    (hword : ∀ c ∈ word, c.isLower = true ∧ c ≠ 'i' ∧ c ≠ 'k') (before cs : List Char) :
    lowerAfter before cs = word ↔ cs.map Char.toLower = word := by
  constructor
  case mpr =>
    rintro rfl
    refine lowerAfter_eq_map (fun c hc => ?_) before
    exact toNat_lt_of_isLower_toLower (hword _ (List.mem_map_of_mem hc)).1
  induction cs generalizing before word with
  | nil => exact id
  | cons c cs ih =>
    intro h
    rw [lowerAfter] at h
    by_cases hsigma : c = capitalSigma
    · rw [if_pos hsigma, List.singleton_append] at h
      have hfirst := (hword _ (h ▸ List.mem_cons_self)).1
      split_ifs at hfirst <;> exact absurd hfirst (by decide)
    · rw [if_neg hsigma] at h
      by_cases hc : c.toNat < 0x80
      · rw [lowerChar, if_pos hc, List.singleton_append] at h
        subst h
        rw [List.map_cons, ih (fun d hd => hword d (List.mem_cons_of_mem _ hd)) (c :: before) rfl]
      · obtain ⟨d, ds, hform, hd⟩ := exists_lowerChar_eq_cons (by omega : 0x80 ≤ c.toNat)
        rw [hform, List.cons_append] at h
        obtain ⟨hlower, hi, hk⟩ := hword d (h ▸ List.mem_cons_self)
        exact absurd (hd hlower) (by simp [hi, hk])

end StyleGauge.Text
