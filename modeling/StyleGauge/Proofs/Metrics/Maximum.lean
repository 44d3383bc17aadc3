import StyleGauge.Proofs.Insertion
import StyleGauge.Proofs.Number.Sign
import StyleGauge.Selector.Specificity

/-!
# The greatest specificity

The specificity of no selector is the least one, so it does not matter how often it is met on the
way to the maximum. Among specificities of whole counts the maximum is the greatest one in the
order of their components, the ids first, and there is only one such.
-/

namespace StyleGauge

open Number (Fault)

namespace Specificity

/-- The one of two specificities that wins, the first if they are equal. -/
def winner (best t : Specificity) : Except Fault Specificity := do
  return if (0 : Number).lt (← t.compare best) then t else best

variable {s t w : Specificity} {xs ys : List Specificity}

theorem winner_eq_ok_iff : winner s t = .ok w ↔
    ∃ y, t.compare s = .ok y ∧ w = if (0 : Number).lt y then t else s := by
  rw [winner, bind_eq_ok_iff]
  exact exists_congr fun y => and_congr_right fun _ => pure_eq_ok_iff.trans eq_comm

/-- The winner is one of the two. -/
theorem eq_or_eq_of_winner (h : winner s t = .ok w) : w = s ∨ w = t := by
  obtain ⟨y, -, rfl⟩ := winner_eq_ok_iff.1 h
  split_ifs
  · exact .inr rfl
  · exact .inl rfl

theorem mem_of_foldlM_winner (h : xs.foldlM winner s = .ok w) : w ∈ s :: xs := by
  induction xs generalizing s with
  | nil =>
    obtain rfl := pure_eq_ok_iff.1 h
    exact List.mem_singleton_self s
  | cons x xs ih =>
    rw [List.foldlM_cons] at h
    obtain ⟨t, ht, h⟩ := bind_eq_ok_iff.1 h
    have hmem := ih h
    rcases eq_or_eq_of_winner ht with rfl | rfl <;> simp only [List.mem_cons] at hmem ⊢ <;> tauto

/-- The maximum is attained, unless there is nothing to attain it. -/
theorem mem_of_maximum (h : maximum xs = .ok w) : w ∈ xs ∨ xs = [] ∧ w = zero := by
  cases xs with
  | nil =>
    obtain rfl := Except.ok.inj h
    exact .inr ⟨rfl, rfl⟩
  | cons s rest => exact .inl (mem_of_foldlM_winner h)

/-! ### Zeros on the way to the maximum -/

/-- A specificity without a component below zero. -/
structure IsNonneg (s : Specificity) : Prop where
  ids : s.ids.IsNonneg
  classes : s.classes.IsNonneg
  elements : s.elements.IsNonneg

/-- The value of no selector, in integers or floating point numbers. -/
structure IsNull (s : Specificity) : Prop where
  ids : s.ids.eq 0 = true
  classes : s.classes.eq 0 = true
  elements : s.elements.eq 0 = true

theorem isNonneg_zero : IsNonneg zero :=
  ⟨Number.isNonneg_zero, Number.isNonneg_zero, Number.isNonneg_zero⟩

theorem isNonneg_of_maximum (hnonneg : ∀ x ∈ xs, IsNonneg x) (h : maximum xs = .ok w) :
    w.IsNonneg := by
  rcases mem_of_maximum h with hmem | ⟨-, rfl⟩
  · exact hnonneg w hmem
  · exact isNonneg_zero

theorem isNull_zero : IsNull zero := by
  constructor <;> decide

/-- No selector never wins. -/
theorem winner_zero (hs : s.IsNonneg) : winner s zero = .ok s := by
  have hloses : ∀ {x : Number}, x.IsNonneg →
      ∃ y, (0 : Number).sub x = .ok y ∧ s = if (0 : Number).lt y then zero else s := by
    intro x hx
    obtain ⟨y, hy, hle⟩ := Number.exists_zero_sub hx
    exact ⟨y, hy, (if_neg hle).symm⟩
  rw [winner_eq_ok_iff, compare]
  split_ifs
  · exact hloses hs.ids
  · exact hloses hs.classes
  · exact hloses hs.elements

/-- What is null loses to everything that is not. -/
theorem winner_of_isNull (hs : s.IsNull) (ht : t.IsNonneg) (h : winner s t = .ok w) :
    t.IsNull ∧ w = s ∨ ¬t.IsNull ∧ w = t := by
  obtain ⟨y, hy, rfl⟩ := winner_eq_ok_iff.1 h
  rw [compare, Number.eq_of_eq_zero hs.ids, Number.eq_of_eq_zero hs.classes] at hy
  have hwins : ∀ {x z : Number}, x.IsNonneg → ¬x.eq 0 = true → z.eq 0 = true → x.sub z = .ok y →
      (if (0 : Number).lt y then t else s) = t := by
    intro x z hx hne hz hsub
    exact if_pos (Number.zero_lt_sub hx (Bool.eq_false_iff.2 hne) hz hsub)
  by_cases hids : t.ids.eq 0 = true
  · by_cases hclasses : t.classes.eq 0 = true
    · simp only [hids, hclasses, Bool.not_true, Bool.false_eq_true, if_false] at hy
      by_cases helements : t.elements.eq 0 = true
      · have hties := Number.not_zero_lt_sub helements hs.elements hy
        exact .inl ⟨⟨hids, hclasses, helements⟩, if_neg hties⟩
      · exact .inr ⟨fun h => helements h.elements, hwins ht.elements helements hs.elements hy⟩
    · simp only [hids, hclasses, Bool.not_true, Bool.false_eq_true, if_false, Bool.not_false,
        if_true] at hy
      exact .inr ⟨fun h => hclasses h.classes, hwins ht.classes hclasses hs.classes hy⟩
  · simp only [hids, Bool.not_false, if_true] at hy
    exact .inr ⟨fun h => hids h.ids, hwins ht.ids hids hs.ids hy⟩

/-- No selector is compared with everything. -/
theorem exists_winner_zero (t : Specificity) : ∃ w, winner zero t = .ok w := by
  have hsub : ∀ x : Number, ∃ w, (do
      return if (0 : Number).lt (← x.sub 0) then t else zero : Except Fault Specificity) = .ok w := by
    intro x
    obtain ⟨y, hy⟩ := x.exists_sub_zero
    exact ⟨_, by rw [hy]; rfl⟩
  rw [winner, compare]
  split_ifs
  · exact hsub t.ids
  · exact hsub t.classes
  · exact hsub t.elements

/-- Two winners so far, of which the second has met no selector where the first has not: they are
the same, or the first one is null and the second one is that of no selector. -/
def SameWinner (s t : Specificity) : Prop :=
  t = s ∨ s.IsNull ∧ t = zero

theorem SameWinner.winner {s' : Specificity} (hsame : SameWinner s s') (ht : t.IsNonneg)
    (h : winner s t = .ok w) : ∃ w', winner s' t = .ok w' ∧ SameWinner w w' := by
  rcases hsame with rfl | ⟨hs, rfl⟩
  · exact ⟨w, h, .inl rfl⟩
  · obtain ⟨w', hw'⟩ := exists_winner_zero t
    refine ⟨w', hw', ?_⟩
    rcases winner_of_isNull hs ht h with ⟨hnull, rfl⟩ | ⟨hnull, rfl⟩
    · rcases winner_of_isNull isNull_zero ht hw' with ⟨-, rfl⟩ | ⟨hnull', -⟩
      · exact .inr ⟨hs, rfl⟩
      · exact absurd hnull hnull'
    · rcases winner_of_isNull isNull_zero ht hw' with ⟨hnull', -⟩ | ⟨-, rfl⟩
      · exact absurd hnull' hnull
      · exact .inl rfl

theorem SameWinner.isNonneg (hsame : SameWinner s t) (hs : s.IsNonneg) : t.IsNonneg := by
  rcases hsame with rfl | ⟨-, rfl⟩
  · exact hs
  · exact isNonneg_zero

theorem IsNonneg.winner (hs : s.IsNonneg) (ht : t.IsNonneg) (h : winner s t = .ok w) :
    w.IsNonneg := by
  rcases eq_or_eq_of_winner h with rfl | rfl
  · exact hs
  · exact ht

/-- Winners that are the same so far stay so if one of them meets no selector. -/
theorem exists_foldlM_winner_of_inserted (h : Listing.Inserted (· = zero) xs ys)
    (hnonneg : ∀ x ∈ xs, IsNonneg x) (hsame : SameWinner s t) (hs : s.IsNonneg)
    (hxs : xs.foldlM winner s = .ok w) :
    ∃ w', ys.foldlM winner t = .ok w' ∧ SameWinner w w' := by
  induction h generalizing s t with
  | nil =>
    obtain rfl := pure_eq_ok_iff.1 hxs
    exact ⟨t, rfl, hsame⟩
  | keep x h ih =>
    rw [List.foldlM_cons] at hxs ⊢
    obtain ⟨s', hs', hxs⟩ := bind_eq_ok_iff.1 hxs
    obtain ⟨t', ht', hsame'⟩ := hsame.winner (hnonneg x (by simp)) hs'
    rw [ht', ok_bind]
    exact ih (fun y hy => hnonneg y (by simp [hy])) hsame' (hs.winner (hnonneg x (by simp)) hs') hxs
  | insert hzero h ih =>
    rw [List.foldlM_cons, hzero, winner_zero (hsame.isNonneg hs), ok_bind]
    exact ih hnonneg hsame hs hxs

/-- The maximum with zeros inserted is the maximum, except that integers may stand for floating
point zeros. -/
theorem exists_maximum_of_inserted (h : Listing.Inserted (· = zero) xs ys)
    (hnonneg : ∀ x ∈ xs, IsNonneg x) (hxs : maximum xs = .ok w) :
    ∃ w', maximum ys = .ok w' ∧ SameWinner w w' := by
  -- in front of everything no selector is the first to lead
  have hlead : ∃ w', ys.foldlM winner zero = .ok w' ∧ SameWinner w w' := by
    induction h with
    | nil =>
      obtain rfl := Except.ok.inj hxs
      exact ⟨zero, rfl, .inl rfl⟩
    | keep x h ih =>
      have hx := hnonneg x (by simp)
      obtain ⟨t, ht⟩ := exists_winner_zero x
      have hsame : SameWinner x t := by
        rcases winner_of_isNull isNull_zero hx ht with ⟨hnull, rfl⟩ | ⟨-, rfl⟩
        · exact .inr ⟨hnull, rfl⟩
        · exact .inl rfl
      rw [List.foldlM_cons, ht, ok_bind]
      exact exists_foldlM_winner_of_inserted h (fun y hy => hnonneg y (by simp [hy])) hsame hx hxs
    | insert hzero h ih =>
      rw [List.foldlM_cons, hzero, winner_zero isNonneg_zero, ok_bind]
      exact ih hnonneg hxs
  cases h with
  | nil => exact ⟨w, hxs, .inl rfl⟩
  | keep x h =>
    exact exists_foldlM_winner_of_inserted h (fun y hy => hnonneg y (by simp [hy])) (.inl rfl)
      (hnonneg x (by simp)) hxs
  | insert hzero h =>
    rw [List.foldlM_cons, hzero, winner_zero isNonneg_zero, ok_bind] at hlead
    rw [hzero]
    exact hlead

/-! ### The order of whole counts -/

/-- A specificity of whole counts. -/
def IsCounted (s : Specificity) : Prop :=
  ∃ i c e, s = ofCounts i c e

/-- At most in the order in which ids come before classes, and classes before elements. -/
def IsAtMost (s t : Specificity) : Prop :=
  s.ids.lt t.ids = true ∨ s.ids.eq t.ids = true ∧
    (s.classes.lt t.classes = true ∨ s.classes.eq t.classes = true ∧
      s.elements.le t.elements = true)

theorem isAtMost_ofCounts_iff {i c e i' c' e' : Nat} :
    (ofCounts i c e).IsAtMost (ofCounts i' c' e') ↔
      i < i' ∨ i = i' ∧ (c < c' ∨ c = c' ∧ e ≤ e') := by
  simp [IsAtMost, ofCounts, Number.ofNat]

theorem isCounted_zero : IsCounted zero :=
  ⟨0, 0, 0, rfl⟩

theorem IsCounted.isAtMost_refl (hs : s.IsCounted) : s.IsAtMost s := by
  obtain ⟨i, c, e, rfl⟩ := hs
  simp [isAtMost_ofCounts_iff]

theorem IsCounted.isAtMost_trans {u : Specificity} (hs : s.IsCounted) (ht : t.IsCounted)
    (hu : u.IsCounted) (hst : s.IsAtMost t) (htu : t.IsAtMost u) : s.IsAtMost u := by
  obtain ⟨i, c, e, rfl⟩ := hs
  obtain ⟨i', c', e', rfl⟩ := ht
  obtain ⟨i'', c'', e'', rfl⟩ := hu
  rw [isAtMost_ofCounts_iff] at *
  omega

theorem IsCounted.isAtMost_antisymm (hs : s.IsCounted) (ht : t.IsCounted) (hst : s.IsAtMost t)
    (hts : t.IsAtMost s) : s = t := by
  obtain ⟨i, c, e, rfl⟩ := hs
  obtain ⟨i', c', e', rfl⟩ := ht
  rw [isAtMost_ofCounts_iff] at hst hts
  obtain ⟨rfl, rfl, rfl⟩ : i = i' ∧ c = c' ∧ e = e' := by omega
  rfl

theorem IsCounted.zero_isAtMost (hs : s.IsCounted) : zero.IsAtMost s := by
  obtain ⟨i, c, e, rfl⟩ := hs
  rw [show zero = ofCounts 0 0 0 from rfl, isAtMost_ofCounts_iff]
  omega

theorem compare_ofCounts (i c e i' c' e' : Nat) :
    (ofCounts i c e).compare (ofCounts i' c' e') = .ok (.int
      (if i ≠ i' then i - i' else if c ≠ c' then c - c' else e - e')) := by
  simp only [compare, ofCounts, Number.ofNat, Number.eq_int, Number.sub_int, Nat.cast_inj,
    Bool.not_eq_true', decide_eq_false_iff_not]
  split_ifs <;> first | rfl | contradiction

/-- Whole counts can be compared, and the winner is the greater one. -/
theorem IsCounted.exists_winner (hs : s.IsCounted) (ht : t.IsCounted) :
    ∃ w, Specificity.winner s t = .ok w ∧ s.IsAtMost w ∧ t.IsAtMost w := by
  obtain ⟨i, c, e, rfl⟩ := hs
  obtain ⟨i', c', e', rfl⟩ := ht
  refine ⟨_, winner_eq_ok_iff.2 ⟨_, compare_ofCounts .., rfl⟩, ?_⟩
  simp only [Number.zero_lt_int_iff]
  split_ifs <;> simp only [isAtMost_ofCounts_iff, true_and] <;> omega

/-- What is the greatest of specificities: not less than any of them, and one of them. -/
structure IsGreatest (xs : List Specificity) (s : Specificity) : Prop where
  upper : ∀ x ∈ xs, x.IsAtMost s
  attained : s ∈ xs ∨ xs = [] ∧ s = zero

theorem IsGreatest.isCounted (h : IsGreatest xs s) (hcounted : ∀ x ∈ xs, IsCounted x) :
    s.IsCounted := by
  rcases h.attained with hmem | ⟨-, rfl⟩
  · exact hcounted s hmem
  · exact isCounted_zero

/-- There is only one greatest specificity of the same ones. -/
theorem IsGreatest.unique (hs : IsGreatest xs s) (ht : IsGreatest ys t)
    (hcounted : ∀ x ∈ xs, IsCounted x) (hmem : ∀ x, x ∈ xs ↔ x ∈ ys) : s = t := by
  rcases hs.attained with hsx | ⟨rfl, rfl⟩
  · rcases ht.attained with hty | ⟨rfl, -⟩
    · exact (hcounted s hsx).isAtMost_antisymm (hcounted t ((hmem t).2 hty))
        (ht.upper s ((hmem s).1 hsx)) (hs.upper t ((hmem t).2 hty))
    · exact absurd ((hmem s).1 hsx) List.not_mem_nil
  · rcases ht.attained with hty | ⟨-, rfl⟩
    · exact absurd ((hmem t).2 hty) List.not_mem_nil
    · rfl

theorem exists_foldlM_winner (hs : s.IsCounted) (hcounted : ∀ x ∈ xs, IsCounted x) :
    ∃ w, xs.foldlM Specificity.winner s = .ok w ∧ ∀ x ∈ s :: xs, x.IsAtMost w := by
  induction xs generalizing s with
  | nil => exact ⟨s, rfl, by simpa using hs.isAtMost_refl⟩
  | cons t xs ih =>
    have ht : t.IsCounted := hcounted t (by simp)
    obtain ⟨u, hu, hsu, htu⟩ := hs.exists_winner ht
    have hucounted : u.IsCounted := by
      rcases eq_or_eq_of_winner hu with rfl | rfl
      · exact hs
      · exact ht
    have hrest : ∀ x ∈ xs, IsCounted x := fun x hx => hcounted x (by simp [hx])
    obtain ⟨w, hw, hupper⟩ := ih hucounted hrest
    have hwcounted : w.IsCounted := by
      rcases List.mem_cons.1 (mem_of_foldlM_winner hw) with rfl | hmem
      · exact hucounted
      · exact hrest w hmem
    have huw : u.IsAtMost w := hupper u (by simp)
    refine ⟨w, by rw [List.foldlM_cons, hu, ok_bind, hw], ?_⟩
    intro x hx
    rcases List.mem_cons.1 hx with rfl | hx
    · exact hs.isAtMost_trans hucounted hwcounted hsu huw
    · rcases List.mem_cons.1 hx with rfl | hx
      · exact ht.isAtMost_trans hucounted hwcounted htu huw
      · exact hupper x (by simp [hx])

/-- The maximum of whole counts is computed, and it is the greatest of them. -/
theorem exists_maximum (hcounted : ∀ x ∈ xs, IsCounted x) :
    ∃ w, maximum xs = .ok w ∧ IsGreatest xs w := by
  cases xs with
  | nil => exact ⟨zero, rfl, by simp, .inr ⟨rfl, rfl⟩⟩
  | cons s rest =>
    obtain ⟨w, hw, hupper⟩ :=
      exists_foldlM_winner (hcounted s List.mem_cons_self)
        fun x hx => hcounted x (List.mem_cons_of_mem s hx)
    exact ⟨w, hw, hupper, .inl (mem_of_foldlM_winner hw)⟩

/-- The greatest of the greatest ones of several lists is the greatest of all. -/
theorem IsGreatest.flatten {xss : List (List Specificity)} (hs : IsGreatest ys s)
    (hcounted : ∀ xs ∈ xss, ∀ x ∈ xs, IsCounted x)
    (hys : ∀ y ∈ ys, ∃ xs ∈ xss, IsGreatest xs y)
    (hxss : ∀ xs ∈ xss, ∃ y ∈ ys, IsGreatest xs y) : IsGreatest xss.flatten s := by
  have hyscounted : ∀ y ∈ ys, IsCounted y := by
    intro y hy
    obtain ⟨xs, hxs, hgreatest⟩ := hys y hy
    exact hgreatest.isCounted (hcounted xs hxs)
  have hupper : ∀ x ∈ xss.flatten, x.IsAtMost s := by
    intro x hx
    obtain ⟨xs, hxs, hx⟩ := List.mem_flatten.1 hx
    obtain ⟨y, hy, hgreatest⟩ := hxss xs hxs
    exact (hcounted xs hxs x hx).isAtMost_trans (hyscounted y hy) (hs.isCounted hyscounted)
      (hgreatest.upper x hx) (hs.upper y hy)
  refine ⟨hupper, ?_⟩
  rcases hs.attained with hmem | ⟨rfl, rfl⟩
  · obtain ⟨xs, hxs, hgreatest⟩ := hys s hmem
    rcases hgreatest.attained with hmem | ⟨-, rfl⟩
    · exact .inl (List.mem_flatten.2 ⟨xs, hxs, hmem⟩)
    · -- the greatest one comes from an empty list: if there are others, they are zero as well
      by_cases hnil : xss.flatten = []
      · exact .inr ⟨hnil, rfl⟩
      · obtain ⟨x, hx⟩ := List.exists_mem_of_ne_nil _ hnil
        obtain ⟨xs, hxs, hmem⟩ := List.mem_flatten.1 hx
        have hxcounted := hcounted xs hxs x hmem
        have hzero : x = zero :=
          hxcounted.isAtMost_antisymm isCounted_zero (hupper x hx) hxcounted.zero_isAtMost
        exact .inl (hzero ▸ hx)
  · have hnil : xss = [] := by
      refine List.eq_nil_iff_forall_not_mem.2 fun xs hxs => ?_
      obtain ⟨y, hy, -⟩ := hxss xs hxs
      exact absurd hy List.not_mem_nil
    exact .inr ⟨by rw [hnil, List.flatten_nil], rfl⟩

end Specificity

end StyleGauge
