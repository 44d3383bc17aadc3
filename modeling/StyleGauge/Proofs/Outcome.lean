import Mathlib.Tactic.Common

/-!
# Computations that may fail

A computation yields a property if it does not fail and its result has the property. The rules here
follow the way in which computations are put together.
-/

namespace StyleGauge

/-- The computation has a result, and the result has the property. -/
def Yields {ε α : Type} (x : Except ε α) (p : α → Prop) : Prop :=
  ∃ a, x = .ok a ∧ p a

section

variable {ε α β : Type} {x : Except ε α} {p q : α → Prop} {r : β → Prop}

theorem yields_ok {a : α} (h : p a) : Yields (.ok a : Except ε α) p :=
  ⟨a, rfl, h⟩

theorem yields_pure {a : α} (h : p a) : Yields (pure a : Except ε α) p :=
  ⟨a, rfl, h⟩

theorem Yields.mono (h : Yields x p) (hpq : ∀ a, p a → q a) : Yields x q := by
  obtain ⟨a, ha, hp⟩ := h
  exact ⟨a, ha, hpq a hp⟩

theorem Yields.bind {f : α → Except ε β} (h : Yields x p) (hf : ∀ a, p a → Yields (f a) r) :
    Yields (x >>= f) r := by
  obtain ⟨a, rfl, hp⟩ := h
  exact hf a hp

theorem Yields.map {f : α → β} (h : Yields x p) (hf : ∀ a, p a → r (f a)) :
    Yields (f <$> x) r := by
  obtain ⟨a, rfl, hp⟩ := h
  exact ⟨f a, rfl, hf a hp⟩

theorem ok_bind (a : α) (f : α → Except ε β) : (Except.ok a >>= f) = f a :=
  rfl

theorem bind_eq_ok_iff {f : α → Except ε β} {b : β} :
    x >>= f = .ok b ↔ ∃ a, x = .ok a ∧ f a = .ok b := by
  cases x with
  | error e => simp [bind, Except.bind]
  | ok a => simp [bind, Except.bind]

theorem pure_eq_ok_iff {a b : α} : (pure a : Except ε α) = .ok b ↔ a = b := by
  simp [pure, Except.pure]

theorem map_eq_ok_iff {f : α → β} {b : β} : f <$> x = .ok b ↔ ∃ a, x = .ok a ∧ f a = b := by
  cases x with
  | error e => simp [Functor.map, Except.map]
  | ok a => simp [Functor.map, Except.map]

/-- A computation for every item yields as many results, if each of them has one. -/
theorem yields_mapM {f : α → Except ε β} {l : List α} (h : ∀ x ∈ l, Yields (f x) r) :
    Yields (l.mapM f) fun ys => ys.length = l.length ∧ ∀ y ∈ ys, r y := by
  induction l with
  | nil => exact ⟨[], rfl, rfl, by simp⟩
  | cons x l ih =>
    rw [List.mapM_cons]
    refine (h x (by simp)).bind fun y hy => ?_
    refine (ih fun z hz => h z (List.mem_cons_of_mem x hz)).bind fun ys hys => ?_
    refine yields_pure ⟨by simp [hys.1], ?_⟩
    intro z hz
    rcases List.mem_cons.1 hz with rfl | hz
    · exact hy
    · exact hys.2 z hz

/-- What holds of every item holds of a computation for all of them that has a result. -/
theorem forall_of_mapM_eq_ok {f : α → Except ε β} {l : List α} {ys : List β}
    (h : l.mapM f = .ok ys) : ∀ x ∈ l, ∃ y, f x = .ok y := by
  induction l generalizing ys with
  | nil => simp
  | cons x l ih =>
    rw [List.mapM_cons] at h
    cases hx : f x with
    | error e => simp [hx, bind, Except.bind] at h
    | ok y =>
      cases hl : l.mapM f with
      | error e => simp [hx, hl, bind, Except.bind] at h
      | ok zs =>
        intro z hz
        rcases List.mem_cons.1 hz with rfl | hz
        · exact ⟨y, hx⟩
        · exact ih hl z hz

theorem mem_of_mapM_eq_ok {f : α → Except ε β} {l : List α} {ys : List β}
    (h : l.mapM f = .ok ys) {y : β} : y ∈ ys ↔ ∃ x ∈ l, f x = .ok y := by
  induction l generalizing ys with
  | nil =>
    obtain rfl := pure_eq_ok_iff.1 h
    simp
  | cons x l ih =>
    rw [List.mapM_cons] at h
    obtain ⟨z, hz, h⟩ := bind_eq_ok_iff.1 h
    obtain ⟨zs, hzs, h⟩ := bind_eq_ok_iff.1 h
    obtain rfl := pure_eq_ok_iff.1 h
    simp [ih hzs, hz, eq_comm]

/-- Results belong one by one to the items that they are computed for. -/
theorem forall₂_of_mapM_eq_ok {f : α → Except ε β} {l : List α} {ys : List β}
    (h : l.mapM f = .ok ys) : List.Forall₂ (fun x y => f x = .ok y) l ys := by
  induction l generalizing ys with
  | nil =>
    obtain rfl := pure_eq_ok_iff.1 h
    exact .nil
  | cons x l ih =>
    rw [List.mapM_cons] at h
    obtain ⟨y, hy, h⟩ := bind_eq_ok_iff.1 h
    obtain ⟨zs, hzs, h⟩ := bind_eq_ok_iff.1 h
    obtain rfl := pure_eq_ok_iff.1 h
    exact .cons hy (ih hzs)

/-- A computation for every item fails as the first item does for which it fails. -/
theorem mapM_eq_error_iff {f : α → Except ε β} {l : List α} {e : ε} :
    l.mapM f = .error e ↔ ∃ before x after, l = before ++ x :: after ∧
      (∀ y ∈ before, ∃ b, f y = .ok b) ∧ f x = .error e := by
  induction l with
  | nil => simp [pure, Except.pure]
  | cons x l ih =>
    rw [List.mapM_cons]
    cases hx : f x with
    | error e' =>
      constructor
      · intro h
        obtain rfl := Except.error.inj h
        exact ⟨[], x, l, rfl, by simp, hx⟩
      · rintro ⟨_ | ⟨y, before⟩, z, after, hl, hbefore, hz⟩
        · obtain ⟨rfl, rfl⟩ := List.cons_eq_cons.1 hl
          rw [hx] at hz
          exact congrArg _ (Except.error.inj hz)
        · obtain ⟨rfl, rfl⟩ := List.cons_eq_cons.1 hl
          obtain ⟨b, hb⟩ := hbefore x (by simp)
          rw [hx] at hb
          cases hb
    | ok b =>
      have hrest : (do let bs ← l.mapM f; return b :: bs) = .error e ↔ l.mapM f = .error e := by
        cases l.mapM f <;> simp [bind, Except.bind, pure, Except.pure]
      rw [ok_bind, hrest, ih]
      constructor
      · rintro ⟨before, z, after, rfl, hbefore, hz⟩
        exact ⟨x :: before, z, after, rfl, by simpa [hx] using hbefore, hz⟩
      · rintro ⟨_ | ⟨y, before⟩, z, after, hl, hbefore, hz⟩
        · obtain ⟨rfl, rfl⟩ := List.cons_eq_cons.1 hl
          rw [hx] at hz
          cases hz
        · obtain ⟨rfl, rfl⟩ := List.cons_eq_cons.1 hl
          exact ⟨before, z, after, rfl, fun w hw => hbefore w (by simp [hw]), hz⟩

theorem mapM_eq_ok_map {f : α → Except ε β} {g : α → β} {l : List α}
    (h : ∀ x ∈ l, f x = .ok (g x)) : l.mapM f = .ok (l.map g) := by
  induction l with
  | nil => rfl
  | cons x l ih =>
    rw [List.mapM_cons, h x (by simp), ih fun y hy => h y (List.mem_cons_of_mem x hy)]
    rfl

/-- Computations that differ by a map of their results differ by it when they run for all items. -/
theorem mapM_eq_map_mapM {f g : α → Except ε β} {k : β → β} {l : List α}
    (h : ∀ x ∈ l, g x = k <$> f x) : l.mapM g = List.map k <$> l.mapM f := by
  induction l with
  | nil => rfl
  | cons x l ih =>
    rw [List.mapM_cons, List.mapM_cons, h x (by simp),
      ih fun y hy => h y (List.mem_cons_of_mem x hy)]
    cases f x with
    | error e => rfl
    | ok y => cases l.mapM f <;> rfl

/-- What results have in common with the items that they belong to. -/
theorem map_eq_of_mapM_eq_ok {γ : Type} {f : α → Except ε β} {g : β → γ} {k : α → γ} {l : List α}
    {ys : List β} (h : l.mapM f = .ok ys) (hstep : ∀ x y, f x = .ok y → g y = k x) :
    ys.map g = l.map k := by
  induction l generalizing ys with
  | nil =>
    obtain rfl := pure_eq_ok_iff.1 h
    rfl
  | cons x l ih =>
    rw [List.mapM_cons] at h
    obtain ⟨y, hy, h⟩ := bind_eq_ok_iff.1 h
    obtain ⟨rest, hrest, h⟩ := bind_eq_ok_iff.1 h
    obtain rfl := pure_eq_ok_iff.1 h
    rw [List.map_cons, List.map_cons, hstep x y hy, ih hrest]

theorem length_of_mapM_eq_ok {f : α → Except ε β} {l : List α} {ys : List β}
    (h : l.mapM f = .ok ys) : ys.length = l.length := by
  have hmap : ys.map (fun _ => ()) = l.map fun _ => () :=
    map_eq_of_mapM_eq_ok h fun _ _ _ => rfl
  simpa using congrArg List.length hmap

/-- A fold keeps what each of its steps keeps. The invariant may depend on how many items are
left. -/
theorem yields_foldlM {f : β → α → Except ε β} {l : List α} (inv : Nat → β → Prop)
    (step : ∀ x ∈ l, ∀ n b, inv (n + 1) b → Yields (f b x) (inv n)) {b : β}
    (h : inv l.length b) : Yields (l.foldlM f b) (inv 0) := by
  induction l generalizing b with
  | nil => exact yields_pure h
  | cons x l ih =>
    rw [List.foldlM_cons]
    refine (step x (by simp) l.length b h).bind fun b' hb' => ?_
    exact ih (fun y hy => step y (List.mem_cons_of_mem x hy)) hb'

end

end StyleGauge
