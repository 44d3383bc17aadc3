import StyleGauge.Listing
import StyleGauge.Proofs.Outcome

/-!
# Lists with items inserted

One list is another one with items of some kind inserted, any number of them and anywhere. What an
inserted item adds nothing to stays the same.
-/

namespace StyleGauge.Listing

variable {α β γ ε : Type}

/-- The second list is the first one with items inserted that satisfy `p`. -/
inductive Inserted (p : α → Prop) : List α → List α → Prop
  | nil : Inserted p [] []
  | keep (x : α) {xs ys : List α} (h : Inserted p xs ys) : Inserted p (x :: xs) (x :: ys)
  | insert {x : α} (hx : p x) {xs ys : List α} (h : Inserted p xs ys) : Inserted p xs (x :: ys)

namespace Inserted

variable {p : α → Prop} {xs ys : List α}

theorem length_le (h : Inserted p xs ys) : xs.length ≤ ys.length := by
  induction h with
  | nil => exact Nat.le_refl _
  | keep x h ih => exact Nat.succ_le_succ ih
  | insert hx h ih => exact Nat.le_succ_of_le ih

theorem map {q : β → Prop} {f : α → β} (h : Inserted p xs ys) (hf : ∀ x, p x → q (f x)) :
    Inserted q (xs.map f) (ys.map f) := by
  induction h with
  | nil => exact .nil
  | keep x h ih => exact .keep (f x) ih
  | insert hx h ih => exact .insert (hf _ hx) ih

/-- Inserted items that have nothing to add do not count. -/
theorem flatMap_eq {f : α → List β} (h : Inserted p xs ys) (hf : ∀ x, p x → f x = []) :
    ys.flatMap f = xs.flatMap f := by
  induction h with
  | nil => rfl
  | keep x h ih => rw [List.flatMap_cons, List.flatMap_cons, ih]
  | insert hx h ih => rw [List.flatMap_cons, hf _ hx, ih, List.nil_append]

theorem filter_eq {q : α → Bool} (h : Inserted p xs ys) (hq : ∀ x, p x → q x = false) :
    ys.filter q = xs.filter q := by
  induction h with
  | nil => rfl
  | keep x h ih => rw [List.filter_cons, List.filter_cons, ih]
  | insert hx h ih => rw [List.filter_cons_of_neg (by simp [hq _ hx]), ih]

theorem any_eq {q : α → Bool} (h : Inserted p xs ys) (hq : ∀ x, p x → q x = false) :
    ys.any q = xs.any q := by
  induction h with
  | nil => rfl
  | keep x h ih => rw [List.any_cons, List.any_cons, ih]
  | insert hx h ih => rw [List.any_cons, hq _ hx, ih, Bool.false_or]

/-- A computation for all items has a result if it has one without the inserted items. -/
theorem mapM {f : α → Except ε β} {q : β → Prop} {zs : List β} (h : Inserted p xs ys)
    (hf : ∀ x, p x → Yields (f x) q) (hzs : xs.mapM f = .ok zs) :
    Yields (ys.mapM f) (Inserted q zs) := by
  induction h generalizing zs with
  | nil =>
    obtain rfl := pure_eq_ok_iff.1 hzs
    exact yields_pure .nil
  | keep x h ih =>
    rw [List.mapM_cons] at hzs ⊢
    obtain ⟨z, hz, hzs⟩ := bind_eq_ok_iff.1 hzs
    obtain ⟨rest, hrest, hzs⟩ := bind_eq_ok_iff.1 hzs
    obtain rfl := pure_eq_ok_iff.1 hzs
    rw [hz, ok_bind]
    exact (ih hrest).bind fun _ h => yields_pure (.keep z h)
  | insert hx h ih =>
    rw [List.mapM_cons]
    exact (hf _ hx).bind fun _ hz => (ih hzs).bind fun _ h => yields_pure (.insert hz h)

/-- Inserted zeros do not change a sum. -/
theorem total_eq [Add γ] [OfNat γ 0] (hzero : ∀ z : γ, 0 + z = z) {xs ys : List γ}
    (h : Inserted (· = 0) xs ys) : total ys = total xs := by
  induction h with
  | nil => rfl
  | keep x h ih => rw [total_cons, total_cons, ih]
  | insert hx h ih => rw [total_cons, hx, ih, hzero]

end Inserted

end StyleGauge.Listing
