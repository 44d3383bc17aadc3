/-!
# Lists in order

What keeps the order of a list: each item once, the items of each key together, and the first
items. Keys come in the order of their first appearance. Numbers in a list have a sum.
-/

namespace StyleGauge.Listing

variable {α κ : Type} [DecidableEq α] [DecidableEq κ]

/-- Each item once, at the place of its first appearance. -/
def distinct : List α → List α
  | [] => []
  | x :: xs => x :: (distinct xs).filter (· ≠ x)

/-- The items of each key, in order; the keys in the order of their first appearance. -/
def groups {β : Type} (key : β → κ) (items : List β) : List (κ × List β) :=
  (distinct (items.map key)).map fun k => (k, items.filter fun x => key x = k)

/-- The sum of numbers. -/
def total {β : Type} [Add β] [OfNat β 0] (xs : List β) : β :=
  xs.foldr (· + ·) 0

/-- The first `n` items. A negative count leaves that many items out at the end. -/
def firstItems {β : Type} (n : Int) (items : List β) : List β :=
  match n with
  | .ofNat n => items.take n
  | .negSucc n => items.take (items.length - (n + 1))

@[simp] theorem total_nil {β : Type} [Add β] [OfNat β 0] : total ([] : List β) = 0 := rfl

@[simp] theorem total_cons {β : Type} [Add β] [OfNat β 0] (x : β) (xs : List β) :
    total (x :: xs) = x + total xs := rfl

@[simp] theorem distinct_nil : distinct ([] : List α) = [] := rfl

@[simp] theorem distinct_cons (x : α) (xs : List α) :
    distinct (x :: xs) = x :: (distinct xs).filter (· ≠ x) := rfl

@[simp] theorem mem_distinct {x : α} {xs : List α} : x ∈ distinct xs ↔ x ∈ xs := by
  induction xs with
  | nil => simp
  | cons y ys ih =>
    by_cases h : x = y <;> simp [ih, h]

theorem nodup_distinct (xs : List α) : (distinct xs).Nodup := by
  induction xs with
  | nil => simp
  | cons y ys ih =>
    simp only [distinct_cons, List.nodup_cons]
    exact ⟨by simp, ih.sublist List.filter_sublist⟩

/-- The items of two lists are those of the first and those of the second that are new. -/
theorem distinct_append (xs ys : List α) :
    distinct (xs ++ ys) = distinct xs ++ (distinct ys).filter (· ∉ xs) := by
  induction xs with
  | nil => exact (List.filter_eq_self.2 (by simp)).symm
  | cons x xs ih =>
    rw [List.cons_append, distinct_cons, distinct_cons, ih, List.filter_append, List.filter_filter,
      List.cons_append]
    simp

@[simp] theorem firstItems_ofNat {β : Type} (n : Nat) (items : List β) :
    firstItems (n : Int) items = items.take n := rfl

end StyleGauge.Listing
