import Mathlib.Algebra.BigOperators.Group.List.Lemmas
import Mathlib.Data.List.Forall2
import Mathlib.Data.List.Nodup
import Mathlib.Order.MinMax
import Mathlib.Tactic.Common
import StyleGauge.Listing

/-!
# Distinct, grouped, counted and sorted items

Distinct items come in the order in which they are met first. The items of a group keep their order,
and sorting is stable: items that tie stay in the order in which they were.
-/

namespace StyleGauge.Listing

/-! ### Lists item by item -/

theorem map_eq_map_of_forall₂ {α β γ : Type} {f : α → γ} {g : β → γ} {xs : List α} {ys : List β}
    (h : List.Forall₂ (fun x y => f x = g y) xs ys) : xs.map f = ys.map g := by
  rw [← List.forall₂_eq_eq_eq, List.forall₂_map_left_iff, List.forall₂_map_right_iff]
  exact h

/-- What holds of every item and those before it, place by place. -/
theorem forall_append_cons_iff {α : Type} {xs : List α} {p : List α → α → Prop} :
    (∀ before x after, xs = before ++ x :: after → p before x) ↔
      ∀ k (h : k < xs.length), p (xs.take k) xs[k] := by
  constructor
  · intro hall k h
    apply hall _ _ (xs.drop (k + 1))
    rw [← List.drop_eq_getElem_cons h, List.take_append_drop]
  · rintro hall before x after rfl
    simpa using hall before.length (by simp)

/-! ### First appearances -/

section

variable {α β κ : Type} [DecidableEq β] [DecidableEq κ]

theorem distinct_sublist (xs : List κ) : (distinct xs).Sublist xs := by
  induction xs with
  | nil => exact .slnil
  | cons x xs ih => exact (List.filter_sublist.trans ih).cons_cons x

/-- Where different items have different keys, the distinct keys are the keys of the distinct items.
Of the keys only those with a property have to be told apart. -/
theorem filter_distinct_map {f : β → κ} {p : κ → Bool} {xs : List β}
    (h : ∀ x ∈ xs, ∀ y ∈ xs, p (f x) = true → f x = f y → x = y) :
    (distinct (xs.map f)).filter p = ((distinct xs).filter fun x => p (f x)).map f := by
  induction xs with
  | nil => rfl
  | cons x xs ih =>
    have hne : ∀ y ∈ (distinct xs).filter fun y => p (f y), (f y ≠ f x ↔ y ≠ x) := by
      intro y hy
      obtain ⟨hmem, hp⟩ := List.mem_filter.1 hy
      have hy : y ∈ x :: xs := List.mem_cons_of_mem x (mem_distinct.1 hmem)
      exact not_congr ⟨h y hy x (by simp) hp, congrArg f⟩
    have hrest : ((distinct (xs.map f)).filter (· ≠ f x)).filter p =
        (((distinct xs).filter (· ≠ x)).filter fun y => p (f y)).map f := by
      calc ((distinct (xs.map f)).filter (· ≠ f x)).filter p
        _ = ((distinct (xs.map f)).filter p).filter (· ≠ f x) := List.filter_comm ..
        _ = (((distinct xs).filter fun y => p (f y)).filter fun y => f y ≠ f x).map f := by
          rw [ih fun y hy z hz => h y (by simp [hy]) z (by simp [hz]), List.filter_map]
          rfl
        _ = (((distinct xs).filter fun y => p (f y)).filter (· ≠ x)).map f := by
          rw [List.filter_congr fun y hy => decide_eq_decide.2 (hne y hy)]
        _ = (((distinct xs).filter (· ≠ x)).filter fun y => p (f y)).map f := by
          rw [List.filter_comm]
    rw [List.map_cons, distinct_cons, distinct_cons, List.filter_cons, List.filter_cons, hrest]
    split <;> rfl

/-- Items come in the order of their first appearance. -/
theorem pairwise_idxOf_distinct (xs : List κ) :
    (distinct xs).Pairwise fun x y => xs.idxOf x < xs.idxOf y := by
  induction xs with
  | nil => exact List.Pairwise.nil
  | cons a xs ih =>
    have hne : ∀ x ∈ (distinct xs).filter (· ≠ a), a ≠ x := fun x hx =>
      (of_decide_eq_true (List.mem_filter.1 hx).2).symm
    rw [distinct_cons, List.pairwise_cons]
    constructor
    · intro y hy
      rw [List.idxOf_cons_self, List.idxOf_cons_ne _ (hne y hy)]
      omega
    · refine (ih.sublist List.filter_sublist).imp_of_mem fun {x y} hx hy h => ?_
      rw [List.idxOf_cons_ne _ (hne x hx), List.idxOf_cons_ne _ (hne y hy)]
      omega

/-- The place of the first list that holds an item. -/
def firstPlace (f : α → List κ) (items : List α) (x : κ) : Nat :=
  items.findIdx fun a => decide (x ∈ f a)

theorem firstPlace_cons (f : α → List κ) (a : α) (items : List α) (x : κ) :
    firstPlace f (a :: items) x = if x ∈ f a then 0 else firstPlace f items x + 1 := by
  by_cases h : x ∈ f a <;> simp [firstPlace, List.findIdx_cons, h]

/-- An item comes before another if a list before holds it, or if the first list that holds it is
the first that holds the other, and has it before the other. -/
theorem pairwise_distinct_flatMap {f : α → List κ} {r : κ → κ → Prop} {items : List α}
    (h : ∀ a ∈ items, (f a).Pairwise r) :
    (distinct (items.flatMap f)).Pairwise fun x y =>
      firstPlace f items x < firstPlace f items y ∨
        firstPlace f items x = firstPlace f items y ∧ r x y := by
  induction items with
  | nil => exact List.Pairwise.nil
  | cons a items ih =>
    have hrest := ih fun b hb => h b (List.mem_cons_of_mem a hb)
    rw [List.flatMap_cons, distinct_append, List.pairwise_append]
    simp only [firstPlace_cons]
    refine ⟨?_, ?_, ?_⟩
    · have hfirst := (h a (by simp)).sublist (distinct_sublist (f a))
      refine hfirst.imp_of_mem fun hx hy hr => ?_
      rw [mem_distinct] at hx hy
      simp [hx, hy, hr]
    · refine (hrest.sublist List.filter_sublist).imp_of_mem fun hx hy hr => ?_
      have hx := (List.mem_filter.1 hx).2
      have hy := (List.mem_filter.1 hy).2
      simp only [decide_eq_true_eq] at hx hy
      simpa [hx, hy] using hr
    · intro x hx y hy
      have hx : x ∈ f a := mem_distinct.1 hx
      have hy : y ∉ f a := by simpa using (List.mem_filter.1 hy).2
      simp [hx, hy]

end

/-! ### Groups -/

section

variable {α κ : Type} [DecidableEq κ] {key : α → κ} {items : List α}

theorem mem_groups_iff {g : κ × List α} :
    g ∈ groups key items ↔
      g.1 ∈ items.map key ∧ g.2 = items.filter fun x => key x = g.1 := by
  rw [groups, List.mem_map]
  constructor
  · rintro ⟨k, hk, rfl⟩
    exact ⟨mem_distinct.1 hk, rfl⟩
  · rintro ⟨hk, hitems⟩
    exact ⟨g.1, mem_distinct.2 hk, by rw [← hitems]⟩

theorem length_groups_le (key : α → κ) (items : List α) :
    (groups key items).length ≤ items.length := by
  rw [groups, List.length_map, ← List.length_map key]
  exact (distinct_sublist _).length_le

theorem sublist_of_mem_groups {g : κ × List α} (h : g ∈ groups key items) : g.2.Sublist items := by
  rw [(mem_groups_iff.1 h).2]
  exact List.filter_sublist

/-- No group is empty. -/
theorem length_pos_of_mem_groups {g : κ × List α} (h : g ∈ groups key items) : 0 < g.2.length := by
  obtain ⟨hkey, hitems⟩ := mem_groups_iff.1 h
  obtain ⟨x, hx, hxkey⟩ := List.mem_map.1 hkey
  rw [hitems]
  exact List.length_pos_of_mem (List.mem_filter.2 ⟨hx, decide_eq_true hxkey⟩)

/-- There is one group with a key that some item has, and none with another key. -/
theorem filter_groups (key : α → κ) (items : List α) (k : κ) :
    (groups key items).filter (fun g => g.1 = k) =
      if k ∈ items.map key then [(k, items.filter fun x => key x = k)] else [] := by
  have hkeys : (distinct (items.map key)).filter (fun x => x = k) =
      if k ∈ items.map key then [k] else [] := by
    rw [List.filter_eq]
    split_ifs with hk
    · rw [List.count_eq_one_of_mem (nodup_distinct _) (mem_distinct.2 hk)]
      rfl
    · rw [List.count_eq_zero_of_not_mem fun h => hk (mem_distinct.1 h)]
      rfl
  rw [groups, List.filter_map, Function.comp_def, hkeys]
  split_ifs <;> rfl

/-- The groups have all items among them. -/
theorem total_length_groups (key : α → κ) (items : List α) :
    total ((groups key items).map fun g => g.2.length) = items.length := by
  have hperm : (distinct (items.map key)).Perm (items.map key).dedup :=
    (List.perm_ext_iff_of_nodup (nodup_distinct _) (List.nodup_dedup _)).2 (by simp)
  have hlength : ∀ k, (items.filter fun x => key x = k).length = (items.map key).count k := by
    intro k
    rw [← List.countP_eq_length_filter, List.count, List.countP_map]
    exact List.countP_congr fun x _ => by simp
  rw [groups, List.map_map]
  simp only [Function.comp_def, hlength]
  calc total ((distinct (items.map key)).map fun k => (items.map key).count k)
    _ = ((items.map key).dedup.map fun k => (items.map key).count k).sum := (hperm.map _).sum_eq
    _ = (items.map key).length := List.sum_map_count_dedup_eq_length _
    _ = items.length := List.length_map _

/-- Every item is in some group. -/
theorem exists_mem_groups {x : α} (h : x ∈ items) : ∃ g ∈ groups key items, x ∈ g.2 := by
  refine ⟨(key x, items.filter fun y => key y = key x), ?_, ?_⟩
  · exact mem_groups_iff.2 ⟨List.mem_map_of_mem h, rfl⟩
  · simpa using h

end

/-! ### Counting -/

section

variable {α β : Type} {f : α → Nat} {l : List α}

theorem total_map_natCast (f : α → Nat) (l : List α) :
    total (l.map fun x => (f x : Int)) = (total (l.map f) : Nat) := by
  induction l with
  | nil => rfl
  | cons x l ih => rw [List.map_cons, total_cons, ih, List.map_cons, total_cons, Int.natCast_add]

theorem total_append (xs ys : List Nat) : total (xs ++ ys) = total xs + total ys :=
  List.sum_append

/-- Items that count for something are no more than what all items count for. -/
theorem length_filter_pos_le_total (f : α → Nat) (l : List α) :
    (l.filter fun x => 0 < f x).length ≤ total (l.map f) := by
  induction l with
  | nil => exact Nat.le_refl _
  | cons x l ih =>
    rw [List.filter_cons, List.map_cons, total_cons]
    by_cases hx : 0 < f x
    · simp only [hx, decide_true, if_true, List.length_cons]
      omega
    · simp only [hx, decide_false, Bool.false_eq_true, if_false]
      omega

/-- They are as many if no item counts twice. -/
theorem length_filter_pos_eq_total_iff :
    (l.filter fun x => 0 < f x).length = total (l.map f) ↔ ∀ x ∈ l, f x ≤ 1 := by
  induction l with
  | nil => simp
  | cons x l ih =>
    have hle := length_filter_pos_le_total f l
    rw [List.filter_cons, List.map_cons, total_cons, List.forall_mem_cons, ← ih]
    by_cases hx : 0 < f x
    · simp only [hx, decide_true, if_true, List.length_cons]
      omega
    · simp only [hx, decide_false, Bool.false_eq_true, if_false]
      omega

/-- Each item as often as it counts is each item that counts, if none counts twice. -/
theorem flatMap_replicate_eq_map_filter {g : α → β} (h : ∀ x ∈ l, f x ≤ 1) :
    (l.flatMap fun x => List.replicate (f x) (g x)) = (l.filter fun x => 0 < f x).map g := by
  induction l with
  | nil => rfl
  | cons x l ih =>
    obtain ⟨hx, hl⟩ := List.forall_mem_cons.1 h
    rw [List.flatMap_cons, ih hl, List.filter_cons]
    rcases Nat.le_one_iff_eq_zero_or_eq_one.1 hx with hx | hx <;> simp [hx]

end

/-! ### Stable sorting -/

section

variable {α : Type} {le : α → α → Bool}

/-- Items of which each ties with each keep their order. -/
theorem filter_mergeSort (trans : ∀ a b c, le a b = true → le b c = true → le a c = true)
    (total : ∀ a b, (le a b || le b a) = true) {p : α → Bool} {l : List α}
    (htie : ∀ a b, p a = true → p b = true → le a b = true) :
    (l.mergeSort le).filter p = l.filter p := by
  have hties : (l.filter p).Pairwise fun a b => le a b = true :=
    List.pairwise_of_forall_mem_list fun a ha b hb =>
      htie a b (List.of_mem_filter ha) (List.of_mem_filter hb)
  have hsub : (l.filter p).Sublist ((l.mergeSort le).filter p) := by
    simpa using (List.sublist_mergeSort trans total hties List.filter_sublist).filter p
  exact (hsub.eq_of_length ((List.mergeSort_perm l le).filter p).length_eq.symm).symm

/-- Sorting a list that is in some order gives the sorted order, and the old one among ties. -/
theorem pairwise_mergeSort_of_pairwise
    (trans : ∀ a b c, le a b = true → le b c = true → le a c = true)
    (total : ∀ a b, (le a b || le b a) = true) {r : α → α → Prop} {l : List α} (h : l.Pairwise r) :
    (l.mergeSort le).Pairwise fun a b => le a b = true ∧ (le b a = true → r a b) := by
  rw [List.pairwise_iff_forall_sublist]
  intro a b hab
  have hle : le a b = true := (List.pairwise_mergeSort trans total l).forall_sublist hab
  refine ⟨hle, fun hba => ?_⟩
  -- among the items that tie with the first one the order is that of the list
  have hrefl : le a a = true := trans a b a hle hba
  have hties := hab.filter fun x => le x a && le a x
  rw [filter_mergeSort trans total] at hties
  · have hpair : [a, b].Sublist l := by
      refine List.Sublist.trans ?_ (hties.trans List.filter_sublist)
      simp [hrefl, hle, hba]
    exact h.forall_sublist hpair
  · intro x y hx hy
    simp only [Bool.and_eq_true] at hx hy
    exact trans x a y hx.1 hy.2

end

/-! ### Bounds -/

section

variable {α : Type} [LinearOrder α] {a b : α} {xs : List α}

theorem foldl_max_le_iff : xs.foldl max b ≤ a ↔ b ≤ a ∧ ∀ x ∈ xs, x ≤ a := by
  induction xs generalizing b with
  | nil => simp
  | cons x xs ih => simp [ih, and_assoc]

theorem le_foldl_min_iff : a ≤ xs.foldl min b ↔ a ≤ b ∧ ∀ x ∈ xs, a ≤ x := by
  induction xs generalizing b with
  | nil => simp
  | cons x xs ih => simp [ih, and_assoc]

end

end StyleGauge.Listing
