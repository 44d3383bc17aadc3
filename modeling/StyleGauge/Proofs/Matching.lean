import Mathlib.Data.Fin.Basic
import Mathlib.Data.List.Forall2
import Mathlib.Data.List.Perm.Subperm
import StyleGauge.Proofs.Listing

/-!
# Matchings

The items of one list are matched with items of another if each has a partner that it is related to,
and no item is the partner of two. Lists that are put together from parts are matched part by part.
-/

namespace StyleGauge.Listing

variable {α β γ δ : Type}

/-- Every item of `xs` has a partner in `ys` that it is related to, at a place of its own. -/
def Matches (r : α → β → Prop) (xs : List α) (ys : List β) : Prop :=
  ∃ zs, List.Forall₂ r xs zs ∧ zs.Subperm ys

namespace Matches

variable {r : α → β → Prop} {xs : List α} {ys : List β}

theorem of_subperm {r : α → α → Prop} {xs ys : List α} (hr : ∀ x ∈ xs, r x x)
    (h : xs.Subperm ys) : Matches r xs ys :=
  ⟨xs, List.forall₂_same.2 hr, h⟩

theorem trans_subperm {ys' : List β} (h : Matches r xs ys) (hys : ys.Subperm ys') :
    Matches r xs ys' := by
  obtain ⟨zs, hzs, hsub⟩ := h
  exact ⟨zs, hzs, hsub.trans hys⟩

theorem of_perm {xs' : List α} (h : Matches r xs ys) (hxs : xs'.Perm xs) : Matches r xs' ys := by
  obtain ⟨zs, hzs, hsub⟩ := h
  obtain ⟨zs', hzs', hperm⟩ := List.perm_comp_forall₂ hxs hzs
  exact ⟨zs', hzs', hperm.subperm.trans hsub⟩

theorem append {us : List α} {vs : List β} (h : Matches r xs ys) (h' : Matches r us vs) :
    Matches r (xs ++ us) (ys ++ vs) := by
  obtain ⟨zs, hzs, hsub⟩ := h
  obtain ⟨ws, hws, hsub'⟩ := h'
  exact ⟨zs ++ ws, List.rel_append hzs hws, hsub.append hsub'⟩

theorem flatMap {l : List γ} {f : γ → List α} {g : γ → List β}
    (h : ∀ c ∈ l, Matches r (f c) (g c)) : Matches r (l.flatMap f) (l.flatMap g) := by
  induction l with
  | nil => exact ⟨[], .nil, .refl []⟩
  | cons c l ih =>
    rw [List.flatMap_cons, List.flatMap_cons]
    exact (h c (by simp)).append (ih fun d hd => h d (List.mem_cons_of_mem c hd))

/-- If partners of items that stay become partners, then so do the items that stay. -/
theorem filterMap {f : α → Option γ} {g : β → Option δ} {s : γ → δ → Prop} (h : Matches r xs ys)
    (hstep : ∀ x, ∀ y ∈ ys, r x y → ∀ c, f x = some c → ∃ d, g y = some d ∧ s c d) :
    Matches s (xs.filterMap f) (ys.filterMap g) := by
  obtain ⟨zs, hzs, l, hperm, hsub⟩ := h
  have hmem : ∀ z ∈ zs, z ∈ ys := fun z hz => hsub.subset (hperm.mem_iff.2 hz)
  suffices hkept : ∃ ws, List.Forall₂ s (xs.filterMap f) ws ∧ ws.Sublist (zs.filterMap g) by
    obtain ⟨ws, hws, hsub'⟩ := hkept
    have hzs' : (zs.filterMap g).Subperm (ys.filterMap g) :=
      ⟨_, hperm.filterMap g, hsub.filterMap g⟩
    exact ⟨ws, hws, hsub'.subperm.trans hzs'⟩
  clear hsub hperm
  induction hzs with
  | nil => exact ⟨[], .nil, .slnil⟩
  | @cons x z xs zs hxz hzs ih =>
    obtain ⟨ws, hws, hsub⟩ := ih fun w hw => hmem w (List.mem_cons_of_mem z hw)
    cases hx : f x with
    | none =>
      rw [List.filterMap_cons_none hx]
      refine ⟨ws, hws, hsub.trans ?_⟩
      exact (List.sublist_cons_self z zs).filterMap g
    | some c =>
      obtain ⟨d, hd, hcd⟩ := hstep x z (hmem z (by simp)) hxz c hx
      rw [List.filterMap_cons_some hx, List.filterMap_cons_some hd]
      exact ⟨d :: ws, hws.cons hcd, hsub.cons_cons d⟩

theorem map {f : α → γ} {g : β → δ} {s : γ → δ → Prop} (h : Matches r xs ys)
    (hstep : ∀ x y, r x y → s (f x) (g y)) : Matches s (xs.map f) (ys.map g) := by
  rw [← List.filterMap_eq_map, ← List.filterMap_eq_map]
  refine h.filterMap fun x y _ hxy c hc => ?_
  obtain rfl := Option.some.inj hc
  exact ⟨g y, rfl, hstep x y hxy⟩

theorem filter {p : α → Bool} {q : β → Bool} (h : Matches r xs ys)
    (hstep : ∀ x y, r x y → p x = true → q y = true) :
    Matches r (xs.filter p) (ys.filter q) := by
  rw [← List.filterMap_eq_filter, ← List.filterMap_eq_filter]
  refine h.filterMap fun x y _ hxy c hc => ?_
  obtain ⟨rfl, hp⟩ := Option.guard_eq_some_iff.1 hc
  exact ⟨y, Option.guard_eq_some_iff.2 ⟨rfl, hstep _ y hxy hp⟩, hxy⟩

/-- What related items have in common is found at least as often in the second list. -/
theorem subperm_map {f : α → γ} {g : β → γ} (h : Matches r xs ys)
    (hfg : ∀ x y, r x y → f x = g y) : (xs.map f).Subperm (ys.map g) := by
  obtain ⟨zs, hzs, l, hperm, hsub⟩ := h
  have hmap : List.Forall₂ Eq (xs.map f) (zs.map g) := by
    rw [List.forall₂_map_left_iff, List.forall₂_map_right_iff]
    exact hzs.imp hfg
  rw [List.forall₂_eq_eq_eq] at hmap
  rw [hmap]
  exact ⟨_, hperm.map g, hsub.map g⟩

/-- A matching as a map of places. -/
theorem exists_injective [DecidableEq β] (h : Matches r xs ys) :
    ∃ f : Fin xs.length → Fin ys.length, Function.Injective f ∧ ∀ i, r xs[i] ys[f i] := by
  obtain ⟨zs, hzs, hsub⟩ := h
  have hlength : xs.length = zs.length := hzs.length_eq
  refine ⟨fun i => hsub.idxInj (i.cast hlength), ?_, fun i => ?_⟩
  · exact hsub.idxInj_injective.comp (Fin.cast_injective hlength)
  · have hplace := hsub.getElem_idxInj_eq_getElem (i := i.cast hlength)
    have hpartner : r (xs.get i) (zs.get (i.cast hlength)) := hzs.get i.isLt (hlength ▸ i.isLt)
    exact hplace ▸ hpartner

end Matches

/-- With more items at the end the first item stays the first. -/
theorem head?_eq_of_isPrefix {xs ys : List α} (hne : xs ≠ []) (h : xs <+: ys) :
    ys.head? = xs.head? := by
  obtain ⟨rest, rfl⟩ := h
  exact List.head?_append_of_ne_nil xs hne

/-- With more items at the end the groups stay, and have more items at the end. -/
theorem matches_groups_append [DecidableEq γ] (key : α → γ) (xs ys : List α) :
    Matches (fun g g' => g'.1 = g.1 ∧ g.2 ≠ [] ∧ g.2 <+: g'.2) (groups key xs)
      (groups key (xs ++ ys)) := by
  refine ⟨(distinct (xs.map key)).map fun k => (k, (xs ++ ys).filter fun x => key x = k), ?_, ?_⟩
  · rw [groups, List.forall₂_map_left_iff, List.forall₂_map_right_iff, List.forall₂_same]
    intro k hk
    obtain ⟨x, hx, hkey⟩ := List.mem_map.1 (mem_distinct.1 hk)
    refine ⟨rfl, List.ne_nil_of_mem (List.mem_filter.2 ⟨hx, decide_eq_true hkey⟩), ?_⟩
    rw [List.filter_append]
    exact List.prefix_append _ _
  · rw [groups, List.map_append, distinct_append, List.map_append]
    exact (List.sublist_append_left _ _).subperm

end StyleGauge.Listing
