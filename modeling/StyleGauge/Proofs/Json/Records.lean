import StyleGauge.Json.Record
import StyleGauge.Proofs.Json.Values
import StyleGauge.Proofs.Outcome

/-!
# Fields of records read back

A field that is written only if it is set is read as what it was set to, and a list is read item by
item.
-/

namespace StyleGauge.Json

variable {α : Type} {key : String} {write : α → Json} {j : Json}

/-! ### Fields that may be missing -/

theorem lookup_setIfSome (key other : String) (write : α → Json) (o : Option α) :
    (setIfSome key write o).lookup other = if other = key then o.map write else none := by
  cases o with
  | none => simp [setIfSome]
  | some a =>
    by_cases h : other = key
    · simp [setIfSome, h]
    · simp [setIfSome, List.lookup_cons, beq_false_of_ne h, h]

theorem keys_setIfSome_sublist (key : String) (write : α → Json) (o : Option α) :
    ((setIfSome key write o).map Prod.fst).Sublist [key] := by
  cases o with
  | none => exact List.nil_sublist _
  | some a => exact List.Sublist.refl _

@[simp] theorem forall_mem_setIfSome {p : String × Json → Prop} {o : Option α} :
    (∀ f ∈ setIfSome key write o, p f) ↔ ∀ a ∈ o, p (key, write a) := by
  cases o with
  | none => simp [setIfSome]
  | some a => simp [setIfSome]

/-- A field that is missing where nothing is set is read as what it was set to. Null, which would
stand for a missing field, is written for nothing. -/
theorem optional_eq_ok {view? : Json → Option α} {o : Option α} (h : j.get? key = o.map write)
    (hview : ∀ a, view? (write a) = some a) (hnull : view? null = none) :
    j.optional key view? = .ok o := by
  unfold Json.optional
  rw [h]
  cases o with
  | none => rfl
  | some a =>
    rw [Option.map_some]
    split
    · rename_i heq
      cases heq
    · rename_i heq
      have hsome := hview a
      rw [Option.some.inj heq, hnull] at hsome
      cases hsome
    · rename_i heq
      rw [← Option.some.inj heq, expect, hview]
      rfl

/-! ### Lists -/

theorem listOf_eq_ok {read : Json → Except Misfit α} {as : List α}
    (h : j.get? key = some (array (as.map write))) (hread : ∀ a ∈ as, read (write a) = .ok a) :
    j.listOf key read = .ok as := by
  have hitems : j.withDefault key [] items? = .ok (as.map write) := by
    rw [withDefault, h]
    rfl
  have hmap : as.mapM (read ∘ write) = .ok (as.map id) := mapM_eq_ok_map hread
  rw [listOf, hitems, ok_bind, List.mapM_map, hmap, List.map_id]

end StyleGauge.Json
