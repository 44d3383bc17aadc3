/-!
# Parts of a text

A text is cut at every place where a separator stands. There is always one part more than there
are separators.
-/

namespace StyleGauge.Text

/-- The parts of a text between its separators. -/
def parts (separator : Char) : List Char → List (List Char)
  | [] => [[]]
  | c :: rest =>
    if c = separator then [] :: parts separator rest
    else
      match parts separator rest with
      | [] => [[c]]
      | part :: more => (c :: part) :: more

@[simp] theorem parts_nil (separator : Char) : parts separator [] = [[]] := rfl

theorem parts_ne_nil (separator : Char) (cs : List Char) : parts separator cs ≠ [] := by
  cases cs with
  | nil => simp
  | cons c rest =>
    unfold parts
    split
    · simp
    · split <;> simp

/-- No part holds a separator. -/
theorem separator_not_mem_of_mem_parts {separator : Char} {cs part : List Char}
    (h : part ∈ parts separator cs) : separator ∉ part := by
  induction cs generalizing part with
  | nil => simp_all
  | cons c rest ih =>
    unfold parts at h
    split at h
    · rcases List.mem_cons.1 h with rfl | h
      · simp
      · exact ih h
    · rename_i hc
      split at h
      · rename_i hp
        exact absurd hp (parts_ne_nil separator rest)
      · rename_i first more hp
        rcases List.mem_cons.1 h with rfl | h
        · have hfirst : separator ∉ first := ih (by simp [hp])
          simp [hfirst, Ne.symm hc]
        · exact ih (by simp [hp, h])

/-- A text without separators is its own only part. -/
theorem parts_eq_singleton {separator : Char} {cs : List Char} (h : separator ∉ cs) :
    parts separator cs = [cs] := by
  induction cs with
  | nil => rfl
  | cons c rest ih =>
    rw [List.mem_cons, not_or] at h
    rw [parts, if_neg (Ne.symm h.1), ih h.2]

end StyleGauge.Text
