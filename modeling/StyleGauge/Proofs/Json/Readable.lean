import StyleGauge.Proofs.Json.Values

/-!
# Values that are read

What reading gives is well-formed: a key that stands twice is set twice, and a numeral is rounded to
a value of the format. So the well-formed values are those which some text stands for.
-/

namespace StyleGauge.Json

/-! ### Fields -/

theorem eq_or_mem_of_mem_setField {key : String} {value : Json} {fs : List (String × Json)}
    {f : String × Json} (h : f ∈ setField key value fs) : f = (key, value) ∨ f ∈ fs := by
  induction fs with
  | nil => exact .inl (List.mem_singleton.1 h)
  | cons g fs ih =>
    unfold setField at h
    split_ifs at h with hkey
    · exact (List.mem_cons.1 h).imp_right (List.mem_cons_of_mem g)
    · rcases List.mem_cons.1 h with rfl | h
      · exact .inr List.mem_cons_self
      · exact (ih h).imp_right (List.mem_cons_of_mem g)

theorem nodup_keys_setField {key : String} {value : Json} {fs : List (String × Json)}
    (h : (fs.map Prod.fst).Nodup) : ((setField key value fs).map Prod.fst).Nodup := by
  by_cases hkey : key ∈ fs.map Prod.fst
  · have hkeys : (setField key value fs).map Prod.fst = fs.map Prod.fst := by
      clear h
      induction fs with
      | nil => cases hkey
      | cons g fs ih =>
        unfold setField
        split_ifs with heq
        · rw [List.map_cons, List.map_cons, heq]
        · rw [List.map_cons, List.map_cons, ih]
          exact (List.mem_cons.1 hkey).resolve_left (Ne.symm heq)
    rwa [hkeys]
  · rw [setField_of_notMem hkey, List.map_append, List.nodup_append]
    refine ⟨h, List.nodup_singleton key, ?_⟩
    rintro a ha _ hb rfl
    exact hkey ((List.mem_singleton.1 hb : a = key) ▸ ha)

/-- Fields that are set one after the other make a well-formed object. -/
theorem isWellFormed_setFields {fs others : List (String × Json)}
    (hfs : (object fs).IsWellFormed) (hothers : ∀ f ∈ others, f.2.IsWellFormed) :
    (object (setFields fs others)).IsWellFormed := by
  induction others generalizing fs with
  | nil => exact hfs
  | cons g others ih =>
    rw [isWellFormed_object_iff] at hfs
    refine ih (.object (nodup_keys_setField hfs.1) ?_) fun f hf =>
      hothers f (List.mem_cons_of_mem g hf)
    intro f hf
    rcases eq_or_mem_of_mem_setField hf with rfl | hf
    · exact hothers g List.mem_cons_self
    · exact hfs.2 f hf

namespace Reader

theorem isWellFormed_of_readPlain {cs rest : List Char} {value : Json}
    (h : readPlain cs = some (value, rest)) : value.IsWellFormed := by
  unfold readPlain at h
  split at h
  · rename_i w hw
    cases h
    have hwords : ∀ w ∈ words, w.2.IsWellFormed := by
      simp [words, IsWellFormed.null, IsWellFormed.bool, Number.IsCanonical, Binary64.IsCanonical]
    exact hwords w (List.mem_of_find?_eq_some hw)
  · obtain ⟨⟨n, r⟩, hn, heq⟩ := Option.map_eq_some_iff.1 h
    cases heq
    exact .number (isCanonical_of_readNumber hn)

theorem skipSpaces_length_lt {cs rest : List Char} {c : Char} (h : skipSpaces cs = c :: rest) :
    (skipSpaces rest).length < cs.length := by
  have hcs := skipSpaces_length_le cs
  have hrest := skipSpaces_length_le rest
  rw [h, List.length_cons] at hcs
  omega

-- The recursion is that of the readers; what is left gets shorter, so the measure is theirs too.
mutual

theorem isWellFormed_of_readValue {cs : List Char} {value : Json} {r : Rest cs}
    (h : readValue cs = .ok (value, r)) : value.IsWellFormed := by
  match cs with
  | [] =>
    rw [readValue.eq_def] at h
    cases h
  | c :: rest =>
    have hspaces := skipSpaces_length_le rest
    rw [readValue] at h
    split_ifs at h
    · split at h <;> cases h
      exact .string _
    · split at h
      · cases h
        exact .object List.nodup_nil (by simp)
      · split at h <;> cases h
        rename_i hfields
        exact isWellFormed_setFields (.object List.nodup_nil (by simp))
          (isWellFormed_of_readFields hfields)
    · split at h
      · cases h
        exact .array (by simp)
      · split at h <;> cases h
        rename_i hitems
        exact .array (isWellFormed_of_readItems hitems)
    · split at h <;> cases h
      rename_i hplain
      exact isWellFormed_of_readPlain hplain
termination_by 2 * cs.length

theorem isWellFormed_of_readItems {cs : List Char} {items : List Json} {r : Rest cs}
    (h : readItems cs = .ok (items, r)) : ∀ item ∈ items, item.IsWellFormed := by
  rw [readItems.eq_def] at h
  split at h
  · cases h
  · rename_i hvalue
    have hitem := isWellFormed_of_readValue hvalue
    split at h
    · cases h
      exact List.forall_mem_singleton.2 hitem
    · rename_i hcomma
      have hlength := skipSpaces_length_lt hcomma
      split at h <;> cases h
      rename_i hitems
      exact List.forall_mem_cons.2 ⟨hitem, isWellFormed_of_readItems hitems⟩
    · cases h
termination_by 2 * cs.length + 1

theorem isWellFormed_of_readFields {cs : List Char} {fs : List (String × Json)} {r : Rest cs}
    (h : readFields cs = .ok (fs, r)) : ∀ f ∈ fs, f.2.IsWellFormed := by
  match cs with
  | [] =>
    rw [readFields.eq_def] at h
    cases h
  | quote :: afterQuote =>
    rw [readFields] at h
    split at h
    · cases h
    · split at h
      · cases h
      · split at h
        · rename_i hcolon
          have hlength := skipSpaces_length_lt hcolon
          split at h
          · cases h
          · rename_i hvalue
            have hvalue := isWellFormed_of_readValue hvalue
            split at h
            · cases h
              exact List.forall_mem_singleton.2 hvalue
            · rename_i hcomma
              have hlength' := skipSpaces_length_lt hcomma
              split at h <;> cases h
              rename_i hfields
              exact List.forall_mem_cons.2 ⟨hvalue, isWellFormed_of_readFields hfields⟩
            · cases h
        · cases h
termination_by 2 * cs.length + 1

end

theorem isWellFormed_of_readText {cs : List Char} {value : Json} (h : readText cs = .ok value) :
    value.IsWellFormed := by
  unfold readText at h
  split at h
  · cases h
  · split at h
    · cases h
    · rename_i hvalue
      dsimp only at h
      split_ifs at h
      cases h
      exact isWellFormed_of_readValue hvalue

end Reader

/-- The well-formed values are those which some text stands for. -/
theorem isWellFormed_iff_exists_parse {value : Json} :
    value.IsWellFormed ↔ ∃ text, parse text = .ok value := by
  refine ⟨fun h => ⟨compact value, parse_render h none⟩, ?_⟩
  rintro ⟨text, h⟩
  simp only [parse] at h
  split at h
  · rename_i hread
    cases h
    exact Reader.isWellFormed_of_readText hread
  · cases h

end StyleGauge.Json
