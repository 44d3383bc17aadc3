import StyleGauge.Duplication
import StyleGauge.Proofs.Listing

/-!
# Blocks

A block stands for one combination of declarations, and for each rule that has a part in it.
Combinations are compared by their joined keys. So blocks are exact if no two combinations that are
met have the same joined key.
-/

namespace StyleGauge

theorem Declaration.colon_mem_key (d : Declaration) : ':' ∈ d.key.toList := by
  simp [key]

namespace Duplication

variable {sheets : List Stylesheet} {size : Nat} {count : Int} {pairs : List String}

/-! ### Combinations of a rule -/

/-- A rule has a part in a combination if it has enough declarations and its sorted keys begin with
the combination. -/
def HasPart (size : Nat) (pairs : List String) (r : Rule) : Prop :=
  size ≤ r.declarations.length ∧ pairs <+: sortedKeys r

instance (size : Nat) (pairs : List String) (r : Rule) : Decidable (HasPart size pairs r) :=
  inferInstanceAs (Decidable (_ ∧ _))

@[simp] theorem length_sortedKeys (r : Rule) : (sortedKeys r).length = r.declarations.length := by
  simp [sortedKeys]

theorem sortedKeys_of_pairwise {r : Rule}
    (h : (r.declarations.map Declaration.key).Pairwise (· ≤ ·)) :
    sortedKeys r = r.declarations.map Declaration.key :=
  List.mergeSort_of_pairwise (h.imp decide_eq_true)

theorem combinations_eq_map_take {r : Rule} (h : size ≤ r.declarations.length) :
    combinations size r = (List.range (r.declarations.length + 1 - size)).map
      fun i => (sortedKeys r).take (size + i) := by
  have hspan : ((r.declarations.length : Int) + 1 - size).toNat =
      r.declarations.length + 1 - size := by omega
  rw [combinations, if_neg (by omega), span, List.map_map, hspan]
  rfl

theorem mem_combinations_iff {r : Rule} :
    pairs ∈ combinations size r ↔ size ≤ pairs.length ∧ HasPart size pairs r := by
  by_cases h : size ≤ r.declarations.length
  · rw [combinations_eq_map_take h, List.mem_map]
    constructor
    · rintro ⟨i, hi, rfl⟩
      have hi := List.mem_range.1 hi
      refine ⟨?_, h, List.take_prefix ..⟩
      rw [List.length_take, length_sortedKeys]
      omega
    · rintro ⟨hsize, -, hprefix⟩
      have hle := hprefix.length_le
      rw [length_sortedKeys] at hle
      refine ⟨pairs.length - size, List.mem_range.2 (by omega), ?_⟩
      rw [Nat.add_sub_cancel' hsize]
      exact (List.prefix_iff_eq_take.1 hprefix).symm
  · have hfew : (r.declarations.length : Int) < size := by omega
    simp [combinations, HasPart, h, hfew]

/-- The combinations of a rule grow. -/
theorem pairwise_combinations (size : Nat) (r : Rule) :
    (combinations size r).Pairwise fun a b => a.length < b.length := by
  by_cases h : size ≤ r.declarations.length
  · rw [combinations_eq_map_take h, List.pairwise_map]
    refine List.pairwise_lt_range.imp_of_mem fun hi hj hlt => ?_
    have hi := List.mem_range.1 hi
    have hj := List.mem_range.1 hj
    simp only [List.length_take, length_sortedKeys]
    omega
  · have hfew : (r.declarations.length : Int) < size := by omega
    simp [combinations, hfew]

theorem nodup_combinations (size : Nat) (r : Rule) : (combinations size r).Nodup :=
  (pairwise_combinations size r).imp fun hlt heq => by
    rw [heq] at hlt
    exact Nat.lt_irrefl _ hlt

/-! ### Occurrences -/

/-- Where a combination occurs: at each rule that has a part in it. -/
def occurrences (sheets : List Stylesheet) (size : Nat) (pairs : List String) : List Location :=
  ((sites sheets).filter fun s => HasPart size pairs s.rule).map Site.location

/-- The block of a combination. -/
def exactBlock (sheets : List Stylesheet) (size : Nat) (pairs : List String) : Block :=
  ⟨pairs, occurrences sheets size pairs⟩

/-- The first rule that has a part in a combination, by its number. -/
def firstRule (sheets : List Stylesheet) (size : Nat) (pairs : List String) : Nat :=
  (sites sheets).findIdx fun s => HasPart size pairs s.rule

/-- The first combination is met before the second: in a rule before, or in the same rule, where the
shorter one comes first. -/
def MetBefore (sheets : List Stylesheet) (size : Nat) (a b : List String) : Prop :=
  firstRule sheets size a < firstRule sheets size b ∨
    firstRule sheets size a = firstRule sheets size b ∧ a.length < b.length

theorem map_fst_combined (sheets : List Stylesheet) (size : Int) :
    (combined sheets size).map Prod.fst =
      (sites sheets).flatMap fun s => combinations size s.rule := by
  rw [combined, List.map_flatMap]
  refine List.flatMap_congr fun s _ => ?_
  rw [List.map_map]
  exact List.map_id _

/-- A combination is listed once for each rule that has a part in it. -/
theorem filter_combined (h : size ≤ pairs.length) :
    (combined sheets size).filter (fun c => c.1 = pairs) =
      (occurrences sheets size pairs).map fun l => (pairs, l) := by
  rw [combined, List.filter_flatMap, occurrences, List.map_map]
  induction sites sheets with
  | nil => rfl
  | cons s sites ih =>
    have hcount : (combinations size s.rule).filter (fun c => c = pairs) =
        if HasPart size pairs s.rule then [pairs] else [] := by
      rw [List.filter_eq, List.Nodup.count (nodup_combinations size s.rule)]
      simp only [mem_combinations_iff, h, true_and]
      split <;> rfl
    have hhere : ((combinations size s.rule).map (·, s.location)).filter (fun c => c.1 = pairs) =
        if HasPart size pairs s.rule then [(pairs, s.location)] else [] := by
      rw [List.filter_map]
      change ((combinations size s.rule).filter (fun c => c = pairs)).map _ = _
      rw [hcount]
      split <;> rfl
    rw [List.flatMap_cons, ih, hhere, List.filter_cons]
    by_cases hpart : HasPart size pairs s.rule <;> simp [hpart]

theorem mem_map_fst_combined_iff : pairs ∈ (combined sheets size).map Prod.fst ↔
    size ≤ pairs.length ∧ occurrences sheets size pairs ≠ [] := by
  have hne : occurrences sheets size pairs ≠ [] ↔
      ∃ s ∈ sites sheets, HasPart size pairs s.rule := by
    simp [occurrences, List.filter_eq_nil_iff]
  rw [map_fst_combined, List.mem_flatMap, hne]
  simp only [mem_combinations_iff]
  constructor
  · rintro ⟨s, hs, hsize, hpart⟩
    exact ⟨hsize, s, hs, hpart⟩
  · rintro ⟨hsize, s, hs, hpart⟩
    exact ⟨s, hs, hsize, hpart⟩

theorem of_mem_combined {c : List String × Location} (hc : c ∈ combined sheets size) :
    size ≤ c.1.length ∧ occurrences sheets size c.1 ≠ [] :=
  mem_map_fst_combined_iff.1 (List.mem_map_of_mem hc)

/-! ### Frequent combinations -/

/-- The combinations that occur often enough, in the order in which they are met. -/
def frequent (sheets : List Stylesheet) (size : Nat) (count : Int) : List (List String) :=
  (Listing.distinct ((combined sheets size).map Prod.fst)).filter
    fun pairs => count ≤ (occurrences sheets size pairs).length

theorem mem_frequent_iff : pairs ∈ frequent sheets size count ↔
    size ≤ pairs.length ∧ occurrences sheets size pairs ≠ [] ∧
      count ≤ (occurrences sheets size pairs).length := by
  rw [frequent, List.mem_filter, Listing.mem_distinct, mem_map_fst_combined_iff, decide_eq_true_iff,
    and_assoc]

theorem nodup_frequent (sheets : List Stylesheet) (size : Nat) (count : Int) :
    (frequent sheets size count).Nodup :=
  (Listing.nodup_distinct _).sublist List.filter_sublist

theorem pairwise_frequent (sheets : List Stylesheet) (size : Nat) (count : Int) :
    (frequent sheets size count).Pairwise (MetBefore sheets size) := by
  have hmet := Listing.pairwise_distinct_flatMap fun s (_ : s ∈ sites sheets) =>
    pairwise_combinations size s.rule
  have hsub : (frequent sheets size count).Sublist
      (Listing.distinct ((sites sheets).flatMap fun s => combinations size s.rule)) := by
    rw [frequent, map_fst_combined]
    exact List.filter_sublist
  refine (hmet.sublist hsub).imp_of_mem fun {a b} ha hb hab => ?_
  have hplace : ∀ pairs ∈ frequent sheets size count,
      Listing.firstPlace (fun s : Site => combinations size s.rule) (sites sheets) pairs =
        firstRule sheets size pairs := by
    intro pairs hpairs
    have hsize := (mem_frequent_iff.1 hpairs).1
    simp only [Listing.firstPlace, firstRule, mem_combinations_iff, hsize, true_and]
  rw [hplace a ha, hplace b hb] at hab
  exact hab

/-! ### Joined keys -/

/-- The combinations met that have a joined key, with their places. -/
def withKey (sheets : List Stylesheet) (size : Nat) (key : String) :
    List (List String × Location) :=
  (combined sheets size).filter fun c => combinationKey c.1 = key

/-- The block of a joined key. -/
def blockOf (sheets : List Stylesheet) (size : Nat) (key : String) : Block :=
  ⟨((withKey sheets size key).head?.map Prod.fst).getD [], (withKey sheets size key).map Prod.snd⟩

/-- No two combinations have the same joined key if the key is met often enough for a block. -/
def KeysTellApart (sheets : List Stylesheet) (size : Nat) (count : Int) : Prop :=
  ∀ a ∈ combined sheets size, ∀ b ∈ combined sheets size,
    count ≤ (withKey sheets size (combinationKey a.1)).length →
      combinationKey a.1 = combinationKey b.1 → a.1 = b.1

theorem blocks_eq_mergeSort (sheets : List Stylesheet) (size : Nat) (count : Int) :
    blocks sheets size count =
      (((Listing.distinct (((combined sheets size).map Prod.fst).map combinationKey)).filter
        fun key => count ≤ (withKey sheets size key).length).map (blockOf sheets size)).mergeSort
          fun a b => decide (b.occurrences.length ≤ a.occurrences.length) := by
  simp only [blocks, Listing.groups, List.map_map, List.filter_map]
  congr 2
  refine List.filter_congr fun key _ => ?_
  simp only [Function.comp_apply, List.length_map]
  rfl

theorem filter_withKey (sheets : List Stylesheet) (size : Nat) (pairs : List String) :
    (withKey sheets size (combinationKey pairs)).filter (fun c => c.1 = pairs) =
      (combined sheets size).filter fun c => c.1 = pairs := by
  rw [withKey, List.filter_filter]
  refine List.filter_congr fun c _ => ?_
  by_cases h : c.1 = pairs <;> simp [h]

theorem mem_blocks_iff {b : Block} : b ∈ blocks sheets size count ↔
    ∃ c ∈ combined sheets size, count ≤ (withKey sheets size (combinationKey c.1)).length ∧
      blockOf sheets size (combinationKey c.1) = b := by
  rw [blocks_eq_mergeSort, List.mem_mergeSort, List.mem_map]
  simp only [List.mem_filter, Listing.mem_distinct, List.mem_map, decide_eq_true_iff]
  constructor
  · rintro ⟨_, ⟨⟨_, ⟨c, hc, rfl⟩, rfl⟩, hcount⟩, rfl⟩
    exact ⟨c, hc, hcount, rfl⟩
  · rintro ⟨c, hc, hcount, rfl⟩
    exact ⟨_, ⟨⟨_, ⟨c, hc, rfl⟩, rfl⟩, hcount⟩, rfl⟩

theorem length_occurrences_eq (h : size ≤ pairs.length) : (occurrences sheets size pairs).length =
    ((withKey sheets size (combinationKey pairs)).filter fun c => c.1 = pairs).length := by
  rw [filter_withKey, filter_combined h, List.length_map]

/-- If its joined key tells a combination apart, its block holds it and its occurrences. -/
theorem blockOf_combinationKey (h : KeysTellApart sheets size count)
    {c : List String × Location} (hc : c ∈ combined sheets size)
    (hcount : count ≤ (withKey sheets size (combinationKey c.1)).length) :
    blockOf sheets size (combinationKey c.1) = exactBlock sheets size c.1 := by
  obtain ⟨hsize, hne⟩ := of_mem_combined hc
  have hown : withKey sheets size (combinationKey c.1) =
      (occurrences sheets size c.1).map fun l => (c.1, l) := by
    rw [← filter_combined hsize, ← filter_withKey, eq_comm, List.filter_eq_self]
    intro d hd
    obtain ⟨hd, hkey⟩ := List.mem_filter.1 hd
    exact decide_eq_true (h c hc d hd hcount (of_decide_eq_true hkey).symm).symm
  obtain ⟨l, ls, hls⟩ := List.exists_cons_of_ne_nil hne
  simp [blockOf, exactBlock, hown, hls, Function.comp_def]

theorem blocks_eq_of_keysTellApart (h : KeysTellApart sheets size count) :
    blocks sheets size count =
      ((frequent sheets size count).map (exactBlock sheets size)).mergeSort
        fun a b => decide (b.occurrences.length ≤ a.occurrences.length) := by
  have happart : ∀ a ∈ (combined sheets size).map Prod.fst,
      ∀ b ∈ (combined sheets size).map Prod.fst,
        decide (count ≤ (withKey sheets size (combinationKey a)).length) = true →
          combinationKey a = combinationKey b → a = b := by
    simp only [List.mem_map, decide_eq_true_iff]
    rintro _ ⟨a, ha, rfl⟩ _ ⟨b, hb, rfl⟩
    exact h a ha b hb
  have hfrequent : (Listing.distinct ((combined sheets size).map Prod.fst)).filter
      (fun a => count ≤ (withKey sheets size (combinationKey a)).length) =
        frequent sheets size count := by
    refine List.filter_congr fun a ha => decide_eq_decide.2 ?_
    obtain ⟨c, hc, rfl⟩ := List.mem_map.1 (Listing.mem_distinct.1 ha)
    constructor
    · intro hcount
      have hblock := congrArg (·.occurrences.length) (blockOf_combinationKey h hc hcount)
      simp only [blockOf, exactBlock, List.length_map] at hblock
      rwa [← hblock]
    · intro hcount
      rw [length_occurrences_eq (of_mem_combined hc).1] at hcount
      exact Int.le_trans hcount (Int.ofNat_le.2 (List.length_filter_le ..))
  rw [blocks_eq_mergeSort, Listing.filter_distinct_map happart, List.map_map, hfrequent]
  congr 1
  refine List.map_congr_left fun a ha => ?_
  rw [← hfrequent, List.mem_filter, Listing.mem_distinct, List.mem_map] at ha
  obtain ⟨⟨c, hc, rfl⟩, hcount⟩ := ha
  exact blockOf_combinationKey h hc (of_decide_eq_true hcount)

/-! ### Keys without bars -/

theorem splitOn_combinationKey (h : ∀ k ∈ pairs, '|' ∉ k.toList) :
    (combinationKey pairs).toList.splitOn '|' =
      if pairs = [] then [[]] else pairs.map String.toList := by
  rw [combinationKey, String.toList_intercalate]
  split_ifs with hnil
  · rw [hnil]
    rfl
  · refine List.splitOn_intercalate '|' ?_ (by simpa using hnil)
    intro l hl
    obtain ⟨k, hk, rfl⟩ := List.mem_map.1 hl
    exact h k hk

/-- Joining keys without bars by bars loses nothing, as no key is empty. -/
theorem eq_of_combinationKey_eq {a b : List String}
    (ha : ∀ k ∈ a, ':' ∈ k.toList ∧ '|' ∉ k.toList)
    (hb : ∀ k ∈ b, ':' ∈ k.toList ∧ '|' ∉ k.toList) (h : combinationKey a = combinationKey b) :
    a = b := by
  have hne : ∀ c : List String, (∀ k ∈ c, ':' ∈ k.toList ∧ '|' ∉ k.toList) →
      c.map String.toList ≠ [[]] := by
    intro c hc hempty
    obtain ⟨k, hk, hkey⟩ := List.mem_map.1 (hempty ▸ List.mem_singleton_self [])
    have hcolon := (hc k hk).1
    rw [hkey] at hcolon
    cases hcolon
  have hsplit := splitOn_combinationKey fun k hk => (ha k hk).2
  rw [h, splitOn_combinationKey fun k hk => (hb k hk).2] at hsplit
  split_ifs at hsplit with hbnil hanil hanil
  · rw [hanil, hbnil]
  · exact absurd hsplit.symm (hne a ha)
  · exact absurd hsplit (hne b hb)
  · exact List.map_injective_iff.2 (fun _ _ => String.toList_inj.1) hsplit.symm

theorem keysTellApart_of_no_bar
    (h : ∀ s ∈ sites sheets, ∀ d ∈ s.rule.declarations, '|' ∉ d.key.toList) :
    KeysTellApart sheets size count := by
  have hkeys : ∀ c ∈ combined sheets size, ∀ k ∈ c.1, ':' ∈ k.toList ∧ '|' ∉ k.toList := by
    intro c hc k hk
    obtain ⟨s, hs, hc⟩ := List.mem_flatMap.1 hc
    obtain ⟨pairs, hpairs, rfl⟩ := List.mem_map.1 hc
    have hk : k ∈ sortedKeys s.rule := (mem_combinations_iff.1 hpairs).2.2.subset hk
    obtain ⟨d, hd, rfl⟩ := List.mem_map.1 (List.mem_mergeSort.1 hk)
    exact ⟨d.colon_mem_key, h s hs d hd⟩
  exact fun a ha b hb _ hab => eq_of_combinationKey_eq (hkeys a ha) (hkeys b hb) hab

/-! ### Blocks -/

/-- Blocks that stand for combinations exactly. -/
structure AreExact (sheets : List Stylesheet) (size : Nat) (count : Int) (bs : List Block) :
    Prop where
  /-- Those combinations have a block that occur, and often enough. -/
  exists_iff : ∀ pairs : List String, size ≤ pairs.length →
    ((∃ b ∈ bs, b.pairs = pairs) ↔
      occurrences sheets size pairs ≠ [] ∧ count ≤ (occurrences sheets size pairs).length)
  /-- No block stands for fewer declarations. -/
  size_le : ∀ b ∈ bs, size ≤ b.pairs.length
  /-- No combination has two blocks. -/
  nodup : (bs.map Block.pairs).Nodup
  /-- A block has the occurrences of its combination. -/
  occurrences_eq : ∀ b ∈ bs, b.occurrences = occurrences sheets size b.pairs
  /-- Frequent blocks come first, and of blocks that occur equally often the one met first. -/
  ordered : bs.Pairwise fun a b => b.occurrences.length < a.occurrences.length ∨
    a.occurrences.length = b.occurrences.length ∧ MetBefore sheets size a.pairs b.pairs

theorem areExact_of_keysTellApart (h : KeysTellApart sheets size count) :
    AreExact sheets size count (blocks sheets size count) := by
  have hperm : (blocks sheets size count).Perm
      ((frequent sheets size count).map (exactBlock sheets size)) := by
    rw [blocks_eq_of_keysTellApart h]
    exact List.mergeSort_perm ..
  have hmem : ∀ b, b ∈ blocks sheets size count ↔
      ∃ pairs ∈ frequent sheets size count, exactBlock sheets size pairs = b := by
    intro b
    rw [hperm.mem_iff, List.mem_map]
  constructor
  case exists_iff =>
    intro pairs hsize
    have hfrequent : (∃ b ∈ blocks sheets size count, b.pairs = pairs) ↔
        pairs ∈ frequent sheets size count := by
      simp only [hmem, ↓existsAndEq, and_true, exactBlock]
    rw [hfrequent, mem_frequent_iff]
    exact and_iff_right hsize
  case size_le =>
    intro b hb
    obtain ⟨pairs, hpairs, rfl⟩ := (hmem b).1 hb
    exact (mem_frequent_iff.1 hpairs).1
  case nodup =>
    rw [(hperm.map Block.pairs).nodup_iff, List.map_map]
    exact (List.map_id _).symm ▸ nodup_frequent sheets size count
  case occurrences_eq =>
    intro b hb
    obtain ⟨pairs, -, rfl⟩ := (hmem b).1 hb
    rfl
  case ordered =>
    have hmet : ((frequent sheets size count).map (exactBlock sheets size)).Pairwise
        fun a b => MetBefore sheets size a.pairs b.pairs :=
      List.pairwise_map.2 (pairwise_frequent sheets size count)
    rw [blocks_eq_of_keysTellApart h]
    refine (Listing.pairwise_mergeSort_of_pairwise ?_ ?_ hmet).imp fun {a b} hab => ?_
    · intro a b c hab hbc
      exact decide_eq_true (Nat.le_trans (of_decide_eq_true hbc) (of_decide_eq_true hab))
    · intro a b
      simpa using Nat.le_total b.occurrences.length a.occurrences.length
    · simp only [decide_eq_true_iff] at hab
      rcases Nat.lt_or_eq_of_le hab.1 with hlt | heq
      · exact .inl hlt
      · exact .inr ⟨heq.symm, hab.2 (Nat.le_of_eq heq.symm)⟩

theorem keysTellApart_of_occurrences_eq
    (h : ∀ b ∈ blocks sheets size count, b.occurrences = occurrences sheets size b.pairs) :
    KeysTellApart sheets size count := by
  intro a ha b hb hcount hab
  -- the first combination with the key is the one that the block shows
  have hne : withKey sheets size (combinationKey a.1) ≠ [] :=
    List.ne_nil_of_mem (List.mem_filter.2 ⟨ha, by simp⟩)
  obtain ⟨c, cs, hcs⟩ := List.exists_cons_of_ne_nil hne
  have hc : c ∈ withKey sheets size (combinationKey a.1) := by simp [hcs]
  obtain ⟨hc, hkey⟩ := List.mem_filter.1 hc
  have hkey := of_decide_eq_true hkey
  have hsize := (of_mem_combined hc).1
  have hlength := congrArg List.length (h _ (mem_blocks_iff.2 ⟨a, ha, hcount, rfl⟩))
  have hpairs : (blockOf sheets size (combinationKey a.1)).pairs = c.1 := by simp [blockOf, hcs]
  rw [hpairs, length_occurrences_eq hsize, hkey] at hlength
  have hall := List.length_filter_eq_length_iff.1 (hlength.symm.trans (by simp [blockOf]))
  have hshown : ∀ d ∈ combined sheets size, combinationKey d.1 = combinationKey a.1 → d.1 = c.1 :=
    fun d hd hdkey => of_decide_eq_true (hall d (List.mem_filter.2 ⟨hd, decide_eq_true hdkey⟩))
  rw [hshown a ha rfl, hshown b hb hab.symm]

/-- Blocks stand for combinations exactly if joined keys tell combinations apart. They do if no
declaration holds a bar. -/
theorem areExact_blocks_iff (sheets : List Stylesheet) (size : Nat) (count : Int) :
    (AreExact sheets size count (blocks sheets size count) ↔ KeysTellApart sheets size count) ∧
      ((∀ s ∈ sites sheets, ∀ d ∈ s.rule.declarations, '|' ∉ d.key.toList) →
        KeysTellApart sheets size count) := by
  refine ⟨⟨fun h => ?_, areExact_of_keysTellApart⟩, keysTellApart_of_no_bar⟩
  exact keysTellApart_of_occurrences_eq h.occurrences_eq

/-- A bar in a value makes a block of two rules with different declarations. -/
theorem blocks_bar_in_value :
    let sheets := [Stylesheet.ofText ".a\x7ba:1|b:2;c:3;d:4\x7d.b\x7ba:1;b:2;c:3;d:4\x7d"]
    blocks sheets (3 : Nat) 2 = [⟨["a:1|b:2", "c:3", "d:4"],
        [⟨"input.css", some 1, ".a"⟩, ⟨"input.css", some 1, ".b"⟩]⟩] ∧
      occurrences sheets 3 ["a:1|b:2", "c:3", "d:4"] = [⟨"input.css", some 1, ".a"⟩] ∧
      ¬AreExact sheets 3 2 (blocks sheets (3 : Nat) 2) := by
  intro sheets
  have hpairwise : ∀ s ∈ sites sheets,
      (s.rule.declarations.map Declaration.key).Pairwise (· ≤ ·) := by decide +kernel
  have hsorted := fun s hs => sortedKeys_of_pairwise (hpairwise s hs)
  have hcombined : combined sheets (3 : Nat) =
      [(["a:1|b:2", "c:3", "d:4"], ⟨"input.css", some 1, ".a"⟩),
        (["a:1", "b:2", "c:3"], ⟨"input.css", some 1, ".b"⟩),
        (["a:1", "b:2", "c:3", "d:4"], ⟨"input.css", some 1, ".b"⟩)] := by
    calc combined sheets (3 : Nat)
      _ = (sites sheets).flatMap fun s =>
            (if (s.rule.declarations.length : Int) < (3 : Nat) then []
              else (span (3 : Nat) s.rule.declarations.length).map fun n =>
                Listing.firstItems n (s.rule.declarations.map Declaration.key)).map
              (·, s.location) :=
        List.flatMap_congr fun s hs => by rw [combinations, hsorted s hs]
      _ = _ := by decide +kernel
  have hblocks : blocks sheets (3 : Nat) 2 = [⟨["a:1|b:2", "c:3", "d:4"],
      [⟨"input.css", some 1, ".a"⟩, ⟨"input.css", some 1, ".b"⟩]⟩] := by
    have hkeys : (Listing.distinct (((combined sheets (3 : Nat)).map Prod.fst).map
        combinationKey)).filter (fun key => (2 : Int) ≤ (withKey sheets 3 key).length) =
          ["a:1|b:2|c:3|d:4"] := by
      simp only [withKey, hcombined]
      decide +kernel
    have hblock : blockOf sheets 3 "a:1|b:2|c:3|d:4" = ⟨["a:1|b:2", "c:3", "d:4"],
        [⟨"input.css", some 1, ".a"⟩, ⟨"input.css", some 1, ".b"⟩]⟩ := by
      simp only [blockOf, withKey, hcombined]
      decide +kernel
    rw [blocks_eq_mergeSort, hkeys, List.map_singleton, hblock, List.mergeSort_singleton]
  have hoccurrences : occurrences sheets 3 ["a:1|b:2", "c:3", "d:4"] =
      [⟨"input.css", some 1, ".a"⟩] := by
    calc occurrences sheets 3 ["a:1|b:2", "c:3", "d:4"]
      _ = ((sites sheets).filter fun s => 3 ≤ s.rule.declarations.length ∧
            ["a:1|b:2", "c:3", "d:4"] <+: s.rule.declarations.map Declaration.key).map
              Site.location := by
        refine congrArg (List.map _) (List.filter_congr fun s hs => decide_eq_decide.2 ?_)
        rw [HasPart, hsorted s hs]
      _ = _ := by decide +kernel
  refine ⟨hblocks, hoccurrences, fun h => ?_⟩
  have hexact := h.occurrences_eq _ (hblocks ▸ List.mem_singleton_self _)
  rw [hoccurrences] at hexact
  cases hexact

end Duplication

end StyleGauge
