import StyleGauge.Proofs.Files.Exclusion

/-!
# What a search finds

A pattern leads from a directory down along names that it has itself or that the tree has. With the
names of a tree free of slashes, a path that was found is told apart into its names again, so that
the directories on its way can be asked for.
-/

namespace StyleGauge

/-! ### Names in a tree -/

namespace Tree

/-- Every name in a tree has a property. -/
inductive AllNames (p : String → Prop) : Tree → Prop
  | file (bytes : List UInt8) : AllNames p (.file bytes)
  | directory {es : List (String × Tree)} (names : ∀ e ∈ es, p e.1)
    (trees : ∀ e ∈ es, AllNames p e.2) : AllNames p (.directory es)

variable {p : String → Prop} {t u : Tree}

theorem AllNames.name_of_mem (h : t.AllNames p) : ∀ e ∈ t.entries, p e.1 := by
  cases h with
  | file bytes => simp [entries]
  | directory names trees => exact names

theorem AllNames.tree_of_mem (h : t.AllNames p) : ∀ e ∈ t.entries, e.2.AllNames p := by
  cases h with
  | file bytes => simp [entries]
  | directory names trees => exact trees

theorem mem_of_lookup_eq_some {name : String} {es : List (String × Tree)}
    (h : es.lookup name = some t) : (name, t) ∈ es := by
  induction es with
  | nil => simp at h
  | cons e es ih =>
    rw [List.lookup_cons] at h
    by_cases hname : name == e.1
    · simp only [hname] at h
      simp at h hname
      simp [hname, ← h]
    · simp only [hname] at h
      exact List.mem_cons_of_mem e (ih h)

theorem AllNames.of_find? {names : List String} (h : t.AllNames p)
    (hu : find? names t = some u) : u.AllNames p := by
  induction names generalizing t with
  | nil =>
    obtain rfl := Option.some.inj hu
    exact h
  | cons name names ih =>
    obtain ⟨v, hv, hu⟩ := Option.bind_eq_some_iff.1 hu
    exact ih (h.tree_of_mem _ (mem_of_lookup_eq_some hv)) hu

mutual

theorem forall_mem_directories {t : Tree} (h : t.AllNames p) :
    ∀ ns ∈ directories t, ∀ n ∈ ns, p n := by
  match t, h with
  | .file bytes, _ => simp [directories]
  | .directory es, .directory names trees =>
    rw [directories, List.forall_mem_cons]
    exact ⟨by simp, forall_mem_directoriesIn names trees⟩

theorem forall_mem_directoriesIn {es : List (String × Tree)} (names : ∀ e ∈ es, p e.1)
    (trees : ∀ e ∈ es, AllNames p e.2) : ∀ ns ∈ directoriesIn es, ∀ n ∈ ns, p n := by
  match es with
  | [] => simp [directoriesIn]
  | (name, t) :: es =>
    obtain ⟨hname, hnames⟩ := List.forall_mem_cons.1 names
    obtain ⟨htree, htrees⟩ := List.forall_mem_cons.1 trees
    rw [directoriesIn]
    intro ns hns
    rcases List.mem_append.1 hns with hns | hns
    · obtain ⟨below, hbelow, rfl⟩ := List.mem_map.1 hns
      exact List.forall_mem_cons.2 ⟨hname, forall_mem_directories htree below hbelow⟩
    · exact forall_mem_directoriesIn hnames htrees ns hns

end

end Tree

/-! ### Paths that a pattern selects -/

theorem Workspace.allNames_of_get {w : Workspace} {q : String → Prop} (hw : w.tree.AllNames q)
    {p : Path} {t : Tree} (h : w.get p = .ok t) : t.AllNames q := by
  obtain ⟨names, -, h⟩ := bind_eq_ok_iff.1 h
  split at h
  · rename_i u hu
    obtain rfl := Except.ok.inj h
    exact hw.of_find? hu
  · cases h

/-- The path `q` goes on from `p`, with names that hold no slash. -/
def Path.GoesOn (p q : Path) : Prop :=
  ∃ names, q.names = p.names ++ names ∧ ∀ n ∈ names, IsPlainName n

theorem Path.isPlainName_of_mem_names {text : String} :
    ∀ n ∈ (Path.ofString text).names, IsPlainName n := by
  intro n hn
  obtain ⟨part, hpart, rfl⟩ := List.mem_map.1 hn
  rw [IsPlainName, String.toList_ofList]
  exact Text.separator_not_mem_of_mem_parts (List.mem_filter.1 hpart).1

namespace Glob

/-- A part that has no slash if it is a name. -/
def Part.IsPlain : Part → Prop
  | .name n => IsPlainName n
  | _ => True

theorem isPlain_of_partOf {name : String} (h : IsPlainName name) {part : Part}
    (hpart : partOf name = .ok part) : part.IsPlain := by
  unfold partOf at hpart
  split_ifs at hpart
  · obtain rfl := Except.ok.inj hpart
    trivial
  · obtain rfl := Except.ok.inj hpart
    trivial
  · obtain rfl := Except.ok.inj hpart
    exact h

theorem isPlain_of_ofString {text : String} {g : Glob} (h : ofString text = .ok g) :
    ∀ part ∈ g.parts, part.IsPlain := by
  unfold ofString at h
  dsimp only at h
  split_ifs at h
  obtain ⟨parts, hparts, h⟩ := bind_eq_ok_iff.1 h
  obtain rfl := pure_eq_ok_iff.1 h
  intro part hpart
  obtain ⟨name, hname, hpart⟩ := (mem_of_mapM_eq_ok hparts).1 hpart
  exact isPlain_of_partOf (Path.isPlainName_of_mem_names name hname) hpart

variable {w : Workspace} {p q : Path}

theorem goesOn_of_mem_candidates (hw : w.tree.AllNames IsPlainName) {part : Part}
    (hpart : part.IsPlain) (hq : q ∈ part.candidates w p) : p.GoesOn q := by
  cases part with
  | name n =>
    obtain rfl := List.mem_singleton.1 hq
    exact ⟨[n], rfl, List.forall_mem_singleton.2 hpart⟩
  | wildcard pattern =>
    obtain ⟨n, hn, rfl⟩ := List.mem_map.1 hq
    obtain ⟨e, he, rfl⟩ := List.mem_map.1 (List.mem_filter.1 hn).1
    refine ⟨[e.1], rfl, ?_⟩
    cases hget : w.get p with
    | error cause => simp [hget, Except.toOption] at he
    | ok t =>
      rw [hget] at he
      simpa using (Workspace.allNames_of_get hw hget).name_of_mem e he
  | below =>
    obtain ⟨ns, hns, rfl⟩ := List.mem_map.1 hq
    refine ⟨ns, rfl, ?_⟩
    cases hget : w.get p with
    | error cause => simp [hget, Except.toOption] at hns
    | ok t =>
      rw [hget] at hns
      exact Tree.forall_mem_directories (Workspace.allNames_of_get hw hget) ns hns

theorem goesOn_of_mem_selectFrom (hw : w.tree.AllNames IsPlainName) {directoriesOnly : Bool}
    {parts : List Part} (hparts : ∀ part ∈ parts, part.IsPlain)
    (hq : q ∈ selectFrom w directoriesOnly parts p) : p.GoesOn q := by
  induction parts generalizing p with
  | nil =>
    obtain rfl := List.mem_singleton.1 hq
    exact ⟨[], by simp, by simp⟩
  | cons part parts ih =>
    obtain ⟨hpart, hparts⟩ := List.forall_mem_cons.1 hparts
    obtain ⟨r, hr, hq⟩ := List.mem_flatMap.1 hq
    obtain ⟨first, hfirst, hplain⟩ := goesOn_of_mem_candidates hw hpart (List.mem_filter.1 hr).1
    obtain ⟨rest, hrest, hplain'⟩ := ih hparts hq
    refine ⟨first ++ rest, by rw [hrest, hfirst, List.append_assoc], ?_⟩
    exact List.forall_mem_append.2 ⟨hplain, hplain'⟩

end Glob

/-! ### Files found -/

namespace Search

open Wildcard (IsLiteral)

variable {w : Workspace} {base p : Path} {config : Config}

theorem goesOn_of_mem_selectFiles (hw : w.tree.AllNames IsPlainName) {pattern : String}
    {selected : List Path} (h : selectFiles w base pattern = .ok selected) :
    ∀ p ∈ selected, base.GoesOn p := by
  obtain ⟨glob, hglob, h⟩ := bind_eq_ok_iff.1 h
  obtain rfl := pure_eq_ok_iff.1 h
  intro p hp
  exact Glob.goesOn_of_mem_selectFrom hw (Glob.isPlain_of_ofString hglob) (List.mem_filter.1 hp).1

theorem below_eq_ok_iff {found : List Path} : below w base config = .ok found ↔
    ∃ selected, config.included.mapM (selectFiles w base) = .ok selected ∧
      inOrder (selected.flatten.filter fun p =>
        !isExcluded (relativeTo base p) (config.excluded ++ config.ignored)) = found := by
  rw [below, bind_eq_ok_iff]
  simp only [pure_eq_ok_iff]

theorem mem_inOrder {paths : List Path} : p ∈ inOrder paths ↔ p ∈ paths := by
  simp [inOrder]

theorem relativeTo_of_goesOn (h : base.GoesOn p) :
    ∃ names, p.names.drop base.names.length = names ∧ relativeTo base p = Path.joinNames names ∧
      ∀ n ∈ names, IsPlainName n := by
  obtain ⟨names, hnames, hplain⟩ := h
  refine ⟨names, ?_, ?_, hplain⟩
  · simp [hnames]
  · simp [relativeTo, hnames]

theorem isExcluded_append (relative : String) (patterns more : List String) :
    isExcluded relative (patterns ++ more) =
      (isExcluded relative patterns || isExcluded relative more) :=
  List.any_append

/-- The directories that are left out unless told otherwise. -/
def defaultNames : List String :=
  ["node_modules", "dist", "vendor"]

theorem isExcluded_default_iff {names : List String} (h : ∀ n ∈ names, IsPlainName n) :
    isExcluded (Path.joinNames names) ({} : Config).excluded = true ↔
      ∃ d ∈ names.dropLast, d ∈ defaultNames := by
  have hpatterns : ({} : Config).excluded = defaultNames.map beneath := rfl
  have hliteral : ∀ d ∈ defaultNames, IsPlainName d ∧ IsLiteral d.toList := by decide
  have hany : isExcluded (Path.joinNames names) (defaultNames.map beneath) = true ↔
      ∃ d ∈ defaultNames, isExcludedBy (Path.joinNames names) (beneath d) = true := by
    simp [isExcluded]
  rw [hpatterns, hany]
  constructor
  · rintro ⟨d, hd, hexcluded⟩
    exact ⟨d, (isExcludedBy_joinNames_iff (hliteral d hd).1 (hliteral d hd).2 h).1 hexcluded, hd⟩
  · rintro ⟨d, hnames, hd⟩
    exact ⟨d, hd, (isExcludedBy_joinNames_iff (hliteral d hd).1 (hliteral d hd).2 h).2 hnames⟩

/-- A pattern for everything beneath directories of a name excludes a path if the name is one of
its names but the last. So of the files that are found without exclusions, the default ones leave
out those beneath a directory of a default name. -/
theorem excludes_beneath_whole_names :
    (∀ (d : String) (names : List String), IsPlainName d → IsLiteral d.toList →
        (∀ n ∈ names, IsPlainName n) →
        (isExcluded (Path.joinNames names) [beneath d] = true ↔ d ∈ names.dropLast)) ∧
      ∀ (w : Workspace) (base : Path) (config : Config), w.tree.AllNames IsPlainName →
        ∀ all, below w base { config with excluded := [] } = .ok all →
          ∃ found, below w base { config with excluded := ({} : Config).excluded } = .ok found ∧
            ∀ p, p ∈ found ↔ p ∈ all ∧
              ∀ d ∈ (p.names.drop base.names.length).dropLast, d ∉ defaultNames := by
  constructor
  · intro d names hd hliteral hnames
    have hone : isExcluded (Path.joinNames names) [beneath d] =
        isExcludedBy (Path.joinNames names) (beneath d) := by
      simp [isExcluded]
    rw [hone, isExcludedBy_joinNames_iff hd hliteral hnames]
  · intro w base config hw all hall
    obtain ⟨selected, hselected, rfl⟩ := below_eq_ok_iff.1 hall
    refine ⟨_, below_eq_ok_iff.2 ⟨selected, hselected, rfl⟩, ?_⟩
    intro p
    rw [mem_inOrder, mem_inOrder, List.mem_filter, List.mem_filter, and_assoc]
    apply and_congr_right
    intro hp
    obtain ⟨paths, hpaths, hp⟩ := List.mem_flatten.1 hp
    obtain ⟨pattern, -, hpattern⟩ := (mem_of_mapM_eq_ok hselected).1 hpaths
    obtain ⟨names, hdrop, hrelative, hplain⟩ :=
      relativeTo_of_goesOn (goesOn_of_mem_selectFiles hw hpattern p hp)
    have hnone : isExcluded (Path.joinNames names) ({} : Config).excluded = false ↔
        ∀ d ∈ names.dropLast, d ∉ defaultNames := by
      rw [← Bool.not_eq_true, isExcluded_default_iff hplain]
      simp
    rw [hdrop, hrelative, isExcluded_append, isExcluded_append, and_comm, ← hnone]
    simp [isExcluded]

/-- A directory is left out at any depth, and one whose name only begins with such a name is not. -/
theorem excludes_beneath_whole_names_nested :
    let file := Tree.file []
    let w : Workspace := ⟨.directory [("a.css", file), ("dist", .directory [("b.css", file)]),
      ("src", .directory [("distant", .directory [("dist", file), ("c.css", file)]),
        ("vendor", .directory [("d.css", file)])])], []⟩
    let base := Path.ofRoot []
    IsPlainName "dist" ∧ IsLiteral "dist".toList ∧
      (∀ n ∈ ["src", "distant", "dist"], IsPlainName n) ∧
      isExcluded (Path.joinNames ["src", "distant", "dist"]) [beneath "dist"] = false ∧
      w.tree.AllNames IsPlainName ∧
      ∃ all found, below w base { ({} : Config) with excluded := [] } = .ok all ∧
        below w base {} = .ok found ∧
        (∀ p ∈ [["dist", "b.css"], ["src", "vendor", "d.css"]].map Path.ofRoot,
          p ∈ all ∧ p ∉ found) ∧
        ∀ p ∈ [["a.css"], ["src", "distant", "c.css"]].map Path.ofRoot, p ∈ found := by
  intro file w base
  have hfile : file.AllNames IsPlainName := .file []
  have hnames : w.tree.AllNames IsPlainName := by
    have hdist : (Tree.directory [("b.css", file)]).AllNames IsPlainName :=
      .directory (by decide) (List.forall_mem_singleton.2 hfile)
    have hdistant : (Tree.directory [("dist", file), ("c.css", file)]).AllNames IsPlainName :=
      .directory (by decide) (by simp [hfile])
    have hvendor : (Tree.directory [("d.css", file)]).AllNames IsPlainName :=
      .directory (by decide) (List.forall_mem_singleton.2 hfile)
    have hsrc : (Tree.directory [("distant", .directory [("dist", file), ("c.css", file)]),
        ("vendor", .directory [("d.css", file)])]).AllNames IsPlainName :=
      .directory (by decide) (by simp [hdistant, hvendor])
    exact .directory (by decide) (by simp [hfile, hdist, hsrc])
  have hfiles : selectFiles w base "**/*.css" = .ok ([["a.css"], ["dist", "b.css"],
      ["src", "distant", "c.css"], ["src", "vendor", "d.css"]].map Path.ofRoot) := by
    simp only [w, file]
    rfl
  have hselected : ["**/*.css"].mapM (selectFiles w base) = .ok [[["a.css"], ["dist", "b.css"],
      ["src", "distant", "c.css"], ["src", "vendor", "d.css"]].map Path.ofRoot] := by
    rw [List.mapM_cons, hfiles]
    rfl
  obtain ⟨hexact, hfound⟩ := excludes_beneath_whole_names
  have hplain : IsPlainName "dist" := by decide
  have hliteral : IsLiteral "dist".toList := by decide
  have hrow : ∀ n ∈ ["src", "distant", "dist"], IsPlainName n := by decide
  have hone := hexact "dist" ["src", "distant", "dist"] hplain hliteral hrow
  obtain ⟨found, hbelow, hmem⟩ := hfound w base {} hnames _ (below_eq_ok_iff.2 ⟨_, hselected, rfl⟩)
  refine ⟨hplain, hliteral, hrow, ?_, hnames, _, found,
    below_eq_ok_iff.2 ⟨_, hselected, rfl⟩, hbelow, ?_, ?_⟩
  · rw [← Bool.not_eq_true, hone]
    decide
  · simp only [hmem, mem_inOrder]
    decide +kernel
  · simp only [hmem, mem_inOrder]
    decide +kernel

end Search

end StyleGauge
