import ModScript.Declaration.Catalog
import ModScript.Proofs.Directories

/-!
# Directories of mods

A directory of mods holds `mod.toml`, whose mod has the id `default`, and `mod.<id>.toml` for mods with other
ids. But `mod.default.toml` has the id `default` as well. A catalog has one file for every id, and where both files
are there it is the plain one: the other one is hidden. No other two files have an id in common.

Results:
1. `modId?_eq_some_iff`: the names of mod files, and their ids.
2. `HoldsMod.unique_unless_default`: the two names with one id.
3. `ModCatalog.scan_keeps_files`: what a catalog keeps of a directory.
4. `ModCatalog.scan_hides_file`: a directory of which one file is hidden.
-/

namespace ModScript

/-! ## Names of mod files -/

/-- The file of that name holds the mod with that id. -/
inductive HoldsMod : String → String → Prop
  | plain : HoldsMod "mod.toml" defaultModId
  | named {id : String} (known : id ≠ "") : HoldsMod ("mod." ++ id ++ ".toml") id

theorem between?_eq_some_iff {front back cs inner : List Char} :
    between? front back cs = some inner ↔ cs = front ++ inner ++ back := by
  unfold between?
  constructor
  · intro found
    split at found
    · next isFront =>
      obtain ⟨rest, rfl⟩ := List.isPrefixOf_iff_prefix.1 isFront
      rw [List.drop_left] at found
      dsimp only at found
      split at found
      · next isBack =>
        obtain ⟨middle, rfl⟩ := List.isSuffixOf_iff_suffix.1 isBack
        rw [List.length_append, Nat.add_sub_cancel, List.take_left] at found
        cases found
        exact (List.append_assoc _ _ _).symm
      · cases found
    · cases found
  · rintro rfl
    have isFront : front.isPrefixOf (front ++ inner ++ back) = true := by
      rw [List.isPrefixOf_iff_prefix, List.append_assoc]
      exact List.prefix_append _ _
    have isBack : back.isSuffixOf (inner ++ back) = true :=
      List.isSuffixOf_iff_suffix.2 (List.suffix_append _ _)
    rw [if_pos isFront, List.append_assoc, List.drop_left]
    simp only [isBack, if_true, List.length_append, Nat.add_sub_cancel, List.take_left]

theorem toList_named (id : String) :
    ("mod." ++ id ++ ".toml").toList = "mod.".toList ++ id.toList ++ ".toml".toList := by
  rw [String.toList_append, String.toList_append]

theorem named_ne_plain {id : String} : "mod." ++ id ++ ".toml" ≠ "mod.toml" := by
  intro same
  have lengths : ("mod." ++ id ++ ".toml").length = "mod.toml".length := congrArg String.length same
  rw [String.length_append, String.length_append] at lengths
  have four : "mod.".length = 4 := rfl
  have five : ".toml".length = 5 := rfl
  have eight : "mod.toml".length = 8 := rfl
  omega

/-- The names of mod files, and their ids. -/
theorem modId?_eq_some_iff {name id : String} : modId? name = some id ↔ HoldsMod name id := by
  unfold modId?
  split
  · next isPlain =>
    obtain rfl := eq_of_beq isPlain
    constructor
    · intro found
      cases found
      exact .plain
    · generalize same : "mod.toml" = name
      intro file
      cases file with
      | plain => rfl
      | named => exact absurd same.symm named_ne_plain
  · next notPlain =>
    have other : name ≠ "mod.toml" := fun same => notPlain (beq_iff_eq.2 same)
    constructor
    · intro found
      split at found
      · cases found
      · next known =>
        obtain ⟨inner, between, rfl⟩ := Option.map_eq_some_iff.1 found
        have told : (String.ofList inner).toList = inner := String.toList_ofList
        have split : name = "mod." ++ String.ofList inner ++ ".toml" := by
          rw [← String.toList_inj, toList_named, told]
          exact between?_eq_some_iff.1 between
        rw [split]
        refine .named fun none => known ?_
        rw [between, String.ofList_eq_empty_iff.1 none]
    · intro file
      cases file with
      | plain => exact absurd rfl other
      | named known =>
        rw [between?_eq_some_iff.2 (toList_named id)]
        have chars : id.toList ≠ [] := fun none => known (String.toList_eq_nil_iff.1 none)
        split
        · next none => exact absurd (Option.some.inj none) chars
        · rw [Option.map_some, String.ofList_toList]

/-- The only two names with one id are that of the plain file and that of the file that is named like its id. -/
theorem HoldsMod.unique_unless_default {name other id : String} (file : HoldsMod name id)
    (file' : HoldsMod other id) :
    name = other ∨ (name = "mod.toml" ∧ other = "mod.default.toml") ∨
      (name = "mod.default.toml" ∧ other = "mod.toml") := by
  cases file with
  | plain =>
    cases file' with
    | plain => exact .inl rfl
    | named => exact .inr (.inl ⟨rfl, rfl⟩)
  | named =>
    cases file' with
    | plain => exact .inr (.inr ⟨rfl, rfl⟩)
    | named => exact .inl rfl

namespace ModCatalog

/-! ## Files of a catalog -/

variable {directory : String} {names : List String}

/-- The plain file is there, and this is the other one with its id. -/
def Hidden (names : List String) (name : String) : Prop := name = "mod.default.toml" ∧ "mod.toml" ∈ names

instance (names : List String) (name : String) : Decidable (Hidden names name) :=
  inferInstanceAs (Decidable (_ ∧ _))

/-- The ids and names of the files that are not hidden, in the order of their ids. -/
structure ModsOf (names : List String) (mods : List (String × String)) : Prop where
  sorted : (mods.map Prod.fst).Pairwise (· < ·)
  mem_iff : ∀ id name, (id, name) ∈ mods ↔ name ∈ names ∧ HoldsMod name id ∧ ¬Hidden names name

/-- Every file is found under its id, and there is an entry for each of them. -/
def KeepsEvery (catalog : ModCatalog) (directory : String) (names : List String) : Prop :=
  (∀ name ∈ names, ∀ id, HoldsMod name id → catalog.path? id = some (Path.join directory name)) ∧
    catalog.size = (names.filterMap modId?).length ∧ catalog.ids.Pairwise (· < ·)

/-- The mod files among the names, with their ids before them. -/
def found (names : List String) : List (String × String) :=
  (names.filterMap fun name => (modId? name).map fun id => (id, name)).mergeSort inOrder

theorem mem_found_iff {id name : String} : (id, name) ∈ found names ↔ name ∈ names ∧ HoldsMod name id := by
  simp only [found, List.mem_mergeSort, List.mem_filterMap, Option.map_eq_some_iff, Prod.mk.injEq,
    ← modId?_eq_some_iff]
  constructor
  · rintro ⟨_, present, _, known, rfl, rfl⟩
    exact ⟨present, known⟩
  · rintro ⟨present, known⟩
    exact ⟨name, present, id, known, rfl, rfl⟩

theorem inOrder_iff {a b : String × String} : inOrder a b = true ↔ a.1 < b.1 ∨ a.1 = b.1 ∧ a.2 ≤ b.2 := by
  simp [inOrder]

theorem pairwise_found (names : List String) : (found names).Pairwise fun a b => inOrder a b = true := by
  refine List.pairwise_mergeSort (fun a b c => ?_) (fun a b => ?_) _
  · simp only [inOrder_iff]
    rintro (less | ⟨same, le⟩) (less' | ⟨same', le'⟩)
    · exact .inl (Std.lt_trans less less')
    · exact .inl (same' ▸ less)
    · exact .inl (same ▸ less')
    · exact .inr ⟨same.trans same', String.le_trans le le'⟩
  · rw [Bool.or_eq_true, inOrder_iff, inOrder_iff]
    rcases Std.lt_trichotomy a.1 b.1 with less | same | more
    · exact .inl (.inl less)
    · exact (String.le_total a.2 b.2).imp (fun le => .inr ⟨same, le⟩) (fun le => .inr ⟨same.symm, le⟩)
    · exact .inr (.inl more)

theorem ofNames_eq (directory : String) (names : List String) :
    ofNames directory names =
      ⟨.ofList ((found names).map fun entry => (entry.1, Path.join directory entry.2))⟩ := rfl

/-- The ids are in order, each once. -/
theorem ids_ofNames (directory : String) (names : List String) :
    (ofNames directory names).ids = ((found names).map Prod.fst).eraseDups := by
  rw [ofNames_eq, ids, OrderedMap.keys_ofList, List.map_map]
  rfl

theorem ascending_ids (directory : String) (names : List String) :
    (ofNames directory names).ids.Pairwise (· < ·) := by
  rw [ids_ofNames]
  refine ascending_eraseDups ((pairwise_found names).map _ fun a b inOrder => ?_)
  rcases inOrder_iff.1 inOrder with less | ⟨same, -⟩
  · exact Std.le_of_lt less
  · exact same ▸ String.le_refl _

theorem mem_ids_ofNames_iff {id : String} :
    id ∈ (ofNames directory names).ids ↔ ∃ name ∈ names, HoldsMod name id := by
  rw [ids_ofNames, List.mem_eraseDups, List.mem_map]
  constructor
  · rintro ⟨⟨id, name⟩, present, rfl⟩
    exact ⟨name, mem_found_iff.1 present⟩
  · rintro ⟨name, present⟩
    exact ⟨(id, name), mem_found_iff.2 present, rfl⟩

/-- Of the files with one id the one with the last name is known. -/
theorem exists_of_path? {id path : String} (known : (ofNames directory names).path? id = some path) :
    ∃ name ∈ names, HoldsMod name id ∧ (∀ other ∈ names, HoldsMod other id → other ≤ name) ∧
      path = Path.join directory name := by
  obtain ⟨before, behind, split, last⟩ := OrderedMap.get?_ofList_eq_some_iff.1 known
  obtain ⟨front, rest, all, -, onward⟩ := List.map_eq_append_iff.1 split
  obtain ⟨⟨id, name⟩, back, rfl, same, rfl⟩ := List.map_eq_cons_iff.1 onward
  cases same
  have here : (id, name) ∈ found names := by
    rw [found, all]
    exact List.mem_append_right _ List.mem_cons_self
  obtain ⟨present, file⟩ := mem_found_iff.1 here
  refine ⟨name, present, file, fun other present' file' => ?_, rfl⟩
  have there : (id, other) ∈ found names := mem_found_iff.2 ⟨present', file'⟩
  have ordered := pairwise_found names
  rw [found, all] at there ordered
  rcases List.mem_append.1 there with inFront | inRest
  · have inOrder := (List.pairwise_append.1 ordered).2.2 _ inFront _ List.mem_cons_self
    rcases inOrder_iff.1 inOrder with less | ⟨-, le⟩
    · exact absurd less Std.lt_irrefl
    · exact le
  · rcases List.mem_cons.1 inRest with same | inBack
    · cases same
      exact String.le_refl _
    · refine absurd ?_ last
      exact List.mem_map.2 ⟨_, List.mem_map_of_mem inBack, rfl⟩

/-- A file that is not hidden has the last name with its id. -/
theorem le_of_seen {name other id : String} (file : HoldsMod name id) (seen : ¬Hidden names name)
    (present : other ∈ names) (file' : HoldsMod other id) : other ≤ name := by
  rcases file.unique_unless_default file' with rfl | ⟨rfl, rfl⟩ | ⟨rfl, rfl⟩
  · exact String.le_refl _
  · decide
  · exact absurd ⟨rfl, present⟩ seen

/-- A file that is not hidden is found under its id. -/
theorem path?_ofNames {id name : String} (present : name ∈ names) (file : HoldsMod name id)
    (seen : ¬Hidden names name) : (ofNames directory names).path? id = some (Path.join directory name) := by
  obtain ⟨path, known⟩ := OrderedMap.mem_keys_iff.1 (mem_ids_ofNames_iff.2 ⟨name, present, file⟩)
  obtain ⟨last, present', file', greatest, rfl⟩ := exists_of_path? known
  have same : last = name :=
    String.le_antisymm (le_of_seen file seen present' file') (greatest name present file)
  exact same ▸ known

/-! ## What is kept -/

theorem nodup_found (distinct : names.Nodup) : (found names).Nodup := by
  refine (List.mergeSort_perm _ _).nodup_iff.2 (List.Pairwise.filterMap _ ?_ distinct)
  intro name other differ _ known _ known'
  obtain ⟨id, -, rfl⟩ := Option.map_eq_some_iff.1 known
  obtain ⟨id', -, rfl⟩ := Option.map_eq_some_iff.1 known'
  exact fun same => differ (congrArg Prod.snd same)

theorem length_found (names : List String) : (found names).length = (names.filterMap modId?).length := by
  rw [found, (List.mergeSort_perm _ _).length_eq]
  induction names with
  | nil => rfl
  | cons name rest ih => cases known : modId? name <;> simp [known, ih]

/-- The files of a catalog: those that are not hidden. -/
theorem modsOf_found (distinct : names.Nodup) :
    ModsOf names ((found names).filter fun entry => !decide (Hidden names entry.2)) := by
  have mem_iff (id name : String) : (id, name) ∈ (found names).filter (fun entry => !decide (Hidden names entry.2)) ↔
      name ∈ names ∧ HoldsMod name id ∧ ¬Hidden names name := by
    rw [List.mem_filter, mem_found_iff]
    simp [and_assoc]
  refine ⟨List.pairwise_map.2 ?_, mem_iff⟩
  refine (((pairwise_found names).and (nodup_found distinct)).filter _).imp_of_mem fun inA inB both => ?_
  rcases inOrder_iff.1 both.1 with less | ⟨same, -⟩
  · exact less
  · -- Two files that are both seen do not have one id.
    obtain ⟨presentA, fileA, seenA⟩ := (mem_iff _ _).1 inA
    obtain ⟨presentB, fileB, seenB⟩ := (mem_iff _ _).1 inB
    rw [← same] at fileB
    have sameName := String.le_antisymm (le_of_seen fileB seenB presentA fileA) (le_of_seen fileA seenA presentB fileB)
    exact absurd (Prod.ext same sameName) both.2

theorem ids_eq_of_modsOf {mods : List (String × String)} (ofFiles : ModsOf names mods) :
    (ofNames directory names).ids = mods.map Prod.fst := by
  refine ascending_ext (ascending_ids directory names) ofFiles.sorted fun id => ?_
  rw [mem_ids_ofNames_iff, List.mem_map]
  constructor
  · rintro ⟨name, present, file⟩
    by_cases hidden : Hidden names name
    · -- The plain file has the id of the hidden one.
      obtain ⟨rfl, plain⟩ := hidden
      obtain rfl : id = defaultModId := by
        have told : modId? "mod.default.toml" = some defaultModId := by decide +kernel
        exact Option.some.inj ((modId?_eq_some_iff.2 file).symm.trans told)
      have seen : ¬Hidden names "mod.toml" := fun hidden => absurd hidden.1 (by decide)
      exact ⟨(defaultModId, "mod.toml"), (ofFiles.mem_iff _ _).2 ⟨plain, .plain, seen⟩, rfl⟩
    · exact ⟨(id, name), (ofFiles.mem_iff id name).2 ⟨present, file, hidden⟩, rfl⟩
  · rintro ⟨⟨id, name⟩, inMods, rfl⟩
    obtain ⟨present, file, -⟩ := (ofFiles.mem_iff id name).1 inMods
    exact ⟨name, present, file⟩

theorem length_ids (catalog : ModCatalog) : catalog.ids.length = catalog.size := List.length_map _

/-- Every file is kept if and only if the two files with one id are not both there. -/
theorem keepsEvery_ofNames_iff (distinct : names.Nodup) : (ofNames directory names).KeepsEvery directory names ↔
    ¬("mod.toml" ∈ names ∧ "mod.default.toml" ∈ names) := by
  have named : HoldsMod "mod.default.toml" defaultModId := modId?_eq_some_iff.1 (by decide +kernel)
  constructor
  · rintro ⟨found, -, -⟩ ⟨plain, other⟩
    have same := Option.some.inj ((found _ plain _ .plain).symm.trans (found _ other _ named))
    exact absurd (Path.join_inj (by decide) (by decide) same) (by decide)
  · intro notBoth
    have seen : ∀ name ∈ names, ¬Hidden names name := by
      rintro name present ⟨rfl, plain⟩
      exact notBoth ⟨plain, present⟩
    refine ⟨fun name present id file => path?_ofNames present file (seen name present), ?_, ascending_ids directory names⟩
    have mods := modsOf_found distinct
    rw [← length_ids, ids_eq_of_modsOf mods, List.length_map, List.filter_eq_self.2, length_found]
    rintro ⟨id, name⟩ inFound
    simpa using seen name (mem_found_iff.1 inFound).1

theorem run_scan {σ : Type} {files : Files (StateM σ)} {s : σ} (steady : files.Steady)
    (listed : files.Lists s directory names) :
    (scan files directory).run s = (.ok (ofNames directory (files.ofKind s .file directory names)), s) := by
  unfold scan
  rw [StateT.run_bind, steady.run_names .file listed]
  rfl

/-- What a catalog keeps of a directory. The ids ascend, and there is one entry for every mod file that is not
hidden, under its id. Every mod file is kept if and only if the two files with one id are not both there. -/
theorem scan_keeps_files {σ : Type} {files : Files (StateM σ)} {s : σ} (steady : files.Steady)
    (listed : files.Lists s directory names) (distinct : names.Nodup) :
    ∃ catalog mods, (scan files directory).run s = (.ok catalog, s) ∧
      ModsOf (files.ofKind s .file directory names) mods ∧
      catalog.ids = mods.map Prod.fst ∧ catalog.size = mods.length ∧
      (∀ entry ∈ mods, catalog.path? entry.1 = some (Path.join directory entry.2)) ∧
      (catalog.KeepsEvery directory (files.ofKind s .file directory names) ↔
        ¬("mod.toml" ∈ files.ofKind s .file directory names ∧
          "mod.default.toml" ∈ files.ofKind s .file directory names)) := by
  have kept : (files.ofKind s .file directory names).Nodup := distinct.filter _
  have mods := modsOf_found kept
  have ids : (ofNames directory (files.ofKind s .file directory names)).ids = _ := ids_eq_of_modsOf mods
  refine ⟨_, _, run_scan steady listed, mods, ids, ?_, fun entry inMods => ?_, keepsEvery_ofNames_iff kept⟩
  · rw [← length_ids, ids, List.length_map]
  · obtain ⟨present, file, seen⟩ := (mods.mem_iff _ _).1 inMods
    exact path?_ofNames present file seen

/-- A directory `mods` with files of these names. -/
def modHome (names : List String) : Files (StateM Unit) :=
  .ofTexts [("mods", names)] (names.map fun name => ("mods/" ++ name, ""))

theorem lists_modHome (names : List String) : (modHome names).Lists () "mods" names := rfl

/-- A directory of mods that is kept whole. -/
theorem scan_keeps_files_named : (modHome ["mod.toml", "mod.b.toml"]).Steady ∧
    (modHome ["mod.toml", "mod.b.toml"]).Lists () "mods" ["mod.toml", "mod.b.toml"] ∧
    ["mod.toml", "mod.b.toml"].Nodup ∧
    ∃ catalog : ModCatalog, (scan (modHome ["mod.toml", "mod.b.toml"]) "mods").run () = (.ok catalog, ()) ∧
      catalog.KeepsEvery "mods" ["mod.toml", "mod.b.toml"] := by
  have steady : (modHome ["mod.toml", "mod.b.toml"]).Steady := Files.steady_ofTexts _ _
  obtain ⟨catalog, -, scanned, -, -, -, -, kept⟩ :=
    scan_keeps_files steady (lists_modHome ["mod.toml", "mod.b.toml"]) (by decide)
  exact ⟨steady, lists_modHome _, by decide, catalog, scanned, kept.2 (by decide)⟩

/-- Both files with the id `default` are there. The catalog has one entry, for the plain file. -/
theorem scan_hides_file : ∃ catalog : ModCatalog,
    (scan (modHome ["mod.toml", "mod.default.toml"]) "mods").run () = (.ok catalog, ()) ∧
      catalog.ids = ["default"] ∧ catalog.path? "default" = some "mods/mod.toml" ∧
      HoldsMod "mod.default.toml" "default" ∧ ¬catalog.KeepsEvery "mods" ["mod.toml", "mod.default.toml"] := by
  have named : HoldsMod "mod.default.toml" "default" := modId?_eq_some_iff.1 (by decide +kernel)
  have steady : (modHome ["mod.toml", "mod.default.toml"]).Steady := Files.steady_ofTexts _ _
  refine ⟨_, run_scan steady (lists_modHome _), ?_, ?_, named, ?_⟩
  · refine ascending_ext (ascending_ids _ _) (List.pairwise_singleton _ _) fun id => ?_
    rw [mem_ids_ofNames_iff, List.mem_singleton]
    constructor
    · rintro ⟨name, present, file⟩
      rcases List.mem_pair.1 present with rfl | rfl
      · exact Option.some.inj ((modId?_eq_some_iff.2 file).symm.trans (modId?_eq_some_iff.2 .plain))
      · exact Option.some.inj ((modId?_eq_some_iff.2 file).symm.trans (modId?_eq_some_iff.2 named))
    · rintro rfl
      exact ⟨"mod.toml", List.mem_cons_self, .plain⟩
  · refine path?_ofNames List.mem_cons_self .plain fun hidden => ?_
    exact absurd hidden.1 (by decide)
  · intro kept
    exact (keepsEvery_ofNames_iff (by decide)).1 kept (by decide)

end ModCatalog

end ModScript
