import Mathlib.Data.List.Nodup
import ModScript.Proofs.Consistency
import ModScript.Proofs.Directories

/-!
# Divergence of patches

What the issues of a game say about its patches against each other. A module or a name that only some of the
patches have is an issue, which tells the patches that lack it in their order; a patch without a table of the module
lacks every name of it. An entry of the first patch that a later patch has as well, but of another type or signature,
is an issue for that patch. Each is told once, and nothing else is told.

Results:
1. `splits_iff`: the patches that an issue of a missing name lists.
2. `mem_mismatches_iff`: what is compared with the first patch.
3. `diverges_of_mem`, `Diverges.exists_mem`: what is told of the modules.
4. `tellsOnce_moduleIssues`: nothing is told twice of a module.
5. `divergences_exact`: which issues of patches against each other a game has.
-/

namespace ModScript

/-- What an issue of patches against each other is about: something that patches lack, or an entry that differs in
another patch. -/
inductive Subject
  | module (module : String)
  | constant (module name : String)
  | var (module name : String)
  | hook (module name : String)
  | kind (module name other : String)
  | returns (module name other : String)
  | params (module name other : String)
deriving DecidableEq, Repr

namespace Subject

def moduleName : Subject → String
  | .module name | .constant name _ | .var name _ | .hook name _ | .kind name _ _ | .returns name _ _
  | .params name _ _ => name

/-- The name of the entry; a module as such has none. -/
def entryName : Subject → String
  | .module _ => ""
  | .constant _ name | .var _ name | .hook _ name | .kind _ name _ | .returns _ name _ | .params _ name _ => name

/-- The patch that is compared with the first one, if one is. -/
def otherPatch : Subject → String
  | .kind _ _ other | .returns _ _ other | .params _ _ other => other
  | .module _ | .constant _ _ | .var _ _ | .hook _ _ => ""

/-- Which kind of subject comes first among the issues of a module. -/
def rank : Subject → Nat
  | .module _ => 0
  | .constant _ _ => 1
  | .var _ _ => 2
  | .hook _ _ => 3
  | .kind _ _ _ => 4
  | .returns _ _ _ => 5
  | .params _ _ _ => 6

end Subject

/-- The subject of an issue, if it is one of patches against each other. -/
def Issue.subject? : Issue → Option Subject
  | .moduleMissing module _ => some (.module module)
  | .constantMissing module name _ => some (.constant module name)
  | .variableMissing module name _ => some (.var module name)
  | .hookMissing module name _ => some (.hook module name)
  | .variableTypeMismatch module name _ other => some (.kind module name other.1)
  | .hookReturnMismatch module name _ other => some (.returns module name other.1)
  | .hookParamsMismatch module name _ other => some (.params module name other.1)
  | .missingExecutableTable _ | .blockWithoutSize _ _ _ | .voidParameter _ _ _
  | .nonNumericConstant _ _ | .invalidConstantName _ _ => none

/-- The patch has a table of the module. -/
def Patch.HasModule (module : String) (patch : Patch) : Prop := module ∈ patch.tables.keys

/-- The patch has a table of the module, with the name. -/
def Patch.Defines {α : Type} (part : ModuleTable → OrderedMap α) (module name : String) (patch : Patch) : Prop :=
  ∃ table, patch.tables.get? module = some table ∧ name ∈ (part table).keys

theorem Patch.Defines.hasModule {α : Type} {part : ModuleTable → OrderedMap α} {module name : String} {patch : Patch}
    (defines : Patch.Defines part module name patch) : module ∈ patch.tables.keys := by
  obtain ⟨table, has, -⟩ := defines
  exact OrderedMap.mem_keys_of_get? has

namespace Game

/-- Some patches have it, but not all; the others are `patches`, in the order of the game. -/
structure Splits (game : Game) (Has : Patch → Prop) (patches : List String) : Prop where
  had : ∃ key patch, game.patches.get? key = some patch ∧ Has patch
  lacked : ∃ key patch, game.patches.get? key = some patch ∧ ¬ Has patch
  inOrder : patches.Sublist game.patches.keys
  lacking : ∀ key patch, game.patches.get? key = some patch → (key ∈ patches ↔ ¬ Has patch)

/-- The first patch and a later one have these tables of the module. -/
def Compares (game : Game) (module : String) (first other : String × ModuleTable) : Prop :=
  ∃ patch patch' later, game.patches.entries = (first.1, patch) :: later ∧ (other.1, patch') ∈ later ∧
    patch.tables.get? module = some first.2 ∧ patch'.tables.get? module = some other.2

/-- The first patch and a later one define the name in the module, and differ in what `view` shows of it. -/
def Clashes {α β : Type} (game : Game) (part : ModuleTable → OrderedMap α) (view : α → β)
    (module name : String) (first other : String × β) : Prop :=
  ∃ table table' entry entry', game.Compares module (first.1, table) (other.1, table') ∧
    (part table).get? name = some entry ∧ (part table').get? name = some entry' ∧
    view entry ≠ view entry' ∧ first.2 = view entry ∧ other.2 = view entry'

/-- The issues that a game ought to have for its patches against each other. -/
inductive Diverges (game : Game) : Issue → Prop
  | module (module : String) (patches : List String) :
    game.Splits (Patch.HasModule module) patches → Diverges game (.moduleMissing module patches)
  | constant (module name : String) (patches : List String) :
    game.Splits (Patch.Defines ModuleTable.constants module name) patches →
    Diverges game (.constantMissing module name patches)
  | var (module name : String) (patches : List String) :
    game.Splits (Patch.Defines ModuleTable.vars module name) patches →
    Diverges game (.variableMissing module name patches)
  | hook (module name : String) (patches : List String) :
    game.Splits (Patch.Defines ModuleTable.hooks module name) patches →
    Diverges game (.hookMissing module name patches)
  | kind (module name : String) (first other : String × VariableType) :
    game.Clashes ModuleTable.vars VariableEntry.kind module name first other →
    Diverges game (.variableTypeMismatch module name first other)
  | returns (module name : String) (first other : String × NativeType) :
    game.Clashes ModuleTable.hooks FunctionEntry.returns module name first other →
    Diverges game (.hookReturnMismatch module name first other)
  | params (module name : String) (first other : String × List NativeType) :
    game.Clashes ModuleTable.hooks FunctionEntry.params module name first other →
    Diverges game (.hookParamsMismatch module name first other)

variable {game : Game} {module : String} {issue : Issue}

/-! ## Missing names -/

/-- Two sublists of a list without repeats are the same if they have the same members. -/
theorem sublist_ext {l kept kept' : List String} (distinct : l.Nodup) (sublist : kept.Sublist l)
    (sublist' : kept'.Sublist l) (same : ∀ name, name ∈ kept ↔ name ∈ kept') : kept = kept' := by
  induction l generalizing kept kept' with
  | nil => rw [List.sublist_nil.1 sublist, List.sublist_nil.1 sublist']
  | cons first rest ih =>
    obtain ⟨fresh, distinct⟩ := List.nodup_cons.1 distinct
    cases sublist with
    | cons _ sublist =>
      cases sublist' with
      | cons _ sublist' => exact ih distinct sublist sublist' same
      | cons_cons _ sublist' => exact absurd (sublist.subset ((same first).2 List.mem_cons_self)) fresh
    | @cons_cons kept _ _ sublist =>
      cases sublist' with
      | cons _ sublist' => exact absurd (sublist'.subset ((same first).1 List.mem_cons_self)) fresh
      | @cons_cons kept' _ _ sublist' =>
        have apart (name : String) (present : name ∈ rest) : name ≠ first := fun e => fresh (e ▸ present)
        refine congrArg (first :: ·) (ih distinct sublist sublist' fun name => ?_)
        have same := same name
        rw [List.mem_cons, List.mem_cons] at same
        constructor
        · exact fun kept => (same.1 (.inr kept)).resolve_left (apart name (sublist.subset kept))
        · exact fun kept => (same.2 (.inr kept)).resolve_left (apart name (sublist'.subset kept))

section

variable {Has : Patch → Prop} {has : ModuleTable → Bool} {patches : List String}

theorem lacking_sublist (has : ModuleTable → Bool) :
    (Game.lacking (game.tablesOf module) has).Sublist game.patches.keys := by
  have keys : game.patches.keys = (game.tablesOf module).map Prod.fst := by
    simp [OrderedMap.keys, tablesOf, Function.comp_def]
  rw [keys]
  exact List.filter_sublist.map Prod.fst

theorem mem_lacking_iff {key : String} {patch : Patch} (found : game.patches.get? key = some patch) :
    key ∈ Game.lacking (game.tablesOf module) has ↔ ¬ (patch.tables.get? module).any has = true := by
  simp only [Game.lacking, List.mem_map, List.mem_filter, Prod.exists, exists_and_right, exists_eq_right]
  constructor
  · rintro ⟨table, inTables, lacks⟩
    obtain ⟨key', patch', found', same⟩ := mem_tablesOf_iff.1 inTables
    obtain ⟨rfl, rfl⟩ := Prod.mk.inj same
    cases found.symm.trans found'
    simpa using lacks
  · intro lacks
    exact ⟨_, mem_tablesOf_iff.2 ⟨key, patch, found, rfl⟩, by simpa using lacks⟩

/-- The patches that lack something that some patch has, if there are any. -/
theorem splits_iff (view : ∀ patch, Has patch ↔ (patch.tables.get? module).any has = true) :
    game.Splits Has patches ↔ (∃ key patch, game.patches.get? key = some patch ∧ Has patch) ∧
      patches = Game.lacking (game.tablesOf module) has ∧ patches ≠ [] := by
  constructor
  · rintro ⟨had, ⟨key, patch, found, lacks⟩, inOrder, lacking⟩
    refine ⟨had, ?_, List.ne_nil_of_mem ((lacking key patch found).2 lacks)⟩
    refine sublist_ext game.patches.nodup_keys inOrder (lacking_sublist has) fun key => ?_
    constructor
    · intro listed
      obtain ⟨patch, found⟩ := OrderedMap.mem_keys_iff.1 (inOrder.subset listed)
      rw [mem_lacking_iff found, ← view, ← lacking key patch found]
      exact listed
    · intro listed
      obtain ⟨patch, found⟩ := OrderedMap.mem_keys_iff.1 ((lacking_sublist has).subset listed)
      rwa [lacking key patch found, view, ← mem_lacking_iff found]
  · rintro ⟨had, rfl, some⟩
    obtain ⟨key, listed⟩ := List.exists_mem_of_ne_nil _ some
    obtain ⟨patch, found⟩ := OrderedMap.mem_keys_iff.1 ((lacking_sublist has).subset listed)
    refine ⟨had, ⟨key, patch, found, ?_⟩, lacking_sublist has, fun key patch found => ?_⟩
    · rwa [view, ← mem_lacking_iff found]
    · rw [mem_lacking_iff found, view]

theorem splits_hasModule_iff : game.Splits (Patch.HasModule module) patches ↔
    (∃ key patch, game.patches.get? key = some patch ∧ module ∈ patch.tables.keys) ∧
      patches = Game.lacking (game.tablesOf module) (fun _ => true) ∧ patches ≠ [] :=
  splits_iff fun patch => by
    rw [Patch.HasModule, ← OrderedMap.contains_iff_mem_keys, OrderedMap.contains, Option.any_true]

/-- What only some patches have is a matter of more than one patch. -/
theorem Splits.several (splits : game.Splits Has patches) : 1 < game.patches.size := by
  obtain ⟨⟨key, patch, found, has⟩, ⟨key', patch', found', lacks⟩, -, -⟩ := splits
  by_contra single
  exact lacks (eq_of_size_le_one single found found' ▸ has)

/-- Something of a module that only some patches have is something of a module that some patch has. -/
theorem Splits.mem_allModules (splits : game.Splits Has patches)
    (within : ∀ patch, Has patch → module ∈ patch.tables.keys) : module ∈ game.allModules := by
  obtain ⟨key, patch, found, has⟩ := splits.had
  exact mem_allModules_iff.2 ⟨key, patch, found, within patch has⟩

end

/-- A name is missing if only some patches define it. -/
theorem mem_missingNames_iff {α : Type} {part : ModuleTable → OrderedMap α}
    {toIssue : String → List String → Issue} :
    issue ∈ missingNames (game.tablesOf module) part toIssue ↔
      ∃ name patches, issue = toIssue name patches ∧ game.Splits (Patch.Defines part module name) patches := by
  have view (name : String) (patch : Patch) : Patch.Defines part module name patch ↔
      (patch.tables.get? module).any (fun table => (part table).contains name) = true := by
    simp [Patch.Defines, Option.any_eq_true, OrderedMap.contains_iff_mem_keys]
  have defined (name : String) : (∃ key patch, game.patches.get? key = some patch ∧
        Patch.Defines part module name patch) ↔ 
      ∃ entry ∈ game.tablesOf module, ∃ table, entry.2 = some table ∧ name ∈ (part table).keys := by
    constructor
    · rintro ⟨key, patch, found, table, has, present⟩
      exact ⟨_, mem_tablesOf_iff.2 ⟨key, patch, found, rfl⟩, table, has, present⟩
    · rintro ⟨_, inTables, table, has, present⟩
      obtain ⟨key, patch, found, rfl⟩ := mem_tablesOf_iff.1 inTables
      exact ⟨key, patch, found, table, has, present⟩
  simp only [missingNames, List.mem_filterMap, mem_sortedNames, mem_definedNames_iff, splits_iff (view _), defined]
  refine exists_congr fun name => ?_
  cases lacking (game.tablesOf module) fun table => (part table).contains name with
  | nil => simp
  | cons first rest => simp [and_comm, eq_comm]

/-! ## Types and signatures -/

theorem mem_variableMismatches_iff {first other : String × ModuleTable} :
    issue ∈ variableMismatches module first other ↔
      ∃ name entry entry', first.2.vars.get? name = some entry ∧ other.2.vars.get? name = some entry' ∧
        entry.kind ≠ entry'.kind ∧
        issue = .variableTypeMismatch module name (first.1, entry.kind) (other.1, entry'.kind) := by
  simp only [variableMismatches, List.mem_filterMap, Prod.exists, ← OrderedMap.get?_eq_some_iff]
  refine exists_congr fun name => exists_congr fun entry => ?_
  cases other.2.vars.get? name with
  | none => simp
  | some entry' => simp [eq_comm]

theorem mem_hookMismatches_iff {first other : String × ModuleTable} :
    issue ∈ hookMismatches module first other ↔
      ∃ name entry entry', first.2.hooks.get? name = some entry ∧ other.2.hooks.get? name = some entry' ∧
        (entry.returns ≠ entry'.returns ∧
            issue = .hookReturnMismatch module name (first.1, entry.returns) (other.1, entry'.returns) ∨
          entry.params ≠ entry'.params ∧
            issue = .hookParamsMismatch module name (first.1, entry.params) (other.1, entry'.params)) := by
  simp only [hookMismatches, List.mem_flatMap, Prod.exists, ← OrderedMap.get?_eq_some_iff]
  refine exists_congr fun name => exists_congr fun entry => ?_
  cases other.2.hooks.get? name with
  | none => simp
  | some entry' => simp [List.mem_append, and_or_left, exists_or]

/-- The table of the first patch is compared with those of the later ones. -/
theorem mem_mismatches_iff :
    issue ∈ mismatches module (game.tablesOf module) ↔
      ∃ first other, game.Compares module first other ∧
        (issue ∈ variableMismatches module first other ∨ issue ∈ hookMismatches module first other) := by
  unfold tablesOf
  constructor
  · intro told
    cases entries : game.patches.entries with
    | nil =>
      rw [entries] at told
      exact absurd told List.not_mem_nil
    | cons first later =>
      rw [entries, List.map_cons] at told
      cases has : first.2.tables.get? module with
      | none =>
        rw [has] at told
        exact absurd told List.not_mem_nil
      | some table =>
        rw [has, mismatches, List.mem_flatMap] at told
        obtain ⟨_, inTables, told⟩ := told
        obtain ⟨other, inLater, rfl⟩ := List.mem_map.1 inTables
        cases has' : other.2.tables.get? module with
        | none =>
          rw [has'] at told
          exact absurd told List.not_mem_nil
        | some table' =>
          rw [has'] at told
          exact ⟨(first.1, table), (other.1, table'), ⟨_, _, later, entries, inLater, has, has'⟩,
            List.mem_append.1 told⟩
  · rintro ⟨first, other, ⟨patch, patch', later, entries, inLater, has, has'⟩, told⟩
    rw [entries, List.map_cons, has, mismatches, List.mem_flatMap]
    refine ⟨_, List.mem_map_of_mem inLater, ?_⟩
    rw [has']
    exact List.mem_append.2 told

/-- More than one patch has a table where tables are compared. -/
theorem Compares.several {first other : String × ModuleTable} (compares : game.Compares module first other) :
    1 < game.patches.size := by
  obtain ⟨patch, patch', later, entries, inLater, -, -⟩ := compares
  have one : 0 < later.length := List.length_pos_of_mem inLater
  rw [OrderedMap.size, entries, List.length_cons]
  omega

theorem Compares.mem_allModules {first other : String × ModuleTable}
    (compares : game.Compares module first other) : module ∈ game.allModules := by
  obtain ⟨patch, patch', later, entries, inLater, has, -⟩ := compares
  refine mem_allModules_iff.2 ⟨first.1, patch, ?_, OrderedMap.mem_keys_of_get? has⟩
  rw [OrderedMap.get?_eq_some_iff, entries]
  exact List.mem_cons_self

theorem Clashes.several {α β : Type} {part : ModuleTable → OrderedMap α} {view : α → β} {name : String}
    {first other : String × β} (clashes : game.Clashes part view module name first other) :
    1 < game.patches.size ∧ module ∈ game.allModules := by
  obtain ⟨table, table', entry, entry', compares, -⟩ := clashes
  exact ⟨compares.several, compares.mem_allModules⟩

/-- The types and signatures in which later tables differ from the first one. -/
theorem mem_clashes_iff :
    issue ∈ mismatches module (game.tablesOf module) ↔
      (∃ name first other, issue = .variableTypeMismatch module name first other ∧
        game.Clashes ModuleTable.vars VariableEntry.kind module name first other) ∨
      (∃ name first other, issue = .hookReturnMismatch module name first other ∧
        game.Clashes ModuleTable.hooks FunctionEntry.returns module name first other) ∨
      (∃ name first other, issue = .hookParamsMismatch module name first other ∧
        game.Clashes ModuleTable.hooks FunctionEntry.params module name first other) := by
  rw [mem_mismatches_iff]
  constructor
  · rintro ⟨first, other, compares, vars | hooks⟩
    · obtain ⟨name, entry, entry', found, found', differ, rfl⟩ := mem_variableMismatches_iff.1 vars
      exact .inl ⟨_, _, _, rfl, _, _, entry, entry', compares, found, found', differ, rfl, rfl⟩
    · obtain ⟨name, entry, entry', found, found', ⟨differ, rfl⟩ | ⟨differ, rfl⟩⟩ :=
        mem_hookMismatches_iff.1 hooks
      · exact .inr (.inl ⟨_, _, _, rfl, _, _, entry, entry', compares, found, found', differ, rfl, rfl⟩)
      · exact .inr (.inr ⟨_, _, _, rfl, _, _, entry, entry', compares, found, found', differ, rfl, rfl⟩)
  · rintro (⟨name, ⟨key, _⟩, ⟨key', _⟩, rfl, table, table', entry, entry', compares, found, found', differ, rfl, rfl⟩ |
      ⟨name, ⟨key, _⟩, ⟨key', _⟩, rfl, table, table', entry, entry', compares, found, found', differ, rfl, rfl⟩ |
      ⟨name, ⟨key, _⟩, ⟨key', _⟩, rfl, table, table', entry, entry', compares, found, found', differ, rfl, rfl⟩)
    · exact ⟨_, _, compares,
        .inl (mem_variableMismatches_iff.2 ⟨name, entry, entry', found, found', differ, rfl⟩)⟩
    · exact ⟨_, _, compares,
        .inr (mem_hookMismatches_iff.2 ⟨name, entry, entry', found, found', .inl ⟨differ, rfl⟩⟩)⟩
    · exact ⟨_, _, compares,
        .inr (mem_hookMismatches_iff.2 ⟨name, entry, entry', found, found', .inr ⟨differ, rfl⟩⟩)⟩

/-! ## Issues of a module -/

theorem mem_moduleIssues_iff : issue ∈ game.moduleIssues module ↔
    (Game.lacking (game.tablesOf module) (fun _ => true) ≠ [] ∧
      issue = .moduleMissing module (Game.lacking (game.tablesOf module) fun _ => true)) ∨
    (∃ name patches, issue = .constantMissing module name patches ∧
      game.Splits (Patch.Defines ModuleTable.constants module name) patches) ∨
    (∃ name patches, issue = .variableMissing module name patches ∧
      game.Splits (Patch.Defines ModuleTable.vars module name) patches) ∨
    (∃ name patches, issue = .hookMissing module name patches ∧
      game.Splits (Patch.Defines ModuleTable.hooks module name) patches) ∨
    issue ∈ mismatches module (game.tablesOf module) := by
  simp only [moduleIssues, missingIssues, List.mem_append, mem_missingNames_iff, or_assoc]
  refine or_congr_left ?_
  cases Game.lacking (game.tablesOf module) fun _ => true <;> simp

/-- What is told of a module that some patch has. -/
theorem diverges_of_mem (known : module ∈ game.allModules) (told : issue ∈ game.moduleIssues module) :
    game.Diverges issue := by
  rcases mem_moduleIssues_iff.1 told with
    ⟨some, rfl⟩ | ⟨_, _, rfl, splits⟩ | ⟨_, _, rfl, splits⟩ | ⟨_, _, rfl, splits⟩ | mismatch
  · exact .module _ _ (splits_hasModule_iff.2 ⟨mem_allModules_iff.1 known, rfl, some⟩)
  · exact .constant _ _ _ splits
  · exact .var _ _ _ splits
  · exact .hook _ _ _ splits
  · rcases mem_clashes_iff.1 mismatch with
      ⟨_, _, _, rfl, clashes⟩ | ⟨_, _, _, rfl, clashes⟩ | ⟨_, _, _, rfl, clashes⟩
    · exact .kind _ _ _ _ clashes
    · exact .returns _ _ _ _ clashes
    · exact .params _ _ _ _ clashes

/-- Every issue of patches against each other is told of a module. -/
theorem Diverges.exists_mem (diverges : game.Diverges issue) :
    1 < game.patches.size ∧ ∃ module ∈ game.allModules, issue ∈ game.moduleIssues module := by
  cases diverges with
  | module module patches splits =>
    obtain ⟨-, rfl, some⟩ := splits_hasModule_iff.1 splits
    exact ⟨splits.several, module, splits.mem_allModules fun _ has => has, mem_moduleIssues_iff.2 (.inl ⟨some, rfl⟩)⟩
  | constant module name patches splits =>
    exact ⟨splits.several, module, splits.mem_allModules fun _ defines => defines.hasModule,
      mem_moduleIssues_iff.2 (.inr (.inl ⟨name, patches, rfl, splits⟩))⟩
  | var module name patches splits =>
    exact ⟨splits.several, module, splits.mem_allModules fun _ defines => defines.hasModule,
      mem_moduleIssues_iff.2 (.inr (.inr (.inl ⟨name, patches, rfl, splits⟩)))⟩
  | hook module name patches splits =>
    exact ⟨splits.several, module, splits.mem_allModules fun _ defines => defines.hasModule,
      mem_moduleIssues_iff.2 (.inr (.inr (.inr (.inl ⟨name, patches, rfl, splits⟩))))⟩
  | kind module name first other clashes =>
    have told := mem_clashes_iff.2 (.inl ⟨name, first, other, rfl, clashes⟩)
    exact ⟨clashes.several.1, module, clashes.several.2,
      mem_moduleIssues_iff.2 (.inr (.inr (.inr (.inr told))))⟩
  | returns module name first other clashes =>
    have told := mem_clashes_iff.2 (.inr (.inl ⟨name, first, other, rfl, clashes⟩))
    exact ⟨clashes.several.1, module, clashes.several.2,
      mem_moduleIssues_iff.2 (.inr (.inr (.inr (.inr told))))⟩
  | params module name first other clashes =>
    have told := mem_clashes_iff.2 (.inr (.inr ⟨name, first, other, rfl, clashes⟩))
    exact ⟨clashes.several.1, module, clashes.several.2,
      mem_moduleIssues_iff.2 (.inr (.inr (.inr (.inr told))))⟩

/-! ## Nothing is told twice -/

/-- The issues tell of subjects of the kind, and of none twice. -/
def TellsOnce (Kind : Subject → Prop) (issues : List Issue) : Prop :=
  (issues.filterMap Issue.subject?).Nodup ∧ ∀ subject ∈ issues.filterMap Issue.subject?, Kind subject

theorem TellsOnce.imp {Kind Kind' : Subject → Prop} {issues : List Issue} (once : TellsOnce Kind issues)
    (imp : ∀ subject, Kind subject → Kind' subject) : TellsOnce Kind' issues :=
  ⟨once.1, fun subject told => imp subject (once.2 subject told)⟩

theorem TellsOnce.append {Kind Kind' : Subject → Prop} {issues issues' : List Issue} (once : TellsOnce Kind issues)
    (once' : TellsOnce Kind' issues') (apart : ∀ subject, Kind subject → ¬ Kind' subject) :
    TellsOnce (fun subject => Kind subject ∨ Kind' subject) (issues ++ issues') := by
  unfold TellsOnce
  rw [List.filterMap_append, List.nodup_append]
  refine ⟨⟨once.1, once'.1, ?_⟩, ?_⟩
  · rintro subject told _ told' rfl
    exact apart subject (once.2 subject told) (once'.2 subject told')
  · intro subject told
    exact (List.mem_append.1 told).imp (once.2 subject) (once'.2 subject)

/-- Parts with different keys tell of different subjects, if each tells of subjects with its key. -/
theorem tellsOnce_flatMap {α : Type} (key : α → String) (keyOf : Subject → String) {Kind : Subject → Prop}
    {l : List α} {issuesOf : α → List Issue} (distinct : l.Pairwise fun a a' => key a ≠ key a')
    (once : ∀ a ∈ l, TellsOnce (fun subject => Kind subject ∧ keyOf subject = key a) (issuesOf a)) :
    TellsOnce Kind (l.flatMap issuesOf) := by
  unfold TellsOnce
  rw [List.filterMap_flatMap, List.nodup_flatMap]
  refine ⟨⟨fun a inList => (once a inList).1, ?_⟩, ?_⟩
  · refine distinct.imp_of_mem ?_
    intro a a' inList inList' apart subject told told'
    exact apart (((once a inList).2 subject told).2.symm.trans ((once a' inList').2 subject told').2)
  · intro subject told
    obtain ⟨a, inList, told⟩ := List.mem_flatMap.1 told
    exact ((once a inList).2 subject told).1

theorem tellsOnce_nil {Kind : Subject → Prop} : TellsOnce Kind [] :=
  ⟨List.nodup_nil, fun _ told => absurd told List.not_mem_nil⟩

theorem tellsOnce_single {Kind : Subject → Prop} {subject : Subject} (about : issue.subject? = some subject)
    (kind : Kind subject) : TellsOnce Kind [issue] := by
  simp [TellsOnce, about, kind]

theorem distinct_entries {α : Type} (m : OrderedMap α) :
    m.entries.Pairwise fun entry entry' => entry.1 ≠ entry'.1 :=
  List.pairwise_map.1 m.distinct

/-- Of the missing names of one part of the tables, each is told once. -/
theorem tellsOnce_missingNames {α : Type} {tables : List (String × Option ModuleTable)}
    {part : ModuleTable → OrderedMap α} {toIssue : String → List String → Issue} {Kind : Subject → Prop}
    (about : ∀ name patches, ∃ subject, (toIssue name patches).subject? = some subject ∧ Kind subject ∧
      subject.entryName = name) : TellsOnce Kind (missingNames tables part toIssue) := by
  rw [missingNames, List.filterMap_eq_flatMap_toList]
  refine tellsOnce_flatMap (fun name => name) Subject.entryName
    ((sorted_sortedNames _).imp Std.ne_of_lt) fun name _ => ?_
  split
  · exact tellsOnce_nil
  · obtain ⟨subject, tells, kind⟩ := about name (lacking tables fun table => (part table).contains name)
    exact tellsOnce_single tells kind

theorem tellsOnce_variableMismatches (first other : String × ModuleTable) :
    TellsOnce (fun subject => subject.rank = 4 ∧ subject.moduleName = module ∧ subject.otherPatch = other.1)
      (variableMismatches module first other) := by
  rw [variableMismatches, List.filterMap_eq_flatMap_toList]
  refine tellsOnce_flatMap Prod.fst Subject.entryName (distinct_entries first.2.vars) fun entry _ => ?_
  split
  · split
    · exact tellsOnce_nil
    · exact tellsOnce_single rfl ⟨⟨rfl, rfl, rfl⟩, rfl⟩
  · exact tellsOnce_nil

/-- A hook may differ in what it returns and in what it takes. -/
theorem tellsOnce_hookMismatches (first other : String × ModuleTable) :
    TellsOnce (fun subject => 5 ≤ subject.rank ∧ subject.moduleName = module ∧ subject.otherPatch = other.1)
      (hookMismatches module first other) := by
  rw [hookMismatches]
  refine tellsOnce_flatMap Prod.fst Subject.entryName (distinct_entries first.2.hooks) fun entry _ => ?_
  split
  next entry' found =>
    have returns : TellsOnce (· = .returns module entry.1 other.1) (if entry.2.returns = entry'.returns then []
        else [.hookReturnMismatch module entry.1 (first.1, entry.2.returns) (other.1, entry'.returns)]) := by
      split
      · exact tellsOnce_nil
      · exact tellsOnce_single rfl rfl
    have params : TellsOnce (· = .params module entry.1 other.1) (if entry.2.params = entry'.params then []
        else [.hookParamsMismatch module entry.1 (first.1, entry.2.params) (other.1, entry'.params)]) := by
      split
      · exact tellsOnce_nil
      · exact tellsOnce_single rfl rfl
    refine (returns.append params ?_).imp ?_
    · rintro _ rfl
      exact nofun
    · rintro _ (rfl | rfl)
      · exact ⟨⟨Nat.le_refl 5, rfl, rfl⟩, rfl⟩
      · exact ⟨⟨Nat.le_succ 5, rfl, rfl⟩, rfl⟩
  next => exact tellsOnce_nil

/-- Later tables are those of different patches. -/
theorem tellsOnce_mismatches :
    TellsOnce (fun subject => 4 ≤ subject.rank ∧ subject.moduleName = module)
      (mismatches module (game.tablesOf module)) := by
  have distinct : (game.tablesOf module).Pairwise fun entry entry' => entry.1 ≠ entry'.1 :=
    List.pairwise_map.2 (distinct_entries game.patches)
  unfold mismatches
  split
  next key table others tables =>
    rw [tables] at distinct
    refine tellsOnce_flatMap Prod.fst Subject.otherPatch (List.pairwise_cons.1 distinct).2 fun other _ => ?_
    split
    next table' has =>
      refine ((tellsOnce_variableMismatches (key, table) (other.1, table')).append
        (tellsOnce_hookMismatches (key, table) (other.1, table')) ?_).imp ?_
      · intro subject vars hooks
        omega
      · intro subject kind
        exact ⟨⟨by omega, kind.elim (·.2.1) (·.2.1)⟩, kind.elim (·.2.2) (·.2.2)⟩
    next => exact tellsOnce_nil
  next => exact tellsOnce_nil

theorem tellsOnce_moduleIssues :
    TellsOnce (fun subject => True ∧ subject.moduleName = module) (game.moduleIssues module) := by
  have constants : TellsOnce (fun subject => subject.rank = 1 ∧ subject.moduleName = module)
      (missingNames (game.tablesOf module) ModuleTable.constants (.constantMissing module)) :=
    tellsOnce_missingNames fun name _ => ⟨.constant module name, rfl, ⟨rfl, rfl⟩, rfl⟩
  have vars : TellsOnce (fun subject => subject.rank = 2 ∧ subject.moduleName = module)
      (missingNames (game.tablesOf module) ModuleTable.vars (.variableMissing module)) :=
    tellsOnce_missingNames fun name _ => ⟨.var module name, rfl, ⟨rfl, rfl⟩, rfl⟩
  have hooks : TellsOnce (fun subject => subject.rank = 3 ∧ subject.moduleName = module)
      (missingNames (game.tablesOf module) ModuleTable.hooks (.hookMissing module)) :=
    tellsOnce_missingNames fun name _ => ⟨.hook module name, rfl, ⟨rfl, rfl⟩, rfl⟩
  have missing := (constants.append vars fun _ _ _ => by omega).append hooks fun _ _ _ => by omega
  have differing : TellsOnce (fun subject => 4 ≤ subject.rank ∧ subject.moduleName = module)
      (mismatches module (game.tablesOf module)) := tellsOnce_mismatches
  have after (front : List Issue)
      (modules : TellsOnce (fun subject => subject.rank = 0 ∧ subject.moduleName = module) front) :=
    (modules.append missing fun _ _ _ => by omega).append differing fun _ _ _ => by omega
  refine (after _ ?modules).imp fun subject kind => ?_
  case modules =>
    split
    · exact tellsOnce_nil
    · exact tellsOnce_single rfl ⟨rfl, rfl⟩
  exact ⟨trivial, by tauto⟩

/-! ## The game -/

theorem filterMap_constantIssues (scope : String) (constants : OrderedMap Json) :
    (constantIssues scope constants).filterMap Issue.subject? = [] := by
  simp [constantIssues, List.filterMap_append, List.filterMap_map, Function.comp_def, Issue.subject?]

theorem filterMap_patchIssues (key : String) (patch : Patch) :
    (game.patchIssues key patch).filterMap Issue.subject? = [] := by
  rw [patchIssues, List.filterMap_append, List.append_eq_nil_iff, List.filterMap_flatMap, List.flatMap_eq_nil_iff]
  refine ⟨?_, fun entry _ => ?_⟩
  · split <;> rfl
  · simp [ModuleTable.issues, filterMap_constantIssues, List.filterMap_map, Function.comp_def, Issue.subject?]

/-- What the issues of a game tell of its patches against each other is what they tell of its modules. -/
theorem filterMap_issues (game : Game) : game.issues.filterMap Issue.subject? =
    if 1 < game.patches.size then (game.allModules.flatMap game.moduleIssues).filterMap Issue.subject? else [] := by
  have patches : (game.patches.entries.flatMap fun entry => game.patchIssues entry.1 entry.2).filterMap
      Issue.subject? = [] := by
    rw [List.filterMap_flatMap, List.flatMap_eq_nil_iff]
    exact fun entry _ => filterMap_patchIssues entry.1 entry.2
  rw [issues, List.filterMap_append, List.filterMap_append, filterMap_constantIssues, patches]
  split <;> rfl

theorem mem_issues_of_subject_iff {subject : Subject} (about : issue.subject? = some subject) : issue ∈ game.issues ↔
    1 < game.patches.size ∧ ∃ module ∈ game.allModules, issue ∈ game.moduleIssues module := by
  have elsewhere {issues : List Issue} (silent : issues.filterMap Issue.subject? = []) : issue ∉ issues := by
    intro told
    simpa [about] using List.filterMap_eq_nil_iff.1 silent issue told
  have patches : issue ∉ game.patches.entries.flatMap fun entry => game.patchIssues entry.1 entry.2 := by
    intro told
    obtain ⟨entry, -, told⟩ := List.mem_flatMap.1 told
    exact elsewhere (filterMap_patchIssues entry.1 entry.2) told
  simp only [issues, List.mem_append, elsewhere (filterMap_constantIssues _ _), patches, false_or]
  split
  next several => simp [several, List.mem_flatMap]
  next single => simp [single]

/-- The issues of patches against each other are those that a game ought to have, and no subject has two of them.
A game with one patch has none. -/
theorem divergences_exact (game : Game) :
    (∀ issue, issue ∈ game.issues ∧ issue.subject?.isSome = true ↔ game.Diverges issue) ∧
    (game.issues.filterMap Issue.subject?).Nodup ∧
    (game.patches.size ≤ 1 → ∀ issue ∈ game.issues, issue.subject? = none) := by
  refine ⟨fun issue => ⟨?_, fun diverges => ?_⟩, ?_, fun single issue told => ?_⟩
  · rintro ⟨told, about⟩
    obtain ⟨subject, about⟩ := Option.isSome_iff_exists.1 about
    obtain ⟨-, module, known, told⟩ := (mem_issues_of_subject_iff about).1 told
    exact diverges_of_mem known told
  · have about : issue.subject?.isSome = true := by cases diverges <;> rfl
    obtain ⟨subject, about'⟩ := Option.isSome_iff_exists.1 about
    exact ⟨(mem_issues_of_subject_iff about').2 diverges.exists_mem, about⟩
  · rw [filterMap_issues]
    split
    · have distinct : game.allModules.Pairwise (· ≠ ·) := (sorted_sortedNames _).imp Std.ne_of_lt
      exact (tellsOnce_flatMap (fun module => module) Subject.moduleName distinct
        fun module _ => tellsOnce_moduleIssues).1
    · exact List.nodup_nil
  · have silent := filterMap_issues game
    rw [if_neg (by omega)] at silent
    exact List.filterMap_eq_nil_iff.1 silent issue told

end Game

end ModScript
