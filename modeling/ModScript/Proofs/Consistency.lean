import ModScript.Game.Consistency
import ModScript.Proofs.OrderedMap

/-!
# Consistency of games

What it means that a game has no issue. `Game.Consistent` speaks of single entries and of every two
patches; the list of issues compares types with the first patch alone and leaves out modules which the
first patch lacks. The two say the same since a module or a name that one patch lacks is an issue of its
own: without such issues the first patch has everything, and agreement with it is agreement of any two.

Results:
1. `tableIssues_eq_nil_iff`: no issue of one table on its own.
2. `moduleIssues_eq_nil_iff`: no issue of one module among all patches.
3. `issues_eq_nil_iff_consistent`: no issue of a game.
-/

namespace ModScript

/-! ## Consistent games -/

/-- Every constant is a number and has a name that a script can bind. -/
def ConstantsUsable (constants : OrderedMap Json) : Prop :=
  ∀ name value, constants.get? name = some value → value.isNumber = true ∧ isFreeName name = true

/-- The entries of a table can be used: its constants are usable, a block has a size, and no function
takes a `void`. -/
structure ModuleTable.Usable (table : ModuleTable) : Prop where
  constants : ConstantsUsable table.constants
  blocks : ∀ name entry, table.vars.get? name = some entry → entry.kind = .block →
    entry.size.isSome = true
  params : ∀ name entry, table.hooks.get? name = some entry → .void ∉ entry.params

/-- Two tables have the same names, variables of the same types and hooks of the same signatures. -/
structure ModuleTable.SameSchema (table table' : ModuleTable) : Prop where
  constants : ∀ name, name ∈ table.constants.keys ↔ name ∈ table'.constants.keys
  vars : ∀ name, name ∈ table.vars.keys ↔ name ∈ table'.vars.keys
  hooks : ∀ name, name ∈ table.hooks.keys ↔ name ∈ table'.hooks.keys
  kind : ∀ name entry entry', table.vars.get? name = some entry →
    table'.vars.get? name = some entry' → entry.kind = entry'.kind
  signature : ∀ name entry entry', table.hooks.get? name = some entry →
    table'.hooks.get? name = some entry' →
    entry.returns = entry'.returns ∧ entry.params = entry'.params

/-- Two patches have the same modules, with tables of the same schema. -/
structure Patch.SameSchema (patch patch' : Patch) : Prop where
  modules : ∀ module, module ∈ patch.tables.keys ↔ module ∈ patch'.tables.keys
  tables : ∀ module table table', patch.tables.get? module = some table →
    patch'.tables.get? module = some table' → table.SameSchema table'

/-- All entries of a game can be used, every patch has a table of the executable, and every two patches
have the same schema. -/
structure Game.Consistent (game : Game) : Prop where
  constants : ConstantsUsable game.constants
  executable : ∀ key patch, game.patches.get? key = some patch →
    game.executable ∈ patch.tables.keys
  tables : ∀ key patch module table, game.patches.get? key = some patch →
    patch.tables.get? module = some table → table.Usable
  schema : ∀ key key' patch patch', game.patches.get? key = some patch →
    game.patches.get? key' = some patch' → patch.SameSchema patch'

theorem ModuleTable.SameSchema.refl (table : ModuleTable) : table.SameSchema table where
  constants _ := Iff.rfl
  vars _ := Iff.rfl
  hooks _ := Iff.rfl
  kind name entry entry' found found' := by
    cases found.symm.trans found'
    rfl
  signature name entry entry' found found' := by
    cases found.symm.trans found'
    exact ⟨rfl, rfl⟩

theorem ModuleTable.SameSchema.symm {table table' : ModuleTable} (h : table.SameSchema table') :
    table'.SameSchema table where
  constants name := (h.constants name).symm
  vars name := (h.vars name).symm
  hooks name := (h.hooks name).symm
  kind name entry entry' found found' := (h.kind name entry' entry found' found).symm
  signature name entry entry' found found' :=
    let ⟨returns, params⟩ := h.signature name entry' entry found' found
    ⟨returns.symm, params.symm⟩

theorem ModuleTable.SameSchema.trans {table table' table'' : ModuleTable}
    (h : table.SameSchema table') (h' : table'.SameSchema table'') : table.SameSchema table'' where
  constants name := (h.constants name).trans (h'.constants name)
  vars name := (h.vars name).trans (h'.vars name)
  hooks name := (h.hooks name).trans (h'.hooks name)
  kind name entry entry'' found found'' := by
    obtain ⟨entry', found'⟩ := OrderedMap.mem_keys_iff.1
      ((h.vars name).1 (OrderedMap.mem_keys_of_get? found))
    exact (h.kind name entry entry' found found').trans (h'.kind name entry' entry'' found' found'')
  signature name entry entry'' found found'' := by
    obtain ⟨entry', found'⟩ := OrderedMap.mem_keys_iff.1
      ((h.hooks name).1 (OrderedMap.mem_keys_of_get? found))
    obtain ⟨returns, params⟩ := h.signature name entry entry' found found'
    obtain ⟨returns', params'⟩ := h'.signature name entry' entry'' found' found''
    exact ⟨returns.trans returns', params.trans params'⟩

theorem Patch.SameSchema.symm {patch patch' : Patch} (h : patch.SameSchema patch') :
    patch'.SameSchema patch where
  modules module := (h.modules module).symm
  tables module table table' has has' := (h.tables module table' table has' has).symm

/-! ## Entries on their own -/

theorem constantIssues_eq_nil_iff {scope : String} {constants : OrderedMap Json} :
    constantIssues scope constants = [] ↔ ConstantsUsable constants := by
  simp only [constantIssues, List.append_eq_nil_iff, List.map_eq_nil_iff, List.filter_eq_nil_iff,
    Bool.not_eq_true, Bool.not_eq_false']
  constructor
  · rintro ⟨numbers, names⟩ name value found
    exact ⟨numbers (name, value) (OrderedMap.get?_eq_some_iff.1 found),
      names name (OrderedMap.mem_keys_of_get? found)⟩
  · intro usable
    refine ⟨fun entry inEntries => (usable entry.1 entry.2 ?_).1, fun name inKeys => ?_⟩
    · exact OrderedMap.get?_eq_some_iff.2 inEntries
    · obtain ⟨value, found⟩ := OrderedMap.mem_keys_iff.1 inKeys
      exact (usable name value found).2

theorem tableIssues_eq_nil_iff {key module : String} {table : ModuleTable} :
    table.issues key module = [] ↔ table.Usable := by
  simp only [ModuleTable.issues, List.append_eq_nil_iff, List.map_eq_nil_iff,
    List.filter_eq_nil_iff, constantIssues_eq_nil_iff]
  constructor
  · rintro ⟨⟨constants, blocks⟩, params⟩
    refine ⟨constants, fun name entry found block => ?_, fun name entry found present => ?_⟩
    · have sized := blocks (name, entry) (OrderedMap.get?_eq_some_iff.1 found)
      simpa [VariableType.requiresSize, block, Option.isSome_iff_ne_none] using sized
    · refine params (name, entry) (OrderedMap.get?_eq_some_iff.1 found) ?_
      exact List.any_eq_true.2 ⟨.void, present, rfl⟩
  · rintro ⟨constants, blocks, params⟩
    refine ⟨⟨constants, fun entry inEntries => ?_⟩, fun entry inEntries uses => ?_⟩
    · have sized := blocks entry.1 entry.2 (OrderedMap.get?_eq_some_iff.2 inEntries)
      simpa [VariableType.requiresSize, Option.isSome_iff_ne_none] using sized
    · obtain ⟨type, present, void⟩ := List.any_eq_true.1 uses
      have isVoid : type = .void := by simpa [NativeType.isVoid] using void
      exact params entry.1 entry.2 (OrderedMap.get?_eq_some_iff.2 inEntries) (isVoid ▸ present)

/-! ## Names among all patches -/

namespace Game

theorem lacking_eq_nil_iff {tables : List (String × Option ModuleTable)} {has : ModuleTable → Bool} :
    lacking tables has = [] ↔
      ∀ entry ∈ tables, ∃ table, entry.2 = some table ∧ has table = true := by
  simp only [lacking, List.map_eq_nil_iff, List.filter_eq_nil_iff, Bool.not_eq_true,
    Bool.not_eq_false', Option.any_eq_true]

/-- The names of all tables. -/
theorem mem_definedNames_iff {α : Type} {tables : List (String × Option ModuleTable)}
    {part : ModuleTable → OrderedMap α} {name : String} :
    name ∈ (tables.flatMap fun entry => (entry.2.map fun table => (part table).keys).getD []) ↔
      ∃ entry ∈ tables, ∃ table, entry.2 = some table ∧ name ∈ (part table).keys := by
  rw [List.mem_flatMap]
  refine exists_congr fun entry => and_congr_right fun _ => ?_
  cases entry.2 <;> simp

/-- No name is missing: a name in one of the tables is in all of them. -/
theorem missingNames_eq_nil_iff {α : Type} {tables : List (String × Option ModuleTable)}
    {part : ModuleTable → OrderedMap α} {issue : String → List String → Issue} :
    missingNames tables part issue = [] ↔
      ∀ name, (∃ entry ∈ tables, ∃ table, entry.2 = some table ∧ name ∈ (part table).keys) →
        ∀ entry ∈ tables, ∃ table, entry.2 = some table ∧ name ∈ (part table).keys := by
  unfold missingNames
  simp only [List.filterMap_eq_nil_iff, mem_sortedNames, mem_definedNames_iff]
  refine forall_congr' fun name => imp_congr_right fun _ => ?_
  simp only [← OrderedMap.contains_iff_mem_keys]
  rw [← lacking_eq_nil_iff]
  cases lacking tables fun table => (part table).contains name <;> simp

/-! ## Types and signatures -/

theorem variableMismatches_eq_nil_iff {module : String} {first other : String × ModuleTable} :
    variableMismatches module first other = [] ↔
      ∀ name entry entry', first.2.vars.get? name = some entry →
        other.2.vars.get? name = some entry' → entry.kind = entry'.kind := by
  unfold variableMismatches
  rw [List.filterMap_eq_nil_iff]
  constructor
  · intro h name entry entry' found found'
    have same := h (name, entry) (OrderedMap.get?_eq_some_iff.1 found)
    simpa [found'] using same
  · intro h entry inEntries
    cases found' : other.2.vars.get? entry.1 with
    | none => rfl
    | some entry' =>
      have same := h entry.1 entry.2 entry' (OrderedMap.get?_eq_some_iff.2 inEntries) found'
      simp [same]

theorem hookMismatches_eq_nil_iff {module : String} {first other : String × ModuleTable} :
    hookMismatches module first other = [] ↔
      ∀ name entry entry', first.2.hooks.get? name = some entry →
        other.2.hooks.get? name = some entry' →
        entry.returns = entry'.returns ∧ entry.params = entry'.params := by
  unfold hookMismatches
  rw [List.flatMap_eq_nil_iff]
  constructor
  · intro h name entry entry' found found'
    have same := h (name, entry) (OrderedMap.get?_eq_some_iff.1 found)
    simpa [found'] using same
  · intro h entry inEntries
    cases found' : other.2.hooks.get? entry.1 with
    | none => rfl
    | some entry' =>
      have same := h entry.1 entry.2 entry' (OrderedMap.get?_eq_some_iff.2 inEntries) found'
      simp [same]

/-! ## One module among all patches -/

variable {game : Game} {module : String}

/-- Every two patches of the game have tables of the module, of the same schema. -/
def AgreeOn (game : Game) (module : String) : Prop :=
  ∀ key key' patch patch', game.patches.get? key = some patch →
    game.patches.get? key' = some patch' →
    ∃ table table', patch.tables.get? module = some table ∧
      patch'.tables.get? module = some table' ∧ table.SameSchema table'

theorem mem_tablesOf_iff {entry : String × Option ModuleTable} :
    entry ∈ game.tablesOf module ↔
      ∃ key patch, game.patches.get? key = some patch ∧ entry = (key, patch.tables.get? module) := by
  simp only [tablesOf, List.mem_map, OrderedMap.get?_eq_some_iff, Prod.exists]
  exact exists_congr fun key => exists_congr fun patch => and_congr_right fun _ => eq_comm

/-- A name of one patch's table is in every patch's table. -/
theorem keys_subset {α : Type} {part : ModuleTable → OrderedMap α}
    {issue : String → List String → Issue}
    (none_missing : missingNames (game.tablesOf module) part issue = []) {key key' : String}
    {patch patch' : Patch} {table table' : ModuleTable}
    (found : game.patches.get? key = some patch) (found' : game.patches.get? key' = some patch')
    (has : patch.tables.get? module = some table) (has' : patch'.tables.get? module = some table')
    {name : String} (present : name ∈ (part table).keys) : name ∈ (part table').keys := by
  obtain ⟨_, same, present'⟩ := missingNames_eq_nil_iff.1 none_missing name
    ⟨_, mem_tablesOf_iff.2 ⟨key, patch, found, rfl⟩, table, has, present⟩
    _ (mem_tablesOf_iff.2 ⟨key', patch', found', rfl⟩)
  cases has'.symm.trans same
  exact present'

theorem moduleIssues_eq_nil_iff : game.moduleIssues module = [] ↔
    (∀ key patch, game.patches.get? key = some patch →
      ∃ table, patch.tables.get? module = some table) ∧
    game.missingIssues module = [] ∧ mismatches module (game.tablesOf module) = [] := by
  have present : lacking (game.tablesOf module) (fun _ => true) = [] ↔
      ∀ key patch, game.patches.get? key = some patch →
        ∃ table, patch.tables.get? module = some table := by
    rw [lacking_eq_nil_iff]
    constructor
    · intro h key patch found
      obtain ⟨table, has, -⟩ := h _ (mem_tablesOf_iff.2 ⟨key, patch, found, rfl⟩)
      exact ⟨table, has⟩
    · intro h entry inTables
      obtain ⟨key, patch, found, rfl⟩ := mem_tablesOf_iff.1 inTables
      obtain ⟨table, has⟩ := h key patch found
      exact ⟨table, has, rfl⟩
  rw [← present]
  simp only [moduleIssues, List.append_eq_nil_iff, and_assoc]
  refine and_congr_left' ?_
  cases lacking (game.tablesOf module) fun _ => true <;> simp

theorem mismatches_eq_nil_iff {key : String} {table : ModuleTable}
    {others : List (String × Option ModuleTable)} :
    mismatches module ((key, some table) :: others) = [] ↔
      ∀ other ∈ others, ∀ table', other.2 = some table' →
        (∀ name entry entry', table.vars.get? name = some entry →
          table'.vars.get? name = some entry' → entry.kind = entry'.kind) ∧
        (∀ name entry entry', table.hooks.get? name = some entry →
          table'.hooks.get? name = some entry' →
          entry.returns = entry'.returns ∧ entry.params = entry'.params) := by
  unfold mismatches
  rw [List.flatMap_eq_nil_iff]
  refine forall_congr' fun other => imp_congr_right fun _ => ?_
  cases other.2 with
  | none => simp
  | some table' =>
    simp only [List.append_eq_nil_iff, variableMismatches_eq_nil_iff, hookMismatches_eq_nil_iff,
      Option.some.injEq, forall_eq']

/-- Without issues of a module, the table of the first patch has the schema of every other one. -/
theorem sameSchema_first (noIssue : game.moduleIssues module = []) {first : String × Patch}
    {others : List (String × Patch)} (entries : game.patches.entries = first :: others)
    {key : String} {patch : Patch} (found : game.patches.get? key = some patch) :
    ∃ table table', first.2.tables.get? module = some table ∧
      patch.tables.get? module = some table' ∧ table.SameSchema table' := by
  obtain ⟨present, missing, same⟩ := moduleIssues_eq_nil_iff.1 noIssue
  simp only [missingIssues, List.append_eq_nil_iff] at missing
  obtain ⟨⟨constants, vars⟩, hooks⟩ := missing
  have foundFirst : game.patches.get? first.1 = some first.2 :=
    OrderedMap.get?_eq_some_iff.2 (by rw [entries]; exact List.mem_cons_self)
  obtain ⟨table, has⟩ := present first.1 first.2 foundFirst
  obtain ⟨table', has'⟩ := present key patch found
  have compared : (∀ name entry entry', table.vars.get? name = some entry →
        table'.vars.get? name = some entry' → entry.kind = entry'.kind) ∧
      (∀ name entry entry', table.hooks.get? name = some entry →
        table'.hooks.get? name = some entry' →
        entry.returns = entry'.returns ∧ entry.params = entry'.params) := by
    have inEntries := OrderedMap.get?_eq_some_iff.1 found
    rw [entries] at inEntries
    rcases List.mem_cons.1 inEntries with same | inOthers
    · -- The first patch is not compared with itself, but each of its names has one entry.
      subst same
      cases has.symm.trans has'
      exact ⟨(ModuleTable.SameSchema.refl table).kind, (ModuleTable.SameSchema.refl table).signature⟩
    · have tables : game.tablesOf module = (first.1, some table) ::
          others.map fun entry => (entry.1, entry.2.tables.get? module) := by
        simp [tablesOf, entries, has]
      rw [tables] at same
      exact mismatches_eq_nil_iff.1 same _ (List.mem_map.2 ⟨_, inOthers, rfl⟩) table' has'
  refine ⟨table, table', has, has', fun name => ⟨?_, ?_⟩, fun name => ⟨?_, ?_⟩,
    fun name => ⟨?_, ?_⟩, compared.1, compared.2⟩
  · exact keys_subset constants foundFirst found has has'
  · exact keys_subset constants found foundFirst has' has
  · exact keys_subset vars foundFirst found has has'
  · exact keys_subset vars found foundFirst has' has
  · exact keys_subset hooks foundFirst found has has'
  · exact keys_subset hooks found foundFirst has' has

theorem agreeOn_of_moduleIssues (noIssue : game.moduleIssues module = []) :
    game.AgreeOn module := by
  intro key key' patch patch' found found'
  cases entries : game.patches.entries with
  | nil =>
    have inEntries := OrderedMap.get?_eq_some_iff.1 found
    rw [entries] at inEntries
    exact absurd inEntries List.not_mem_nil
  | cons first others =>
    obtain ⟨base, table, hasBase, has, same⟩ := sameSchema_first noIssue entries found
    obtain ⟨base', table', hasBase', has', same'⟩ := sameSchema_first noIssue entries found'
    cases hasBase.symm.trans hasBase'
    exact ⟨table, table', has, has', same.symm.trans same'⟩

theorem missingNames_eq_nil_of_agreeOn {α : Type} {part : ModuleTable → OrderedMap α}
    {issue : String → List String → Issue} (agree : game.AgreeOn module)
    (keys : ∀ table table' : ModuleTable, table.SameSchema table' →
      ∀ name, name ∈ (part table).keys → name ∈ (part table').keys) :
    missingNames (game.tablesOf module) part issue = [] := by
  rw [missingNames_eq_nil_iff]
  rintro name ⟨entry, inTables, table, has, present⟩ entry' inTables'
  obtain ⟨key, patch, found, rfl⟩ := mem_tablesOf_iff.1 inTables
  obtain ⟨key', patch', found', rfl⟩ := mem_tablesOf_iff.1 inTables'
  obtain ⟨table₀, table', has₀, has', same⟩ := agree key key' patch patch' found found'
  cases has.symm.trans has₀
  exact ⟨table', has', keys table table' same name present⟩

theorem moduleIssues_of_agreeOn (agree : game.AgreeOn module) : game.moduleIssues module = [] := by
  rw [moduleIssues_eq_nil_iff]
  refine ⟨fun key patch found => ?_, ?_, ?_⟩
  · obtain ⟨table, -, has, -⟩ := agree key key patch patch found found
    exact ⟨table, has⟩
  · simp only [missingIssues, List.append_eq_nil_iff]
    exact ⟨⟨missingNames_eq_nil_of_agreeOn agree fun _ _ same name => (same.constants name).1,
      missingNames_eq_nil_of_agreeOn agree fun _ _ same name => (same.vars name).1⟩,
      missingNames_eq_nil_of_agreeOn agree fun _ _ same name => (same.hooks name).1⟩
  · cases entries : game.patches.entries with
    | nil => simp [tablesOf, entries, mismatches]
    | cons first others =>
      have foundFirst : game.patches.get? first.1 = some first.2 :=
        OrderedMap.get?_eq_some_iff.2 (by rw [entries]; exact List.mem_cons_self)
      obtain ⟨table, -, has, -⟩ := agree first.1 first.1 first.2 first.2 foundFirst foundFirst
      have tables : game.tablesOf module = (first.1, some table) ::
          others.map fun entry => (entry.1, entry.2.tables.get? module) := by
        simp [tablesOf, entries, has]
      rw [tables, mismatches_eq_nil_iff]
      intro other inOthers table' has'
      obtain ⟨entry, inEntries, rfl⟩ := List.mem_map.1 inOthers
      have found : game.patches.get? entry.1 = some entry.2 :=
        OrderedMap.get?_eq_some_iff.2 (by rw [entries]; exact List.mem_cons_of_mem _ inEntries)
      obtain ⟨table₀, table₁, has₀, has₁, same⟩ := agree _ _ _ _ foundFirst found
      cases has.symm.trans has₀
      cases has'.symm.trans has₁
      exact ⟨same.kind, same.signature⟩

/-! ## The game -/

theorem mem_allModules_iff : module ∈ game.allModules ↔
    ∃ key patch, game.patches.get? key = some patch ∧ module ∈ patch.tables.keys := by
  simp only [allModules, mem_sortedNames, OrderedMap.values, List.mem_flatMap, List.mem_map,
    OrderedMap.get?_eq_some_iff]
  constructor
  · rintro ⟨patch, ⟨entry, inEntries, rfl⟩, inKeys⟩
    exact ⟨entry.1, entry.2, inEntries, inKeys⟩
  · rintro ⟨key, patch, inEntries, inKeys⟩
    exact ⟨patch, ⟨(key, patch), inEntries, rfl⟩, inKeys⟩

theorem patchIssues_eq_nil_iff {key : String} {patch : Patch} :
    game.patchIssues key patch = [] ↔ game.executable ∈ patch.tables.keys ∧
      ∀ module table, patch.tables.get? module = some table → table.Usable := by
  simp only [patchIssues, List.append_eq_nil_iff, List.flatMap_eq_nil_iff, tableIssues_eq_nil_iff]
  refine and_congr ?_ ⟨fun h module table has => ?_, fun h entry inEntries => ?_⟩
  · rw [← OrderedMap.contains_iff_mem_keys]
    split <;> simp_all
  · exact h (module, table) (OrderedMap.get?_eq_some_iff.1 has)
  · exact h entry.1 entry.2 (OrderedMap.get?_eq_some_iff.2 inEntries)

/-- A map with at most one entry has one value. -/
theorem eq_of_size_le_one {α : Type} {m : OrderedMap α} (small : ¬ 1 < m.size) {key key' : String}
    {a a' : α} (found : m.get? key = some a) (found' : m.get? key' = some a') : a = a' := by
  have inEntries := OrderedMap.get?_eq_some_iff.1 found
  have inEntries' := OrderedMap.get?_eq_some_iff.1 found'
  unfold OrderedMap.size at small
  rcases entries : m.entries with _ | ⟨only, _ | ⟨second, rest⟩⟩
  · rw [entries] at inEntries
    exact absurd inEntries List.not_mem_nil
  · rw [entries, List.mem_singleton] at inEntries inEntries'
    exact (Prod.mk.inj (inEntries.trans inEntries'.symm)).2
  · rw [entries] at small
    simp at small

theorem sameSchema_of_agreeOn {patch patch' : Patch} {key key' : String}
    (found : game.patches.get? key = some patch) (found' : game.patches.get? key' = some patch')
    (agree : ∀ module, module ∈ patch.tables.keys ∨ module ∈ patch'.tables.keys →
      game.AgreeOn module) : patch.SameSchema patch' := by
  refine ⟨fun module => ⟨fun inKeys => ?_, fun inKeys => ?_⟩, fun module table table' has has' => ?_⟩
  · obtain ⟨-, table', -, has', -⟩ := agree module (.inl inKeys) _ _ _ _ found found'
    exact OrderedMap.mem_keys_of_get? has'
  · obtain ⟨table, -, has, -⟩ := agree module (.inr inKeys) _ _ _ _ found found'
    exact OrderedMap.mem_keys_of_get? has
  · have inKeys := OrderedMap.mem_keys_of_get? has
    obtain ⟨table₀, table₁, has₀, has₁, same⟩ := agree module (.inl inKeys) _ _ _ _ found found'
    cases has.symm.trans has₀
    cases has'.symm.trans has₁
    exact same

theorem consistent_of_issues (noIssue : game.issues = []) : game.Consistent := by
  simp only [issues, List.append_eq_nil_iff, List.flatMap_eq_nil_iff, constantIssues_eq_nil_iff] at noIssue
  obtain ⟨⟨constants, patches⟩, parity⟩ := noIssue
  have patchUsable : ∀ key patch, game.patches.get? key = some patch →
      game.executable ∈ patch.tables.keys ∧
        ∀ module table, patch.tables.get? module = some table → table.Usable := fun key patch found =>
    patchIssues_eq_nil_iff.1 (patches (key, patch) (OrderedMap.get?_eq_some_iff.1 found))
  refine ⟨constants, fun key patch found => (patchUsable key patch found).1,
    fun key patch module table found has => (patchUsable key patch found).2 module table has,
    fun key key' patch patch' found found' => ?_⟩
  by_cases several : 1 < game.patches.size
  · rw [if_pos several, List.flatMap_eq_nil_iff] at parity
    refine sameSchema_of_agreeOn found found' fun module inKeys => agreeOn_of_moduleIssues ?_
    refine parity module (mem_allModules_iff.2 ?_)
    rcases inKeys with inKeys | inKeys
    · exact ⟨key, patch, found, inKeys⟩
    · exact ⟨key', patch', found', inKeys⟩
  · cases eq_of_size_le_one several found found'
    refine ⟨fun _ => Iff.rfl, fun module table table' has has' => ?_⟩
    cases has.symm.trans has'
    exact .refl table

theorem issues_of_consistent (consistent : game.Consistent) : game.issues = [] := by
  simp only [issues, List.append_eq_nil_iff, List.flatMap_eq_nil_iff, constantIssues_eq_nil_iff]
  refine ⟨⟨consistent.constants, fun entry inEntries => patchIssues_eq_nil_iff.2 ?_⟩, ?_⟩
  · have found := OrderedMap.get?_eq_some_iff.2 inEntries
    exact ⟨consistent.executable _ _ found, fun module table has => consistent.tables _ _ _ _ found has⟩
  · split
    · rw [List.flatMap_eq_nil_iff]
      intro module inModules
      obtain ⟨key₀, patch₀, found₀, inKeys⟩ := mem_allModules_iff.1 inModules
      refine moduleIssues_of_agreeOn fun key key' patch patch' found found' => ?_
      obtain ⟨table, has⟩ := OrderedMap.mem_keys_iff.1
        (((consistent.schema _ _ _ _ found₀ found).modules module).1 inKeys)
      obtain ⟨table', has'⟩ := OrderedMap.mem_keys_iff.1
        (((consistent.schema _ _ _ _ found₀ found').modules module).1 inKeys)
      exact ⟨table, table', has, has',
        (consistent.schema _ _ _ _ found found').tables module table table' has has'⟩
    · rfl

/-- A game has no issue exactly when all its entries can be used, every patch has a table of the
executable, and every two patches have the same modules with the same names, types and signatures. -/
theorem issues_eq_nil_iff_consistent (game : Game) : game.issues = [] ↔ game.Consistent :=
  ⟨consistent_of_issues, issues_of_consistent⟩

end Game

end ModScript
