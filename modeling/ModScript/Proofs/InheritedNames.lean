import Mathlib.Logic.Relation
import ModScript.Proofs.Divergence
import ModScript.Proofs.Json.Games

/-!
# Inherited names

A table that starts from the table of another patch keeps all names that it gets from there, in their order, and
its own new names come behind them. So wherever names are compared among patches, a patch lacks none that a patch
further up has: the full tables are compared, not the written ones.

Results:
1. `OrderedMap.Layers.keys_prefix`: the names of lower maps stand first.
2. `TableDrafts.Chain.rest_of_ancestor`: a patch that is further up has the rest of the chain.
3. `Game.not_mem_of_told`: a patch whose table has a name is not told to lack it.
4. `Game.keeps_inherited_names`: the tables and the issues of a loaded game.
-/

namespace ModScript

/-- In all parts of a table, the names of another table stand first. -/
structure ModuleTable.StartsWith (table inherited : ModuleTable) : Prop where
  constants : inherited.constants.keys <+: table.constants.keys
  vars : inherited.vars.keys <+: table.vars.keys
  hooks : inherited.hooks.keys <+: table.hooks.keys

/-- The full table of a module in the patch under the key. -/
def Game.table? (game : Game) (key module : String) : Option ModuleTable :=
  (game.patches.get? key).bind fun patch => patch.tables.get? module

/-- The table of `module` in `patch` is written to start from that of `parent`. -/
def TableDrafts.Inherits (drafts : TableDrafts) (module patch parent : String) : Prop :=
  ∃ draft, drafts.draft? patch module = some draft ∧ draft.parent = some parent

/-! ## Names of maps on top of each other -/

/-- The names of lower maps stand first. -/
theorem OrderedMap.Layers.keys_prefix {α : Type} {top below : List (OrderedMap α)} {m m' : OrderedMap α}
    (layers : Layers (top ++ below) m) (layers' : Layers below m') : m'.keys <+: m.keys := by
  rw [layers.keys_eq, layers'.keys_eq, List.reverse_append, List.flatMap_append, List.eraseDups_append]
  exact List.prefix_append _ _

namespace TableDrafts

variable {drafts : TableDrafts} {module patch ancestor : String} {chain front : List String}
  {table inherited : ModuleTable}

/-- The table of a chain starts with that of the rest of the chain. -/
theorem Flattened.startsWith (flat : Flattened drafts module (front ++ chain) table)
    (flat' : Flattened drafts module chain inherited) : table.StartsWith inherited := by
  obtain ⟨constants, vars, hooks⟩ := flat
  rw [List.map_append] at constants vars hooks
  exact ⟨constants.keys_prefix flat'.constants, vars.keys_prefix flat'.vars, hooks.keys_prefix flat'.hooks⟩

theorem Inherits.isSome_draft? (inherits : drafts.Inherits module patch ancestor) :
    (drafts.draft? patch module).isSome = true := by
  obtain ⟨draft, written, -⟩ := inherits
  rw [written]
  rfl

theorem Chain.rest_of_inherits (ends : Chain drafts module patch chain)
    (inherits : drafts.Inherits module patch ancestor) :
    ∃ rest, chain = [patch] ++ rest ∧ Chain drafts module ancestor rest := by
  obtain ⟨draft, written, parent⟩ := inherits
  cases ends with
  | root written' last =>
    cases written.symm.trans written'
    cases parent.symm.trans last
  | step written' parent' rest =>
    cases written.symm.trans written'
    cases parent.symm.trans parent'
    exact ⟨_, rfl, rest⟩

/-- A patch that is further up has the rest of the chain. -/
theorem Chain.rest_of_ancestor (ends : Chain drafts module patch chain)
    (above : Relation.TransGen (drafts.Inherits module) patch ancestor) :
    ∃ front rest, chain = front ++ rest ∧ Chain drafts module ancestor rest := by
  induction above with
  | single inherits =>
    obtain ⟨rest, split, onward⟩ := ends.rest_of_inherits inherits
    exact ⟨[patch], rest, split, onward⟩
  | @tail middle _ _ inherits ih =>
    obtain ⟨front, _, rfl, onward⟩ := ih
    obtain ⟨rest, rfl, further⟩ := onward.rest_of_inherits inherits
    exact ⟨front ++ [middle], rest, (List.append_assoc _ _ _).symm, further⟩

end TableDrafts

namespace Game

section

variable {game : Game} {module name key : String} {patches : List String} {issue : Issue}

/-! ## Names that are told to be missing -/

theorem table?_eq_some_iff {table : ModuleTable} : game.table? key module = some table ↔
    ∃ patch, game.patches.get? key = some patch ∧ patch.tables.get? module = some table :=
  Option.bind_eq_some_iff

theorem diverges_of_told (told : issue ∈ game.issues) {subject : Subject}
    (about : issue.subject? = some subject) : game.Diverges issue := by
  obtain ⟨-, module, known, told⟩ := (mem_issues_of_subject_iff about).1 told
  exact diverges_of_mem known told

/-- A patch whose table has a name is not among those that lack it. -/
theorem Splits.not_mem {α : Type} {part : ModuleTable → OrderedMap α} {table : ModuleTable}
    (splits : game.Splits (Patch.Defines part module name) patches)
    (has : game.table? key module = some table) (present : name ∈ (part table).keys) : key ∉ patches := by
  obtain ⟨patch, found, has⟩ := table?_eq_some_iff.1 has
  exact fun listed => (splits.lacking key patch found).1 listed ⟨table, has, present⟩

/-- No issue tells a patch to lack a name that its table has. -/
theorem not_mem_of_told {table : ModuleTable} (has : game.table? key module = some table) (name : String)
    (patches : List String) :
    (name ∈ table.constants.keys → .constantMissing module name patches ∈ game.issues → key ∉ patches) ∧
    (name ∈ table.vars.keys → .variableMissing module name patches ∈ game.issues → key ∉ patches) ∧
    (name ∈ table.hooks.keys → .hookMissing module name patches ∈ game.issues → key ∉ patches) := by
  refine ⟨fun present told => ?_, fun present told => ?_, fun present told => ?_⟩
  · cases diverges_of_told told rfl with
    | constant _ _ _ splits => exact splits.not_mem has present
  · cases diverges_of_told told rfl with
    | var _ _ _ splits => exact splits.not_mem has present
  · cases diverges_of_told told rfl with
    | hook _ _ _ splits => exact splits.not_mem has present

end

/-! ## Loaded games -/

section

variable {σ : Type} {files : Files (StateM σ)} {path : String} {s s' : σ} {draft : GameDraft}
  {drafts : TableDrafts} {patches : OrderedMap Patch} {module key ancestor : String}

open TableDrafts GameDraft

/-- Every written table has become the full table of its chain. -/
theorem exists_flattened (read : (sources files path).run.run s = (.ok (draft, drafts), s'))
    (related : OrderedMap.Related (FlatPatch drafts) draft.patches patches)
    (written : (drafts.draft? key module).isSome = true) :
    ∃ table chain, (draft.withPatches patches).table? key module = some table ∧
      Chain drafts module key chain ∧ Flattened drafts module chain table := by
  obtain ⟨patchDraft, inDraft, inKeys⟩ :=
    mem_declared_iff.1 ((mem_declared_iff_draft? read key module).2 written)
  obtain ⟨patch, found, flat⟩ := related.get?_right inDraft
  obtain ⟨source, inPatch⟩ := OrderedMap.mem_keys_iff.1 inKeys
  obtain ⟨table, has, chain, ends, flattened⟩ := flat.tables.get?_right inPatch
  exact ⟨table, chain, table?_eq_some_iff.2 ⟨patch, found, has⟩, ends, flattened⟩

theorem startsWith_of_ancestor (read : (sources files path).run.run s = (.ok (draft, drafts), s'))
    (related : OrderedMap.Related (FlatPatch drafts) draft.patches patches)
    (above : Relation.TransGen (drafts.Inherits module) key ancestor) :
    ∃ table inherited, (draft.withPatches patches).table? key module = some table ∧
      (draft.withPatches patches).table? ancestor module = some inherited ∧ table.StartsWith inherited := by
  obtain ⟨next, inherits, -⟩ := Relation.TransGen.head'_iff.1 above
  obtain ⟨table, chain, has, ends, flat⟩ := exists_flattened read related inherits.isSome_draft?
  obtain ⟨front, rest, rfl, onward⟩ := ends.rest_of_ancestor above
  obtain ⟨inherited, chain, has', ends', flat'⟩ :=
    exists_flattened read related (Option.isSome_iff_ne_none.2 onward.draft?_ne_none)
  obtain rfl := onward.unique ends'
  exact ⟨table, inherited, has, has', flat.startsWith flat'⟩

/-- In a loaded game, the table of a patch that inherits starts with all names of the tables further up, of its
parent and of the patches from which that inherits in turn. So no issue tells the patch to lack one of them. -/
theorem keeps_inherited_names {game : Game} (loaded : (load files path).run.run s = (.ok game, s')) :
    ∃ draft drafts, (sources files path).run.run s = (.ok (draft, drafts), s') ∧
      ∀ module patch ancestor, Relation.TransGen (drafts.Inherits module) patch ancestor →
        ∃ table inherited, game.table? patch module = some table ∧
          game.table? ancestor module = some inherited ∧ table.StartsWith inherited ∧
          ∀ name patches,
            (name ∈ inherited.constants.keys →
              .constantMissing module name patches ∈ game.issues → patch ∉ patches) ∧
            (name ∈ inherited.vars.keys →
              .variableMissing module name patches ∈ game.issues → patch ∉ patches) ∧
            (name ∈ inherited.hooks.keys →
              .hookMissing module name patches ∈ game.issues → patch ∉ patches) := by
  obtain ⟨draft, drafts, patches, read, related, -, rfl⟩ := exists_sources_of_load loaded
  refine ⟨draft, drafts, read, fun module patch ancestor above => ?_⟩
  obtain ⟨table, inherited, has, has', starts⟩ := startsWith_of_ancestor read related above
  refine ⟨table, inherited, has, has', starts, fun name lacking => ?_⟩
  obtain ⟨constants, vars, hooks⟩ := not_mem_of_told has name lacking
  exact ⟨fun present => constants (starts.constants.subset present),
    fun present => vars (starts.vars.subset present), fun present => hooks (starts.hooks.subset present)⟩

end

/-- A game, written with lists for records, whose patch `c` takes the table of the executable from `b`, which takes
it from `a`; each gives constants of its own, and `b` another value to one of `a`. -/
def hotfixText : String :=
  "[\"g\",\"G\",\"e\",\x7b\x7d,\x7b\x7d,\x7b" ++
    "\"c\":[\"C\",\"3\",\x7b\"e\":[\"b\",\x7b\"z\":3\x7d]\x7d]," ++
    "\"a\":[\"A\",\"1\",\x7b\"e\":[null,\x7b\"x\":1,\"w\":2\x7d]\x7d]," ++
    "\"b\":[\"B\",\"2\",\x7b\"e\":[\"a\",\x7b\"y\":3,\"x\":4\x7d]\x7d]\x7d,\"a\"]"

/-- The names of the constants of a module in a patch. -/
def constantNames (game : Game) (module key : String) : Option (List String) :=
  (game.table? key module).map fun table => table.constants.keys

theorem keeps_inherited_names_hotfix : ∃ game draft drafts table inherited,
    (load (GameDraft.oneText hotfixText) "g.json").run.run () = (.ok game, ()) ∧
    (sources (GameDraft.oneText hotfixText) "g.json").run.run () = (.ok (draft, drafts), ()) ∧
    Relation.TransGen (drafts.Inherits "e") "c" "a" ∧
    game.table? "c" "e" = some table ∧ game.table? "a" "e" = some inherited ∧
    inherited.constants.keys = ["x", "w"] ∧ table.constants.keys = ["x", "w", "y", "z"] ∧
    table.StartsWith inherited := by
  have names : ((load (GameDraft.oneText hotfixText) "g.json").run.run ()).1.toOption.map
      (fun game => (game.constantNames "e" "c", game.constantNames "e" "a")) =
        some (some ["x", "w", "y", "z"], some ["x", "w"]) := by
    decide +kernel
  have parents : ((sources (GameDraft.oneText hotfixText) "g.json").run.run ()).1.toOption.map
      (fun read => ((read.2.draft? "c" "e").map TableDraft.parent, (read.2.draft? "b" "e").map TableDraft.parent)) =
        some (some (some "b"), some (some "a")) := by
    decide +kernel
  rcases loaded : (load (GameDraft.oneText hotfixText) "g.json").run.run () with ⟨e | game, _⟩
  · rw [loaded] at names
    cases names
  · obtain ⟨draft, drafts, read, keeps⟩ := keeps_inherited_names loaded
    rw [loaded] at names
    rw [read] at parents
    obtain ⟨namesC, namesA⟩ := Prod.mk.inj (Option.some.inj names)
    obtain ⟨parentC, parentB⟩ := Prod.mk.inj (Option.some.inj parents)
    obtain ⟨draftC, writtenC, parentC⟩ := Option.map_eq_some_iff.1 parentC
    obtain ⟨draftB, writtenB, parentB⟩ := Option.map_eq_some_iff.1 parentB
    have above : Relation.TransGen (drafts.Inherits "e") "c" "a" :=
      .tail (.single ⟨draftC, writtenC, parentC⟩) ⟨draftB, writtenB, parentB⟩
    obtain ⟨table, inherited, has, has', starts, -⟩ := keeps "e" "c" "a" above
    simp only [constantNames, has, has', Option.map_some, Option.some.injEq] at namesC namesA
    exact ⟨game, draft, drafts, table, inherited, rfl, read, above, has, has', namesA, namesC, starts⟩

end Game

end ModScript
