import ModScript.Files.Basic
import ModScript.Game.Inheritance

/-!
# Game files

A game file names its tables per patch and module: each is given in place or by the path of a file of its
own, and may inherit. `Game.load` reads them all, then resolves inheritance, then checks the game.
-/

namespace ModScript

/-- Where a written table is. -/
inductive TableSource
  | file (path : String)
  | inline (draft : TableDraft)

/-- A patch as it is written. -/
structure PatchDraft where
  name : String
  fingerprint : String
  tables : OrderedMap TableSource

/-- A game as it is written. -/
structure GameDraft where
  id : String
  name : String
  executable : String
  modules : OrderedMap ModuleInfo
  constants : OrderedMap Json
  patches : OrderedMap PatchDraft
  defaultPatch : String

def TableDraft.ofTree? (t : Tree) : Option TableDraft :=
  match t.record? [.defaulted "inherits", .defaulted "constants", .defaulted "variables",
      .defaulted "hooks"] with
  | some [parent, constants, vars, hooks] => do
    let parent ← Tree.fieldOr? none (Tree.nullable? Tree.text?) parent
    let constants ← Tree.fieldOr? .empty (Tree.mapOf? Tree.toJson?) constants
    let vars ← Tree.fieldOr? .empty (Tree.mapOf? VariableEntry.ofTree?) vars
    let hooks ← Tree.fieldOr? .empty (Tree.mapOf? FunctionEntry.ofTree?) hooks
    return { parent, own := { constants, vars, hooks } }
  | _ => none

/-- A path, or a table in place of which every part is sound. -/
def TableSource.ofTree? : Tree → Option TableSource
  | .text path => some (.file path)
  | t => if t.isSound then (TableDraft.ofTree? t).map .inline else none

def PatchDraft.ofTree? (t : Tree) : Option PatchDraft :=
  match t.record? [.required "name", .required "patch", .defaulted "memory"] with
  | some [some name, some fingerprint, tables] => do
    let name ← name.text?
    let fingerprint ← fingerprint.text?
    let tables ← Tree.fieldOr? .empty (Tree.mapOf? TableSource.ofTree?) tables
    return { name, fingerprint, tables }
  | _ => none

namespace GameDraft

def ofTree? (t : Tree) : Option GameDraft :=
  match t.record? [.required "id", .required "name", .required "executable", .required "modules",
      .defaulted "constants", .required "patches", .required "defaultPatch"] with
  | some [some id, some name, some executable, some modules, constants, some patches,
      some defaultPatch] => do
    let id ← id.text?
    let name ← name.text?
    let executable ← executable.text?
    let modules ← Tree.mapOf? ModuleInfo.ofTree? modules
    let constants ← Tree.fieldOr? .empty (Tree.mapOf? Tree.toJson?) constants
    let patches ← Tree.mapOf? PatchDraft.ofTree? patches
    let defaultPatch ← defaultPatch.text?
    return { id, name, executable, modules, constants, patches, defaultPatch }
  | _ => none

/-- The patch of that key with full tables. -/
def flatPatch (drafts : TableDrafts) (key : String) (patch : PatchDraft) :
    StateT KnownTables (Except Error) Patch := do
  let tables ← patch.tables.mapValuesM fun module _ => drafts.flatten key module
  return { name := patch.name, fingerprint := patch.fingerprint, tables }

/-- All patches with full tables, in order; what is known of one patch is used for the next. -/
def flatPatches (draft : GameDraft) (drafts : TableDrafts) : Except Error (OrderedMap Patch) :=
  (draft.patches.mapValuesM (flatPatch drafts)).run' []

/-- The game with the given patches. -/
def withPatches (draft : GameDraft) (patches : OrderedMap Patch) : Game :=
  { id := draft.id, name := draft.name, executable := draft.executable, modules := draft.modules,
    constants := draft.constants, patches, defaultPatch := draft.defaultPatch }

/-- The game with full tables, given all tables as they are written. -/
def assemble (draft : GameDraft) (drafts : TableDrafts) : Except Error Game := do
  (draft.withPatches (← draft.flatPatches drafts)).checked

end GameDraft

/-- What a text in the format of data files says about one thing. -/
def readDocument {α : Type} (read : Tree → Option α) (text : String) : Except Error α :=
  match (Json.read? text).bind read with
  | some value => .ok value
  | none => .error .malformedJson

section

variable {m : Type → Type} [Monad m]

/-- The written table of a source; paths start from `directory`. -/
def TableSource.load (files : Files m) (directory : String) :
    TableSource → ExceptT Error m TableDraft
  | .inline draft => return draft
  | .file path => do
    let text ← files.text (Path.join directory path)
    MonadExcept.ofExcept (readDocument TableDraft.ofTree? text)

/-- What a game file and the files of its tables say. -/
def Game.sources (files : Files m) (path : String) : ExceptT Error m (GameDraft × TableDrafts) := do
  let text ← files.text path
  let draft ← MonadExcept.ofExcept (readDocument GameDraft.ofTree? text)
  let directory := (Path.parent? path).getD "."
  let drafts ← draft.patches.mapValuesM fun _ patch =>
    patch.tables.mapValuesM fun _ source => source.load files directory
  return (draft, drafts)

/-- The game of a file. -/
def Game.load (files : Files m) (path : String) : ExceptT Error m Game := do
  let (draft, drafts) ← Game.sources files path
  MonadExcept.ofExcept (draft.assemble drafts)

end

end ModScript
