import ModScript.Error
import ModScript.Table.Entry

/-!
# Games

A game has an executable, modules in the order of their version numbers, constants, and patches: one
table per module for every known build of the game. A patch is recognised by the fingerprint of the
executable.
-/

namespace ModScript

/-- How a module of a game is shown to people. -/
structure ModuleInfo where
  id : String
  name : String
deriving DecidableEq, Repr

/-- One build of a game: the tables of its modules. -/
structure Patch where
  name : String
  fingerprint : String
  tables : OrderedMap ModuleTable

/-- Everything that is known about a game. -/
structure Game where
  id : String
  name : String
  executable : String
  modules : OrderedMap ModuleInfo
  constants : OrderedMap Json
  patches : OrderedMap Patch
  defaultPatch : String

namespace ModuleInfo

def toJson (info : ModuleInfo) : Json :=
  .object [("id", .string info.id), ("name", .string info.name)]

def ofTree? (t : Tree) : Option ModuleInfo :=
  match t.record? [.required "id", .required "name"] with
  | some [some id, some name] => do
    let id ← id.text?
    let name ← name.text?
    return { id, name }
  | _ => none

end ModuleInfo

namespace Patch

def toJson (patch : Patch) : Json :=
  .object [("name", .string patch.name), ("patch", .string patch.fingerprint),
    ("memory", Json.ofMap (patch.tables.mapValues ModuleTable.toJson))]

def ofTree? (t : Tree) : Option Patch :=
  match t.record? [.required "name", .required "patch", .required "memory"] with
  | some [some name, some fingerprint, some tables] => do
    let name ← name.text?
    let fingerprint ← fingerprint.text?
    let tables ← Tree.mapOf? ModuleTable.ofTree? tables
    return { name, fingerprint, tables }
  | _ => none

/-- Where the patch defines a native function, if the module has it. -/
def hook? (patch : Patch) (module name : String) : Option FunctionEntry :=
  (patch.tables.get? module).bind fun table => table.hooks.get? name

end Patch

namespace Game

/-- What every consumer of a game relies on: it has a name and an executable, and its default patch
exists. -/
def check (game : Game) : Except GameFault Unit :=
  if game.id.isEmpty || game.executable.isEmpty then .error .unnamed
  else if game.patches.isEmpty then .error (.noPatches game.id)
  else if !game.patches.contains game.defaultPatch then
    .error (.defaultMissing game.defaultPatch game.id)
  else .ok ()

/-- The game, if it passes its check. -/
def checked (game : Game) : Except Error Game :=
  match game.check with
  | .ok _ => .ok game
  | .error fault => .error (.invalidGame fault)

/-- The patch of that key. -/
def patch (game : Game) (key : String) : Except Error Patch :=
  match game.patches.get? key with
  | some patch => .ok patch
  | none => .error (.unknownPatch game.id key)

/-- The first patch with that fingerprint, under its key. -/
def findByFingerprint? (game : Game) (fingerprint : String) : Option (String × Patch) :=
  game.patches.entries.find? fun entry => entry.2.fingerprint == fingerprint

/-- The module that a version number stands for. -/
def moduleAt? (game : Game) (version : Nat) : Option String := game.modules.keys[version]?

def toJson (game : Game) : Json :=
  .object [("id", .string game.id), ("name", .string game.name),
    ("executable", .string game.executable),
    ("modules", Json.ofMap (game.modules.mapValues ModuleInfo.toJson)),
    ("constants", Json.ofMap game.constants),
    ("patches", Json.ofMap (game.patches.mapValues Patch.toJson)),
    ("defaultPatch", .string game.defaultPatch)]

/-- The game that a tree with all its tables describes. -/
def ofTree? (t : Tree) : Option Game :=
  match t.record? [.required "id", .required "name", .required "executable", .required "modules",
      .defaulted "constants", .required "patches", .required "defaultPatch"] with
  | some [some id, some name, some executable, some modules, constants, some patches,
      some defaultPatch] => do
    let id ← id.text?
    let name ← name.text?
    let executable ← executable.text?
    let modules ← Tree.mapOf? ModuleInfo.ofTree? modules
    let constants ← Tree.fieldOr? .empty (Tree.mapOf? Tree.toJson?) constants
    let patches ← Tree.mapOf? Patch.ofTree? patches
    let defaultPatch ← defaultPatch.text?
    return { id, name, executable, modules, constants, patches, defaultPatch }
  | _ => none

end Game

end ModScript
