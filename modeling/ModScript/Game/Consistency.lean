import ModScript.Game.Basic
import ModScript.Script.Names
import ModScript.Text.Quoted
import ModScript.Text.Sorted

/-!
# Consistency of a game

Every patch of a game is expected to have the same modules, with the same names of the same types. An
issue says where a game departs from this, or where an entry could not be used. Missing names are looked
for in all patches; types and signatures are compared with those of the first patch.
-/

namespace ModScript

/-- Where the patches of a game differ, or an entry cannot be used. -/
inductive Issue
  | missingExecutableTable (patch : String)
  | moduleMissing (module : String) (patches : List String)
  | constantMissing (module name : String) (patches : List String)
  | variableMissing (module name : String) (patches : List String)
  | hookMissing (module name : String) (patches : List String)
  | variableTypeMismatch (module name : String) (first other : String × VariableType)
  | hookReturnMismatch (module name : String) (first other : String × NativeType)
  | hookParamsMismatch (module name : String) (first other : String × List NativeType)
  | blockWithoutSize (patch module name : String)
  | voidParameter (patch module name : String)
  | nonNumericConstant (scope name : String)
  | invalidConstantName (scope name : String)
deriving DecidableEq, Repr

namespace Issue

/-- The names of types between brackets. -/
def paramsText (params : List NativeType) : String :=
  "[" ++ ", ".intercalate (params.map NativeType.name) ++ "]"

/-- What is missing from which patches. -/
def missingText (what : String) (patches : List String) : String :=
  what ++ " missing from patches: " ++ ", ".intercalate patches

def text : Issue → String
  | missingExecutableTable patch => "patch " ++ patch ++ " has no table for the executable"
  | moduleMissing module patches => missingText module patches
  | constantMissing module name patches =>
    missingText (module ++ ": constant \"" ++ name ++ "\"") patches
  | variableMissing module name patches =>
    missingText (module ++ ": variable \"" ++ name ++ "\"") patches
  | hookMissing module name patches => missingText (module ++ ": hook \"" ++ name ++ "\"") patches
  | variableTypeMismatch module name first other =>
    module ++ ": " ++ name ++ " type mismatch: " ++ first.1 ++ " has " ++ first.2.name ++ ", " ++
      other.1 ++ " has " ++ other.2.name
  | hookReturnMismatch module name first other =>
    module ++ ": " ++ name ++ " return type mismatch: " ++ first.1 ++ " has " ++ first.2.name ++
      ", " ++ other.1 ++ " has " ++ other.2.name
  | hookParamsMismatch module name first other =>
    module ++ ": " ++ name ++ " params mismatch: " ++ first.1 ++ " " ++ paramsText first.2 ++
      " vs " ++ other.1 ++ " " ++ paramsText other.2
  | blockWithoutSize patch module name =>
    patch ++ "/" ++ module ++ ": Block variable " ++ name ++ " has no Size"
  | voidParameter patch module name =>
    patch ++ "/" ++ module ++ ": hook " ++ name ++ " uses void as a parameter"
  | nonNumericConstant scope name => scope ++ ": constant " ++ name ++ " is not a number"
  | invalidConstantName scope name =>
    scope ++ ": constant name " ++ Text.quoted name ++ " is not a usable script identifier"

end Issue

/-! ## Entries on their own -/

/-- Issues of constants: those that are not numbers, then those that cannot be named so. -/
def constantIssues (scope : String) (constants : OrderedMap Json) : List Issue :=
  ((constants.entries.filter fun entry => !entry.2.isNumber).map fun entry =>
      .nonNumericConstant scope entry.1) ++
    (constants.keys.filter fun name => !isFreeName name).map (.invalidConstantName scope)

/-- Issues of the entries of one table. -/
def ModuleTable.issues (patch module : String) (table : ModuleTable) : List Issue :=
  constantIssues (patch ++ "/" ++ module) table.constants ++
    ((table.vars.entries.filter fun entry =>
        entry.2.kind.requiresSize && entry.2.size.isNone).map fun entry =>
      .blockWithoutSize patch module entry.1) ++
    (table.hooks.entries.filter fun entry => entry.2.params.any NativeType.isVoid).map fun entry =>
      .voidParameter patch module entry.1

namespace Game

/-- Issues of one patch: no table of the executable, then its tables in order. -/
def patchIssues (game : Game) (key : String) (patch : Patch) : List Issue :=
  (if patch.tables.contains game.executable then [] else [.missingExecutableTable key]) ++
    patch.tables.entries.flatMap fun entry => entry.2.issues key entry.1

/-! ## Patches against each other -/

/-- The tables of a module, per patch. -/
def tablesOf (game : Game) (module : String) : List (String × Option ModuleTable) :=
  game.patches.entries.map fun entry => (entry.1, entry.2.tables.get? module)

/-- The patches whose table does not have something; a patch without a table lacks everything. -/
def lacking (tables : List (String × Option ModuleTable)) (has : ModuleTable → Bool) :
    List String :=
  (tables.filter fun entry => !entry.2.any has).map Prod.fst

/-- An issue for every name that some table has and some patch lacks. -/
def missingNames {α : Type} (tables : List (String × Option ModuleTable))
    (part : ModuleTable → OrderedMap α) (issue : String → List String → Issue) : List Issue :=
  let names := tables.flatMap fun entry => (entry.2.map fun table => (part table).keys).getD []
  (sortedNames names).filterMap fun name =>
    match lacking tables fun table => (part table).contains name with
    | [] => none
    | patches => some (issue name patches)

/-- Missing constants, variables and hooks of a module. -/
def missingIssues (game : Game) (module : String) : List Issue :=
  let tables := game.tablesOf module
  missingNames tables ModuleTable.constants (.constantMissing module) ++
    missingNames tables ModuleTable.vars (.variableMissing module) ++
    missingNames tables ModuleTable.hooks (.hookMissing module)

/-- Variables that two tables give different types. -/
def variableMismatches (module : String) (first other : String × ModuleTable) : List Issue :=
  first.2.vars.entries.filterMap fun entry =>
    match other.2.vars.get? entry.1 with
    | some found =>
      if entry.2.kind = found.kind then none
      else some (.variableTypeMismatch module entry.1 (first.1, entry.2.kind) (other.1, found.kind))
    | none => none

/-- Hooks that two tables give different signatures. -/
def hookMismatches (module : String) (first other : String × ModuleTable) : List Issue :=
  first.2.hooks.entries.flatMap fun entry =>
    match other.2.hooks.get? entry.1 with
    | some found =>
      (if entry.2.returns = found.returns then []
        else [.hookReturnMismatch module entry.1 (first.1, entry.2.returns)
          (other.1, found.returns)]) ++
      (if entry.2.params = found.params then []
        else [.hookParamsMismatch module entry.1 (first.1, entry.2.params)
          (other.1, found.params)])
    | none => []

/-- Types and signatures of the later tables against those of the first patch. -/
def mismatches (module : String) : List (String × Option ModuleTable) → List Issue
  | (key, some table) :: others =>
    others.flatMap fun other =>
      match other.2 with
      | some found =>
        variableMismatches module (key, table) (other.1, found) ++
          hookMismatches module (key, table) (other.1, found)
      | none => []
  | _ => []

/-- Every issue of one module. -/
def moduleIssues (game : Game) (module : String) : List Issue :=
  let tables := game.tablesOf module
  (match lacking tables fun _ => true with
    | [] => []
    | patches => [.moduleMissing module patches]) ++
    game.missingIssues module ++ mismatches module tables

/-- The modules of all patches in ascending order. -/
def allModules (game : Game) : List String :=
  sortedNames (game.patches.values.flatMap fun patch => patch.tables.keys)

/-- Every issue of a game. -/
def issues (game : Game) : List Issue :=
  constantIssues game.id game.constants ++
    (game.patches.entries.flatMap fun entry => game.patchIssues entry.1 entry.2) ++
    (if 1 < game.patches.size then game.allModules.flatMap game.moduleIssues else [])

end Game

end ModScript
