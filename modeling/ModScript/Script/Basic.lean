import ModScript.Notice
import ModScript.Script.HookTarget

/-!
# Scripts

What a script is made of, before it is text: the data that it carries, what it installs, and what it
answers to. `Script.ofMod` puts the script of a mod together for one patch of its game, and
`Script.notices` tells what had to be left out.
-/

namespace ModScript

/-- A native function that callbacks can call by name. -/
structure Registration where
  module : String
  name : String
  entry : FunctionEntry
deriving DecidableEq, Repr

/-- What a script does about a hook: it reports that the hook has no target or one outside its modules,
or it installs the hook's action at a target. -/
inductive HookStep
  | notFound (hook : String)
  | foreign (hook module : String)
  | install (hook : String) (target : HookTarget) (action : HookAction)

/-- What a script does about a nop. -/
inductive NopStep
  | foreign (nop : Nop)
  | delete (nop : Nop)
deriving DecidableEq, Repr

/-- A variable with a place of its own. -/
structure PlacedVariable where
  module : String
  name : String
  entry : VariableEntry
deriving DecidableEq, Repr

/-- The parts of a script. -/
structure Script where
  executable : String
  titles : OrderedMap String
  supported : List String
  constants : List (String × Json)
  tables : OrderedMap ModuleTable
  placed : List PlacedVariable
  dependencies : List String
  init : Option Callback
  registrations : List Registration
  hooks : List HookStep
  loops : List Loop
  nops : List NopStep
  exit : Option Callback
  receivers : OrderedMap Callback

/-! ## Parts -/

/-- The constants of a game; those of the executable's table in the patch go before. -/
def Game.constantsFor (game : Game) (patch : Patch) : OrderedMap Json :=
  match patch.tables.get? game.executable with
  | some table => game.constants.extend table.constants
  | none => game.constants

/-- The tables of the given modules, as far as the patch has them. -/
def Patch.tablesOf (patch : Patch) (modules : List String) : OrderedMap ModuleTable :=
  .ofList (modules.filterMap fun module =>
    (patch.tables.get? module).map fun table => (module, table))

/-- The functions of the given modules in the order of their tables. -/
def Patch.registrations (patch : Patch) (modules : List String) : List Registration :=
  modules.flatMap fun module =>
    match patch.tables.get? module with
    | some table => table.hooks.entries.map fun hook => ⟨module, hook.1, hook.2⟩
    | none => []

/-- The step for one target of a hook. -/
def Hook.stepAt (hook : Hook) (dependencies : List String) (target : HookTarget) : HookStep :=
  if target.module ∈ dependencies then .install hook.name target hook.action
  else .foreign hook.name target.module

/-- The steps for a hook with its targets. -/
def Hook.steps (hook : Hook) (dependencies : List String) : List HookTarget → List HookStep
  | [] => [.notFound hook.name]
  | targets => targets.map (hook.stepAt dependencies)

def Nop.step (nop : Nop) (dependencies : List String) : NopStep :=
  if nop.module ∈ dependencies then .delete nop else .foreign nop

namespace Declaration

/-- The variables with a place of their own. -/
def placed (declaration : Declaration) : List PlacedVariable :=
  declaration.vars.filterMap fun known =>
    known.place.map fun place => ⟨place.1, known.name, place.2⟩

/-- The steps for all hooks of a mod. -/
def hookSteps (declaration : Declaration) (game : Game) (patch : Patch) : List HookStep :=
  (declaration.hookTargets game patch).flatMap fun entry =>
    entry.1.steps (declaration.dependencies game.executable) entry.2

/-- The steps for all nops of a mod. -/
def nopSteps (declaration : Declaration) (game : Game) : List NopStep :=
  declaration.nops.map fun nop => nop.step (declaration.dependencies game.executable)

end Declaration

namespace Script

/-- The script of a mod for one patch of its game. -/
def ofMod (declaration : Declaration) (game : Game) (patch : Patch) : Script :=
  let dependencies := declaration.dependencies game.executable
  { executable := game.executable
    titles := game.modules.mapValues ModuleInfo.name
    supported := declaration.modules
    constants := (game.constantsFor patch).entries.filter fun entry => isFreeName entry.1
    tables := patch.tablesOf dependencies
    placed := declaration.placed
    dependencies
    init := declaration.init
    registrations := patch.registrations dependencies
    hooks := declaration.hookSteps game patch
    loops := declaration.loops
    nops := declaration.nopSteps game
    exit := declaration.exit
    receivers := declaration.receivers }

/-- A notice for a hook that is not installed. -/
def hookNotice? (mod patch : String) : HookStep → Option Notice
  | .notFound hook => some (.hookNotFound hook mod patch)
  | .foreign hook module => some (.hookForeign hook mod module)
  | .install _ _ _ => none

/-- A notice for code that is left as it is. -/
def nopNotice? (mod : String) : NopStep → Option Notice
  | .foreign nop => some (.nopForeign nop.place mod)
  | .delete _ => none

/-- What people are told about the script of a mod: constants, then hooks, then nops left out. -/
def notices (declaration : Declaration) (game : Game) (patch : Patch) : List Notice :=
  (((game.constantsFor patch).keys.filter fun name => !isFreeName name).map fun name =>
      .constantSkipped name game.id) ++
    (declaration.hookSteps game patch).filterMap (hookNotice? declaration.name patch.name) ++
    (declaration.nopSteps game).filterMap (nopNotice? declaration.name)

end Script

end ModScript
