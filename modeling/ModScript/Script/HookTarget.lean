import ModScript.Declaration.Basic
import ModScript.Game.Basic

/-!
# Hook targets

Where a hook is installed. A hook with a location of its own has that one target. Any other hook has a
target in every module that defines its name: the modules of the mod in order, then the executable, each
looked at once. What the hook declares about parameters and return goes before what the table says.
-/

namespace ModScript

/-- One place at which a hook is installed. -/
structure HookTarget where
  module : String
  address : Address
  params : List NativeType
  returns : NativeType
deriving DecidableEq, Repr

def HookTarget.text (target : HookTarget) : String :=
  target.module ++ "+" ++ target.address.text ++ " (" ++
    ", ".intercalate (target.params.map NativeType.name) ++ ") -> " ++ target.returns.name

namespace Hook

/-- The target of a table entry in a module. -/
def targetAt (hook : Hook) (module : String) (entry : FunctionEntry) : HookTarget :=
  { module, address := entry.address, params := hook.params.getD entry.params,
    returns := hook.returns.getD entry.returns }

/-- The target in a module, if its table defines the hook. -/
def target? (hook : Hook) (patch : Patch) (module : String) : Option HookTarget :=
  (patch.hook? module hook.name).map (hook.targetAt module)

/-- The targets of a hook for a mod of the given modules. -/
def targets (hook : Hook) (modules : List String) (executable : String) (patch : Patch) :
    List HookTarget :=
  match hook.location with
  | some (module, address) => [hook.targetAt module ⟨address, [], .void⟩]
  | none => (modules ++ [executable]).eraseDups.filterMap (hook.target? patch)

end Hook

/-- The modules whose bases a script waits for: the executable, then the modules of the mod, each
once. -/
def Declaration.dependencies (declaration : Declaration) (executable : String) : List String :=
  (executable :: declaration.modules).eraseDups

/-- The hooks of a mod with their targets. -/
def Declaration.hookTargets (declaration : Declaration) (game : Game) (patch : Patch) :
    List (Hook × List HookTarget) :=
  declaration.hooks.map fun hook =>
    (hook, hook.targets declaration.modules game.executable patch)

end ModScript
