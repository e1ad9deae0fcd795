import ModScript.CommandLine.Arguments
import ModScript.CommandLine.Failure
import ModScript.Declaration.Catalog
import ModScript.Game.Consistency
import ModScript.Script.Text

/-!
# Reports of the program

What each command puts out, what it tells beside it, and whether it failed. Every command but the
fingerprint first loads the games and looks for the mods that the configuration names.
-/

namespace ModScript

/-- What a run of the program comes to. `remarks` go to people and not into the output. -/
structure Report where
  output : String := ""
  remarks : List String := []
  notices : List Notice := []
  failure : Option Failure := none

namespace Report

/-- Output lines, each with its line break. -/
def lines (ls : List String) : String := "".intercalate (ls.map (· ++ "\n"))

def failed (failure : Failure) : Report := { failure := some failure }

/-- The report with notices before its own. -/
def after (notices : List Notice) (report : Report) : Report :=
  { report with notices := notices ++ report.notices }

def exitCode (report : Report) : UInt32 := if report.failure.isSome then 1 else 0

end Report

/-- Configuration, games and mods of a run. -/
structure Workspace where
  config : Config
  games : GameCatalog
  mods : ModCatalog

namespace Workspace

/-- The directory of a configuration file. -/
def baseOf (path : String) : String :=
  match Path.parent? path with
  | none => "."
  | some "" => "."
  | some directory => directory

variable {m : Type → Type} [Monad m]

/-- Loads everything; directories are seen from that of the configuration. -/
def load (files : Files m) (path : String) : m (Except Failure Workspace × List Notice) := do
  let (config, told) ← Config.loadOrDefault files path
  let config := config.relativeTo (baseOf path)
  match ← GameCatalog.load files config.games with
  | (.error e, more) => return (.error (.during ("load games from " ++ config.games) e), told ++ more)
  | (.ok games, more) =>
    match ← ModCatalog.scan files config.mods with
    | .error e => return (.error (.during ("scan mods in " ++ config.mods) e), told ++ more)
    | .ok mods => return (.ok ⟨config, games, mods⟩, told ++ more)

/-- A mod with its game and the patch of a key, or the default patch. -/
def modWithPatch (files : Files m) (workspace : Workspace) (id : String) (key : Option String) :
    ExceptT Error m (Declaration × Game × Patch) := do
  let mod ← workspace.mods.load files id
  let game ← MonadExcept.ofExcept (workspace.games.get mod.game)
  let patch ← MonadExcept.ofExcept (game.patch (key.getD game.defaultPatch))
  return (mod, game, patch)

end Workspace

/-- A mod with the patch that was chosen for it, and what is said about the choice. -/
structure Chosen where
  mod : Declaration
  game : Game
  patch : Patch
  remark : String

namespace Command

variable {m : Type → Type} [Monad m]

/-! ## List -/

/-- A text with blanks behind it. -/
def padded (width : Nat) (s : String) : String :=
  s ++ String.ofList (List.replicate (width - s.length) ' ')

/-- Ids stand in a column that is as wide as the longest id has bytes. -/
def listLines (summaries : List ModSummary) : List String :=
  let width := (summaries.map fun summary => summary.id.utf8ByteSize).foldl max 0
  summaries.map fun summary =>
    padded width summary.id ++ "  " ++ summary.name ++ " (" ++ summary.executable ++ ")"

def runList (files : Files m) (workspace : Workspace) : m Report := do
  let (summaries, told) ← workspace.mods.summaries files workspace.games
  let report : Report :=
    if summaries.isEmpty then { remarks := ["No mods found in " ++ workspace.config.mods] }
    else { output := Report.lines (listLines summaries) }
  return report.after told

/-! ## Generate -/

/-- The mod with the patch for a build. -/
def chooseByBinary (files : Files m) (workspace : Workspace) (id path : String) :
    m (Except Error Chosen × List Notice) := do
  match ← (workspace.mods.load files id).run with
  | .error e => return (.error e, [])
  | .ok mod =>
    match ← GameCatalog.resolveBinary files workspace.games mod.game path with
    | (.error e, told) => return (.error e, told)
    | (.ok found, told) =>
      let remark := "Detected patch: " ++ found.patch.name ++ " (" ++ found.key ++ ")"
      return (.ok ⟨mod, found.game, found.patch, remark⟩, told)

/-- The mod with the patch that was asked for. -/
def choose (files : Files m) (workspace : Workspace) (id : String) :
    PatchChoice → m (Except Error Chosen × List Notice)
  | .binary path => chooseByBinary files workspace id path
  | .key key => byKey (some key)
  | .byDefault => byKey none
where
  byKey (key : Option String) : m (Except Error Chosen × List Notice) := do
    let found ← (workspace.modWithPatch files id key).run
    return (found.map fun (mod, game, patch) =>
      ⟨mod, game, patch, "Using patch: " ++ patch.name⟩, [])

/-- Puts a script out, or into a file. -/
def putScript (files : Files m) (script : String) : Option String → m Report
  | none => return { output := script }
  | some path => do
    match ← files.write path script.toUTF8 with
    | .error fault => return .failed (.file fault)
    | .ok _ =>
      return { remarks := ["Wrote " ++ toString script.utf8ByteSize ++ " bytes to " ++ path] }

def runGenerate (files : Files m) (workspace : Workspace) (id : String) (choice : PatchChoice)
    (output : Option String) : m Report := do
  match ← choose files workspace id choice with
  | (.error e, told) => return (Report.failed (.error e)).after told
  | (.ok chosen, told) =>
    let script := chosen.mod.script chosen.game chosen.patch
    let report ← putScript files script output
    return { report with remarks := chosen.remark :: report.remarks }.after
      (told ++ Script.notices chosen.mod chosen.game chosen.patch)

/-! ## Targets -/

/-- The lines of one hook. -/
def targetLines (hook : Hook) : List HookTarget → List String
  | [] => ["  " ++ hook.name ++ ": not in any table, skipped at runtime"]
  | found => ("  " ++ hook.name ++ ":") :: found.map fun target => "    " ++ target.text

def runTargets (files : Files m) (workspace : Workspace) (id : String) (key : Option String) :
    m Report := do
  match ← (workspace.modWithPatch files id key).run with
  | .error e => return .failed (.error e)
  | .ok (mod, game, patch) =>
    let title := mod.name ++ " on " ++ game.name ++ " (" ++ patch.name ++ ")"
    return { output := Report.lines (title ::
      (mod.hookTargets game patch).flatMap fun entry => targetLines entry.1 entry.2) }

/-! ## Validate -/

/-- The lines of one game. -/
def gameLines (game : Game) : List String :=
  match game.issues with
  | [] => [game.id ++ ": ok (" ++ toString game.patches.size ++ " patch variant(s))"]
  | issues =>
    (game.id ++ ": " ++ toString issues.length ++ " issue(s)") ::
      issues.map fun issue => "  - " ++ issue.text

/-- The games that are asked for. -/
def gamesAsked (workspace : Workspace) : Option String → Except Error (List Game)
  | some id => (workspace.games.get id).map fun game => [game]
  | none => .ok workspace.games.sorted

def runValidate (workspace : Workspace) (game : Option String) : Report :=
  match gamesAsked workspace game with
  | .error e => .failed (.error e)
  | .ok games =>
    let count := (games.flatMap Game.issues).length
    { output := Report.lines (games.flatMap gameLines)
      failure := if count = 0 then none else some (.inconsistent count) }

/-! ## Fingerprint -/

def runFingerprint (files : Files m) (path : String) : m Report := do
  match ← (files.bytes path).run with
  | .ok content => return { output := Report.lines [ModScript.fingerprint content] }
  | .error e => return .failed (.during ("read " ++ path) e)

/-! ## Runs -/

/-- The report of a command other than the fingerprint. -/
def runIn (files : Files m) (workspace : Workspace) : Command → m Report
  | list => runList files workspace
  | generate id choice output => runGenerate files workspace id choice output
  | targets id patch => runTargets files workspace id patch
  | validate game => return runValidate workspace game
  | fingerprint path => runFingerprint files path

end Command

/-- The report of a run. -/
def Arguments.run {m : Type → Type} [Monad m] (files : Files m) (arguments : Arguments) :
    m Report := do
  match arguments.command with
  | .fingerprint path => Command.runFingerprint files path
  | command =>
    match ← Workspace.load files arguments.config with
    | (.error failure, told) => return (Report.failed failure).after told
    | (.ok workspace, told) => return (← command.runIn files workspace).after told

end ModScript
