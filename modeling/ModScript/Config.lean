import ModScript.Files.Basic
import ModScript.Notice
import ModScript.Toml.Reader

/-!
# Configuration

Where games and mods are, and how long a session waits. Whatever a configuration file does not say has a
default; a file that is missing says nothing, and one that cannot be read is noted and passed over.
-/

namespace ModScript

/-- How long a session waits for what. -/
structure Timing where
  /-- For the script to report that it is ready. -/
  ready : Duration := .ofSeconds 30
  /-- For the script to report that it has cleaned up. -/
  cleanup : Duration := .ofSeconds 3
  /-- Between two looks for the process of the game. -/
  poll : Duration := .ofMilliseconds 1000
  /-- For a game that was just started. -/
  grace : Duration := .ofMilliseconds 2000
deriving DecidableEq, Repr

/-- What the library is told from outside. -/
structure Config where
  games : String := "games"
  mods : String := "mods"
  timing : Timing := {}
deriving DecidableEq, Repr

/-- The name under which a configuration file is looked for. -/
def Config.defaultPath : String := "modweave.toml"

/-- The name in the environment of the path of the configuration file. -/
def Config.environmentName : String := "MODWEAVE_CONFIG"

/-- A span of time in some unit, or the default. -/
def Duration.fieldOr? (absent : Duration) (unit : Nat → Duration) (t : Option Tree) :
    Option Duration :=
  Tree.fieldOr? absent (fun t => t.word?.map fun n => unit n.toNat) t

def Timing.ofTree? (t : Tree) : Option Timing :=
  match t.looseRecord? [.defaulted "ready_timeout_secs", .defaulted "cleanup_timeout_secs",
      .defaulted "process_poll_ms", .defaulted "spawn_grace_ms"] with
  | some [ready, cleanup, poll, grace] => do
    let default : Timing := {}
    let ready ← Duration.fieldOr? default.ready .ofSeconds ready
    let cleanup ← Duration.fieldOr? default.cleanup .ofSeconds cleanup
    let poll ← Duration.fieldOr? default.poll .ofMilliseconds poll
    let grace ← Duration.fieldOr? default.grace .ofMilliseconds grace
    return { ready, cleanup, poll, grace }
  | _ => none

namespace Config

def ofTree? (t : Tree) : Option Config :=
  match t.looseRecord? [.defaulted "games_dir", .defaulted "mods_dir", .defaulted "shell"] with
  | some [games, mods, timing] => do
    let default : Config := {}
    let games ← Tree.fieldOr? default.games Tree.text? games
    let mods ← Tree.fieldOr? default.mods Tree.text? mods
    let timing ← Tree.fieldOr? default.timing Timing.ofTree? timing
    return { games, mods, timing }
  | _ => none

/-- The configuration that a text describes. -/
def parse (text : String) : Except Error Config :=
  match (Toml.read? text).bind ofTree? with
  | some config => .ok config
  | none => .error .malformedToml

/-- The configuration with relative directories seen from `base`. -/
def relativeTo (config : Config) (base : String) : Config :=
  { config with games := Path.join base config.games, mods := Path.join base config.mods }

section

variable {m : Type → Type} [Monad m]

/-- The configuration of a file. -/
def load (files : Files m) (path : String) : ExceptT Error m Config := do
  let text ← files.text path
  MonadExcept.ofExcept (parse text)

/-- The configuration of a file, or the defaults. -/
def loadOrDefault (files : Files m) (path : String) : m (Config × List Notice) := do
  match ← (load files path).run with
  | .ok config => return (config, [])
  | .error (.file .missing) => return ({}, [])
  | .error e => return ({}, [.configIgnored path e])

end

end Config

end ModScript
