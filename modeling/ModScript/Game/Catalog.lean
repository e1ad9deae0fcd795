import ModScript.Digest.Sha256
import ModScript.Game.Loading
import ModScript.Notice
import ModScript.Text.Sorted

/-!
# Catalogs of games

All games of a directory, by id, and the choice of a patch for a build of a game. The choice fails only
when the game is not known: a fingerprint that no patch has, or none at all, leads to the default patch.
-/

namespace ModScript

/-- The known games; of two games with one id the later one stays. -/
structure GameCatalog where
  games : OrderedMap Game

/-- The patch that was chosen for a build, and whether its fingerprint was the reason. -/
structure Resolution where
  game : Game
  key : String
  patch : Patch
  matched : Bool

/-- The fingerprint of a build. -/
def fingerprint (content : ByteArray) : String := Sha256.hexDigest content

namespace GameCatalog

/-- The catalog without games. -/
def empty : GameCatalog := ⟨.empty⟩

def ofGames (games : List Game) : GameCatalog :=
  ⟨.ofList (games.map fun game => (game.id, game))⟩

def get (catalog : GameCatalog) (id : String) : Except Error Game :=
  match catalog.games.get? id with
  | some game => .ok game
  | none => .error (.unknownGame id)

def contains (catalog : GameCatalog) (id : String) : Bool := catalog.games.contains id

def size (catalog : GameCatalog) : Nat := catalog.games.size

def isEmpty (catalog : GameCatalog) : Bool := catalog.games.isEmpty

/-- The games in the order of their ids. -/
def sorted (catalog : GameCatalog) : List Game :=
  (sortedNames catalog.games.keys).filterMap catalog.games.get?

/-! ## Choice of a patch -/

/-- The default patch of a game. -/
def resolveDefault (game : Game) : Except Error Resolution :=
  (game.patch game.defaultPatch).map fun patch => ⟨game, game.defaultPatch, patch, false⟩

/-- The patch of a known game for a build with the given fingerprint. -/
def resolveIn (game : Game) : Option String → Except Error Resolution × List Notice
  | none => (resolveDefault game, [])
  | some fingerprint =>
    match game.findByFingerprint? fingerprint with
    | some (key, patch) =>
      (.ok ⟨game, key, patch, true⟩, [.patchDetected game.name patch.name key])
    | none => (resolveDefault game, [.patchUnknown game.id fingerprint game.defaultPatch])

/-- The patch for a build of the game `id` with the given fingerprint. -/
def resolve (catalog : GameCatalog) (id : String) (fingerprint : Option String) :
    Except Error Resolution × List Notice :=
  match catalog.get id with
  | .error e => (.error e, [])
  | .ok game => resolveIn game fingerprint

/-- The patch for a build with the given content. A build that cannot be read counts as one without a
fingerprint. -/
def resolveContent (catalog : GameCatalog) (id path : String) :
    Except Error ByteArray → Except Error Resolution × List Notice
  | .ok content => catalog.resolve id (some (fingerprint content))
  | .error e =>
    let (resolution, notices) := catalog.resolve id none
    (resolution, .binaryUnreadable path e :: notices)

section

variable {m : Type → Type} [Monad m]

/-- The patch for the build at a path. -/
def resolveBinary (files : Files m) (catalog : GameCatalog) (id path : String) :
    m (Except Error Resolution × List Notice) := do
  return catalog.resolveContent id path (← (files.bytes path).run)

/-! ## Loading -/

/-- The games of the named directories. A directory without a game file of its name is skipped. -/
def loadEach (files : Files m) (directory : String) :
    List String → m (Except Error (List Game) × List Notice)
  | [] => return (.ok [], [])
  | name :: rest => do
    let home := Path.join directory name
    let path := Path.join home (name ++ ".json")
    if ← files.has .file path then
      match ← (Game.load files path).run with
      | .error e => return (.error e, [])
      | .ok game =>
        let (games, notices) ← loadEach files directory rest
        return (games.map (game :: ·), notices)
    else
      let (games, notices) ← loadEach files directory rest
      return (games, .skippedDirectory home name :: notices)

/-- The catalog of every `<name>/<name>.json` in a directory. -/
def load (files : Files m) (directory : String) :
    m (Except Error GameCatalog × List Notice) := do
  match ← (files.names .directory directory).run with
  | .error e => return (.error e, [])
  | .ok names =>
    match ← loadEach files directory (sortedNames names) with
    | (.error e, notices) => return (.error e, notices)
    | (.ok games, notices) =>
      let catalog := ofGames games
      return (.ok catalog, notices ++ [.gamesLoaded catalog.size directory])

end

end GameCatalog

end ModScript
