import ModScript.Declaration.File
import ModScript.Game.Catalog

/-!
# Catalogs of mods

The mod files of a directory, by id. `mod.toml` has the id `default`, `mod.<id>.toml` has the id between
the points. Files are read when they are asked for.
-/

namespace ModScript

/-- The id of the mod in `mod.toml`. -/
def defaultModId : String := "default"

/-- What stands between `front` and `back` in a text. -/
def between? (front back : List Char) (cs : List Char) : Option (List Char) :=
  if front.isPrefixOf cs then
    let rest := cs.drop front.length
    if back.isSuffixOf rest then some (rest.take (rest.length - back.length)) else none
  else none

/-- The id of the mod in a file of that name, if it is a mod file. -/
def modId? (fileName : String) : Option String :=
  if fileName == "mod.toml" then some defaultModId
  else
    match between? "mod.".toList ".toml".toList fileName.toList with
    | some [] => none
    | found => found.map String.ofList

/-- Mod files by id. -/
structure ModCatalog where
  paths : OrderedMap String

/-- What a list of mods shows of one of them. -/
structure ModSummary where
  id : String
  name : String
  game : String
  executable : String
deriving DecidableEq, Repr

namespace ModCatalog

/-- The catalog without mods. -/
def empty : ModCatalog := ⟨.empty⟩

def ids (catalog : ModCatalog) : List String := catalog.paths.keys

def path? (catalog : ModCatalog) (id : String) : Option String := catalog.paths.get? id

def size (catalog : ModCatalog) : Nat := catalog.paths.size

def isEmpty (catalog : ModCatalog) : Bool := catalog.paths.isEmpty

/-- Ids with file names in the order of ids, files of one id in the order of their names. -/
def inOrder (a b : String × String) : Bool :=
  decide (a.1 < b.1) || (a.1 == b.1 && decide (a.2 ≤ b.2))

/-- The catalog of the file names of a directory. -/
def ofNames (directory : String) (names : List String) : ModCatalog :=
  let found := names.filterMap fun name => (modId? name).map fun id => (id, name)
  ⟨.ofList ((found.mergeSort inOrder).map fun entry => (entry.1, Path.join directory entry.2))⟩

section

variable {m : Type → Type} [Monad m]

/-- The mods of a directory; there are none if the directory is missing. -/
def scan (files : Files m) (directory : String) : m (Except Error ModCatalog) := do
  match ← (files.names .file directory).run with
  | .ok names => return .ok (ofNames directory names)
  | .error (.file .missing) => return .ok empty
  | .error e => return .error e

/-- The mod of that id. -/
def load (files : Files m) (catalog : ModCatalog) (id : String) : ExceptT Error m Declaration :=
  match catalog.path? id with
  | some path => Declaration.load files path
  | none => throw (.modNotFound id)

/-- The summary of one mod. -/
def summary (files : Files m) (catalog : ModCatalog) (games : GameCatalog) (id : String) :
    ExceptT Error m ModSummary := do
  let declaration ← catalog.load files id
  let game ← MonadExcept.ofExcept (games.get declaration.game)
  return { id, name := declaration.name, game := game.id, executable := game.executable }

/-- The summaries of the mods that can be used; the others are only noted. -/
def summaries (files : Files m) (catalog : ModCatalog) (games : GameCatalog) :
    m (List ModSummary × List Notice) := do
  let results ← catalog.ids.mapM fun id => do return (id, ← (catalog.summary files games id).run)
  return (results.filterMap fun result => result.2.toOption,
    results.filterMap fun result =>
      match result.2 with
      | .ok _ => none
      | .error e => some (.modFailed result.1 e))

end

end ModCatalog

end ModScript
