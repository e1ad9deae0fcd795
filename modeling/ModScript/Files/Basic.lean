import ModScript.Error
import ModScript.Files.Path

/-!
# Files

What the library asks of a file system, over any monad: to read, to list, to tell kinds apart, and to
write. Names come back from a directory in no particular order.
-/

namespace ModScript

/-- What stands at a path. -/
inductive FileKind
  | file
  | directory
deriving DecidableEq, Repr

/-- Access to files. -/
structure Files (m : Type → Type) where
  read : String → m (Except FileFault ByteArray)
  list : String → m (Except FileFault (List String))
  kind : String → m (Option FileKind)
  write : String → ByteArray → m (Except FileFault Unit)

namespace Files

variable {m : Type → Type} [Monad m]

/-- A fault of a file as an error. -/
def raise {α : Type} (action : m (Except FileFault α)) : ExceptT Error m α :=
  ExceptT.mk do return (← action).mapError Error.file

/-- The bytes of a file. -/
def bytes (files : Files m) (path : String) : ExceptT Error m ByteArray := raise (files.read path)

/-- The text of a file in UTF-8. -/
def text (files : Files m) (path : String) : ExceptT Error m String := do
  match String.fromUTF8? (← files.bytes path) with
  | some text => return text
  | none => throw (.file .unusable)

/-- Whether something of the given kind stands at a path. -/
def has (files : Files m) (kind : FileKind) (path : String) : m Bool := do
  return (← files.kind path) == some kind

/-- The names in a directory that stand for something of the given kind. -/
def names (files : Files m) (kind : FileKind) (directory : String) :
    ExceptT Error m (List String) := do
  let names ← raise (files.list directory)
  names.filterM fun name => files.has kind (Path.join directory name)

end Files

end ModScript
