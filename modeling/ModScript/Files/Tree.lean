import ModScript.Files.Basic
import ModScript.OrderedMap

/-!
# File trees

Files that are kept in memory, with the rules of a file system: a path leads through directories only,
`..` goes back and stays at the root, a name can be at most 255 bytes long, and a path at most 4095.
-/

namespace ModScript

/-- A file, or a directory of named trees. -/
inductive FileTree
  | file (content : ByteArray)
  | directory (entries : List (String × FileTree))

namespace FileTree

instance : Inhabited FileTree := ⟨directory []⟩

def kind : FileTree → FileKind
  | file _ => .file
  | directory _ => .directory

/-- The entries of a directory; a file has none. -/
def entries : FileTree → List (String × FileTree)
  | file _ => []
  | directory entries => entries

/-- The tree with `new` at the given names; directories on the way are made. -/
def place (new : FileTree) : List String → FileTree → FileTree
  | [], _ => new
  | name :: rest, tree =>
    directory (OrderedMap.put name
      (place new rest ((tree.entries.lookup name).getD (directory []))) tree.entries)

/-- Where a walk stands: the tree there, and the names and trees on the way, nearest first. -/
structure Position where
  tree : FileTree
  way : List (String × FileTree)

/-- The names that lead to a position. -/
def Position.names (position : Position) : List String :=
  (position.way.map Prod.fst).reverse

/-- One step of a walk. -/
def Position.step (position : Position) (segment : String) : Except FileFault Position :=
  match position.tree with
  | .file _ => .error .unusable
  | .directory entries =>
    if !Path.counts segment then .ok position
    else if segment == ".." then
      match position.way with
      | [] => .ok position
      | (_, tree) :: way => .ok ⟨tree, way⟩
    else if 255 < segment.utf8ByteSize || segment.contains '\x00' then .error .unusable
    else
      match entries.lookup segment with
      | none => .error .missing
      | some tree => .ok ⟨tree, (segment, position.tree) :: position.way⟩

/-- Where a list of segments leads. -/
def Position.walk (position : Position) (segments : List String) : Except FileFault Position :=
  segments.foldlM step position

/-- Whether the path may be asked for at all, whatever stands there. -/
def accepts (path : String) : Bool := path.utf8ByteSize ≤ 4095 && !path.contains '\x00'

/-- The segments of a path from the root on. -/
def fromRoot (workingDirectory : List String) (path : String) : List String :=
  if Path.isRelative path then workingDirectory ++ Path.segments path else Path.segments path

/-- Where a path leads. -/
def locate (root : FileTree) (workingDirectory : List String) (path : String) :
    Except FileFault Position :=
  if !accepts path then .error .unusable
  else if path.isEmpty then .error .missing
  else (Position.mk root []).walk (fromRoot workingDirectory path)

/-- The tree with a file written; its directory must exist. -/
def write (root : FileTree) (workingDirectory : List String) (path : String) (content : ByteArray) :
    Except FileFault FileTree :=
  match locate root workingDirectory path with
  | .ok position =>
    match position.tree with
    | .file _ => .ok (place (.file content) position.names root)
    | .directory _ => .error .unusable
  | .error .unusable => .error .unusable
  | .error .missing =>
    let segments := Path.segments path
    match segments.getLast? with
    | none => .error .missing
    | some name =>
      if path.isEmpty then .error .missing
      else
        match (Position.mk root []).walk (fromRoot workingDirectory path).dropLast with
        | .error fault => .error fault
        | .ok position =>
          if Path.counts name && name != ".." then
            .ok (place (.file content) (position.names ++ [name]) root)
          else .error .unusable

/-- File access to a tree that can change. -/
def files (workingDirectory : List String) : Files (StateM FileTree) where
  read path := do
    match locate (← get) workingDirectory path with
    | .ok ⟨.file content, _⟩ => return .ok content
    | .ok ⟨.directory _, _⟩ => return .error .unusable
    | .error fault => return .error fault
  list path := do
    match locate (← get) workingDirectory path with
    | .ok ⟨.directory entries, _⟩ => return .ok (entries.map Prod.fst)
    | .ok ⟨.file _, _⟩ => return .error .unusable
    | .error fault => return .error fault
  kind path := do
    match locate (← get) workingDirectory path with
    | .ok position => return some position.tree.kind
    | .error _ => return none
  write path content := do
    match write (← get) workingDirectory path content with
    | .ok tree =>
      set tree
      return .ok ()
    | .error fault => return .error fault

end FileTree

end ModScript
