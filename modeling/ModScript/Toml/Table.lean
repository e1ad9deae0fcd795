import ModScript.OrderedMap
import ModScript.Tree

/-!
# Tables of configuration files

The lines of a configuration file put together. A table comes into being by its header, by a header or
key that passes through it, or by keys with points. What is written once stays closed: a key is given
once, a table has one header, keys with points extend only tables that they have made, and headers do not
go through values. A table that was only passed through moves to the end when its header comes.
-/

namespace ModScript.Toml

/-- A line that says something. -/
inductive Line
  | pair (key : List String) (value : Tree)
  | header (key : List String)
  | listHeader (key : List String)

/-- How a table came into being: by a header or a value, passed through by a header, or by a key with
points. -/
inductive Origin
  | defined
  | passed
  | dotted
deriving DecidableEq, Repr

/-- What a key stands for: a value, a table, or a list of tables with the last one first. -/
inductive Entry
  | value (value : Tree)
  | table (origin : Origin) (members : List (String × Entry))
  | tables (last : List (String × Entry)) (before : List (List (String × Entry)))

/-- The members of a table. -/
abbrev Members := List (String × Entry)

namespace Table

mutual

/-- What an entry says. -/
def content : Entry → Tree
  | .value value => value
  | .table _ members => .table (contents members)
  | .tables last before => .list ((contentsOfEach before).reverse ++ [.table (contents last)])

def contents : List (String × Entry) → List (String × Tree)
  | [] => []
  | (key, entry) :: rest => (key, content entry) :: contents rest

def contentsOfEach : List (List (String × Entry)) → List Tree
  | [] => []
  | members :: rest => .table (contents members) :: contentsOfEach rest

end

/-- Changes the table to which a path leads; tables on the way that are missing are made with the origin
`via`, and a key with points passes only through tables that are not closed to it. -/
def edit {α : Type} (via : Origin) (change : Origin → Members → Option (α × Members)) :
    List String → Origin → Members → Option (α × Members)
  | [], origin, members => change origin members
  | key :: path, _, members =>
    match members.lookup key with
    | none =>
      (edit via change path via []).map fun (a, inner) =>
        (a, OrderedMap.put key (.table via inner) members)
    | some (.value _) => none
    | some (.table origin inner) =>
      if via = .dotted ∧ origin = .defined then none
      else (edit via change path origin inner).map fun (a, inner) =>
        (a, OrderedMap.put key (.table origin inner) members)
    | some (.tables last before) =>
      (edit via change path .defined last).map fun (a, last) =>
        (a, OrderedMap.put key (.tables last before) members)

/-- Adds a value under a key that is not taken. -/
def addNew (key : String) (value : Tree) (members : Members) : Option (Unit × Members) :=
  if (members.lookup key).isSome then none else some ((), members ++ [(key, .value value)])

/-- Adds a value under a key with points. A table takes values under a plain key exactly if no key with
points has made it. -/
def addPair (path : List String) (value : Tree) (members : Members) : Option Members :=
  match path.getLast? with
  | none => none
  | some key =>
    let parents := path.dropLast
    let add (origin : Origin) (members : Members) : Option (Unit × Members) :=
      if decide (origin = .dotted) == parents.isEmpty then none else addNew key value members
    (edit .dotted add parents .defined members).map Prod.snd

/-- The members of a table in place. -/
def inPlace? (pairs : List (List String × Tree)) : Option (List (String × Tree)) :=
  (pairs.foldlM (fun members pair => addPair pair.1 pair.2 members) []).map contents

/-! ## Documents -/

/-- Where the lines of a file stand: everything that is finished, and the table under way. -/
structure State where
  root : Members
  path : List String
  inList : Bool
  current : Members

namespace State

/-- Before the first line the root itself is under way. -/
def start : State := ⟨[], [], false, []⟩

/-- The root with the table under way in its place. -/
def finish (state : State) : Option Members :=
  match state.path.getLast? with
  | none => some state.current
  | some key =>
    let add (_ : Origin) (members : Members) : Option (Unit × Members) :=
      match members.lookup key with
      | none =>
        some ((), members ++ [(key,
          if state.inList then .tables state.current [] else .table .defined state.current)])
      | some (.tables last before) =>
        some ((), OrderedMap.put key (.tables state.current (last :: before)) members)
      | some _ => none
    (edit .passed add state.path.dropLast .defined state.root).map Prod.snd

/-- Begins the table of a header: it is new, or was only passed through and is taken out. -/
def beginTable (path : List String) (root : Members) : Option State :=
  match path.getLast? with
  | none => none
  | some key =>
    let take (_ : Origin) (members : Members) : Option (Members × Members) :=
      match members.lookup key with
      | none => some ([], members)
      | some (.table .passed inner) => some (inner, members.filter fun entry => entry.1 != key)
      | some _ => none
    (edit .passed take path.dropLast .defined root).map fun (current, root) =>
      ⟨root, path, false, current⟩

/-- Begins another table of a list. -/
def beginItem (path : List String) (root : Members) : Option State :=
  match path.getLast? with
  | none => none
  | some key =>
    let look (_ : Origin) (members : Members) : Option (Unit × Members) :=
      match members.lookup key with
      | none => some ((), members)
      | some (.tables _ _) => some ((), members)
      | some _ => none
    (edit .passed look path.dropLast .defined root).map fun (_, root) => ⟨root, path, true, []⟩

/-- The state after one more line. -/
def step (state : State) : Line → Option State
  | .pair key value =>
    (addPair key value state.current).map fun current => { state with current }
  | .header path => state.finish.bind (beginTable path)
  | .listHeader path => state.finish.bind (beginItem path)

end State

/-- The document of the lines of a file. -/
def ofLines? (lines : List Line) : Option Tree :=
  ((lines.foldlM State.step State.start).bind State.finish).map fun members =>
    .table (contents members)

end Table

end ModScript.Toml
