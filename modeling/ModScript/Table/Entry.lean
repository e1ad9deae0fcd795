import ModScript.Address
import ModScript.Table.Types

/-!
# Address tables

What one patch of a game knows about one module: where its variables and native functions are, and its
constants. Tables and their entries are written as data with the same field names with which they are
read.
-/

namespace ModScript

/-- Where a variable lies and how it is represented. A pointer is an offset that is added after the
located address was dereferenced once. -/
structure VariableEntry where
  address : Address
  kind : VariableType
  pointer : Option Address
  size : Option UInt64
deriving DecidableEq, Repr

/-- A native function with its parameters. -/
structure FunctionEntry where
  address : Address
  params : List NativeType
  returns : NativeType
deriving DecidableEq, Repr

/-- The entries of one module in one patch. -/
structure ModuleTable where
  constants : OrderedMap Json
  vars : OrderedMap VariableEntry
  hooks : OrderedMap FunctionEntry

/-- A field that is left out when it has no value. -/
def Json.optionalField {α : Type} (name : String) (write : α → Json) :
    Option α → List (String × Json)
  | none => []
  | some value => [(name, write value)]

/-- A list of named types as data. -/
def NativeType.listJson (types : List NativeType) : Json := .array (types.map NativeType.toJson)

namespace VariableEntry

def toJson (entry : VariableEntry) : Json :=
  .object ([("Address", entry.address.toJson), ("Type", entry.kind.toJson)] ++
    Json.optionalField "Pointer" Address.toJson entry.pointer ++
    Json.optionalField "Size" (fun n => .number (.ofUInt64 n)) entry.size)

def ofTree? (t : Tree) : Option VariableEntry :=
  match t.record? [.required "Address", .required "Type", .defaulted "Pointer",
      .defaulted "Size"] with
  | some [some address, some kind, pointer, size] => do
    let address ← Address.ofTree? address
    let kind ← VariableType.ofTree? kind
    let pointer ← Tree.fieldOr? none (Tree.nullable? Address.ofTree?) pointer
    let size ← Tree.fieldOr? none (Tree.nullable? Tree.word?) size
    return { address, kind, pointer, size }
  | _ => none

end VariableEntry

namespace FunctionEntry

def toJson (entry : FunctionEntry) : Json :=
  .object [("Address", entry.address.toJson), ("Params", NativeType.listJson entry.params),
    ("Return", entry.returns.toJson)]

def ofTree? (t : Tree) : Option FunctionEntry :=
  match t.record? [.required "Address", .defaulted "Params", .defaulted "Return"] with
  | some [some address, params, returns] => do
    let address ← Address.ofTree? address
    let params ← Tree.fieldOr? [] (Tree.listOf? NativeType.ofTree?) params
    let returns ← Tree.fieldOr? .void NativeType.ofTree? returns
    return { address, params, returns }
  | _ => none

end FunctionEntry

namespace ModuleTable

/-- The table without entries. -/
def empty : ModuleTable := ⟨.empty, .empty, .empty⟩

instance : Inhabited ModuleTable := ⟨empty⟩

/-- `table` with the entries of `other` inserted: new names come last, known names keep their place. -/
def extend (table other : ModuleTable) : ModuleTable where
  constants := table.constants.extend other.constants
  vars := table.vars.extend other.vars
  hooks := table.hooks.extend other.hooks

/-- Constants are left out when there are none. -/
def toJson (table : ModuleTable) : Json :=
  .object ((if table.constants.isEmpty then [] else [("constants", Json.ofMap table.constants)]) ++
    [("variables", Json.ofMap (table.vars.mapValues VariableEntry.toJson)),
      ("hooks", Json.ofMap (table.hooks.mapValues FunctionEntry.toJson))])

def ofTree? (t : Tree) : Option ModuleTable :=
  match t.record? [.defaulted "constants", .defaulted "variables", .defaulted "hooks"] with
  | some [constants, vars, hooks] => do
    let constants ← Tree.fieldOr? .empty (Tree.mapOf? Tree.toJson?) constants
    let vars ← Tree.fieldOr? .empty (Tree.mapOf? VariableEntry.ofTree?) vars
    let hooks ← Tree.fieldOr? .empty (Tree.mapOf? FunctionEntry.ofTree?) hooks
    return { constants, vars, hooks }
  | _ => none

end ModuleTable

end ModScript
