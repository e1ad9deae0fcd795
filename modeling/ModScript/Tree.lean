import ModScript.Json.Basic

/-!
# Document trees

What a data file says before it is taken for anything: the common form of the two file formats. Members
of a table are in the order of the text and may repeat a name. A part that is well formed but holds no
value (a number out of range, a lone surrogate, nesting that is too deep) is `damaged`; it does no harm
where nobody looks at it.

`record?` reads a table, or a list of values in the order of the fields, against a list of fields.
-/

namespace ModScript

/-- The content of a document. -/
inductive Tree
  | null
  | bool (value : Bool)
  | number (value : Number)
  | unbounded
  | text (value : String)
  | list (items : List Tree)
  | table (members : List (String × Tree))
  | damaged

/-- What a record does without a field: refuse, go on if the record is a table, or always go on. -/
inductive Presence
  | required
  | optional
  | defaulted
deriving DecidableEq, Repr

/-- A field of a record. -/
structure Field where
  name : String
  presence : Presence
deriving DecidableEq, Repr

namespace Field

def required (name : String) : Field := ⟨name, .required⟩

def optional (name : String) : Field := ⟨name, .optional⟩

def defaulted (name : String) : Field := ⟨name, .defaulted⟩

end Field

namespace Tree

instance : Inhabited Tree := ⟨.null⟩

mutual

/-- The value as a free data value. A repeated name keeps its first place and its last value, and a
number that is infinite or undefined becomes `null`. -/
def toJson? : Tree → Option Json
  | .null => some .null
  | .bool b => some (.bool b)
  | .number n => some (.number n)
  | .unbounded => some .null
  | .text s => some (.string s)
  | .list items => (toItems? items).map .array
  | .table members => (toMembers? members).map fun ms => .object (OrderedMap.ofList ms).entries
  | .damaged => none

def toItems? : List Tree → Option (List Json)
  | [] => some []
  | item :: rest =>
    match toJson? item with
    | none => none
    | some value => (toItems? rest).map (value :: ·)

def toMembers? : List (String × Tree) → Option (List (String × Json))
  | [] => some []
  | (key, value) :: rest =>
    match toJson? value with
    | none => none
    | some v => (toMembers? rest).map ((key, v) :: ·)

end

mutual

/-- Nothing in the tree is damaged. -/
def isSound : Tree → Bool
  | .list items => itemsSound items
  | .table members => membersSound members
  | .damaged => false
  | _ => true

def itemsSound : List Tree → Bool
  | [] => true
  | item :: rest => isSound item && itemsSound rest

def membersSound : List (String × Tree) → Bool
  | [] => true
  | (_, value) :: rest => isSound value && membersSound rest

end

mutual

/-- The tree of a data value. -/
def ofJson : Json → Tree
  | .null => .null
  | .bool b => .bool b
  | .number n => .number n
  | .string s => .text s
  | .array items => .list (ofItems items)
  | .object members => .table (ofMembers members)

def ofItems : List Json → List Tree
  | [] => []
  | item :: rest => ofJson item :: ofItems rest

def ofMembers : List (String × Json) → List (String × Tree)
  | [] => []
  | (key, value) :: rest => (key, ofJson value) :: ofMembers rest

end

/-! ## Plain values -/

def text? : Tree → Option String
  | .text s => some s
  | _ => none

/-- A whole number from 0 up to `2 ^ 64 - 1`. -/
def word? : Tree → Option UInt64
  | .number (.whole n _) => if 0 ≤ n then some (UInt64.ofNat n.toNat) else none
  | _ => none

/-- `null` stands for no value. -/
def nullable? {α : Type} (read : Tree → Option α) : Tree → Option (Option α)
  | .null => some none
  | t => (read t).map some

/-- Reads every item of a list. -/
def listOf? {α : Type} (read : Tree → Option α) : Tree → Option (List α)
  | .list items => items.mapM read
  | _ => none

/-- Reads the values of a table as a map. -/
def mapOf? {α : Type} (read : Tree → Option α) : Tree → Option (OrderedMap α)
  | .table members =>
    (members.mapM fun member => (read member.2).map fun value => (member.1, value)).map
      OrderedMap.ofList
  | _ => none

/-- A field that is absent or read. -/
def fieldOr? {α : Type} (absent : α) (read : Tree → Option α) : Option Tree → Option α
  | none => some absent
  | some t => read t

/-! ## Records -/

/-- The only member of that name; `none` when the name is repeated. -/
def onlyMember? (members : List (String × Tree)) (name : String) : Option (Option Tree) :=
  match members.filter fun member => member.1 == name with
  | [] => some none
  | [member] => some (some member.2)
  | _ => none

/-- The fields of a table. Members of other names are passed over. -/
def tableFields? (fields : List Field) (members : List (String × Tree)) :
    Option (List (Option Tree)) :=
  fields.mapM fun field =>
    match onlyMember? members field.name with
    | some none => if field.presence = .required then none else some none
    | found => found

/-- The fields of a list that gives them in order; the last ones may be absent if they have defaults. -/
def listFields? : List Field → List Tree → Option (List (Option Tree))
  | [], _ => some []
  | field :: fields, [] =>
    if field.presence = .defaulted then (listFields? fields []).map (none :: ·) else none
  | _ :: fields, item :: items => (listFields? fields items).map (some item :: ·)

/-- The fields of a record, each absent or given. A list may not be longer than the record. -/
def record? (fields : List Field) : Tree → Option (List (Option Tree))
  | .table members => tableFields? fields members
  | .list items => if items.length ≤ fields.length then listFields? fields items else none
  | _ => none

/-- The fields of a record that also passes over items behind the last field. -/
def looseRecord? (fields : List Field) : Tree → Option (List (Option Tree))
  | .table members => tableFields? fields members
  | .list items => listFields? fields items
  | _ => none

/-- The fields of a record that refuses members of other names; a longer list is cut off. -/
def closedRecord? (fields : List Field) : Tree → Option (List (Option Tree))
  | .table members =>
    if members.all fun member => fields.any fun field => field.name == member.1 then
      tableFields? fields members
    else none
  | .list items => listFields? fields items
  | _ => none

/-! ## Names and kinds -/

/-- One of a list of named values: the name, or a table of the name alone with a payload that says
nothing. -/
def named? {α : Type} (emptyPayload : Tree → Bool) (find? : String → Option α) :
    Tree → Option α
  | .text name => find? name
  | .table [(name, payload)] => if emptyPayload payload then find? name else none
  | _ => none

/-- Splits a record that says its own kind: the kind, and the record without it. In a table the kind
stands under `tag`; in a list it comes first. -/
def kind? (tag : String) : Tree → Option (String × Tree)
  | .table members =>
    match onlyMember? members tag with
    | some (some (.text kind)) =>
      some (kind, .table (members.filter fun member => member.1 != tag))
    | _ => none
  | .list (.text kind :: rest) => some (kind, .list rest)
  | _ => none

end Tree

end ModScript
