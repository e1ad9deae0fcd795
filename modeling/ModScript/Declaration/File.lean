import ModScript.Declaration.Basic
import ModScript.Files.Basic
import ModScript.Toml.Reader

/-!
# Mod files

A mod file has one list per kind of part. Its declaration is made by the same steps as any other: its
variables, hooks, loops, nops, receivers and events in the order of the file, then what it does at the
beginning and at the end. The first entry that is refused decides on the fault.
-/

namespace ModScript

/-- A variable as it is written. -/
structure VariableText where
  name : String
  module : Option String
  address : Option Address
  pointer : Option Address
  kind : Option VariableType
  size : Option UInt64

/-- A hook as it is written. -/
structure HookText where
  name : String
  module : Option String
  address : Option Address
  params : Option (List NativeType)
  returns : Option NativeType
  enter : Option Callback
  leave : Option Callback
  replacement : Option Callback

/-- A loop as it is written, with its interval in milliseconds. -/
structure LoopText where
  name : String
  milliseconds : UInt64
  handler : Option Callback

/-- A mod as it is written. -/
structure ModFile where
  name : String
  game : String
  modules : List String
  init : Option Callback
  exit : Option Callback
  vars : List VariableText
  hooks : List HookText
  loops : List LoopText
  nops : List Nop
  receivers : List (String × Callback)
  events : List String

/-! ## Reading -/

namespace Tree

/-- A field that may be absent. -/
def givenOr? {α : Type} (read : Tree → Option α) : Option Tree → Option (Option α)
  | none => some none
  | some t => (read t).map some

/-- A list that is empty when it is absent. -/
def entries? {α : Type} (read : Tree → Option α) : Option Tree → Option (List α) :=
  fieldOr? [] (listOf? read)

end Tree

def VariableText.ofTree? (t : Tree) : Option VariableText :=
  match t.closedRecord? [.required "name", .optional "module", .optional "address",
      .optional "pointer", .optional "type", .optional "size"] with
  | some [some name, module, address, pointer, kind, size] => do
    let name ← name.text?
    let module ← Tree.givenOr? Tree.text? module
    let address ← Tree.givenOr? Address.ofTree? address
    let pointer ← Tree.givenOr? Address.ofTree? pointer
    let kind ← Tree.givenOr? (Tree.named? emptyPayload VariableType.ofName?) kind
    let size ← Tree.givenOr? Tree.word? size
    return { name, module, address, pointer, kind, size }
  | _ => none

def HookText.ofTree? (t : Tree) : Option HookText :=
  match t.closedRecord? [.required "name", .optional "module", .optional "address",
      .optional "params", .optional "returns", .optional "on_enter", .optional "on_leave",
      .optional "replace"] with
  | some [some name, module, address, params, returns, enter, leave, replacement] => do
    let nativeType := Tree.named? emptyPayload NativeType.ofName?
    let name ← name.text?
    let module ← Tree.givenOr? Tree.text? module
    let address ← Tree.givenOr? Address.ofTree? address
    let params ← Tree.givenOr? (Tree.listOf? nativeType) params
    let returns ← Tree.givenOr? nativeType returns
    let enter ← Tree.givenOr? Callback.ofTree? enter
    let leave ← Tree.givenOr? Callback.ofTree? leave
    let replacement ← Tree.givenOr? Callback.ofTree? replacement
    return { name, module, address, params, returns, enter, leave, replacement }
  | _ => none

def LoopText.ofTree? (t : Tree) : Option LoopText :=
  match t.closedRecord? [.required "name", .required "every_ms", .optional "run"] with
  | some [some name, some milliseconds, handler] => do
    let name ← name.text?
    let milliseconds ← milliseconds.word?
    let handler ← Tree.givenOr? Callback.ofTree? handler
    return { name, milliseconds, handler }
  | _ => none

def Nop.ofTree? (t : Tree) : Option Nop :=
  match t.closedRecord? [.required "module", .required "address", .required "size"] with
  | some [some module, some address, some size] => do
    let module ← module.text?
    let address ← Address.ofTree? address
    let size ← size.word?
    return { module, address, size := size.toNat }
  | _ => none

/-- A receiver: the name of a command and what happens on it. -/
def receiverOfTree? (t : Tree) : Option (String × Callback) :=
  match t.closedRecord? [.required "name", .required "callback"] with
  | some [some name, some callback] => do
    let name ← name.text?
    let callback ← Callback.ofTree? callback
    return (name, callback)
  | _ => none

/-- The name of an event that the host notes. -/
def eventOfTree? (t : Tree) : Option String :=
  match t.closedRecord? [.required "name"] with
  | some [some name] => name.text?
  | _ => none

namespace ModFile

def ofTree? (t : Tree) : Option ModFile :=
  match t.closedRecord? [.required "name", .required "game", .required "modules",
      .defaulted "init", .defaulted "exit", .defaulted "variables", .defaulted "hooks",
      .defaulted "loops", .defaulted "nops", .defaulted "receivers", .defaulted "events"] with
  | some [some name, some game, some modules, init, exit, vars, hooks, loops, nops, receivers,
      events] => do
    let name ← name.text?
    let game ← game.text?
    let modules ← Tree.listOf? Tree.text? modules
    let init ← Tree.givenOr? Callback.ofTree? init
    let exit ← Tree.givenOr? Callback.ofTree? exit
    let vars ← Tree.entries? VariableText.ofTree? vars
    let hooks ← Tree.entries? HookText.ofTree? hooks
    let loops ← Tree.entries? LoopText.ofTree? loops
    let nops ← Tree.entries? Nop.ofTree? nops
    let receivers ← Tree.entries? receiverOfTree? receivers
    let events ← Tree.entries? eventOfTree? events
    return { name, game, modules, init, exit, vars, hooks, loops, nops, receivers, events }
  | _ => none

/-- The mod that a text describes. -/
def parse (text : String) : Except Error ModFile :=
  match (Toml.read? text).bind ofTree? with
  | some file => .ok file
  | none => .error .malformedToml

end ModFile

/-! ## Declarations -/

/-- A module and an address, which go together. -/
def location (fault : DeclarationFault) :
    Option String → Option Address → Except DeclarationFault (Option (String × Address))
  | some module, some address => .ok (some (module, address))
  | none, none => .ok none
  | _, _ => .error fault

def VariableText.draft (text : VariableText) : Except DeclarationFault VariableDraft :=
  (location (.halfLocatedVariable text.name) text.module text.address).map fun place =>
    { name := text.name, location := place, pointer := text.pointer, kind := text.kind,
      size := text.size }

def HookText.draft (text : HookText) : Except DeclarationFault HookDraft :=
  (location (.halfLocatedHook text.name) text.module text.address).map fun place =>
    { name := text.name, location := place, params := text.params, returns := text.returns,
      enter := text.enter, leave := text.leave, replacement := text.replacement }

def LoopText.draft (text : LoopText) : LoopDraft :=
  { name := text.name, interval := .ofMilliseconds text.milliseconds.toNat,
    handler := text.handler }

namespace ModFile

/-- The steps that the entries of the file stand for. -/
def steps (file : ModFile) : List (Except DeclarationFault Declaration.Step) :=
  file.vars.map (fun entry => entry.draft.map .variable) ++
    file.hooks.map (fun entry => entry.draft.map .hook) ++
    file.loops.map (fun entry => .ok (.loop entry.draft)) ++
    file.nops.map (fun entry => .ok (.nop entry)) ++
    file.receivers.map (fun entry => .ok (.receive entry.1 entry.2)) ++
    file.events.map (fun event => .ok (.on event .note)) ++
    file.init.toList.map (fun callback => .ok (.init callback)) ++
    file.exit.toList.map fun callback => .ok (.exit callback)

/-- The declaration of the file. -/
def declaration (file : ModFile) : Except DeclarationFault Declaration := do
  let start ← Declaration.start file.name file.game file.modules
  file.steps.foldlM (fun declaration step => step.bind declaration.add) start

end ModFile

/-- The declaration of the text of a mod file. -/
def Declaration.parse (text : String) : Except Error Declaration :=
  (ModFile.parse text).bind fun file => file.declaration.mapError Error.declaration

/-- The declaration of the mod file at a path. What is wrong with the text is told with the path. -/
def Declaration.load {m : Type → Type} [Monad m] (files : Files m) (path : String) :
    ExceptT Error m Declaration := do
  let text ← files.text path
  match Declaration.parse text with
  | .ok declaration => return declaration
  | .error e => throw (.invalidMod path e)

end ModScript
