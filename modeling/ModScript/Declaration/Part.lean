import ModScript.Declaration.Fault
import ModScript.Duration
import ModScript.Script.Names
import ModScript.Table.Entry

/-!
# Parts of a declaration

Variables, hooks, loops and nops. A draft says what a mod asks for; `check` accepts it as a part or
names the first rule that it breaks. Accepted parts cannot be half located, idle or replaced and
observed at once: their types leave no room for it.
-/

namespace ModScript

/-- Refuses a callback that could never do anything. -/
def CallbackPlace.check (place : CallbackPlace) (callback : Callback) :
    Except DeclarationFault Unit :=
  match callback.fault? with
  | some fault => .error (.callback place fault)
  | none => .ok ()

/-! ## Variables -/

/-- A variable that a mod uses: known to the tables, or with a module and an entry of its own. -/
structure Variable where
  name : String
  place : Option (String × VariableEntry)
deriving DecidableEq, Repr

/-- What a mod asks for in a variable. -/
structure VariableDraft where
  name : String
  location : Option (String × Address) := none
  pointer : Option Address := none
  kind : Option VariableType := none
  size : Option UInt64 := none
deriving DecidableEq, Repr

/-- The entry of a variable with a place of its own. -/
def VariableDraft.entry (draft : VariableDraft) (module : String) (address : Address) :
    Except DeclarationFault VariableEntry :=
  if module.isEmpty then .error (.variableInEmptyModule draft.name)
  else
    match draft.kind with
    | none => .error (.untypedVariable draft.name)
    | some kind =>
      if kind.requiresSize && draft.size.all (· == 0) then .error (.unsizedBlock draft.name)
      else .ok { address, kind, pointer := draft.pointer, size := draft.size }

def VariableDraft.check (draft : VariableDraft) : Except DeclarationFault Variable :=
  if Text.isBlankText draft.name then .error .blankVariable
  else
    match draft.location with
    | some (module, address) =>
      (draft.entry module address).map fun entry => ⟨draft.name, some (module, entry)⟩
    | none =>
      if draft.kind.isSome || draft.pointer.isSome || draft.size.isSome then
        .error (.unlocatedVariable draft.name)
      else .ok ⟨draft.name, none⟩

/-! ## Hooks -/

/-- What happens when the hooked function is called: it is replaced, or it is observed on enter, on
leave or both. -/
inductive HookAction
  | replace (callback : Callback)
  | observe (enter leave : Option Callback)

/-- The interception of a native function, found by name in the tables or at a location of its own. -/
structure Hook where
  name : String
  location : Option (String × Address)
  params : Option (List NativeType)
  returns : Option NativeType
  action : HookAction

/-- What a mod asks for in a hook. -/
structure HookDraft where
  name : String
  location : Option (String × Address) := none
  params : Option (List NativeType) := none
  returns : Option NativeType := none
  enter : Option Callback := none
  leave : Option Callback := none
  replacement : Option Callback := none

/-- The action of a hook, before its callbacks are looked at. -/
def HookDraft.action (draft : HookDraft) : Except DeclarationFault HookAction :=
  match draft.replacement, draft.enter, draft.leave with
  | some callback, none, none => .ok (.replace callback)
  | some _, _, _ => .error (.replaceAndObserve draft.name)
  | none, none, none => .error (.idleHook draft.name)
  | none, enter, leave => .ok (.observe enter leave)

/-- The callbacks of an action in the order in which they are looked at. -/
def HookAction.callbacks : HookAction → List Callback
  | .replace callback => [callback]
  | .observe enter leave => enter.toList ++ leave.toList

def HookDraft.check (draft : HookDraft) : Except DeclarationFault Hook := do
  if Text.isBlankText draft.name then throw .blankHook
  if draft.location.any fun place => place.1.isEmpty then throw (.hookInEmptyModule draft.name)
  if draft.params.any fun params => params.any NativeType.isVoid then
    throw (.voidParameter draft.name)
  let action ← draft.action
  action.callbacks.forM (CallbackPlace.hook draft.name).check
  return { name := draft.name, location := draft.location, params := draft.params,
           returns := draft.returns, action }

/-! ## Loops -/

/-- An action that recurs while the active module is supported. -/
structure Loop where
  name : String
  interval : Duration
  handler : Callback

/-- What a mod asks for in a loop. -/
structure LoopDraft where
  name : String
  interval : Duration := ⟨0⟩
  handler : Option Callback := none

def LoopDraft.check (draft : LoopDraft) : Except DeclarationFault Loop := do
  if !isIdentifier draft.name then throw (.unusableLoopName draft.name)
  if draft.interval.nanoseconds < (Duration.ofMilliseconds 1).nanoseconds then
    throw (.shortInterval draft.name)
  match draft.handler with
  | none => throw (.idleLoop draft.name)
  | some handler =>
    (CallbackPlace.loop draft.name).check handler
    return ⟨draft.name, draft.interval, handler⟩

/-! ## Nops -/

/-- Bytes of code that are to do nothing. -/
structure Nop where
  module : String
  address : Address
  size : Nat
deriving DecidableEq, Repr

def Nop.check (nop : Nop) : Except DeclarationFault Nop :=
  if nop.module.isEmpty then .error .nopInEmptyModule
  else if nop.size = 0 then .error (.emptyNop nop.module nop.address)
  else .ok nop

/-- Where the code is, as text. -/
def Nop.place (nop : Nop) : String := nop.module ++ "+" ++ nop.address.text

end ModScript
