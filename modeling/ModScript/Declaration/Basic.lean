import ModScript.Declaration.Part

/-!
# Declarations of mods

A declaration grows by steps; each step is checked on its own and against what is already there, so a
declaration that exists is one from which a script can be made. A step that is refused leaves nothing
behind.
-/

namespace ModScript

/-- What the host does with an event of the script: it notes the data, or it calls a handler that it
knows by a label. -/
inductive EventHandler
  | note
  | host (label : String)
deriving DecidableEq, Repr

/-- A mod for one game: which modules it supports, and what it changes in them. -/
structure Declaration where
  name : String
  game : String
  modules : List String
  vars : List Variable
  hooks : List Hook
  loops : List Loop
  nops : List Nop
  receivers : OrderedMap Callback
  events : OrderedMap EventHandler
  init : Option Callback
  exit : Option Callback

namespace Declaration

/-- One more thing that a mod asks for. -/
inductive Step
  | variable (draft : VariableDraft)
  | hook (draft : HookDraft)
  | loop (draft : LoopDraft)
  | nop (nop : Nop)
  | receive (name : String) (callback : Callback)
  | on (event : String) (handler : EventHandler)
  | init (callback : Callback)
  | exit (callback : Callback)

/-- The declaration that changes nothing in the given modules. -/
def start (name game : String) (modules : List String) : Except DeclarationFault Declaration :=
  if Text.isBlankText name then .error .blankName
  else if Text.isBlankText game then .error (.blankGame name)
  else if modules.isEmpty then .error (.noModules name)
  else
    match modules.findIdx? String.isEmpty with
    | some index => .error (.emptyModule name index)
    | none =>
      .ok { name, game, modules, vars := [], hooks := [], loops := [], nops := [],
            receivers := .empty, events := .empty, init := none, exit := none }

/-- The declaration with one more step. Variables and loops have names of their own; a receiver or an
event that is declared again gets the later callback. -/
def add (d : Declaration) : Step → Except DeclarationFault Declaration
  | .variable draft => do
    let accepted ← draft.check
    if d.vars.any fun known => known.name == accepted.name then
      throw (.repeatedVariable accepted.name)
    return { d with vars := d.vars ++ [accepted] }
  | .hook draft => do
    let accepted ← draft.check
    return { d with hooks := d.hooks ++ [accepted] }
  | .loop draft => do
    let accepted ← draft.check
    if d.loops.any fun known => known.name == accepted.name then
      throw (.repeatedLoop accepted.name)
    return { d with loops := d.loops ++ [accepted] }
  | .nop nop => do
    let accepted ← nop.check
    return { d with nops := d.nops ++ [accepted] }
  | .receive name callback => do
    if name.isEmpty then throw .emptyReceiver
    (CallbackPlace.receiver name).check callback
    return { d with receivers := d.receivers.insert name callback }
  | .on event handler =>
    if event.isEmpty then .error .emptyEvent
    else .ok { d with events := d.events.insert event handler }
  | .init callback => do
    CallbackPlace.init.check callback
    return { d with init := some callback }
  | .exit callback => do
    CallbackPlace.exit.check callback
    return { d with exit := some callback }

/-- The declaration with steps added from left to right, up to the first that is refused. -/
def addAll (d : Declaration) (steps : List Step) : Except DeclarationFault Declaration :=
  steps.foldlM add d

end Declaration

end ModScript
