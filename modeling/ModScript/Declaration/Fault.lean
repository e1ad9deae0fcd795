import ModScript.Address
import ModScript.Callback

/-!
# What is wrong with a declaration

Every rule that a part of a mod can break, with the names that its message shows.
-/

namespace ModScript

/-- Where a callback stands in a declaration. -/
inductive CallbackPlace
  | init
  | exit
  | hook (name : String)
  | loop (name : String)
  | receiver (name : String)
deriving DecidableEq, Repr

/-- A broken rule of a declaration. -/
inductive DeclarationFault
  | blankName
  | blankGame (mod : String)
  | noModules (mod : String)
  | emptyModule (mod : String) (index : Nat)
  | blankVariable
  | variableInEmptyModule (name : String)
  | untypedVariable (name : String)
  | unsizedBlock (name : String)
  | unlocatedVariable (name : String)
  | repeatedVariable (name : String)
  | blankHook
  | hookInEmptyModule (name : String)
  | voidParameter (name : String)
  | replaceAndObserve (name : String)
  | idleHook (name : String)
  | unusableLoopName (name : String)
  | shortInterval (name : String)
  | idleLoop (name : String)
  | repeatedLoop (name : String)
  | nopInEmptyModule
  | emptyNop (module : String) (address : Address)
  | emptyReceiver
  | emptyEvent
  | callback (place : CallbackPlace) (fault : Callback.Fault)
  | halfLocatedVariable (name : String)
  | halfLocatedHook (name : String)
deriving DecidableEq, Repr

def CallbackPlace.text : CallbackPlace → String
  | .init => "init"
  | .exit => "exit"
  | .hook name => "hook " ++ name
  | .loop name => "loop " ++ name
  | .receiver name => "receiver " ++ name

def Callback.Fault.text : Callback.Fault → String
  | .blankScript => "script callback is empty"
  | .unnamedEvent => "emit callback needs an event name"
  | .unnamedVariable => "write_var callback needs a variable name"

def DeclarationFault.text : DeclarationFault → String
  | .blankName => "mod name must be non-empty"
  | .blankGame mod => "mod " ++ mod ++ ": game must be non-empty"
  | .noModules mod => "mod " ++ mod ++ ": at least one module is required"
  | .emptyModule mod index => "mod " ++ mod ++ ": module #" ++ toString index ++ " is empty"
  | .blankVariable => "variable name must be non-empty"
  | .variableInEmptyModule name => "variable " ++ name ++ ": module must be non-empty"
  | .untypedVariable name => "variable " ++ name ++ ": an explicit location needs a type"
  | .unsizedBlock name => "variable " ++ name ++ ": Block needs a positive size"
  | .unlocatedVariable name =>
    "variable " ++ name ++ ": type, pointer and size need an explicit location"
  | .repeatedVariable name => "variable " ++ name ++ " declared twice"
  | .blankHook => "hook name must be non-empty"
  | .hookInEmptyModule name => "hook " ++ name ++ ": module must be non-empty"
  | .voidParameter name => "hook " ++ name ++ ": void is only valid as a return type"
  | .replaceAndObserve name =>
    "hook " ++ name ++ ": replace cannot be combined with on_enter or on_leave"
  | .idleHook name => "hook " ++ name ++ ": needs on_enter, on_leave or replace"
  | .unusableLoopName name => "loop name '" ++ name ++ "' must be an identifier"
  | .shortInterval name => "loop " ++ name ++ ": interval must be at least 1ms"
  | .idleLoop name => "loop " ++ name ++ ": needs a handler"
  | .repeatedLoop name => "loop " ++ name ++ " declared twice"
  | .nopInEmptyModule => "nop module must be non-empty"
  | .emptyNop module address =>
    "nop at " ++ module ++ "+" ++ address.text ++ ": size must be positive"
  | .emptyReceiver => "receiver name must be non-empty"
  | .emptyEvent => "event name must be non-empty"
  | .callback place fault => place.text ++ ": " ++ fault.text
  | .halfLocatedVariable name =>
    "variable " ++ name ++ ": module and address must be given together"
  | .halfLocatedHook name => "hook " ++ name ++ ": module and address must be given together"

end ModScript
