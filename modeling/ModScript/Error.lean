import ModScript.Declaration.Fault
import ModScript.Duration
import ModScript.Text.Quoted

/-!
# Errors

Every way in which an operation can fail, as a cause; `Error.message` is the wording. A fault of a file
or of a document's text is told by its class alone: which line it is on, or what the system says about
it, is not part of the cause.
-/

namespace ModScript

/-- Why a file could not be read or written. -/
inductive FileFault
  | missing
  | unusable
deriving DecidableEq, Repr

/-- What is wrong with the configuration of a game. -/
inductive GameFault
  | unnamed
  | noPatches (game : String)
  | defaultMissing (patch game : String)
  | unknownParent (patch : String)
  | noTable (patch module : String)
deriving DecidableEq, Repr

/-- Why an operation failed. -/
inductive Error
  | declaration (fault : DeclarationFault)
  | unknownGame (id : String)
  | unknownPatch (game patch : String)
  | invalidGame (fault : GameFault)
  | invalidAddress (text : String) (fault : Address.Fault)
  | inheritanceCycle (chain : List String) (module : String)
  | modNotFound (id : String)
  | invalidMod (path : String) (cause : Error)
  | notAttached (cause : Error)
  | detachedEarly (reason : String)
  | notLoaded (cause : Error)
  | notReady (waited : Duration)
  | backend (reason : String)
  | noSession (command : String)
  | file (fault : FileFault)
  | malformedJson
  | malformedToml
deriving DecidableEq, Repr

def Address.Fault.text : Address.Fault → String
  | .unmarked => " is missing the 0x prefix"
  | .noDigits => " has no digits"
  | .invalidDigit => ": invalid digit found in string"
  | .tooLarge => ": number too large to fit in target type"

def GameFault.text : GameFault → String
  | .unnamed => "id and executable must be non-empty"
  | .noPatches game => "game " ++ game ++ " declares no patches"
  | .defaultMissing patch game =>
    "defaultPatch '" ++ patch ++ "' not found in patches of " ++ game
  | .unknownParent patch => "unknown patch '" ++ patch ++ "'"
  | .noTable patch module => "patch '" ++ patch ++ "' has no table for " ++ module

def FileFault.text : FileFault → String
  | .missing => "No such file or directory (os error 2)"
  | .unusable => "The file or directory cannot be used"

/-- The wording of an error. -/
def Error.message : Error → String
  | .declaration fault => "Invalid declaration: " ++ fault.text
  | .unknownGame id => "Unknown game: " ++ id
  | .unknownPatch game patch => "Unknown patch '" ++ patch ++ "' for game " ++ game
  | .invalidGame fault => "Invalid game config: " ++ fault.text
  | .invalidAddress text fault => "Invalid address: '" ++ text ++ "'" ++ fault.text
  | .inheritanceCycle chain module =>
    "Patch inheritance cycle: " ++ " -> ".intercalate chain ++ " (" ++ module ++ ")"
  | .modNotFound id => "Mod not found: " ++ id
  | .invalidMod path cause =>
    "Invalid mod file " ++ Text.quoted path ++ ": " ++ cause.message
  | .notAttached cause => "Failed to attach: " ++ cause.message
  | .detachedEarly reason => "Failed to attach: detached before ready: " ++ reason
  | .notLoaded cause => "Failed to load script: " ++ cause.message
  | .notReady waited => "Script did not report ready within " ++ waited.text
  | .backend reason => "Instrumentation backend error: " ++ reason
  | .noSession command =>
    "Instrumentation backend error: cannot send '" ++ command ++ "': no active session"
  | .file fault => "IO error: " ++ fault.text
  | .malformedJson => "JSON error: malformed document"
  | .malformedToml => "TOML error: malformed document"

end ModScript
