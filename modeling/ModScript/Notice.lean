import ModScript.Error
import ModScript.Files.SystemPath
import ModScript.Json.Text

/-!
# Notices

What the library tells people while it works, as causes; `Notice.level` and `Notice.text` say how. Lines
that a script logs are notices of their own and are shown as such.
-/

namespace ModScript

/-- How serious a notice is. -/
inductive Severity
  | info | warning | error
deriving DecidableEq, Repr

/-- The label of a notice. -/
def Severity.text : Severity → String
  | info => "INFO"
  | warning => "WARN"
  | error => "ERROR"

/-- Something that people are told. -/
inductive Notice
  | skippedDirectory (path id : String)
  | gamesLoaded (count : Nat) (directory : String)
  | patchDetected (game patch key : String)
  | patchUnknown (game fingerprint defaultPatch : String)
  | binaryUnreadable (path : String) (cause : Error)
  | configIgnored (path : String) (cause : Error)
  | modFailed (id : String) (cause : Error)
  | constantSkipped (name game : String)
  | hookNotFound (hook mod patch : String)
  | hookForeign (hook mod module : String)
  | nopForeign (place mod : String)
  | eventReceived (event : String) (data : Json)
  | starting (path : SystemPath)
  | attached (process : String) (pid : Nat)
  | attachFailed (cause : Error)
  | detectionFailed (cause : Error)
  | cleanupLate (waited : Duration)
  | cleanupRefused (cause : Error)
  | detached (reason : String)
  | handlerFailed (event reason : String)
  | scriptFault (description : String)
  | scriptLine (severity : Severity) (line : String)

namespace Notice

def severity : Notice → Severity
  | gamesLoaded _ _ | patchDetected _ _ _ | eventReceived _ _ | starting _ | attached _ _
  | detached _ => .info
  | skippedDirectory _ _ | patchUnknown _ _ _ | binaryUnreadable _ _ | configIgnored _ _
  | constantSkipped _ _ | hookNotFound _ _ _ | hookForeign _ _ _ | nopForeign _ _
  | detectionFailed _ | cleanupLate _ | cleanupRefused _ => .warning
  | modFailed _ _ | attachFailed _ | handlerFailed _ _ | scriptFault _ => .error
  | scriptLine severity _ => severity

/-- The wording of a notice. -/
def text : Notice → String
  | skippedDirectory path id => "Skipping " ++ Text.quoted path ++ ": no " ++ id ++ ".json"
  | gamesLoaded count directory =>
    "Loaded " ++ toString count ++ " game(s) from " ++ directory
  | patchDetected game patch key => "Detected " ++ game ++ " " ++ patch ++ " (" ++ key ++ ")"
  | patchUnknown game fingerprint defaultPatch =>
    "Unknown " ++ game ++ " binary (fingerprint " ++ fingerprint ++ "), using default patch " ++
      defaultPatch
  | binaryUnreadable path cause => "Could not fingerprint " ++ path ++ ": " ++ cause.message
  | configIgnored path cause => "Ignoring config " ++ path ++ ": " ++ cause.message
  | modFailed id cause => "Failed to load mod " ++ id ++ ": " ++ cause.message
  | constantSkipped name game =>
    "Skipping constant " ++ Text.quoted name ++ " of game " ++ game ++
      ": not a free script identifier"
  | hookNotFound hook mod patch =>
    "Hook " ++ hook ++ " of mod " ++ mod ++ " not found in patch " ++ patch
  | hookForeign hook mod module =>
    "Hook " ++ hook ++ " of mod " ++ mod ++ " targets " ++ module ++ ", which is not a dependency"
  | nopForeign place mod =>
    "Nop " ++ place ++ " of mod " ++ mod ++ " is on a module that is not a dependency"
  | eventReceived event data => "[" ++ event ++ "] " ++ data.compact
  | starting path => "Starting " ++ path
  | attached process pid => "Attached to " ++ process ++ " (pid " ++ toString pid ++ ")"
  | attachFailed cause => "Attach failed: " ++ cause.message
  | detectionFailed cause =>
    "Patch detection failed, falling back to default: " ++ cause.message
  | cleanupLate waited => "Script cleanup timed out after " ++ waited.text
  | cleanupRefused cause => "Failed to request cleanup: " ++ cause.message
  | detached reason => "Detached: " ++ reason
  | handlerFailed event reason => "Event handler error (" ++ event ++ "): " ++ reason
  | scriptFault description => "Script error: " ++ description
  | scriptLine _ line => line

end Notice

end ModScript
