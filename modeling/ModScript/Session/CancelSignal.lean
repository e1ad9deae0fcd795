/-!
# Cancel signals

A flag by which a pending attach is abandoned. A wait ends early when the flag is raised, before the wait
or during it, and says so.
-/

namespace ModScript

/-- A flag that stays raised until it is reset. -/
structure CancelSignal where
  triggered : Bool
deriving DecidableEq, Repr

namespace CancelSignal

/-- The signal of a new session. -/
def armed : CancelSignal := ⟨false⟩

def trigger (_ : CancelSignal) : CancelSignal := ⟨true⟩

def reset (_ : CancelSignal) : CancelSignal := ⟨false⟩

/-- The signal after a wait during which it was triggered or not. Its flag tells whether the wait was
cut short. -/
def after (signal : CancelSignal) (triggeredMeanwhile : Bool) : CancelSignal :=
  ⟨signal.triggered || triggeredMeanwhile⟩

end CancelSignal

end ModScript
