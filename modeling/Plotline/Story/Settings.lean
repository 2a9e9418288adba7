import Plotline.Log.Settings
import Plotline.Number.Real

/-!
The settings of a scene.
-/

namespace Plotline

/-- What becomes of a node that a saved game shows in progress: it stays so, or it starts again. -/
inductive RestorePolicy
  | keep
  | restart
  deriving DecidableEq, Repr

structure SchedulingSettings where
  /-- At this priority all runners, and not only the first, may begin the story. -/
  equalFootingPriority : Int := 0
  restorePolicy : RestorePolicy := .keep
  deriving DecidableEq, Repr

structure InterpreterSettings where
  cinematicRevealSeconds : Single := .ofNat 2
  maxSteps : Nat := 10000
  deriving DecidableEq, Repr

structure Settings where
  scheduling : SchedulingSettings := {}
  interpreter : InterpreterSettings := {}
  log : LogSettings := {}
  deriving DecidableEq, Repr

def Settings.standard (logAsked : Bool) : Settings := { log := .standard logAsked }

end Plotline
