import Plotline.Format.Program
import Plotline.Story.Settings

/-!
Settings as JSON. Everything may be left out, the parts of the log's settings apart.
-/

namespace Plotline

open Decoder

namespace RestorePolicy

def key : RestorePolicy → String
  | keep => "keep"
  | restart => "restart"

def decoder : Decoder RestorePolicy := name [("keep", keep), ("restart", restart)]

end RestorePolicy

namespace LogLevel

def decoder : Decoder LogLevel := name (all.map fun l => (l.shown, l))

end LogLevel

namespace LogCategory

def decoder : Decoder LogCategory := name (all.map fun c => (c.shown, c))

end LogCategory

namespace LogOutput

def decoder : Decoder LogOutput :=
  choice [("Stderr", .unit .standardError), ("File", .wrapped (Decoder.map .file text))]

def json : LogOutput → Json
  | standardError => .text "Stderr"
  | file path => .object [("File", .text path)]

end LogOutput

namespace LogSettings

def decoder : Decoder LogSettings :=
  record "struct DebugConfig"
    (.cons (required "enabled" boolean)
      (.cons (required "level" LogLevel.decoder)
        (.cons (required "output" LogOutput.decoder)
          (.cons (required "categories" (list LogCategory.decoder)) .nil))))
    fun (enabled, level, output, categories, ()) => { enabled, level, output, categories }

end LogSettings

namespace SchedulingSettings

def decoder : Decoder SchedulingSettings :=
  record "struct SchedulingConfig"
    (.cons (withDefault "equal_footing_priority" integer32 0)
      (.cons (withDefault "restore_in_progress" RestorePolicy.decoder .keep) .nil))
    fun (equalFootingPriority, restorePolicy, ()) => { equalFootingPriority, restorePolicy }

end SchedulingSettings

namespace InterpreterSettings

def decoder : Decoder InterpreterSettings :=
  record "struct InterpreterConfig"
    (.cons (withDefault "cinematic_reveal_seconds" single (.ofNat 2))
      (.cons (withDefault "max_steps_per_resume" size 10000) .nil))
    fun (cinematicRevealSeconds, maxSteps, ()) => { cinematicRevealSeconds, maxSteps }

end InterpreterSettings

namespace Settings

def decoder (logAsked : Bool) : Decoder Settings :=
  record "struct EngineConfig"
    (.cons (withDefault "scheduling" SchedulingSettings.decoder {})
      (.cons (withDefault "interpreter" InterpreterSettings.decoder {})
        (.cons (withDefault "debug" LogSettings.decoder (.standard logAsked)) .nil)))
    fun (scheduling, interpreter, log, ()) => { scheduling, interpreter, log }

/-- Reads settings from their JSON text. An environment that asks for the log overrules them. -/
def read (logAsked : Bool) (text : String) : Except ReadError Settings := do
  let settings ← (decoder logAsked).read text
  return if logAsked then { settings with log := { settings.log with enabled := true } } else settings

end Settings

end Plotline
