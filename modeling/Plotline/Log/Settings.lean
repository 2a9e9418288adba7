import Plotline.Text.Blank

/-!
The diagnostic log: which records are written, and how a record looks. Warnings and errors are always
written; the rest only on request, by level and category.
-/

namespace Plotline

inductive LogLevel
  | trace
  | debug
  | info
  | warn
  | error
  deriving DecidableEq, Repr

namespace LogLevel

def all : List LogLevel := [trace, debug, info, warn, error]

/-- More severe levels have higher ranks. -/
def severity : LogLevel → Nat
  | trace => 0
  | debug => 1
  | info => 2
  | warn => 3
  | error => 4

def shown : LogLevel → String
  | trace => "Trace"
  | debug => "Debug"
  | info => "Info"
  | warn => "Warn"
  | error => "Error"

def tag : LogLevel → String
  | trace => "TRACE"
  | debug => "DEBUG"
  | info => "INFO"
  | warn => "WARN"
  | error => "ERROR"

end LogLevel

/-- The concerns that can be listened to one by one. -/
inductive LogCategory
  | engine
  | flow
  | bus
  | conditions
  | scheduler
  | snapshot
  deriving DecidableEq, Repr

namespace LogCategory

def all : List LogCategory := [engine, flow, bus, conditions, scheduler, snapshot]

def shown : LogCategory → String
  | engine => "Engine"
  | flow => "Flow"
  | bus => "Bus"
  | conditions => "Conditions"
  | scheduler => "Scheduler"
  | snapshot => "Snapshot"

def concern : LogCategory → String
  | engine => "engine"
  | flow => "flow"
  | bus => "bus"
  | conditions => "conditions"
  | scheduler => "scheduler"
  | snapshot => "snapshot"

def targetPrefix : List Char := "storyweave::".toList

private def firstSegment : List Char → List Char
  | ':' :: ':' :: _ => []
  | c :: cs => c :: firstSegment cs
  | [] => []

/-- The category of a target such as `storyweave::bus::queue`. -/
def ofTarget? (target : String) : Option LogCategory :=
  let cs := target.toList
  if targetPrefix.isPrefixOf cs then
    let segment := String.ofList (firstSegment (cs.drop targetPrefix.length))
    all.find? (·.concern == segment)
  else none

end LogCategory

/-- Where a record comes from: one of the categories, or a place without one. -/
inductive LogSource
  | category (c : LogCategory)
  | place (target : String)
  deriving DecidableEq, Repr

namespace LogSource

def ofTarget (target : String) : LogSource :=
  match LogCategory.ofTarget? target with
  | some c => .category c
  | none => .place target

def shown : LogSource → String
  | category c => c.shown
  | place target => target

end LogSource

structure LogRecord where
  level : LogLevel
  source : LogSource
  message : String
  deriving DecidableEq, Repr

/-- The record as it is written, the source filled up to ten characters. -/
def LogRecord.text (r : LogRecord) : String :=
  "[" ++ r.level.tag ++ "] " ++ Text.padRight 10 r.source.shown ++ " " ++ r.message

inductive LogOutput
  | standardError
  | file (path : String)
  deriving DecidableEq, Repr

structure LogSettings where
  enabled : Bool := false
  level : LogLevel := .debug
  output : LogOutput := .standardError
  categories : List LogCategory := [.engine, .flow, .scheduler]
  deriving DecidableEq, Repr

namespace LogSettings

/-- The settings that hold where none are given; the environment may ask for the log. -/
def standard (asked : Bool) : LogSettings := { enabled := asked }

def allCategories (s : LogSettings) : LogSettings := { s with categories := LogCategory.all }

def allows (s : LogSettings) (level : LogLevel) (source : LogSource) : Bool :=
  if LogLevel.warn.severity ≤ level.severity then true
  else if !s.enabled || level.severity < s.level.severity then false
  else
    match source with
    | .category c => s.categories.contains c
    | .place _ => false

def writes (s : LogSettings) (r : LogRecord) : Bool := s.allows r.level r.source

end LogSettings

end Plotline
