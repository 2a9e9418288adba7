import Plotline.Check.Package
import Plotline.Play.Player

/-!
The command line: what the arguments ask for, and what is printed.
-/

namespace Plotline.Cli

inductive Plan
  | usage (code : Nat)
  | unknownCommand (name : String)
  | missingPath
  | check (path : String)
  | play (path : String) (verbose : Bool)
  deriving DecidableEq, Repr

/-- What a run of the program leaves: its exit code and its two streams of output. -/
structure Result where
  code : Nat := 0
  out : String := ""
  err : String := ""
  deriving DecidableEq, Repr

def logVariable : String := "STORYWEAVE_DEBUG"

def verboseFlag : String := "--debug"

private def withPath (rest : List String) (plan : String → Plan) : Plan :=
  match rest.head?.filter fun path => !"--".toList.isPrefixOf path.toList with
  | some path => plan path
  | none => .missingPath

def plan : List String → Plan
  | [] => .usage 1
  | command :: rest =>
    if command = "play" then withPath rest fun path => .play path (rest.contains verboseFlag)
    else if command = "check" then withPath rest .check
    else if command = "--help" || command = "-h" then .usage 0
    else .unknownCommand command

def usage : String :=
  Terminal.textOf
    ["storyweave - Narrative event scheduler", "", "USAGE:",
      "    storyweave play <package.json> [--debug]", "    storyweave check <package.json>", "", "COMMANDS:",
      "    play <file> [--debug]    Play a story package in the terminal",
      "    check <file>             Validate a story package",
      "    --help, -h               Show this help message", "", "OPTIONS:",
      "    --debug    Show engine diagnostics and actor/camera/effect calls", "", "ENVIRONMENT:",
      "    " ++ logVariable ++ "    Enable debug logging"]

/-- The log of a game: all of it for a verbose one, else what the environment asks for. -/
def logSettings (asked verbose : Bool) : LogSettings :=
  if verbose then { LogSettings.standard asked with enabled := true }.allCategories else .standard asked

def logText (settings : LogSettings) (journal : Journal) : String :=
  Terminal.textOf ((journal.records settings).map (·.text))

/-- Saved games lie in a folder beside the package. -/
def savePath (path : String) : String := Path.join (Path.parent path) "saves"

/-- A reason that is not known is left out. -/
def reason (cause : String) : String := if cause.isEmpty then "Reason" else "Reason: " ++ cause

def usageError (message : String) : Result := { code := 1, out := usage, err := Terminal.textOf [message, ""] }

def unreadable (path cause : String) : Result :=
  { code := 1, err := Terminal.textOf ["Error: Failed to read file '" ++ path ++ "'", reason cause] }

/-- The check of a package text; the exit code tells whether there are errors. -/
def check (path text : String) : Result :=
  match StoryPackage.read text with
  | .error error =>
    { code := 1, err := Terminal.textOf ["Error: Failed to check '" ++ path ++ "'", reason error.message] }
  | .ok package => { code := if package.check.hasErrors then 2 else 0, out := package.checkText }

def playFailure (error : PlayError) : String :=
  Terminal.textOf ["Error: Player mode failed", reason error.message]

def play (text : String) (verbose asked : Bool) (input : String) (slots : Slots) : Result × Slots :=
  let outcome := Player.run text verbose input slots
  let log := logText (logSettings asked verbose) outcome.journal
  match outcome.error with
  | none => ({ out := outcome.text, err := log }, outcome.slots)
  | some error => ({ code := 1, out := outcome.text, err := log ++ playFailure error }, outcome.slots)

end Plotline.Cli
