import Plotline.Cli

/-!
The program: it reads arguments, files and lines of input, and prints what the library answers.
-/

open Plotline

namespace Plotline.Cli

def printErrors (text : String) : IO Unit := do
  (← IO.getStderr).putStr text

def finish (result : Result) : IO UInt32 := do
  IO.print result.out
  printErrors result.err
  return UInt32.ofNat result.code

/-- The text of a file, or the system's word on why there is none. -/
def readText (path : String) : IO (Except String String) := do
  try
    return .ok (← IO.FS.readFile path)
  catch error => return .error (toString error)

/-- The folder of the slots as far as one slot is concerned. -/
def readSlot (slots : Slots) (slot : Nat) : IO Folder := do
  try
    let bytes ← IO.FS.readBinFile (slots.pathOf slot)
    return .present [(Slots.fileName slot, .file bytes)]
  catch
    | .noFileOrDirectory .. => return .absent
    | _ => return .present [(Slots.fileName slot, .folder)]

/-- Makes the folder of the slots and looks at one of them. -/
def makeSlot (slots : Slots) (slot : Nat) : IO Folder := do
  try
    IO.FS.createDirAll slots.path
    readSlot slots slot
  catch _ => return .blocked

/-- What a command is going to need from the disk. -/
def fetch (slots : Slots) : Command → IO Folder
  | .load slot => readSlot slots slot
  | .save slot => makeSlot slots slot
  | _ => return .absent

def store (slots : Slots) : Command → IO Unit
  | .save _ => slots.folder.files.forM fun (name, bytes) => IO.FS.writeBinFile (Path.join slots.path name) bytes
  | _ => return ()

def withFolder (folder : Folder) (p : Player) : Player :=
  { p with session := { p.session with slots := { p.session.slots with folder } } }

partial def loop (log : LogSettings) (p : Player) : IO UInt32 := do
  let (text, journal, p) := p.settle
  printErrors (logText log journal)
  IO.print text
  (← IO.getStdout).flush
  let line ← (← IO.getStdin).getLine
  if line.isEmpty then
    IO.print Player.farewell
    return 0
  let command := Command.parse line
  let (reply, journal, p) := (withFolder (← fetch p.session.slots command) p).answer line
  printErrors (logText log journal)
  match reply with
  | .error error => finish { code := 1, err := playFailure (.slots error) }
  | .ok reply =>
    try
      store p.session.slots command
      IO.print (Terminal.textOf reply.lines)
      if reply.goesOn then loop log p
      else
        IO.print Player.farewell
        return 0
    catch error => finish { code := 1, err := playFailure (.slots (.refused (.write (toString error)))) }

def playFile (path : String) (verbose : Bool) (text : String) : IO UInt32 := do
  let asked := (← IO.getEnv logVariable).isSome
  let log := logSettings asked verbose
  match StoryPackage.read text with
  | .error error => finish { code := 1, err := playFailure (.package error) }
  | .ok package =>
    match Player.start package verbose { path := savePath path, folder := .absent } with
    | (.error error, journal) => finish { code := 1, err := logText log journal ++ playFailure error }
    | (.ok p, journal) =>
      printErrors (logText log journal)
      IO.print (Player.clearScreen ++ Terminal.textOf Player.greeting)
      loop log p

end Plotline.Cli

def main (args : List String) : IO UInt32 := do
  match Cli.plan args with
  | .usage code => Cli.finish { code, out := Cli.usage }
  | .unknownCommand name => Cli.finish (Cli.usageError ("Error: Unknown command '" ++ name ++ "'"))
  | .missingPath => Cli.finish (Cli.usageError "Error: Missing package file path")
  | .check path =>
    match ← Cli.readText path with
    | .error cause => Cli.finish (Cli.unreadable path cause)
    | .ok text => Cli.finish (Cli.check path text)
  | .play path verbose =>
    match ← Cli.readText path with
    | .error cause => Cli.finish (Cli.unreadable path cause)
    | .ok text => Cli.playFile path verbose text
