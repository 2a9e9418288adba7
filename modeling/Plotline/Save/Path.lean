import Plotline.Text.Blank

/-!
Paths as they are written. A path is a row of steps with slashes between them; an empty step and a single dot
stay in the folder where they are taken.
-/

namespace Plotline.Path

def steps (path : String) : List String := (Text.splitAt '/' path.toList).map String.ofList

def stays (step : String) : Bool := step.isEmpty || step = "."

/-- What no step takes away from the beginning of a path: the slash of the top folder, or the dot of the
current one. -/
def anchored : List Char → List Char × List Char
  | '/' :: rest => (['/'], rest)
  | ['.'] => (['.'], [])
  | '.' :: '/' :: rest => (['.'], '/' :: rest)
  | path => ([], path)

/-- A path read from its end, without the last steps that stay where they are. -/
def settled : List Char → List Char
  | '/' :: rest => settled rest
  | ['.'] => []
  | '.' :: '/' :: rest => settled rest
  | path => path

/-- The path without its last step, for the rest as it is written. -/
def parent (path : String) : String :=
  let (anchor, rest) := anchored path.toList
  match settled rest.reverse with
  | [] => ""
  | body => String.ofList (anchor ++ (settled ((body.dropWhile (· ≠ '/')).drop 1)).reverse)

def join (folder name : String) : String :=
  if folder.isEmpty || folder.toList.getLast? = some '/' then folder ++ name else folder ++ "/" ++ name

end Plotline.Path
