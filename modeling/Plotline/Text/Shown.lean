import Plotline.Text.Quoted

/-!
How structured values are shown in diagnostics: `Name { field: value }`, `Name(value)` and `[value, value]`.
-/

namespace Plotline.Text

def shownRecord (name : String) : List (String × String) → String
  | [] => name
  | fields =>
    name ++ " \x7b " ++ String.intercalate ", " (fields.map fun (key, value) => key ++ ": " ++ value) ++ " \x7d"

def shownTuple (name : String) (values : List String) : String :=
  name ++ "(" ++ String.intercalate ", " values ++ ")"

def shownList (values : List String) : String := "[" ++ String.intercalate ", " values ++ "]"

def shownOption : Option String → String
  | none => "None"
  | some value => shownTuple "Some" [value]

end Plotline.Text
