import Plotline.Save.Path

/-!
A single folder and what stands in it.
-/

namespace Plotline

inductive Item
  | file (bytes : ByteArray)
  | folder

/-- A folder that may or may not be there. `blocked` is a file in its place. -/
inductive Folder
  | absent
  | blocked
  | present (items : List (String × Item))

namespace Folder

/-- An absent folder is made on the way to a file in it. -/
def make? : Folder → Option (List (String × Item))
  | absent => some []
  | blocked => none
  | present items => some items

/-- Replaces the item under the name, or adds it at the end. -/
def put (name : String) (item : Item) : List (String × Item) → List (String × Item)
  | [] => [(name, item)]
  | (n, x) :: rest => if n = name then (n, item) :: rest else (n, x) :: put name item rest

def files : Folder → List (String × ByteArray)
  | present items =>
    items.filterMap fun (name, item) =>
      match item with
      | .file bytes => some (name, bytes)
      | .folder => none
  | _ => []

end Folder

end Plotline
