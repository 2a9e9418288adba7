import Plotline.Save.Folder

/-!
Files and folders below a top folder. A place is the list of names that lead to it from the top; a path is
followed step by step, and only through folders that are there.
-/

namespace Plotline

/-- Each file with its bytes, each folder that was made on its own without any. The folders on the way to an
entry are there as well. -/
structure Files where
  entries : List (List String × Option ByteArray)

namespace Files

/-- The entries of a listing of paths, in which folders have no bytes. -/
def ofListing (listing : List (String × Option ByteArray)) : Files :=
  ⟨listing.map fun (path, bytes) => ((Path.steps path).filter (!Path.stays ·), bytes)⟩

def file? (files : Files) (place : List String) : Option ByteArray :=
  files.entries.findSome? fun (p, bytes) => if p = place then bytes else none

def isFolder (files : Files) (place : List String) : Bool :=
  place.isEmpty || files.entries.any fun (p, bytes) => place.isPrefixOf p && (p ≠ place || bytes.isNone)

/-- Where the steps lead from a place. -/
def follow (files : Files) (place : List String) : List String → Option (List String)
  | [] => some place
  | step :: steps =>
    if !files.isFolder place then none
    else if Path.stays step then files.follow place steps
    else if step = ".." then if place.isEmpty then none else files.follow place.dropLast steps
    else files.follow (place ++ [step]) steps

/-- Where a path leads. What lies outside the top folder is out of reach. -/
def place? (files : Files) (path : String) : Option (List String) :=
  if path.toList.head? = some '/' then none else files.follow [] (Path.steps path)

def read? (files : Files) (path : String) : Option ByteArray := (files.place? path).bind files.file?

/-- Adds an entry to the items of the folder at a place, if it lies in it. -/
private def addItem (place : List String) (items : List (String × Item))
    (entry : List String × Option ByteArray) : List (String × Item) :=
  if place.isPrefixOf entry.1 then
    match entry.1.drop place.length, entry.2 with
    | [], _ => items
    | [name], some bytes => Folder.put name (.file bytes) items
    | name :: _, _ => Folder.put name .folder items
  else items

def folderAt (files : Files) (place : List String) : Folder :=
  if files.isFolder place then .present (files.entries.foldl (addItem place) [])
  else if (files.file? place).isSome then .blocked
  else .absent

/-- Puts a changed folder in its place: its files take the place of those that were there. -/
def withFolder (place : List String) (folder : Folder) (files : Files) : Files :=
  let others := files.entries.filter fun (p, bytes) => p.isEmpty || p.dropLast ≠ place || bytes.isNone
  match folder with
  | .present _ => ⟨others ++ folder.files.map fun (name, bytes) => (place ++ [name], some bytes)⟩
  | _ => files

def toList (files : Files) : List (List String × ByteArray) :=
  files.entries.filterMap fun (place, bytes) => bytes.map (place, ·)

end Files

end Plotline
