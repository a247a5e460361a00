import VrfClient.Files.Basic

/-!
Folders and files held in memory. The place of each is the list of names that lead to it from the root.
A path that starts with a slash is followed from the root, any other from the folder one is in. A single
dot, and nothing between two slashes, stays in a folder; two dots lead to the one above. -/

namespace VrfClient.Files.Simulated

/-- A place: the names on the way from the root. -/
abbrev Place := List String

/-- Files with their texts, the folders, and the folder one is in. -/
structure Tree where
  files : List (Place × String)
  folders : List Place
  current : Place

/-- The greatest number of bytes in one name. -/
def maxName : Nat := 255

/-- The greatest number of bytes in a path. -/
def maxPath : Nat := 4095

/-- A path cut at its slashes. -/
def segments : List Char → List (List Char)
  | [] => [[]]
  | c :: cs =>
    if c = '/' then [] :: segments cs
    else match segments cs with
      | s :: rest => (c :: s) :: rest
      | [] => [[c]]

namespace Tree

/-- Whether there is something at a place. -/
def holds (t : Tree) (place : Place) : Bool :=
  t.folders.contains place || (t.files.lookup place).isSome

/-- One step from a folder. -/
def step (t : Tree) (place : Place) (name : String) : Except FileFault Place :=
  if !t.folders.contains place then .error .notFolder
  else if name = "" ∨ name = "." then .ok place
  else if name = ".." then .ok place.dropLast
  else if maxName < name.utf8ByteSize then .error .nameTooLong
  else if t.holds (place ++ [name]) then .ok (place ++ [name])
  else .error .missing

/-- The text of the file at a place. -/
def textAt (t : Tree) (place : Place) : Except FileFault String :=
  match t.files.lookup place with
  | some text => .ok text
  | none => .error (if t.folders.contains place then .folder else .missing)

/-- The text of the file to which a path leads. -/
def read (t : Tree) (path : String) : Except FileFault String :=
  let cs := path.toList
  if cs.any fun c => c.toNat = 0 then .error .zeroCharacter
  else if maxPath < path.utf8ByteSize then .error .nameTooLong
  else do
    let start ← match cs with
      | [] => throw .missing
      | '/' :: _ => pure []
      | _ => pure t.current
    let place ← (segments cs).foldlM (fun place s => t.step place (String.ofList s)) start
    t.textAt place

end Tree

end VrfClient.Files.Simulated
