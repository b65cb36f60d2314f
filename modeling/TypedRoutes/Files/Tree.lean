import TypedRoutes.Fault.Basic
import TypedRoutes.Files.Pathname

/-!
# File trees

The files that path names lead to. A name is looked up component by component, each of which has to
stand in a directory. A path starts at the working directory, or at the root if it has one; around
the working directory there are directories, but no files. Names have a greatest length, beyond
which it cannot be told whether there is such a file.
-/
namespace TypedRoutes

/-- The components of a path from the working directory or from the root. -/
structure Location where
  isRooted : Bool
  components : List (List Char)
deriving DecidableEq

/-- Files by their locations, in the order in which they were made. -/
structure FileTree where
  files : List (Location × String)

namespace Location

def ofPathname (path : Pathname) : Location :=
  ⟨path.rootSlashes != 0, path.components⟩

/-- The name with which `file` goes on behind a location. -/
def nextName? (location file : Location) : Option (List Char) :=
  if location.isRooted == file.isRooted && location.components.isPrefixOf file.components then
    file.components[location.components.length]?
  else none

def child (location : Location) (name : List Char) : Location :=
  { location with components := location.components ++ [name] }

end Location

namespace FileTree

inductive Entry where
  | file (content : String)
  | directory
deriving DecidableEq

/-- A place in the tree, or somewhere around the working directory. -/
inductive Place where
  | inside (location : Location)
  | outside
deriving DecidableEq

/-- The tree of files by their names. -/
def ofFiles (files : List (String × String)) : FileTree :=
  ⟨files.map fun (name, content) => (.ofPathname (.ofText name.toList), content)⟩

/-- The names in the directory at a location, the latest first. -/
def namesAt (tree : FileTree) (location : Location) : List (List Char) :=
  (tree.files.filterMap fun (file, _) => location.nextName? file).eraseDups.reverse

/-- What is at a location: a file, or a directory that leads to one. -/
def entryAt? (tree : FileTree) (location : Location) : Option Entry :=
  match tree.files.lookup location with
  | some content => some (.file content)
  | none =>
    if location.components.isEmpty || !(tree.namesAt location).isEmpty then some .directory
    else none

def Place.entry? (tree : FileTree) : Place → Option Entry
  | inside location => tree.entryAt? location
  | outside => some .directory

/-- The directory around a location. Around the root there is nothing else. -/
def parentOf (location : Location) : Place :=
  if location.components.isEmpty && !location.isRooted then .outside
  else .inside { location with components := location.components.dropLast }

/-- The most bytes that the name of a component has. -/
def maxNameSize : Nat := 255

/-- The most bytes that a path has. -/
def maxPathSize : Nat := 4095

def sizeOf (name : List Char) : Nat :=
  (String.ofList name).utf8ByteSize

/-- Why a path leads nowhere. -/
inductive Obstacle where
  | missing
  | nameTooLong
deriving DecidableEq

/-- Goes from a place to its entry of the given name, if it is a directory. -/
def enter (tree : FileTree) (place : Place) (name : List Char) : Except Obstacle Place :=
  match place with
  | .outside => if name = ['.', '.'] then .ok .outside else .error .missing
  | .inside location =>
    if name = ['.', '.'] then .ok (parentOf location)
    else if (tree.entryAt? (location.child name)).isSome then .ok (.inside (location.child name))
    else .error .missing

/-- Goes from a directory to the component of the given name. -/
def step (tree : FileTree) (place : Place) (name : List Char) : Except Obstacle Place :=
  if place.entry? tree != some .directory then .error .missing
  else if Pathname.isIdle name then .ok place
  else if maxNameSize < sizeOf name then .error .nameTooLong
  else tree.enter place name

/-- The place that a path leads to. An empty path leads nowhere, and neither does one with the
character that ends names. -/
def locate (tree : FileTree) (path : List Char) : Except Obstacle Place :=
  if path.isEmpty || path.contains '\x00' then .error .missing
  else if maxPathSize < sizeOf path then .error .nameTooLong
  else (Text.pieces path).foldlM tree.step (.inside ⟨path.head? == some '/', []⟩)

/-- What a path leads to. -/
def entry? (tree : FileTree) (path : List Char) : Option Entry :=
  (tree.locate path).toOption.bind (Place.entry? tree)

/-- What a path leads to, if its length allows to tell. -/
def find (tree : FileTree) (path : List Char) : Except Failure (Option Entry) :=
  match tree.locate path with
  | .ok place => .ok (place.entry? tree)
  | .error .missing => .ok none
  | .error .nameTooLong => .error .nameTooLong

def isFile (tree : FileTree) (path : List Char) : Bool :=
  match tree.entry? path with
  | some (.file _) => true
  | _ => false

def isDirectory (tree : FileTree) (path : List Char) : Bool :=
  tree.entry? path == some .directory

/-- The names in the directory that a path leads to. A path with the character that ends names
cannot be gone through. -/
def names (tree : FileTree) (path : List Char) : Except Failure (List (List Char)) :=
  if path.contains '\x00' then .error .outOfRange
  else
    match tree.locate path with
    | .ok (.inside location) => .ok (tree.namesAt location)
    | _ => .ok []

/-- A text with every line end written as a line feed. -/
def unifyLineEnds : List Char → List Char
  | '\r' :: '\n' :: rest => '\n' :: unifyLineEnds rest
  | c :: rest => (if c = '\r' then '\n' else c) :: unifyLineEnds rest
  | [] => []

/-- The text of a file as it is read. -/
def textOf (content : String) : String :=
  String.ofList (unifyLineEnds content.toList)

end FileTree
end TypedRoutes
