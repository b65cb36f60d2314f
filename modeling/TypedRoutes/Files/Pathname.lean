import TypedRoutes.Text.Pieces

/-!
# Path names of files

A path name is a root and the names of components. Its text has no component that says nothing: no
empty one and no single dot. Two dots stay, since only the file tree knows where they lead.
-/
namespace TypedRoutes

/-- The slashes that a path name starts with, of which two differ from one, and its components. -/
structure Pathname where
  rootSlashes : Nat
  components : List (List Char)
deriving DecidableEq

namespace Pathname

/-- Whether a component stays where it is. -/
def isIdle (name : List Char) : Bool :=
  name.isEmpty || name == ['.']

/-- Three or more slashes at the start are as good as one. -/
def rootOf (cs : List Char) : Nat :=
  match (cs.takeWhile Text.isSlash).length with
  | 0 => 0
  | 2 => 2
  | _ => 1

def ofText (cs : List Char) : Pathname :=
  ⟨rootOf cs, (Text.pieces cs).filter fun name => !isIdle name⟩

def text (path : Pathname) : List Char :=
  if path.rootSlashes = 0 && path.components.isEmpty then ['.']
  else List.replicate path.rootSlashes '/' ++ Text.joinPieces path.components

/-- A path name seen from another. One with a root stands for itself. -/
def join (base path : Pathname) : Pathname :=
  if path.rootSlashes = 0 then ⟨base.rootSlashes, base.components ++ path.components⟩ else path

/-- The part of the last component from its last dot on. A dot at the start or at the end of the
component begins no suffix. -/
def suffix (path : Pathname) : List Char :=
  match path.components.getLast? with
  | none => []
  | some name =>
    let tail := (name.reverse.takeWhile (· != '.')).reverse
    if tail.isEmpty || name.length ≤ tail.length + 1 then [] else '.' :: tail

end Pathname
end TypedRoutes
