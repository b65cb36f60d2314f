import TypedRoutes.Text.Blank

/-!
# Pieces between slashes

Paths and templates are read piece by piece. Cutting at the slashes and joining with slashes undo
each other, so nothing is lost on the way.
-/
namespace TypedRoutes
namespace Text

def isSlash (c : Char) : Bool :=
  c == '/'

/-- The pieces between the slashes of a text; a text without a slash is one piece. -/
def pieces (cs : List Char) : List (List Char) :=
  cs.splitOn '/'

/-- Joins pieces with single slashes. -/
def joinPieces (ps : List (List Char)) : List Char :=
  ['/'].intercalate ps

/-- The text before the first character of a class. -/
def upTo (p : Char → Bool) (cs : List Char) : List Char :=
  cs.takeWhile fun c => !p c

/-- A text without slashes at its start. -/
def dropLeadingSlashes (cs : List Char) : List Char :=
  cs.dropWhile isSlash

/-- A text without slashes at its end. -/
def dropTrailingSlashes (cs : List Char) : List Char :=
  trimEnd isSlash cs

theorem dropTrailingSlashes_append_slash (cs : List Char) :
    dropTrailingSlashes (cs ++ ['/']) = dropTrailingSlashes cs := by
  simp [dropTrailingSlashes, trimEnd, isSlash]

theorem dropTrailingSlashes_dropTrailingSlashes (cs : List Char) :
    dropTrailingSlashes (dropTrailingSlashes cs) = dropTrailingSlashes cs :=
  trimEnd_trimEnd isSlash cs

/-- What follows `lead` in `cs`, if `cs` starts with it. -/
def afterLead? : List Char → List Char → Option (List Char)
  | [], cs => some cs
  | _ :: _, [] => none
  | l :: lead, c :: cs => if l = c then afterLead? lead cs else none

theorem afterLead?_eq_some_iff {lead cs rest : List Char} :
    afterLead? lead cs = some rest ↔ cs = lead ++ rest := by
  induction lead generalizing cs with
  | nil => simp [afterLead?]
  | cons l lead ih =>
    cases cs with
    | nil => simp [afterLead?]
    | cons c cs =>
      by_cases h : l = c
      · simp [afterLead?, h, ih]
      · simp [afterLead?, h, Ne.symm h]

/-- Splits at the first occurrence of a separator. -/
def cut (sep : Char) (cs : List Char) : Option (List Char × List Char) :=
  match cs.dropWhile (· != sep) with
  | _ :: rest => some (cs.takeWhile (· != sep), rest)
  | [] => none

def startsWith (lead : List Char) (cs : List Char) : Bool :=
  (afterLead? lead cs).isSome

/-- Whether `part` occurs in a text. -/
def occursIn (part : List Char) : List Char → Bool
  | [] => part.isEmpty
  | c :: cs => startsWith part (c :: cs) || occursIn part cs

end Text
end TypedRoutes
