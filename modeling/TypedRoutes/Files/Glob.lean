import TypedRoutes.Files.Tree

/-!
# Patterns of file names

In a pattern a star stands for any characters of one component, a question mark for one character,
and brackets for one character of a class. A hidden name is found only by a pattern that also
starts with a dot.

A class lists characters and ranges; an exclamation mark in front turns it around. A range whose
ends are in the wrong order holds nothing and is left out with its ends, wherever it stands, so an
exclamation mark behind such a range can come to stand in front.
-/
namespace TypedRoutes
namespace Glob

inductive Mark where
  | exactly (c : Char)
  | one
  | many
  | inClass (negated : Bool) (ranges : List (Char × Char))

def isMagic (c : Char) : Bool :=
  c == '*' || c == '?' || c == '['

def hasMagic (pattern : List Char) : Bool :=
  pattern.any isMagic

/-! ## Classes -/

/-- Puts a character in front of the first chunk. -/
def pushFront (c : Char) : List (List Char) → List (List Char)
  | [] => [[c]]
  | chunk :: rest => (c :: chunk) :: rest

/-- Cuts the body of a class at the hyphens that stand for ranges. A hyphen among the first `skip`
characters stands for itself, and so does one among the two characters behind a cut. -/
def cutAtHyphens : Nat → List Char → List (List Char)
  | _, [] => [[]]
  | skip + 1, c :: rest => pushFront c (cutAtHyphens skip rest)
  | 0, c :: rest => if c = '-' then [] :: cutAtHyphens 2 rest else pushFront c (cutAtHyphens 0 rest)

/-- A hyphen at the end of a body stands for itself. -/
def keepLastHyphen : List (List Char) → List (List Char)
  | [chunk, []] => [chunk ++ ['-']]
  | chunk :: rest => chunk :: keepLastHyphen rest
  | [] => []

/-- Puts a chunk in front of others. If the range between it and the next one is in the wrong
order, both are joined without the ends of the range. -/
def joinChunk (chunk : List Char) : List (List Char) → List (List Char)
  | next :: rest =>
    match chunk.getLast?, next.head? with
    | some first, some last =>
      if last < first then (chunk.dropLast ++ next.tail) :: rest else chunk :: next :: rest
    | _, _ => chunk :: next :: rest
  | [] => [chunk]

/-- The body of a class, cut at the hyphens of the ranges that hold something. -/
def chunks (body : List Char) : List (List Char) :=
  let skip := if body.head? = some '!' then 2 else 1
  (keepLastHyphen (cutAtHyphens skip body)).foldr joinChunk []

/-- The range between two chunks. A hyphen with nothing before it stands for itself. -/
def rangeBetween (chunk next : List Char) : Char × Char :=
  match chunk.getLast?, next.head? with
  | some first, some last => (first, last)
  | _, _ => ('-', '-')

/-- The characters of chunks and the ranges between them. -/
def rangesOf : List (List Char) → List (Char × Char)
  | [] => []
  | [chunk] => chunk.map fun c => (c, c)
  | chunk :: next :: rest =>
    chunk.map (fun c => (c, c)) ++ rangeBetween chunk next :: rangesOf (next :: rest)

def Mark.ofChunks : List (List Char) → Mark
  | ('!' :: chunk) :: rest => .inClass true (rangesOf (chunk :: rest))
  | chunks => .inClass false (rangesOf chunks)

/-- The body of a class up to its closing bracket, which cannot come first. -/
def splitBody? : List Char → Option (List Char × List Char)
  | '!' :: ']' :: rest => (Text.cut ']' rest).map fun (body, after) => ('!' :: ']' :: body, after)
  | ']' :: rest => (Text.cut ']' rest).map fun (body, after) => (']' :: body, after)
  | cs => Text.cut ']' cs

/-- A class, and what follows it. -/
def readClass? (cs : List Char) : Option (Mark × List Char) :=
  (splitBody? cs).map fun (body, after) => (.ofChunks (chunks body), after)

/-! ## Patterns -/

/-- Reads a pattern. A bracket that nothing closes stands for itself. -/
def readMarks : Nat → List Char → List Mark
  | 0, _ => []
  | _ + 1, [] => []
  | fuel + 1, c :: rest =>
    if c = '*' then .many :: readMarks fuel rest
    else if c = '?' then .one :: readMarks fuel rest
    else if c = '[' then
      match readClass? rest with
      | some (mark, after) => mark :: readMarks fuel after
      | none => .exactly c :: readMarks fuel rest
    else .exactly c :: readMarks fuel rest

def marks (pattern : List Char) : List Mark :=
  readMarks pattern.length pattern

def Mark.holds : Mark → Char → Bool
  | exactly d, c => c == d
  | inClass negated ranges, c => (ranges.any fun (a, b) => a ≤ c && c ≤ b) != negated
  | _, _ => true

def suffixes : List Char → List (List Char)
  | [] => [[]]
  | c :: cs => (c :: cs) :: suffixes cs

/-- Whether marks stand for the whole of a name. -/
def accepts : List Mark → List Char → Bool
  | [], name => name.isEmpty
  | .many :: rest, name => (suffixes name).any fun suffix => accepts rest suffix
  | mark :: rest, c :: name => mark.holds c && accepts rest name
  | _ :: _, [] => false

def isHidden (name : List Char) : Bool :=
  name.head? == some '.'

/-- Whether a pattern of one component stands for a name. -/
def acceptsName (pattern name : List Char) : Bool :=
  accepts (marks pattern) name && (isHidden pattern || !isHidden name)

/-- The directory and the last component of a path. -/
def splitLast (path : List Char) : List Char × List Char :=
  let base := (path.reverse.takeWhile fun c => !Text.isSlash c).reverse
  let lead := path.take (path.length - base.length)
  (if lead.all Text.isSlash then lead else Text.dropTrailingSlashes lead, base)

def joinLast (directory name : List Char) : List Char :=
  if directory.getLast? = some '/' then directory ++ name else directory ++ '/' :: name

/-- The names in a directory that a pattern of one component stands for. -/
def namesIn (tree : FileTree) (directory pattern : List Char) (onlyDirectories : Bool) :
    Except Failure (List (List Char)) :=
  let here := if directory.isEmpty then ['.'] else directory
  (tree.names here).map fun names => names.filter fun name =>
    acceptsName pattern name && (!onlyDirectories || tree.isDirectory (joinLast here name))

/-- A component without magic stands for itself if it is there. -/
def nameIn (tree : FileTree) (directory name : List Char) : List (List Char) :=
  if name.isEmpty then (if tree.isDirectory directory then [name] else [])
  else if (tree.entry? (joinLast directory name)).isSome then [name] else []

/-- A path without magic, if it is there. -/
def literal (tree : FileTree) (path : List Char) : List (List Char) :=
  let (directory, base) := splitLast path
  let found := if base.isEmpty then tree.isDirectory directory else (tree.entry? path).isSome
  if found then [path] else []

/-- The paths that a pattern stands for, directory by directory. -/
def expand (tree : FileTree) : Nat → Bool → List Char → Except Failure (List (List Char))
  | 0, _, _ => .ok []
  | fuel + 1, onlyDirectories, pattern =>
    let (directory, base) := splitLast pattern
    if !hasMagic pattern then .ok (literal tree pattern)
    else if directory.isEmpty then namesIn tree [] base onlyDirectories
    else do
      let directories ←
        if directory != pattern && hasMagic directory then expand tree fuel true directory
        else .ok [directory]
      let found ← directories.mapM fun directory => do
        let names ←
          if hasMagic base then namesIn tree directory base onlyDirectories
          else .ok (nameIn tree directory base)
        return names.map (joinLast directory)
      return found.flatten

end Glob

/-- The paths in a tree that a pattern stands for. -/
def FileTree.glob (tree : FileTree) (pattern : String) : Except Failure (List String) :=
  (Glob.expand tree (pattern.length + 1) false pattern.toList).map fun paths =>
    paths.map String.ofList

end TypedRoutes
