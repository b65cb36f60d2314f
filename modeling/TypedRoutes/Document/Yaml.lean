import TypedRoutes.Document.Yaml.Graph

/-!
# Reading YAML

The subset of YAML without directives, tags and block scalars. A timestamp is read as a text. A
stream with nothing in it is null. Of the entries of a mapping with the same key the last gives the
value. A text is read in portions, and a character that no text can hold is noticed with the portion
that it is in. A document is read as a value if no node of it has a name, and always as a graph.
-/
namespace TypedRoutes
namespace Yaml

/-- The ranges of characters that a text can hold, both ends included. -/
def characterRanges : List (Nat × Nat) :=
  [(0x9, 0xA), (0xD, 0xD), (0x20, 0x7E), (0x85, 0x85), (0xA0, 0xD7FF), (0xE000, 0xFFFD),
   (0x10000, 0x10FFFF)]

def isCharacter (c : Char) : Bool :=
  characterRanges.any fun range => range.1 ≤ c.toNat && c.toNat ≤ range.2

/-- The size of the first portion. -/
def firstPortion : Nat := 8192

/-- The size of the other portions. -/
def laterPortion : Nat := 4096

/-- Where the portion begins that holds the character at an index. -/
def portionStart (index : Nat) : Nat :=
  if index < firstPortion then 0
  else firstPortion + (index - firstPortion) / laterPortion * laterPortion

/-- The part of a text that can be read, and whether it is the whole text. -/
def readablePart (cs : List Char) : Bool × List Char :=
  match cs.findIdx? fun c => !isCharacter c with
  | some index => (false, cs.take (portionStart index))
  | none => (true, cs)

/-- The tokens of the part of a text that can be read. -/
def tokens (s : String) : List Token :=
  Token.ofText (readablePart s.toList).1 (readablePart s.toList).2

/-- Reads a document in which no node has a name. -/
def read (s : String) : Except Failure Value :=
  match Node.ofTokens? (tokens s) with
  | .error failure => .error failure
  | .ok none => .ok .null
  | .ok (some node) => node.value

/-- Whether a token gives or refers to the name of a node. -/
def Token.isOfName : Token → Bool
  | .anchor _ | .reference _ => true
  | _ => false

/-- Reads a document. The mappings of a document with names have numbers from `first` on. -/
def readGraph (first : Nat) (s : String) : Except Failure Graph :=
  if (tokens s).any Token.isOfName then
    match Node.ofTokens? (tokens s) with
    | .error failure => .error failure
    | .ok none => .ok ⟨.plain .null, []⟩
    | .ok (some node) => node.graph first
  else (read s).map fun value => ⟨.plain value, []⟩

end Yaml
end TypedRoutes
