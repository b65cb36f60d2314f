/-!
# Styled text

A style is written as escape sequences in front of a text, colour first, with a reset behind it.
Where styles are not wanted, every escape sequence in a text is removed.
-/
namespace TypedRoutes

inductive Colour where
  | red
  | green
  | yellow
  | cyan
  | white
deriving DecidableEq

def Colour.code : Colour → String
  | .red => "31"
  | .green => "32"
  | .yellow => "33"
  | .cyan => "36"
  | .white => "37"

structure Style where
  colour : Option Colour := none
  bold : Bool := false
  dim : Bool := false

namespace Style

def escape : Char := Char.ofNat 0x1B

def sequence (code : String) : String :=
  String.ofList [escape, '['] ++ code ++ "m"

def codes (style : Style) : List String :=
  (style.colour.map Colour.code).toList ++ (if style.bold then ["1"] else []) ++
    (if style.dim then ["2"] else [])

/-- A text in a style. -/
def apply (style : Style) (text : String) : String :=
  String.join (style.codes.map sequence) ++ text ++ sequence "0"

def isParameter (c : Char) : Bool :=
  c == ';' || c == '?' || ('0' ≤ c && c ≤ '9')

/-- What follows the rest of an escape sequence, if there is one. -/
def afterSequence? (cs : List Char) : Option (List Char) :=
  match cs with
  | '[' :: rest =>
    match rest.dropWhile isParameter with
    | c :: after => if c.isAlpha then some after else none
    | [] => none
  | _ => none

/-- Removes the escape sequences from a text. -/
def stripFrom : Nat → List Char → List Char
  | 0, cs => cs
  | _ + 1, [] => []
  | fuel + 1, c :: rest =>
    if c = escape then
      match afterSequence? rest with
      | some after => stripFrom fuel after
      | none => c :: stripFrom fuel rest
    else c :: stripFrom fuel rest

def strip (s : String) : String :=
  String.ofList (stripFrom s.length s.toList)

end Style

end TypedRoutes
