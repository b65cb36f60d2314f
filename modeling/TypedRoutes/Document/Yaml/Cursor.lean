import TypedRoutes.Fault.Basic
import TypedRoutes.Text.Pieces

/-!
# Positions in YAML text

The layout of a YAML text carries meaning, so whoever reads it keeps the line and the column of what
comes next.
-/
namespace TypedRoutes
namespace Yaml

def malformed {α : Type} : Except Failure α :=
  .error (.malformed .yaml)

def lineSeparators : List Char := [Char.ofNat 0x2028, Char.ofNat 0x2029]

def isBreak (c : Char) : Bool :=
  c == '\n' || c == Char.ofNat 0x85 || lineSeparators.contains c

def isSpaceOrTab (c : Char) : Bool :=
  c == ' ' || c == '\t'

/-- Whether what follows is a blank, a line break or the end of the text. -/
def isGap : List Char → Bool
  | [] => true
  | c :: _ => isSpaceOrTab c || isBreak c

/-- A line break within a scalar. The separators of Unicode are kept. -/
def breakText (c : Char) : Char :=
  if lineSeparators.contains c then c else '\n'

def byteOrderMark : Char := Char.ofNat 0xFEFF

/-- The rest of a text, and where in the text it begins. -/
structure Cursor where
  rest : List Char
  index : Nat
  line : Nat
  column : Nat

namespace Cursor

def step (here : Cursor) : Cursor :=
  match here.rest with
  | [] => here
  | c :: rest =>
    let width := if c = byteOrderMark then 0 else 1
    if isBreak c then ⟨rest, here.index + 1, here.line + 1, 0⟩
    else ⟨rest, here.index + 1, here.line, here.column + width⟩

def skip : Nat → Cursor → Cursor
  | 0, here => here
  | n + 1, here => skip n here.step

def skipWhile (p : Char → Bool) (here : Cursor) : Cursor :=
  here.skip (here.rest.takeWhile p).length

/-- The start of a text, behind a byte order mark. -/
def ofText (cs : List Char) : Cursor :=
  let start : Cursor := ⟨cs, 0, 0, 0⟩
  if cs.head? = some byteOrderMark then start.step else start

end Cursor

/-- Whether a line begins with one of the marks between documents. -/
def startsWithMark (mark cs : List Char) : Bool :=
  match Text.afterLead? mark cs with
  | some rest => isGap rest
  | none => false

def startMark : List Char := ['-', '-', '-']

def endMark : List Char := ['.', '.', '.']

def atDocumentMark (cs : List Char) : Bool :=
  startsWithMark startMark cs || startsWithMark endMark cs

end Yaml
end TypedRoutes
