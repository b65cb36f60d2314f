import TypedRoutes.Document.Yaml.Cursor
import TypedRoutes.Text.Hex

/-!
# The text of scalars

A plain scalar goes on until something ends it; a quoted one until its closing quote. Over several
lines, a single line break is a space, and of several the first is dropped. Double quotes have
escapes, within single quotes a quote is written twice.
-/
namespace TypedRoutes
namespace Yaml

/-- The line breaks and blank lines between two lines, as text: `first` is the break that ends the
upper line. -/
def foldBreaks (first : Char) (more : List Char) : List Char :=
  if breakText first != '\n' then breakText first :: more
  else if more.isEmpty then [' '] else more

/-! ## Plain scalars -/

/-- The characters that a plain scalar within brackets cannot hold. -/
def isFlowMark (c : Char) : Bool :=
  [',', '?', '[', ']', '\x7b', '\x7d'].contains c

/-- Whether a colon before `after` ends a plain scalar. -/
def colonEnds (inFlow : Bool) (after : List Char) : Bool :=
  isGap after ||
    (inFlow && match after with
      | c :: _ => [',', '[', ']', '\x7b', '\x7d'].contains c
      | [] => false)

/-- The number of characters up to a gap or to the end of a plain scalar. -/
def plainLength (inFlow : Bool) : List Char → Nat
  | [] => 0
  | c :: rest =>
    if isSpaceOrTab c || isBreak c || (c = ':' && colonEnds inFlow rest) ||
        (inFlow && isFlowMark c) then 0
    else plainLength inFlow rest + 1

/-- Blank lines and indents up to the next line with text, or nothing at a mark between
documents. -/
def plainBreaks : Nat → Cursor → Option (List Char) × Cursor
  | 0, here => (some [], here)
  | fuel + 1, here =>
    match here.rest with
    | c :: _ =>
      if c = ' ' then plainBreaks fuel here.step
      else if isBreak c then
        if atDocumentMark here.step.rest then (none, here.step)
        else
          let (more, after) := plainBreaks fuel here.step
          (more.map (breakText c :: ·), after)
      else (some [], here)
    | [] => (some [], here)

/-- What stands between two parts of a plain scalar, and whether it has a line break. -/
structure PlainGap where
  text : List Char
  hasBreak : Bool
  after : Cursor

def PlainGap.read (here : Cursor) : PlainGap :=
  let spaces := here.rest.takeWhile (· == ' ')
  let next := here.skip spaces.length
  match next.rest with
  | c :: _ =>
    if isBreak c then
      if atDocumentMark next.step.rest then ⟨[], true, next.step⟩
      else
        match plainBreaks next.rest.length next.step with
        | (some more, after) => ⟨foldBreaks c more, true, after⟩
        | (none, after) => ⟨[], true, after⟩
    else ⟨spaces, false, next⟩
  | [] => ⟨spaces, false, next⟩

/-- A plain scalar, and whether its last line is ended by a line break. -/
structure Plain where
  text : List Char
  hasBreak : Bool
  after : Cursor

/-- Whether a plain scalar is over after a gap. -/
def PlainGap.ends (gap : PlainGap) (inFlow : Bool) (margin : Nat) : Bool :=
  gap.text.isEmpty || gap.after.rest.head? == some '#' ||
    (!inFlow && gap.after.column < margin)

/-- Reads a plain scalar whose further lines are indented by at least `margin`. -/
def Plain.readFrom (inFlow : Bool) (margin : Nat) : Nat → Plain → List Char → Plain
  | 0, done, _ => done
  | fuel + 1, done, gapText =>
    match plainLength inFlow done.after.rest with
    | 0 => done
    | count =>
      let text := done.text ++ gapText ++ done.after.rest.take count
      let gap := PlainGap.read (done.after.skip count)
      let here : Plain := ⟨text, gap.hasBreak, gap.after⟩
      if gap.ends inFlow margin then here
      else Plain.readFrom inFlow margin fuel here gap.text

def Plain.read (inFlow : Bool) (margin : Nat) (here : Cursor) : Plain :=
  Plain.readFrom inFlow margin here.rest.length ⟨[], false, here⟩ []

/-! ## Quoted scalars -/

/-- The characters that escapes of one letter stand for. -/
def escapes : List (Char × Nat) :=
  [('0', 0x0), ('a', 0x7), ('b', 0x8), ('t', 0x9), ('\t', 0x9), ('n', 0xA), ('v', 0xB),
   ('f', 0xC), ('r', 0xD), ('e', 0x1B), (' ', 0x20), ('"', 0x22), ('\\', 0x5C), ('/', 0x2F),
   ('N', 0x85), ('_', 0xA0), ('L', 0x2028), ('P', 0x2029)]

/-- The number of hexadecimal digits after the letter of an escape. -/
def escapeWidths : List (Char × Nat) :=
  [('x', 2), ('u', 4), ('U', 8)]

def hexNumber? (cs : List Char) : Option Nat :=
  cs.foldl (fun n c => n.bind fun n => (Text.hexValue? c).map (16 * n + ·)) (some 0)

/-- Line breaks, blank lines and indents within quotes. -/
def quotedBreaks : Nat → Cursor → Except Failure (List Char × Cursor)
  | 0, _ => malformed
  | fuel + 1, here =>
    if atDocumentMark here.rest then malformed
    else
      let next := here.skipWhile isSpaceOrTab
      match next.rest with
      | c :: _ =>
        if isBreak c then
          (quotedBreaks fuel next.step).map fun (more, after) => (breakText c :: more, after)
        else .ok ([], next)
      | [] => .ok ([], next)

/-- Blanks within quotes, with the line breaks after them. -/
def quotedGap (here : Cursor) : Except Failure (List Char × Cursor) :=
  let blanks := here.rest.takeWhile isSpaceOrTab
  let next := here.skip blanks.length
  match next.rest with
  | c :: rest =>
    if isBreak c then
      (quotedBreaks (rest.length + 1) next.step).map fun (more, after) => (foldBreaks c more, after)
    else .ok (blanks, next)
  | [] => malformed

/-- Reads what follows the backslash of an escape. -/
def readEscape (here : Cursor) : Except Failure (List Char × Cursor) :=
  match here.rest with
  | [] => malformed
  | e :: rest =>
    match escapes.lookup e, escapeWidths.lookup e with
    | some n, _ => .ok ([Char.ofNat n], here.step)
    | none, some width =>
      match hexNumber? (rest.take width) with
      | some n =>
        if rest.length < width then malformed
        else if 0x7FFFFFFF < n then .error .tooLarge
        else if 0x110000 ≤ n then .error .outOfRange
        else .ok ([Char.ofNat n], here.skip (width + 1))
      | none => malformed
    | none, none =>
      if isBreak e then quotedBreaks (rest.length + 1) here.step else malformed

/-- Reads a quoted scalar behind its opening quote. -/
def readQuoted (double : Bool) : Nat → Cursor → Except Failure (List Char × Cursor)
  | 0, _ => malformed
  | fuel + 1, here =>
    let goOn := fun (found : List Char × Cursor) =>
      (readQuoted double fuel found.2).map fun (more, after) => (found.1 ++ more, after)
    match here.rest with
    | [] => malformed
    | c :: rest =>
      if c = (if double then '"' else '\'') then
        if !double && rest.head? = some '\'' then goOn (['\''], here.skip 2)
        else .ok ([], here.step)
      else if double && c = '\\' then (readEscape here.step).bind goOn
      else if isSpaceOrTab c || isBreak c then (quotedGap here).bind goOn
      else goOn ([c], here.step)

end Yaml
end TypedRoutes
