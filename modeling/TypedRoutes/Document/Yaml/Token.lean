import TypedRoutes.Document.Yaml.Scalar

/-!
# Tokens of YAML

A text is cut into tokens from left to right. Outside brackets the indent of a line opens and closes
collections. Whatever may turn out to be a key is remembered until the colon behind it comes, which
has to stand on the same line; then the tokens that open the key are put in front of it.
-/
namespace TypedRoutes
namespace Yaml

inductive Token where
  | documentStart
  | documentEnd
  | blockSequenceStart
  | blockMappingStart
  | blockEnd
  | flowSequenceStart
  | flowSequenceEnd
  | flowMappingStart
  | flowMappingEnd
  | entry
  | flowEntry
  | key
  | value
  | scalar (isPlain : Bool) (text : List Char)
  /-- A name for the node behind it. -/
  | anchor (name : List Char)
  /-- The node that has been given the name. -/
  | reference (name : List Char)
  /-- The place where the text cannot be cut into tokens. -/
  | broken (failure : Failure)
deriving DecidableEq

/-- What may turn out to be a key: where it stands, how many tokens come before it, and whether it
has to be a key. -/
structure PossibleKey where
  tokensBefore : Nat
  isRequired : Bool
  index : Nat
  line : Nat
  column : Nat

/-- A text that has been cut into tokens up to a place. -/
structure Lexer where
  here : Cursor
  /-- The columns of the open block collections, the innermost first. -/
  indents : List Nat
  /-- The possible key of the innermost bracket, or of the block outside all brackets. -/
  key : Option PossibleKey
  /-- The possible keys around it, the innermost first. -/
  outerKeys : List (Option PossibleKey)
  mayStartKey : Bool
  /-- The tokens so far, the last first. -/
  tokens : List Token

namespace Lexer

def ofText (cs : List Char) : Lexer :=
  ⟨.ofText cs, [], none, [], true, []⟩

def inFlow (lexer : Lexer) : Bool :=
  !lexer.outerKeys.isEmpty

def emit (lexer : Lexer) (token : Token) : Lexer :=
  { lexer with tokens := token :: lexer.tokens }

def advance (lexer : Lexer) (count : Nat) : Lexer :=
  { lexer with here := lexer.here.skip count }

/-- Skips the blanks, comments and line ends that the text starts with. Behind a line end outside
brackets a key may start. -/
def skipLayout (lexer : Lexer) (inComment : Bool) : List Char → Lexer
  | [] => lexer
  | c :: rest =>
    let next := { lexer with here := lexer.here.step }
    if isBreak c then
      skipLayout { next with mayStartKey := lexer.mayStartKey || !lexer.inFlow } false rest
    else if inComment || c = ' ' then skipLayout next inComment rest
    else if c = '#' then skipLayout next true rest
    else lexer

/-! ## Possible keys -/

/-- A key ends on the line it starts on, and within 1024 characters. -/
def isStale (lexer : Lexer) (key : PossibleKey) : Bool :=
  key.line != lexer.here.line || key.index + 1024 < lexer.here.index

/-- Forgets a possible key if it is stale. -/
def keepFresh (lexer : Lexer) (key : Option PossibleKey) : Except Failure (Option PossibleKey) :=
  match key with
  | none => .ok none
  | some k =>
    if lexer.isStale k then (if k.isRequired then malformed else .ok none) else .ok (some k)

def dropStaleKeys (lexer : Lexer) : Except Failure Lexer := do
  let key ← lexer.keepFresh lexer.key
  let outerKeys ← lexer.outerKeys.mapM lexer.keepFresh
  return { lexer with key, outerKeys }

/-- Forgets the possible key of the innermost bracket. -/
def dropKey (lexer : Lexer) : Except Failure Lexer :=
  match lexer.key with
  | some k => if k.isRequired then malformed else .ok { lexer with key := none }
  | none => .ok lexer

/-- Remembers that a key may start here. It is required at the column of a block mapping. -/
def noteKey (lexer : Lexer) : Except Failure Lexer :=
  if lexer.mayStartKey then
    lexer.dropKey.map fun lexer =>
      { lexer with key := some {
          tokensBefore := lexer.tokens.length
          isRequired := !lexer.inFlow && lexer.indents.head? == some lexer.here.column
          index := lexer.here.index
          line := lexer.here.line
          column := lexer.here.column } }
  else .ok lexer

/-! ## Indents -/

def popIndents (lexer : Lexer) (isOpen : Nat → Bool) : List Nat → Lexer
  | [] => { lexer with indents := [] }
  | indent :: rest =>
    if isOpen indent then { lexer with indents := indent :: rest }
    else popIndents (lexer.emit .blockEnd) isOpen rest

/-- Closes the block collections that are indented further than a column. -/
def unwind (lexer : Lexer) (column : Nat) : Lexer :=
  if lexer.inFlow then lexer else lexer.popIndents (· ≤ column) lexer.indents

def unwindAll (lexer : Lexer) : Lexer :=
  if lexer.inFlow then lexer else lexer.popIndents (fun _ => false) lexer.indents

/-- Whether a column is indented further than the innermost block collection. -/
def isDeeper (lexer : Lexer) (column : Nat) : Bool :=
  match lexer.indents with
  | [] => true
  | indent :: _ => indent < column

/-- Opens a block collection at the current column if it is indented further. -/
def openBlock (lexer : Lexer) (token : Token) : Lexer :=
  if lexer.isDeeper lexer.here.column then
    { lexer.emit token with indents := lexer.here.column :: lexer.indents }
  else lexer

/-- Puts a token in front of all but the first `count` tokens. -/
def insertAfter (lexer : Lexer) (count : Nat) (token : Token) : Lexer :=
  { lexer with
    tokens := lexer.tokens.take (lexer.tokens.length - count) ++
      token :: lexer.tokens.drop (lexer.tokens.length - count) }

/-! ## One token -/

def documentMark (lexer : Lexer) (token : Token) : Except Failure Lexer :=
  lexer.unwindAll.dropKey.map fun lexer =>
    { (lexer.advance 3).emit token with mayStartKey := false }

def openFlow (lexer : Lexer) (token : Token) : Except Failure Lexer :=
  lexer.noteKey.map fun lexer =>
    { (lexer.advance 1).emit token with
      key := none, outerKeys := lexer.key :: lexer.outerKeys, mayStartKey := true }

def closeFlow (lexer : Lexer) (token : Token) : Except Failure Lexer :=
  match lexer.dropKey with
  | .error failure => .error failure
  | .ok lexer =>
    match lexer.outerKeys with
    | [] => malformed
    | key :: outerKeys =>
      .ok { (lexer.advance 1).emit token with key, outerKeys, mayStartKey := false }

def flowEntry (lexer : Lexer) : Except Failure Lexer :=
  lexer.dropKey.map fun lexer => { (lexer.advance 1).emit .flowEntry with mayStartKey := true }

def blockEntry (lexer : Lexer) : Except Failure Lexer :=
  if !lexer.inFlow && !lexer.mayStartKey then malformed
  else
    let opened := if lexer.inFlow then lexer else lexer.openBlock .blockSequenceStart
    opened.dropKey.map fun lexer => { (lexer.advance 1).emit .entry with mayStartKey := true }

/-- Opens a key or a value that nothing before it can be the key of. -/
def explicit (lexer : Lexer) (token : Token) : Except Failure Lexer :=
  if !lexer.inFlow && !lexer.mayStartKey then malformed
  else
    let opened := if lexer.inFlow then lexer else lexer.openBlock .blockMappingStart
    opened.dropKey.map fun lexer =>
      { (lexer.advance 1).emit token with mayStartKey := !lexer.inFlow }

def value (lexer : Lexer) : Except Failure Lexer :=
  match lexer.key with
  | none => lexer.explicit .value
  | some k =>
    let withKey := lexer.insertAfter k.tokensBefore .key
    let opened :=
      if !lexer.inFlow && lexer.isDeeper k.column then
        { withKey.insertAfter k.tokensBefore .blockMappingStart with
          indents := k.column :: lexer.indents }
      else withKey
    .ok { (opened.advance 1).emit .value with key := none, mayStartKey := false }

def quotedScalar (lexer : Lexer) (double : Bool) : Except Failure Lexer := do
  let lexer ← lexer.noteKey
  let (text, after) ← readQuoted double lexer.here.rest.length lexer.here.step
  return { lexer.emit (.scalar false text) with here := after, mayStartKey := false }

def plainScalar (lexer : Lexer) : Except Failure Lexer :=
  lexer.noteKey.map fun lexer =>
    let margin := match lexer.indents with
      | [] => 0
      | indent :: _ => indent + 1
    let plain := Plain.read lexer.inFlow margin lexer.here
    { lexer.emit (.scalar true plain.text) with here := plain.after, mayStartKey := plain.hasBreak }

def isNameCharacter (c : Char) : Bool :=
  ('0' ≤ c && c ≤ '9') || ('A' ≤ c && c ≤ 'Z') || ('a' ≤ c && c ≤ 'z') || c == '-' || c == '_'

/-- The characters besides blanks that may stand behind the name of a node. -/
def nameEnders : List Char :=
  ['?', ':', ',', ']', '\x7d', '%', '@', Char.ofNat 0x60]

/-- Reads the name of a node behind its indicator. -/
def nodeName (lexer : Lexer) (token : List Char → Token) : Except Failure Lexer := do
  let lexer ← lexer.noteKey
  let name := lexer.here.step.rest.takeWhile isNameCharacter
  let after := lexer.here.step.skip name.length
  if name.isEmpty || !(isGap after.rest || (after.rest.head?.any nameEnders.contains)) then malformed
  else return { lexer.emit (token name) with here := after, mayStartKey := false }

/-- The characters that begin no plain scalar, or only before other text. -/
def indicators : List Char :=
  ['-', '?', ':', ',', '[', ']', '\x7b', '\x7d', '#', '&', '*', '!', '|', '>', '\'', '"', '%', '@',
    Char.ofNat 0x60]

def startsPlain (lexer : Lexer) (c : Char) (rest : List Char) : Bool :=
  !(isSpaceOrTab c || indicators.contains c) ||
    (!isGap rest && (c == '-' || (!lexer.inFlow && (c == '?' || c == ':'))))

/-- Reads the token that starts with `c`. Directives, tags and block scalars are not part of the
subset that is read. -/
def token (lexer : Lexer) (c : Char) (rest : List Char) : Except Failure Lexer :=
  let atLineStart := lexer.here.column == 0
  if c = '%' && atLineStart then malformed
  else if atLineStart && startsWithMark startMark (c :: rest) then lexer.documentMark .documentStart
  else if atLineStart && startsWithMark endMark (c :: rest) then lexer.documentMark .documentEnd
  else if c = '[' then lexer.openFlow .flowSequenceStart
  else if c = '\x7b' then lexer.openFlow .flowMappingStart
  else if c = ']' then lexer.closeFlow .flowSequenceEnd
  else if c = '\x7d' then lexer.closeFlow .flowMappingEnd
  else if c = ',' then lexer.flowEntry
  else if c = '-' && isGap rest then lexer.blockEntry
  else if c = '?' && (lexer.inFlow || isGap rest) then lexer.explicit .key
  else if c = ':' && (lexer.inFlow || isGap rest) then lexer.value
  else if c = '&' then lexer.nodeName .anchor
  else if c = '*' then lexer.nodeName .reference
  else if c = '\'' then lexer.quotedScalar false
  else if c = '"' then lexer.quotedScalar true
  else if lexer.startsPlain c rest then lexer.plainScalar
  else malformed

/-! ## All tokens -/

/-- The possible keys that are not stale. -/
def freshKeys (lexer : Lexer) : List PossibleKey :=
  (lexer.key :: lexer.outerKeys).filterMap fun key => key.filter fun k => !lexer.isStale k

/-- The tokens that no later token can come in front of, and the place where the text fails. -/
def failed (lexer : Lexer) (failure : Failure) : List Token :=
  let settled := (lexer.freshKeys.map (·.tokensBefore)).foldl min lexer.tokens.length
  lexer.tokens.reverse.take settled ++ [.broken failure]

/-- Reads the next token, with the tokens that the layout before it closes; none at the end of the
text. -/
def next? (lexer : Lexer) : Except Failure (Option Lexer) :=
  match (lexer.skipLayout false lexer.here.rest).dropStaleKeys with
  | .error failure => .error failure
  | .ok lexer =>
    let unwound := lexer.unwind lexer.here.column
    match unwound.here.rest with
    | [] => .ok none
    | c :: rest => (unwound.token c rest).map some

/-- The tokens of a text that has been read to its end. -/
def finish (lexer : Lexer) : List Token :=
  match lexer.unwindAll.dropKey with
  | .ok lexer => lexer.tokens.reverse
  | .error failure => lexer.failed failure

/-- Reads the tokens up to the end of the text, or to where it fails. If the text is not whole, but
what follows it cannot be read, its end is such a place, and so is a token that ends there. -/
def run (isWhole : Bool) : Nat → Lexer → List Token
  | 0, lexer => lexer.finish
  | fuel + 1, lexer =>
    match lexer.next? with
    | .error failure => lexer.failed failure
    | .ok none => if isWhole then lexer.finish else lexer.failed (.malformed .yaml)
    | .ok (some next) =>
      if isWhole || !next.here.rest.isEmpty then run isWhole fuel next
      else lexer.failed (.malformed .yaml)

end Lexer

/-- The tokens of a text, or of the part of a text that can be read. -/
def Token.ofText (isWhole : Bool) (cs : List Char) : List Token :=
  (Lexer.ofText cs).run isWhole (cs.length + 1)

end Yaml
end TypedRoutes
