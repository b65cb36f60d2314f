import TypedRoutes.Document.Nesting
import TypedRoutes.Document.Yaml.Token

/-!
# Nodes of YAML

The tokens of a document form one node. A node that is left out is an empty plain scalar. A node can
have a name, and be referred to by its name in another place. A stream holds one document, or
nothing. Where the text is broken, that is told only if all tokens before the break belong where they
stand.
-/
namespace TypedRoutes
namespace Yaml

inductive Node where
  | scalar (isPlain : Bool) (text : List Char)
  | sequence (items : List Node)
  /-- A mapping, and how many tokens are left behind its first one. No two mappings of a document
  begin in the same place. -/
  | mapping (place : Nat) (entries : List (Node × Node))
  /-- A node with a name. -/
  | anchored (name : List Char) (node : Node)
  /-- The node that has been given the name. -/
  | reference (name : List Char)

namespace Node

def empty : Node :=
  scalar true []

/-- What is read from the front of the tokens, and the rest of them. -/
abbrev Reader (α : Type) := List Token → Except Failure (α × List Token)

/-- The failure at tokens that do not belong where they stand. -/
def unexpected {α : Type} : List Token → Except Failure α
  | .broken failure :: _ => .error failure
  | _ => malformed

/-- Whether the next token is one of those given. -/
def isNext (choices : List Token) : List Token → Bool
  | token :: _ => choices.contains token
  | [] => false

/-- Whether the content of a node begins with the next token, outside brackets or within. -/
def beginsContent (inBlock : Bool) : List Token → Bool
  | .scalar .. :: _ | .flowSequenceStart :: _ | .flowMappingStart :: _ => true
  | .blockSequenceStart :: _ | .blockMappingStart :: _ => inBlock
  | _ => false

/-- The tokens from the next item or the closing bracket on: before every item but the first there
is a comma. -/
def beforeItem? : Bool → Token → List Token → Option (List Token)
  | true, _, tokens => some tokens
  | false, closing, token :: rest =>
    if token = closing then some (token :: rest)
    else if token = .flowEntry then some rest else none
  | false, _, [] => none

mutual

/-- Reads a node, outside brackets or within, with at most `depth` collections around each other. -/
def read : Nat → Nat → Bool → Reader Node
  | 0, _, _, _ => malformed
  | fuel + 1, depth, inBlock, tokens =>
    match tokens with
    | .scalar isPlain text :: rest => .ok (scalar isPlain text, rest)
    | .flowSequenceStart :: rest =>
      Nesting.deeper depth fun depth =>
        (readFlowItems fuel depth true rest).map fun (xs, r) => (sequence xs, r)
    | .flowMappingStart :: rest =>
      Nesting.deeper depth fun depth =>
        (readFlowEntries fuel depth true rest).map fun (xs, r) => (mapping rest.length xs, r)
    | .blockSequenceStart :: rest =>
      if inBlock then
        Nesting.deeper depth fun depth =>
          (readItems fuel depth rest).map fun (xs, r) => (sequence xs, r)
      else malformed
    | .blockMappingStart :: rest =>
      if inBlock then
        Nesting.deeper depth fun depth =>
          (readEntries fuel depth rest).map fun (xs, r) => (mapping rest.length xs, r)
      else malformed
    | .anchor name :: rest =>
      if beginsContent inBlock rest then
        (read fuel depth inBlock rest).map fun (node, r) => (anchored name node, r)
      else .ok (anchored name empty, rest)
    | .reference name :: rest => .ok (reference name, rest)
    | _ => unexpected tokens

/-- Reads a node that may be left out before one of the given tokens. -/
def readOr : Nat → Nat → Bool → List Token → Reader Node
  | 0, _, _, _, _ => malformed
  | fuel + 1, depth, inBlock, enders, tokens =>
    if isNext enders tokens then .ok (empty, tokens) else read fuel depth inBlock tokens

/-- Reads a key or a value of a block mapping, where a sequence need not be indented. -/
def readInEntry : Nat → Nat → Reader Node
  | 0, _, _ => malformed
  | fuel + 1, depth, tokens =>
    if isNext [.key, .value, .blockEnd] tokens then .ok (empty, tokens)
    else if isNext [.entry] tokens then
      Nesting.deeper depth fun depth =>
        (readLooseItems fuel depth tokens).map fun (xs, r) => (sequence xs, r)
    else
      match tokens with
      | .anchor name :: .entry :: rest =>
        Nesting.deeper depth fun depth =>
          (readLooseItems fuel depth (.entry :: rest)).map fun (xs, r) =>
            (anchored name (sequence xs), r)
      | _ => read fuel depth true tokens

/-- Reads the items of a block sequence up to its end. -/
def readItems : Nat → Nat → Reader (List Node)
  | 0, _, _ => malformed
  | fuel + 1, depth, tokens =>
    match tokens with
    | .blockEnd :: rest => .ok ([], rest)
    | .entry :: rest =>
      match readOr fuel depth true [.entry, .blockEnd] rest with
      | .error failure => .error failure
      | .ok (item, rest) => (readItems fuel depth rest).map fun (xs, r) => (item :: xs, r)
    | _ => unexpected tokens

/-- Reads the items of a sequence that is not indented, as far as they go. -/
def readLooseItems : Nat → Nat → Reader (List Node)
  | 0, _, _ => malformed
  | fuel + 1, depth, tokens =>
    match tokens with
    | .entry :: rest =>
      match readOr fuel depth true [.entry, .key, .value, .blockEnd] rest with
      | .error failure => .error failure
      | .ok (item, rest) => (readLooseItems fuel depth rest).map fun (xs, r) => (item :: xs, r)
    | _ => .ok ([], tokens)

/-- Reads the entries of a block mapping up to its end. -/
def readEntries : Nat → Nat → Reader (List (Node × Node))
  | 0, _, _ => malformed
  | fuel + 1, depth, tokens =>
    match tokens with
    | .blockEnd :: rest => .ok ([], rest)
    | .key :: rest =>
      match readInEntry fuel depth rest with
      | .error failure => .error failure
      | .ok (key, afterKey) =>
        match (match afterKey with
          | .value :: rest => readInEntry fuel depth rest
          | _ => .ok (empty, afterKey)) with
        | .error failure => .error failure
        | .ok (value, rest) =>
          (readEntries fuel depth rest).map fun (xs, r) => ((key, value) :: xs, r)
    | _ => unexpected tokens

/-- Reads a key within brackets, and the value that may follow it. -/
def readPair : Nat → Nat → Token → Reader (Node × Node)
  | 0, _, _, _ => malformed
  | fuel + 1, depth, closing, tokens =>
    match readOr fuel depth false [.value, .flowEntry, closing] tokens with
    | .error failure => .error failure
    | .ok (key, afterKey) =>
      match afterKey with
      | .value :: rest =>
        (readOr fuel depth false [.flowEntry, closing] rest).map fun (value, r) => ((key, value), r)
      | _ => .ok ((key, empty), afterKey)

/-- Reads the items of a flow sequence up to its closing bracket. An item with a key is a mapping
with one entry. -/
def readFlowItems : Nat → Nat → Bool → Reader (List Node)
  | 0, _, _, _ => malformed
  | fuel + 1, depth, isFirst, tokens =>
    match beforeItem? isFirst .flowSequenceEnd tokens with
    | none => unexpected tokens
    | some (.flowSequenceEnd :: rest) => .ok ([], rest)
    | some (.key :: rest) =>
      match Nesting.deeper depth fun depth => readPair fuel depth .flowSequenceEnd rest with
      | .error failure => .error failure
      | .ok (pair, after) =>
        (readFlowItems fuel depth false after).map fun (xs, r) =>
          (mapping rest.length [pair] :: xs, r)
    | some rest =>
      match read fuel depth false rest with
      | .error failure => .error failure
      | .ok (item, rest) => (readFlowItems fuel depth false rest).map fun (xs, r) => (item :: xs, r)

/-- Reads the entries of a flow mapping up to its closing brace. -/
def readFlowEntries : Nat → Nat → Bool → Reader (List (Node × Node))
  | 0, _, _, _ => malformed
  | fuel + 1, depth, isFirst, tokens =>
    match beforeItem? isFirst .flowMappingEnd tokens with
    | none => unexpected tokens
    | some (.flowMappingEnd :: rest) => .ok ([], rest)
    | some (.key :: rest) =>
      match readPair fuel depth .flowMappingEnd rest with
      | .error failure => .error failure
      | .ok (pair, rest) =>
        (readFlowEntries fuel depth false rest).map fun (xs, r) => (pair :: xs, r)
    | some rest =>
      match read fuel depth false rest with
      | .error failure => .error failure
      | .ok (key, rest) =>
        (readFlowEntries fuel depth false rest).map fun (xs, r) => ((key, empty) :: xs, r)

end

/-- Reads the tokens of a stream, which hold one document or nothing. -/
def ofTokens? (tokens : List Token) : Except Failure (Option Node) :=
  let fuel := 8 * tokens.length + 8
  let content := match tokens with
    | .documentStart :: rest =>
      readOr fuel Nesting.maxYaml true [.documentStart, .documentEnd] rest
    | tokens => read fuel Nesting.maxYaml true tokens
  match tokens with
  | [] => .ok none
  | [.documentStart] => .ok (some empty)
  | _ =>
    match content with
    | .error failure => .error failure
    | .ok (node, rest) =>
      match rest.dropWhile (· == .documentEnd) with
      | [] => .ok (some node)
      | more => unexpected more

end Node

end Yaml
end TypedRoutes
