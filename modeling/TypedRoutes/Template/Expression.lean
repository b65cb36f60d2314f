import Mathlib.Computability.Language
import TypedRoutes.Named
import TypedRoutes.Parameter.Form
import TypedRoutes.Template.Pattern
import TypedRoutes.Text.LetterCase

/-!
# The meaning of regular expressions

The regular expressions of templates, as they are written and what they match. A fragment heeds case
and has no groups, so it means a language. Outside of the fragments case is ignored, and every group
takes the text that its fragment matches.
-/
namespace TypedRoutes

namespace Pattern

def bracketed (cs : List Char) : List Char :=
  "(?:".toList ++ cs ++ [')']

/-! ## Fragments -/

/-- Expressions without groups. -/
inductive Fragment where
  | empty
  | character (c : Char)
  | digit
  | oneOf (ranges : List (Char × Char))
  | sequence (a b : Fragment)
  | either (a b : Fragment)
  | optional (a : Fragment)
  | oneOrMore (a : Fragment)
  | times (n : Nat) (a : Fragment)

namespace Fragment

/-- The expression for one text. -/
def word (cs : List Char) : Fragment :=
  cs.foldr (fun c rest => sequence (character c) rest) empty

def unreserved : Fragment :=
  oneOf [('A', 'Z'), ('a', 'z'), ('0', '9'), ('.', '.'), ('_', '_'), ('~', '~'), ('-', '-')]

def octet : Fragment :=
  sequence (character '%') (times 2 (oneOf [('0', '9'), ('A', 'F'), ('a', 'f')]))

/-- A character between square brackets. -/
def memberText (c : Char) : List Char :=
  if c ∈ ['-', '\\', ']', '^'] then ['\\', c] else [c]

def rangeText (range : Char × Char) : List Char :=
  if range.1 = range.2 then memberText range.1
  else memberText range.1 ++ '-' :: memberText range.2

/-- Whether a fragment can be repeated without brackets around it. -/
def isAtom : Fragment → Bool
  | character _ | digit | oneOf _ => true
  | _ => false

/-- Whether a fragment needs brackets in a sequence. -/
def isChoice : Fragment → Bool
  | either _ _ => true
  | _ => false

/-- How a fragment is written. -/
def text : Fragment → List Char
  | empty => []
  | character c => escapeChar c
  | digit => ['\\', 'd']
  | oneOf ranges => '[' :: ranges.flatMap rangeText ++ [']']
  | sequence a b =>
    (if a.isChoice then bracketed a.text else a.text) ++
      (if b.isChoice then bracketed b.text else b.text)
  | either a b => a.text ++ '|' :: b.text
  | optional a => (if a.isAtom then a.text else bracketed a.text) ++ ['?']
  | oneOrMore a => (if a.isAtom then a.text else bracketed a.text) ++ ['+']
  | times n a =>
    (if a.isAtom then a.text else bracketed a.text) ++ '\x7b' :: (toString n).toList ++ ['\x7d']

/-- The texts of one character with a property. -/
def single (p : Char → Prop) : Language Char :=
  {cs | ∃ c, p c ∧ cs = [c]}

/-- The texts that a fragment matches. -/
def language : Fragment → Language Char
  | empty => 1
  | character c => single (· = c)
  | digit => single fun c => Text.isDigit c = true
  | oneOf ranges => single fun c => ∃ range ∈ ranges, range.1 ≤ c ∧ c ≤ range.2
  | sequence a b => a.language * b.language
  | either a b => a.language + b.language
  | optional a => 1 + a.language
  | oneOrMore a => a.language * KStar.kstar a.language
  | times n a => a.language ^ n

end Fragment

/-! ## Expressions with groups -/

/-- Expressions that ignore case outside of their groups. -/
inductive Expression where
  | empty
  | character (c : Char)
  | sequence (a b : Expression)
  | optional (a : Expression)
  | group (fragment : Fragment)

namespace Expression

def isAtom : Expression → Bool
  | character _ | group _ => true
  | _ => false

/-- How an expression is written; a group switches to heeding case. -/
def text : Expression → List Char
  | empty => []
  | character c => escapeChar c
  | sequence a b => a.text ++ b.text
  | optional a => (if a.isAtom then a.text else bracketed a.text) ++ ['?']
  | group fragment => "((?-i:".toList ++ fragment.text ++ "))".toList

def groupCount : Expression → Nat
  | empty | character _ => 0
  | sequence a b => a.groupCount + b.groupCount
  | optional a => a.groupCount
  | group _ => 1

/-- A way to match a text as a whole, and what each group takes of it; a group in a part that is
left out takes nothing. -/
inductive Matches : Expression → List Char → List (Option (List Char)) → Prop
  | empty : Matches empty [] []
  | character {c d : Char} (h : Text.sameUpToCase c d = true) : Matches (character c) [d] []
  | sequence {a b : Expression} {cs ds : List Char} {gs hs : List (Option (List Char))}
    (ha : Matches a cs gs) (hb : Matches b ds hs) : Matches (sequence a b) (cs ++ ds) (gs ++ hs)
  | absent {a : Expression} : Matches (optional a) [] (List.replicate a.groupCount none)
  | present {a : Expression} {cs : List Char} {gs : List (Option (List Char))}
    (ha : Matches a cs gs) : Matches (optional a) cs gs
  | group {fragment : Fragment} {cs : List Char} (h : cs ∈ fragment.language) :
    Matches (group fragment) cs [some cs]

/-- The expression for one text. -/
def word (cs : List Char) : Expression :=
  cs.foldr (fun c rest => sequence (character c) rest) empty

/-- Expressions with slashes between them. -/
def joined : List Expression → Expression
  | [] => empty
  | [a] => a
  | a :: rest => sequence a (sequence (character '/') (joined rest))

end Expression

end Pattern

open Pattern

/-- The expression for the texts of a kind. -/
def Kind.expression : Kind → Fragment
  | boolean => .either (.word "true".toList) (.word "false".toList)
  | float =>
    .sequence (.oneOrMore .digit)
      (.optional (.sequence (.character '.') (.oneOrMore .digit)))
  | integer => .oneOrMore .digit
  | text => .oneOrMore (.either .unreserved .octet)

def Segment.expression : Segment → Expression
  | literal text => .word text.toList
  | parameter kind _ => .group kind.expression

namespace Template

/-- The expression for the paths of a template. -/
def expression (t : Template) : Expression :=
  let body := Expression.joined (t.segments.map Segment.expression)
  if t.trailingSlash then .sequence body (.optional (.character '/')) else body

/-- What the groups take, by the names of the placeholders in order. -/
def groupsByName (t : Template) (groups : List (Option (List Char))) : Named (Option String) :=
  (Named.names t.parameters).zip (groups.map (Option.map String.ofList))

end Template

end TypedRoutes
