import TypedRoutes.Fault.Basic
import TypedRoutes.Text.LetterCase

/-!
# Request methods

The seven methods that routes can be registered for. Methods are given as a text with bars between
the tokens or as a list of tokens; blanks around a token and its letter case do not matter.
-/
namespace TypedRoutes

inductive Method where
  | get
  | post
  | put
  | delete
  | patch
  | options
  | head
deriving DecidableEq

namespace Method

def all : List Method := [get, post, put, delete, patch, options, head]

def token : Method → String
  | get => "GET"
  | post => "POST"
  | put => "PUT"
  | delete => "DELETE"
  | patch => "PATCH"
  | options => "OPTIONS"
  | head => "HEAD"

def tokens : List String := all.map token

def ofToken? (s : String) : Option Method :=
  all.find? fun method => method.token == s

theorem ofToken?_token (method : Method) : ofToken? method.token = some method := by
  cases method <;> rfl

/-- The method that a token names in any letter case. -/
def ofName? (s : String) : Option Method :=
  ofToken? (Text.upper s)

/-- Reads one token. -/
def ofItem : Value → Except Failure Method
  | .text s =>
    let name := Text.upper (Text.strip s)
    match ofToken? name with
    | some method => .ok method
    | none => .error (.fault (.methodInvalid name tokens))
  | item =>
    if item.isShowable then .error (.fault (.methodInvalid item.plain tokens))
    else .error .outOfRange

/-- The tokens between the bars of a text. -/
def splitBars (s : String) : List Value :=
  (s.toList.splitOn '|').map fun piece => .text (String.ofList piece)

/-- The tokens that a value gives, if it is a text, a list or a mapping. -/
def itemsOf? : Value → Option (List Value)
  | .text s => some (splitBars s)
  | .list items => some items
  | .mapping entries => some (Entries.keys entries)
  | _ => none

/-- The methods that a value names, each once and in the order in which they are first named. -/
def ofValue (value : Value) : Except Failure (List Method) :=
  match itemsOf? value with
  | none => .error .wrongShape
  | some items =>
    match items.mapM ofItem with
    | .error e => .error e
    | .ok [] => .error (.fault (.methodInvalid "" tokens))
    | .ok methods => .ok methods.eraseDups

end Method

end TypedRoutes
