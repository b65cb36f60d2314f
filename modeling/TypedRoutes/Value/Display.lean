import TypedRoutes.Text.Quoted
import TypedRoutes.Value.Basic

/-!
# The text of a value

A value is shown with quotes around every text in it; a text that is the whole value can also be
given as it is. The text of a value with an integer beyond the limit of numerals is not to be
shown.
-/
namespace TypedRoutes

namespace Kind

/-- The name of a kind within the text of a typed value. -/
def constant : Kind → String
  | boolean => "BOOLEAN"
  | float => "FLOAT"
  | integer => "INTEGER"
  | text => "STRING"

end Kind

namespace Scalar

def display : Scalar → String
  | boolean b => if b then "True" else "False"
  | integer n => String.ofList (Number.intText n)
  | float x => String.ofList x.text
  | text s => Text.quoted s

/-- Whether a scalar's text is within the limit of numerals. -/
def isShowable : Scalar → Bool
  | integer n => (Number.intText? n).isSome
  | _ => true

end Scalar

namespace TypedValue

def display (t : TypedValue) : String :=
  "TypedValue(kind=<ParameterType." ++ t.kind.constant ++ ": '" ++ String.ofList [t.kind.code] ++
    "'>, value=" ++ t.value.display ++ ")"

end TypedValue

namespace Value

mutual

/-- The text of a value, with quotes around texts. -/
def display : Value → String
  | null => "None"
  | boolean b => Scalar.display (.boolean b)
  | integer n => Scalar.display (.integer n)
  | float x => Scalar.display (.float x)
  | text s => Scalar.display (.text s)
  | list items => "[" ++ displayItems items ++ "]"
  | mapping entries => "\x7b" ++ displayEntries entries ++ "\x7d"
  | typed value => value.display
  | handler _ name => "<handler " ++ name ++ ">"

def displayItems : List Value → String
  | [] => ""
  | item :: rest => item.display ++ (if rest.isEmpty then "" else ", ") ++ displayItems rest

def displayEntries : List (Value × Value) → String
  | [] => ""
  | (key, value) :: rest =>
    key.display ++ ": " ++ value.display ++ (if rest.isEmpty then "" else ", ") ++
      displayEntries rest

end

mutual

/-- Whether every integer in a value is within the limit of numerals. -/
def isShowable : Value → Bool
  | integer n => Scalar.isShowable (.integer n)
  | list items => areShowable items
  | mapping entries => entriesShowable entries
  | typed value => value.value.isShowable
  | _ => true

def areShowable : List Value → Bool
  | [] => true
  | item :: rest => item.isShowable && areShowable rest

def entriesShowable : List (Value × Value) → Bool
  | [] => true
  | (key, value) :: rest => key.isShowable && value.isShowable && entriesShowable rest

end

/-- The text of a value; a text is given as it is. -/
def plain : Value → String
  | text s => s
  | value => value.display

end Value

end TypedRoutes
