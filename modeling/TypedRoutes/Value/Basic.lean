import TypedRoutes.Parameter.Kind
import TypedRoutes.Text.Pieces

/-!
# Values

Data of unknown shape: what a document holds, what is supplied for a placeholder, what a route
points to. A mapping keeps its entries in the order in which the keys were first given. Keys are
compared by value, so that a truth value, an integer and a floating-point number of the same size
are one key; handlers are compared by what they are, whatever their names.
-/
namespace TypedRoutes

inductive Value where
  | null
  | boolean (b : Bool)
  | integer (n : Int)
  | float (x : Binary64)
  | text (s : String)
  | list (items : List Value)
  | mapping (entries : List (Value × Value))
  | typed (value : TypedValue)
  | handler (identity : Nat) (name : String)

namespace Value

instance : Inhabited Value := ⟨null⟩

def ofScalar : Scalar → Value
  | .boolean b => boolean b
  | .integer n => integer n
  | .float x => float x
  | .text s => text s

def toScalar? : Value → Option Scalar
  | boolean b => some (.boolean b)
  | integer n => some (.integer n)
  | float x => some (.float x)
  | text s => some (.text s)
  | _ => none

theorem toScalar?_ofScalar (s : Scalar) : (ofScalar s).toScalar? = some s := by
  cases s <;> rfl

/-- The name of a value's type in messages. -/
def typeName : Value → String
  | null => "NoneType"
  | boolean _ => "bool"
  | integer _ => "int"
  | float _ => "float"
  | text _ => "str"
  | list _ => "list"
  | mapping _ => "dict"
  | typed _ => "TypedValue"
  | handler .. => "Handler"

/-- Whether a value counts as present: not null, false, zero or empty. -/
def isPresent : Value → Bool
  | null => false
  | boolean b => b
  | integer n => n != 0
  | float x => !x.isZero
  | text s => !s.toList.isEmpty
  | list items => !items.isEmpty
  | mapping entries => !entries.isEmpty
  | typed _ | handler .. => true

/-- The integer that a truth value or a number is. -/
def toInt? : Value → Option Int
  | boolean b => some (if b then 1 else 0)
  | integer n => some n
  | float x => x.toInt?
  | _ => none

/-- Equality of keys. Where a floating-point value is no number, its payload decides. -/
def sameKey (a b : Value) : Bool :=
  match a.toInt?, b.toInt? with
  | some m, some n => m == n
  | none, none =>
    match a, b with
    | null, null => true
    | float (.nan p), float (.nan q) => p == q
    | float x, float y => x.numericEq y
    | text s, text t => s == t
    | typed x, typed y => x.sameValue y
    | handler m _, handler n _ => m == n
    | _, _ => false
  | _, _ => false

/-- Lists and mappings cannot be keys. -/
def isKey : Value → Bool
  | list _ | mapping _ => false
  | _ => true

end Value

/-- The entries of a mapping, in order. -/
abbrev Entries (α : Type := Value) := List (Value × α)

namespace Entries

variable {α : Type}

def find? : Entries α → Value → Option α
  | [], _ => none
  | (k, v) :: rest, key => if k.sameKey key then some v else find? rest key

/-- Replaces the value of a key that is there, and adds a new key at the end. -/
def insert : Entries α → Value → α → Entries α
  | [], key, value => [(key, value)]
  | (k, v) :: rest, key, value =>
    if k.sameKey key then (k, value) :: rest else (k, v) :: insert rest key value

/-- The mapping made by inserting entries one by one. -/
def ofList (entries : List (Value × α)) : Entries α :=
  entries.foldl (fun done entry => insert done entry.1 entry.2) []

def get? (entries : Entries α) (name : String) : Option α :=
  entries.find? (.text name)

def keys (entries : Entries α) : List Value :=
  entries.map (·.1)

end Entries

namespace Value

/-- What a value can be gone through by: the items of a list, the keys of a mapping, the characters
of a text. -/
def items? : Value → Option (List Value)
  | list items => some items
  | mapping entries => some (Entries.keys entries)
  | text s => some (s.toList.map fun c => text (String.ofList [c]))
  | _ => none

/-- Whether a value has at most so many levels of lists and mappings. -/
def fits : Nat → Value → Bool
  | depth + 1, list items => items.all (fits depth)
  | depth + 1, mapping entries => entries.all fun (k, v) => fits depth k && fits depth v
  | 0, list _ | 0, mapping _ => false
  | _, _ => true

/-- The value of a text key, if the value is a mapping that has it. -/
def get? (value : Value) (name : String) : Option Value :=
  match value with
  | mapping entries => Entries.get? entries name
  | _ => none

end Value

end TypedRoutes
