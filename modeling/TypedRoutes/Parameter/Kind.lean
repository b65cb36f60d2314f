import TypedRoutes.Number.Layout

/-!
# Parameter kinds

A placeholder declares one of four kinds by a letter. A scalar is a value of one of the kinds, and
a typed value is a scalar tagged with the kind it is meant for; neither an infinity nor what is no
number belongs to a kind.
-/
namespace TypedRoutes

/-- What a placeholder stands for. -/
inductive Kind where
  | boolean
  | float
  | integer
  | text
deriving DecidableEq

namespace Kind

def all : List Kind := [boolean, float, integer, text]

/-- The letter that declares a kind. -/
def code : Kind → Char
  | boolean => 'b'
  | float => 'f'
  | integer => 'i'
  | text => 's'

/-- The kind that a code declares. -/
def ofCode? (cs : List Char) : Option Kind :=
  all.find? fun kind => cs == [kind.code]

/-- The name of a kind in messages. -/
def label : Kind → String
  | boolean => "boolean"
  | float => "float"
  | integer => "integer"
  | text => "string"

/-- The codes of all kinds. -/
def codes : List Char :=
  all.map code

theorem ofCode?_eq_some_iff {cs : List Char} {kind : Kind} :
    ofCode? cs = some kind ↔ cs = [kind.code] := by
  constructor
  · intro h
    simpa using List.find?_some h
  · rintro rfl
    cases kind <;> decide

end Kind

/-- A value that can fill a placeholder of some kind. -/
inductive Scalar where
  | boolean (b : Bool)
  | integer (n : Int)
  | float (x : Binary64)
  | text (s : String)
deriving DecidableEq

/-- Whether a scalar is a value of a kind. -/
def Kind.accepts : Kind → Scalar → Bool
  | .boolean, .boolean _ => true
  | .integer, .integer _ => true
  | .float, .float x => x.isFinite
  | .text, .text _ => true
  | _, _ => false

/-- A scalar tagged with a kind that accepts it. -/
structure TypedValue where
  kind : Kind
  value : Scalar
  accepted : kind.accepts value = true
deriving DecidableEq

/-- The one kind that accepts a scalar, if there is one. -/
def Scalar.kind? : Scalar → Option Kind
  | .boolean _ => some .boolean
  | .integer _ => some .integer
  | .float x => if x.isFinite then some .float else none
  | .text _ => some .text

theorem Scalar.kind?_eq_some_iff {s : Scalar} {kind : Kind} :
    s.kind? = some kind ↔ kind.accepts s = true := by
  cases s <;> cases kind <;> simp [kind?, Kind.accepts]

/-- Numeric equality of numbers, and equality of scalars of any other kind. -/
def Scalar.sameValue : Scalar → Scalar → Bool
  | .boolean a, .boolean b => a == b
  | .integer m, .integer n => m == n
  | .float x, .float y => x.numericEq y
  | .text s, .text t => s == t
  | _, _ => false

namespace TypedValue

/-- Equality of typed values: the same kind, and scalars of the same value. -/
def sameValue (a b : TypedValue) : Bool :=
  a.kind == b.kind && a.value.sameValue b.value

/-- A scalar with the given tag. -/
def ofKind? (kind : Kind) (value : Scalar) : Option TypedValue :=
  if h : kind.accepts value = true then some ⟨kind, value, h⟩ else none

/-- A scalar with the tag of the kind it belongs to. -/
def of? (value : Scalar) : Option TypedValue :=
  value.kind?.bind fun kind => ofKind? kind value

end TypedValue

end TypedRoutes
