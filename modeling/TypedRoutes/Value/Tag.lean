import TypedRoutes.Value.Display

/-!
# Tagging values

A value that is a scalar can be tagged with a kind that accepts it, and a scalar that some kind
accepts has a tag of its own. Whatever else is given is refused, with a message that shows it.
-/
namespace TypedRoutes

/-- Why a value cannot be tagged: the kind asked for does not accept it, or no kind does. -/
inductive TagRefusal where
  | byKind (kind : Kind) (value : Value)
  | byAll (value : Value)

namespace TagRefusal

def value : TagRefusal → Value
  | byKind _ value | byAll value => value

/-- The message of a refusal, if the value can be shown. -/
def message? (refusal : TagRefusal) : Option String :=
  let shown := refusal.value.typeName ++ " value " ++ refusal.value.display
  if refusal.value.isShowable then
    match refusal with
    | byKind kind _ => some (shown ++ " is not a valid " ++ kind.label)
    | byAll _ => some ("No parameter type accepts " ++ shown)
  else none

end TagRefusal

namespace Value

/-- A value with the given tag. -/
def tagAs (value : Value) (kind : Kind) : Except TagRefusal TypedValue :=
  match value.toScalar?.bind (TypedValue.ofKind? kind) with
  | some tagged => .ok tagged
  | none => .error (.byKind kind value)

/-- A value with the tag of the kind it belongs to. -/
def tag (value : Value) : Except TagRefusal TypedValue :=
  match value.toScalar?.bind TypedValue.of? with
  | some tagged => .ok tagged
  | none => .error (.byAll value)

end Value

end TypedRoutes
