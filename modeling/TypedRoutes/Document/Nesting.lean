import TypedRoutes.Fault.Basic

/-!
# Nesting

Documents hold collections within collections. A reader follows them to a greatest depth, and fails
where a document goes deeper.
-/
namespace TypedRoutes
namespace Nesting

/-- The most collections around each other in a JSON document. -/
def maxJson : Nat := 988

/-- The most collections around each other in a YAML document. -/
def maxYaml : Nat := 490

/-- The most collections around each other in a value that is handed on. -/
def maxValue : Nat := 496

/-- Reads what a collection holds, when `depth` more levels can be followed. -/
def deeper {α : Type} (depth : Nat) (inside : Nat → Except Failure α) : Except Failure α :=
  match depth with
  | 0 => .error .tooDeep
  | depth + 1 => inside depth

end Nesting
end TypedRoutes
