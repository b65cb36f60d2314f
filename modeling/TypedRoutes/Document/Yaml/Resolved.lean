import TypedRoutes.Document.Yaml.Node
import TypedRoutes.Document.Yaml.Plain

/-!
# Resolved nodes

In a resolved node every plain scalar has been taken for a value, and every mapping has the entries
that its merge keys bring in. A resolved node gives a value, or the failure that lies highest: the
collections are gone through level by level, each level from left to right.
-/
namespace TypedRoutes
namespace Yaml

/-- A node with the values of its scalars. -/
inductive Resolved where
  | scalar (value : Except Failure Value)
  | sequence (items : List Resolved)
  | mapping (place : Nat) (entries : List (Resolved × Resolved))
  /-- A mapping whose merge keys bring in something else than mappings. -/
  | unmergeable

namespace Resolved

/-- The entries that a merge key with this value brings in. -/
def mergedEntries? : Resolved → Option (List (Resolved × Resolved))
  | mapping _ entries => some entries
  | _ => none

/-- The entries that a merge key brings in: those of a mapping, or of a list of mappings, of which
the first has the last word. -/
def broughtIn? : Resolved → Option (List (Resolved × Resolved))
  | mapping _ entries => some entries
  | sequence items => (items.mapM mergedEntries?).map fun all => all.reverse.flatten
  | _ => none

/-- The key of an entry: the word for a default value is a text there. -/
def ofKey : Node → Resolved → Resolved
  | .scalar true text, resolved =>
    if String.ofList text = defaultWord then scalar (.ok (.text defaultWord)) else resolved
  | _, resolved => resolved

def isMergeKey : Node → Bool
  | .scalar true text => String.ofList text == mergeWord
  | _ => false

mutual

/-- Resolves a node in which all references have been followed. -/
def ofNode : Node → Resolved
  | .scalar isPlain text =>
    scalar (if isPlain then plainValue text else .ok (.text (String.ofList text)))
  | .sequence items => sequence (ofItems items)
  | .mapping place entries =>
    match ofEntries entries with
    | some (merged, own) => mapping place (merged ++ own)
    | none => unmergeable
  | .anchored .. | .reference _ => scalar malformed

def ofItems : List Node → List Resolved
  | [] => []
  | item :: rest => ofNode item :: ofItems rest

/-- The entries that merge keys bring in, and the other entries. -/
def ofEntries :
    List (Node × Node) → Option (List (Resolved × Resolved) × List (Resolved × Resolved))
  | [] => some ([], [])
  | (key, node) :: rest =>
    match ofEntries rest with
    | none => none
    | some (merged, own) =>
      if isMergeKey key then (broughtIn? (ofNode node)).map fun entries => (entries ++ merged, own)
      else some (merged, (ofKey key (ofNode key), ofNode node) :: own)

end

/-! ## Values -/

/-- A result, or a failure with the number of levels that lie above it. -/
abbrev Attempt (α : Type) := Except (Nat × Failure) α

/-- Both results, or the higher of two failures; of two on one level the first. -/
def both {α β : Type} (first : Attempt α) (second : Attempt β) : Attempt (α × β) :=
  match first, second with
  | .ok x, .ok y => .ok (x, y)
  | .error failure, .ok _ | .ok _, .error failure => .error failure
  | .error (m, failure), .error (n, other) =>
    .error (if m ≤ n then (m, failure) else (n, other))

/-- The attempt at a collection, seen from the level above it. -/
def inside {α : Type} (attempt : Attempt α) : Attempt α :=
  attempt.mapError fun (level, failure) => (level + 1, failure)

def unusable {α : Type} : Attempt α :=
  .error (0, .malformed .yaml)

mutual

/-- The value of a node, or its highest failure. -/
def attempt : Resolved → Attempt Value
  | scalar value => value.mapError fun failure => (0, failure)
  | sequence items => inside ((attemptItems items).map .list)
  | mapping _ entries =>
    inside ((attemptEntries entries).map fun values => .mapping (Entries.ofList values))
  | unmergeable => inside unusable

def attemptItems : List Resolved → Attempt (List Value)
  | [] => .ok []
  | item :: rest =>
    (both item.attempt (attemptItems rest)).map fun (first, more) => first :: more

/-- The values of entries. Only scalars can be keys. -/
def attemptEntries : List (Resolved × Resolved) → Attempt (List (Value × Value))
  | [] => .ok []
  | (key, node) :: rest =>
    let first := match key with
      | scalar value => value.mapError fun failure => (0, failure)
      | _ => unusable
    (both (both first node.attempt) (attemptEntries rest)).map fun (entry, more) => entry :: more

end

end Resolved

/-- The value of a node. -/
def Node.value (node : Node) : Except Failure Value :=
  (Resolved.ofNode node).attempt.mapError Prod.snd

end Yaml
end TypedRoutes
