import TypedRoutes.Document.Yaml.Followed
import TypedRoutes.Document.Yaml.Resolved
import TypedRoutes.Value.Store

/-!
# Documents as graphs

A mapping of a document that has a name, or whose entries a merge key brings in elsewhere, holds the
same mappings in every place. So all mappings of a document with names have numbers, by the places
where they begin.
-/
namespace TypedRoutes
namespace Yaml

/-- What a document holds, and the entries of its mappings with numbers. -/
structure Graph where
  held : Held
  mappings : List (Nat × Entries Held)

namespace Resolved

mutual

/-- The graph of a node whose mappings have numbers from `first` on. -/
def graph (first : Nat) : Resolved → Except Failure Graph
  | scalar value => value.map fun value => ⟨.plain value, []⟩
  | sequence items =>
    (graphItems first items).map fun (items, mappings) => ⟨.list items, mappings⟩
  | mapping place entries =>
    (graphEntries first entries).map fun (entries, mappings) =>
      ⟨.shared (first + place), (first + place, Entries.ofList entries) :: mappings⟩
  | unmergeable => malformed

def graphItems (first : Nat) :
    List Resolved → Except Failure (List Held × List (Nat × Entries Held))
  | [] => .ok ([], [])
  | item :: rest =>
    match item.graph first with
    | .error failure => .error failure
    | .ok item =>
      (graphItems first rest).map fun (items, mappings) =>
        (item.held :: items, item.mappings ++ mappings)

/-- The graphs of entries. Only scalars can be keys. -/
def graphEntries (first : Nat) :
    List (Resolved × Resolved) → Except Failure (List (Value × Held) × List (Nat × Entries Held))
  | [] => .ok ([], [])
  | (.scalar (.ok key), node) :: rest =>
    match node.graph first with
    | .error failure => .error failure
    | .ok node =>
      (graphEntries first rest).map fun (entries, mappings) =>
        ((key, node.held) :: entries, node.mappings ++ mappings)
  | _ => malformed

end

end Resolved

/-- The graph of a node, or the failure that lies highest. -/
def Node.graph (first : Nat) (node : Node) : Except Failure Graph :=
  match node.follow [] with
  | .error failure => .error failure
  | .ok (node, _) => node.value.bind fun _ => (Resolved.ofNode node).graph first

end Yaml
end TypedRoutes
