import TypedRoutes.Document.Yaml.Node

/-!
# References in YAML

A node that has been given a name stands wherever its name is referred to behind it. A name is given
once. What a node holds cannot be the node itself.
-/
namespace TypedRoutes
namespace Yaml

/-- The nodes with names so far, the last first. A node that has not come to its end has no name to
refer to yet. -/
abbrev Anchors := List (List Char × Option Node)

namespace Node

mutual

/-- Puts the nodes with names in the places of the references to them. -/
def follow : Node → Anchors → Except Failure (Node × Anchors)
  | .scalar isPlain text, anchors => .ok (.scalar isPlain text, anchors)
  | .sequence items, anchors =>
    (followItems items anchors).map fun (items, anchors) => (.sequence items, anchors)
  | .mapping place entries, anchors =>
    (followEntries entries anchors).map fun (entries, anchors) => (.mapping place entries, anchors)
  | .anchored name node, anchors =>
    if (anchors.lookup name).isSome then malformed
    else
      (follow node ((name, none) :: anchors)).map fun (node, anchors) =>
        (node, (name, some node) :: anchors)
  | .reference name, anchors =>
    match anchors.lookup name with
    | some (some node) => .ok (node, anchors)
    | some none => .error .tooDeep
    | none => malformed

def followItems : List Node → Anchors → Except Failure (List Node × Anchors)
  | [], anchors => .ok ([], anchors)
  | item :: rest, anchors =>
    match follow item anchors with
    | .error failure => .error failure
    | .ok (item, anchors) =>
      (followItems rest anchors).map fun (items, anchors) => (item :: items, anchors)

def followEntries :
    List (Node × Node) → Anchors → Except Failure (List (Node × Node) × Anchors)
  | [], anchors => .ok ([], anchors)
  | (key, node) :: rest, anchors =>
    match follow key anchors with
    | .error failure => .error failure
    | .ok (key, anchors) =>
      match follow node anchors with
      | .error failure => .error failure
      | .ok (node, anchors) =>
        (followEntries rest anchors).map fun (entries, anchors) => ((key, node) :: entries, anchors)

end

end Node
end Yaml
end TypedRoutes
