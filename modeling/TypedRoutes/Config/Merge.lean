import TypedRoutes.Config.Guess

/-!
# Merging nested mappings

Of two mappings the later one wins, entry by entry; where both have a mapping under a key, these
are merged in the same way. A path of names leads through nested mappings to one entry.
-/
namespace TypedRoutes

mutual

/-- A value that takes the place of another. -/
def Value.mergedOnto (base : Option Value) : Value → Value
  | .mapping source =>
    match base with
    | some (.mapping target) => .mapping (Entries.merge target source)
    | _ => .mapping source
  | value => value

/-- Overrides the entries of `target` by those of a later mapping. -/
def Entries.merge (target : Entries) : List (Value × Value) → Entries
  | [] => target
  | (key, value) :: rest =>
    Entries.merge (Entries.insert target key (value.mergedOnto (Entries.find? target key))) rest

end

namespace Entries

/-- The value at the end of a path of names. -/
def at? (entries : Entries) : List String → Option Value
  | [] => some (.mapping entries)
  | [name] => entries.get? name
  | name :: rest =>
    match entries.get? name with
    | some (.mapping inner) => at? inner rest
    | _ => none

/-- The nested mappings that hold nothing but one value at a path. -/
def nest (value : Value) : List String → Entries
  | [] => []
  | [name] => [(.text name, value)]
  | name :: rest => [(.text name, .mapping (nest value rest))]

/-- Guesses the value of a text for an entry of something that has no entries. -/
def assignNowhere (raw : String) : List String → Except Failure Entries
  | [_] =>
    match Value.guess raw with
    | .error failure => .error failure
    | .ok _ => .error .wrongShape
  | _ => .error .wrongShape

/-- Puts the value that a text is taken for at a path. Only mappings can stand on the way. -/
def assign (entries : Entries) (raw : String) : List String → Except Failure Entries
  | [] => .ok entries
  | [name] => (Value.guess raw).map fun value => entries.insert (.text name) value
  | name :: rest =>
    match entries.get? name with
    | some (.mapping inner) =>
      (assign inner raw rest).map fun inner => entries.insert (.text name) (.mapping inner)
    | some _ => assignNowhere raw rest
    | none =>
      (Value.guess raw).map fun value => entries.insert (.text name) (.mapping (nest value rest))

end Entries
end TypedRoutes
