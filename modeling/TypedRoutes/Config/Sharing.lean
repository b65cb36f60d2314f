import TypedRoutes.Config.Layers

/-!
# Layers on mappings that stand in several places

A document can hold one mapping in several places. Data that such documents are merged into hold it
there too, so that what a later layer writes into the mapping is seen in all of them. The mappings
that variables and explicit values bring in stand in one place.
-/
namespace TypedRoutes

/-! ## Assigning -/

/-- The value under a name after a text has been assigned along the rest of a path behind it, given
what stood under the name. A mapping with a number is not gone through here. -/
def Held.assign (raw : String) (rest : List String) (found : Option Held) :
    Except Failure Value :=
  if rest = [] then Value.guess raw
  else
    match found with
    | none => (Value.guess raw).map fun value => .mapping (Entries.nest value rest)
    | some (.plain (.mapping inner)) => (Entries.assign inner raw rest).map .mapping
    | some _ => (Entries.assignNowhere raw rest).map .mapping

/-- A mapping by its number, and a path in it that leads through no other mapping with a number. -/
structure Place where
  number : Nat
  path : List String
deriving DecidableEq

namespace Store

/-- The mapping with a number that a name leads on to, if the path goes on behind the name. -/
def onward? (store : Store) (number : Nat) (name : String) (rest : List String) : Option Nat :=
  match rest, store.get? number name with
  | _ :: _, some (.shared inner) => some inner
  | _, _ => none

/-- The place that a path leads to. -/
def locate (store : Store) (number : Nat) : List String → Place
  | [] => ⟨number, []⟩
  | name :: rest =>
    match store.onward? number name rest with
    | some inner => locate store inner rest
    | none => ⟨number, name :: rest⟩

def assignAt (store : Store) (raw : String) : Place → Except Failure Store
  | ⟨_, []⟩ => .ok store
  | ⟨number, name :: rest⟩ =>
    (Held.assign raw rest (store.get? number name)).map fun value =>
      store.insert number (.text name) (.plain value)

/-- Puts the value that a text is taken for in the place that a path leads to. -/
def assign (store : Store) (raw : String) (path : List String) : Except Failure Store :=
  store.assignAt raw (store.locate 0 path)

/-! ## Merging -/

/-- Overrides the entries of a mapping by others, through at most so many mappings with numbers
within each other. What does not meet a mapping is held from then on as it was before. A mapping
that stood in one place gets a number when one with a number is merged into it. -/
def merge : Nat → Store → Nat → Entries Held → Except Failure Store
  | 0, _, _, _ => .error .tooDeep
  | depth + 1, store, number, source =>
    source.foldlM
      (fun store (key, held) =>
        match store.find? number key, held with
        | some (.shared inner), .shared other => merge depth store inner (store.entries other)
        | some (.shared inner), .plain (.mapping entries) =>
          merge depth store inner (Entries.held entries)
        | some (.plain (.mapping entries)), .shared other =>
          let inner := store.size
          let store := (store.add inner (Entries.held entries)).insert number key (.shared inner)
          merge depth store inner (store.entries other)
        | some (.plain found), .plain value =>
          .ok (store.insert number key (.plain (value.mergedOnto (some found))))
        | _, _ => .ok (store.insert number key held))
      store

/-- Overrides the data by a document, which has to be a mapping. -/
def mergeDocument (store : Store) (held : Held) : Except Failure Store :=
  match held with
  | .plain (.mapping entries) => store.merge (store.size + 1) 0 (Entries.held entries)
  | .shared number => store.merge (store.size + 1) 0 (store.entries number)
  | _ => .error .notMapping

/-- Whether what is held counts as present: not null, false, zero or empty. -/
def isPresent (store : Store) : Held → Bool
  | .plain value => value.isPresent
  | .list items => !items.isEmpty
  | .shared number => !(store.entries number).isEmpty

/-- Overrides the data by the document of a text, whose format the suffix of its name tells. A YAML
document that is empty or zero counts for nothing. -/
def mergeText (store : Store) (suffix : String) (content : String) : Except Failure Store :=
  if suffix = ".json" then
    (Json.read content).bind fun value => store.mergeDocument (.plain value)
  else
    match Yaml.readGraph store.size content with
    | .error failure => .error failure
    | .ok graph =>
      let store :=
        graph.mappings.foldl (fun store (number, entries) => store.add number entries) store
      if store.isPresent graph.held then store.mergeDocument graph.held else .ok store

end Store

namespace Config

/-- Layers on mappings that may stand in several places. -/
def shared : Layering Store :=
  ⟨.ofEntries [], Store.mergeText, Store.assign,
    fun store value => store.mergeDocument (.plain value)⟩

/-- Puts a configuration together. -/
def loadShared (tree : FileTree) (sources : Sources) : Except Failure Config :=
  (shared.load tree sources).bind fun store => store.toEntries.map Config.mk

end Config
end TypedRoutes
