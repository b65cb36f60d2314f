import TypedRoutes.Fault.Basic

/-!
# Mappings that stand in several places

A mapping stays the same mapping when it is written into, and what is written is seen wherever the
mapping stands. So a mapping that may stand in several places is held by a number, and a store keeps
the entries of each such mapping. Everything else that is held is a value of its own. The mapping
with the number zero is the one that all others are reached from.
-/
namespace TypedRoutes

/-- What stands under a key or in a list. -/
inductive Held where
  /-- A value that stands nowhere else. -/
  | plain (value : Value)
  | list (items : List Held)
  /-- The mapping with a number. -/
  | shared (number : Nat)

namespace Held

mutual

/-- The value of what is held, given those of the mappings with numbers. -/
def value (mapping : Nat → Except Failure Value) : Held → Except Failure Value
  | plain value => .ok value
  | list items => (values mapping items).map .list
  | shared number => mapping number

def values (mapping : Nat → Except Failure Value) : List Held → Except Failure (List Value)
  | [] => .ok []
  | item :: rest =>
    match item.value mapping with
    | .error failure => .error failure
    | .ok first => (values mapping rest).map (first :: ·)

end

end Held

/-- Entries whose values stand nowhere else. -/
def Entries.held (entries : Entries) : Entries Held :=
  entries.map fun (key, value) => (key, .plain value)

structure Store where
  /-- The number of no mapping is as large. -/
  size : Nat
  entries : Nat → Entries Held

namespace Store

/-- The store of a mapping in which no mapping stands in two places. -/
def ofEntries (entries : Entries) : Store :=
  ⟨1, fun number => if number = 0 then entries.held else []⟩

def find? (store : Store) (number : Nat) (key : Value) : Option Held :=
  (store.entries number).find? key

def get? (store : Store) (number : Nat) (name : String) : Option Held :=
  store.find? number (.text name)

/-- Adds a mapping with its number. -/
def add (store : Store) (number : Nat) (entries : Entries Held) : Store :=
  ⟨max store.size (number + 1), fun other =>
    if other = number then entries else store.entries other⟩

/-- Replaces or adds one entry of a mapping. -/
def insert (store : Store) (number : Nat) (key : Value) (held : Held) : Store :=
  { store with entries := fun other =>
      if other = number then (store.entries number).insert key held else store.entries other }

/-- The entries of a mapping as values, through at most so many mappings within each other. -/
def unfold (store : Store) : Nat → Nat → Except Failure Entries
  | 0, _ => .error .tooDeep
  | depth + 1, number =>
    (store.entries number).mapM fun (key, held) =>
      (held.value fun inner => (unfold store depth inner).map .mapping).map fun value =>
        (key, value)

/-- The entries of the mapping that all others are reached from, as values. A mapping that holds
itself has none. -/
def toEntries (store : Store) : Except Failure Entries :=
  store.unfold store.size 0

end Store
end TypedRoutes
