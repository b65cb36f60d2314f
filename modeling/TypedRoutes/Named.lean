/-!
# Values by name

Ordered tables from names to values. Setting a name that is there changes its value in place, so a
table built from pairs keeps the first place and the last value of each name.
-/
namespace TypedRoutes

abbrev Named (α : Type) := List (String × α)

namespace Named

variable {α : Type}

def set : Named α → String → α → Named α
  | [], name, value => [(name, value)]
  | (n, v) :: rest, name, value =>
    if n = name then (name, value) :: rest else (n, v) :: set rest name value

/-- A table overridden by another. -/
def extend (base extra : Named α) : Named α :=
  extra.foldl (fun done entry => set done entry.1 entry.2) base

def ofPairs (pairs : List (String × α)) : Named α :=
  extend [] pairs

def names (table : Named α) : List String :=
  table.map (·.1)

theorem lookup_set (table : Named α) (name key : String) (value : α) :
    (set table name value).lookup key = if key = name then some value else table.lookup key := by
  have ne (m : String) (h : key ≠ m) : (key == m) = false := by simpa using h
  induction table with
  | nil => by_cases h : key = name <;> simp [set, List.lookup_cons, h, ne]
  | cons entry rest ih =>
    obtain ⟨n, v⟩ := entry
    by_cases hn : n = name
    · subst hn
      by_cases h : key = n <;> simp [set, List.lookup_cons, h, ne]
    · by_cases h : key = n
      · subst h
        simp [set, hn]
      · simp [set, hn, List.lookup_cons, ih, ne n h]

end Named

end TypedRoutes
