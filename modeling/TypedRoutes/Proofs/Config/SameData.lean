import TypedRoutes.Proofs.Config.Assignment
import TypedRoutes.Proofs.Value.SameData

/-!
# The same data along paths

Mappings that hold the same data hold the same at every path, and still do when the same value is
put at a path in both. Of two values that are put at paths apart it does not matter which is put
first.
-/
namespace TypedRoutes

open Value (SameData)

namespace Value

theorem SameData.isMapping_iff {value other : Value} (h : value.SameData other) :
    value.IsMapping ↔ other.IsMapping := by
  cases h with
  | refl => exact Iff.rfl
  | list => exact iff_of_false nofun nofun
  | mapping => exact iff_of_true ⟨_, rfl⟩ ⟨_, rfl⟩

end Value

namespace Entries

variable {entries others : Entries} {path more : List String}

theorem sameData_inner (h : (Value.mapping entries).SameData (.mapping others)) (name : String) :
    (Value.mapping (entries.inner name)).SameData (.mapping (others.inner name)) := by
  have hname := rel_get? h name
  rw [inner, inner]
  generalize entries.get? name = found at hname ⊢
  generalize others.get? name = other at hname ⊢
  cases hname with
  | none => exact .refl _
  | some hvalue =>
    cases hvalue with
    | refl value => exact .refl _
    | list => exact .refl _
    | mapping keys values => exact .mapping keys values

theorem rel_at? (h : (Value.mapping entries).SameData (.mapping others)) (path : List String) :
    Option.Rel SameData (entries.at? path) (others.at? path) := by
  induction path generalizing entries others with
  | nil => exact .some h
  | cons name rest ih =>
    by_cases hrest : rest = []
    · subst hrest
      exact rel_get? h name
    · rw [at?_cons hrest, at?_cons hrest]
      exact ih (sameData_inner h name)

theorem admits_congr (h : (Value.mapping entries).SameData (.mapping others))
    (path : List String) : entries.admits path = others.admits path := by
  induction path generalizing entries others with
  | nil => rfl
  | cons name rest ih =>
    by_cases hrest : rest = []
    · subst hrest
      rfl
    · rw [Bool.eq_iff_iff, admits_cons_iff hrest, admits_cons_iff hrest,
        ih (sameData_inner h name)]
      refine and_congr_left fun _ => ?_
      have hname := rel_get? h name
      generalize entries.get? name = found at hname ⊢
      generalize others.get? name = other at hname ⊢
      cases hname with
      | none => exact iff_of_true nofun nofun
      | some hvalue => simpa using hvalue.isMapping_iff

theorem sameData_put (h : (Value.mapping entries).SameData (.mapping others)) (value : Value)
    (path : List String) :
    (Value.mapping (entries.put value path)).SameData (.mapping (others.put value path)) := by
  induction path generalizing entries others with
  | nil => exact h
  | cons name rest ih =>
    by_cases hrest : rest = []
    · subst hrest
      exact sameData_insert h (.refl value) name
    · rw [put_cons hrest, put_cons hrest]
      exact sameData_insert h (ih (sameData_inner h name)) name

/-- Of two values that are put at paths apart it does not matter which is put first. -/
theorem sameData_put_comm (h : Apart path more) (entries : Entries) (value other : Value) :
    (Value.mapping ((entries.put value path).put other more)).SameData
      (.mapping ((entries.put other more).put value path)) := by
  induction path generalizing entries more with
  | nil => exact absurd rfl h.ne_nil
  | cons name rest ih =>
    obtain ⟨key, last, rfl⟩ := List.exists_cons_of_ne_nil h.symm.ne_nil
    by_cases hname : name = key
    · -- Both paths go on in the mapping under the same name.
      subst hname
      have happart := h.of_cons
      rw [put_cons happart.symm.ne_nil, inner_put_self happart.ne_nil, put_cons happart.ne_nil,
        put_cons happart.ne_nil, inner_put_self happart.symm.ne_nil, put_cons happart.symm.ne_nil,
        insert_insert_self, insert_insert_self]
      exact sameData_insert (.refl _) (ih happart (entries.inner name)) name
    · rw [put, inner_put_of_ne (Ne.symm hname), put, put, inner_put_of_ne hname, put]
      exact sameData_insert_comm hname entries _ _

end Entries

namespace Config

variable {data other : Entries}

theorem sameData_get (h : (Value.mapping data).SameData (.mapping other)) (path : String)
    (default : Value) : (get ⟨data⟩ path default).SameData (get ⟨other⟩ path default) := by
  have hpath : Option.Rel SameData (get? ⟨data⟩ path) (get? ⟨other⟩ path) :=
    Entries.rel_at? h (pathOf path)
  rw [get, get]
  generalize get? ⟨data⟩ path = found at hpath ⊢
  generalize get? ⟨other⟩ path = found' at hpath ⊢
  cases hpath with
  | none => exact .refl default
  | some hvalue => exact hvalue

end Config
end TypedRoutes
