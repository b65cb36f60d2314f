import Mathlib.Data.List.Forall2
import TypedRoutes.Proofs.Value.Entries

/-!
# The same data

Two values hold the same data if they differ in nothing but the order of the keys of mappings, at
any depth. Mappings hold the same data if they do under each key, so entering the same data under a
name keeps this, and of two entries under different names it does not matter which is made first.
-/
namespace TypedRoutes

namespace Value

/-- Whether two values hold the same data, in whatever order the keys of their mappings are. -/
inductive SameData : Value → Value → Prop
  | refl (value : Value) : SameData value value
  | list {items others : List Value} (length : items.length = others.length)
    (values : ∀ (i : Nat) value other, items[i]? = some value → others[i]? = some other →
      SameData value other) :
    SameData (.list items) (.list others)
  | mapping {entries others : Entries}
    (keys : ∀ key, (entries.find? key).isSome = (others.find? key).isSome)
    (values : ∀ key value other, entries.find? key = some value → others.find? key = some other →
      SameData value other) :
    SameData (.mapping entries) (.mapping others)

variable {value other third : Value} {entries others : Entries} {items more : List Value}

theorem SameData.trans (h : value.SameData other) (h' : other.SameData third) :
    value.SameData third := by
  induction h generalizing third with
  | refl value => exact h'
  | @list items others length values ih =>
    cases h' with
    | refl => exact .list length values
    | @list _ last length' values' =>
      refine .list (length.trans length') fun i value final hvalue hfinal => ?_
      have hlt : i < others.length := length ▸ (List.getElem?_eq_some_iff.mp hvalue).1
      have hbetween := List.getElem?_eq_getElem hlt
      exact ih i value _ hvalue hbetween (values' i _ final hbetween hfinal)
  | @mapping entries others keys values ih =>
    cases h' with
    | refl => exact .mapping keys values
    | @mapping _ last keys' values' =>
      refine .mapping (fun key => (keys key).trans (keys' key)) ?_
      intro key value final hvalue hfinal
      have hsome : (others.find? key).isSome = true := by rw [← keys key, hvalue]; rfl
      obtain ⟨between, hbetween⟩ := Option.isSome_iff_exists.mp hsome
      exact ih key value between hvalue hbetween (values' key between final hbetween hfinal)

theorem sameData_list (h : List.Forall₂ SameData items more) :
    (list items).SameData (list more) := by
  refine .list h.length_eq fun i value other hvalue hother => ?_
  obtain ⟨hlt, rfl⟩ := List.getElem?_eq_some_iff.mp hvalue
  obtain ⟨hlt', rfl⟩ := List.getElem?_eq_some_iff.mp hother
  exact h.get hlt hlt'

/-- Mappings hold the same data if they do under each key. -/
theorem sameData_mapping_iff : (mapping entries).SameData (mapping others) ↔
    ∀ key, Option.Rel SameData (entries.find? key) (others.find? key) := by
  constructor
  · intro h key
    cases h with
    | refl =>
      cases entries.find? key with
      | none => exact .none
      | some value => exact .some (.refl value)
    | mapping keys values =>
      have hkey := keys key
      cases hvalue : entries.find? key with
      | none =>
        cases hother : others.find? key with
        | none => exact .none
        | some other =>
          rw [hvalue, hother] at hkey
          cases hkey
      | some value =>
        cases hother : others.find? key with
        | none =>
          rw [hvalue, hother] at hkey
          cases hkey
        | some other => exact .some (values key value other hvalue hother)
  · intro h
    have hsome {found other : Option Value} (h : Option.Rel SameData found other) :
        found.isSome = other.isSome := by
      cases h <;> rfl
    refine .mapping (fun key => hsome (h key)) fun key value other hvalue hother => ?_
    have hkey := h key
    rw [hvalue, hother] at hkey
    cases hkey
    assumption

end Value

open Value (SameData sameData_mapping_iff)

namespace Entries

variable {entries others : Entries} {value other : Value} {name key : String}

theorem rel_get? (h : (Value.mapping entries).SameData (.mapping others)) (name : String) :
    Option.Rel SameData (entries.get? name) (others.get? name) :=
  sameData_mapping_iff.mp h (.text name)

theorem sameData_insert (h : (Value.mapping entries).SameData (.mapping others))
    (hvalue : value.SameData other) (name : String) :
    (Value.mapping (entries.insert (.text name) value)).SameData
      (.mapping (others.insert (.text name) other)) := by
  rw [sameData_mapping_iff] at h ⊢
  intro k
  by_cases hk : k = .text name
  · subst hk
    rw [← get?, ← get?, get?_insert_self, get?_insert_self]
    exact .some hvalue
  · rw [find?_insert_of_ne hk, find?_insert_of_ne hk]
    exact h k

/-- Under different names it does not matter which entry is made first. -/
theorem find?_insert_comm {α : Type} (h : name ≠ key) (entries : Entries α) (value other : α)
    (k : Value) :
    ((entries.insert (.text name) value).insert (.text key) other).find? k =
      ((entries.insert (.text key) other).insert (.text name) value).find? k := by
  have hne : Value.text name ≠ .text key := fun heq => h (Value.text.inj heq)
  by_cases hname : k = .text name
  · subst hname
    rw [find?_insert_of_ne hne, ← get?, ← get?, get?_insert_self, get?_insert_self]
  · rw [find?_insert_of_ne hname]
    by_cases hkey : k = .text key
    · subst hkey
      rw [← get?, ← get?, get?_insert_self, get?_insert_self]
    · rw [find?_insert_of_ne hkey, find?_insert_of_ne hkey, find?_insert_of_ne hname]

theorem sameData_insert_comm (h : name ≠ key) (entries : Entries) (value other : Value) :
    (Value.mapping ((entries.insert (.text name) value).insert (.text key) other)).SameData
      (.mapping ((entries.insert (.text key) other).insert (.text name) value)) := by
  rw [sameData_mapping_iff]
  intro k
  rw [find?_insert_comm h]
  exact sameData_mapping_iff.mp (.refl _) k

end Entries
end TypedRoutes
