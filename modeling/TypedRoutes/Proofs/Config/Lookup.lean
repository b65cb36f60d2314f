import TypedRoutes.Config.Merge
import TypedRoutes.Proofs.Value.Entries

/-!
# Merging, by look-up

A mapping without repeated keys overrides another one entry by entry: under a key that it has, the
merged mapping has its value, merged onto the earlier one, and under any other key the earlier one.
So it is along paths of keys: what the later mapping leads to is merged onto what the earlier one
has there, and where it leads nowhere the earlier one stays, unless something else than a mapping
cuts the path off.
-/
namespace TypedRoutes

namespace Value

variable {value found key : Value} {base : Option Value} {path rest : List Value}

def IsMapping (value : Value) : Prop :=
  ∃ entries, value = .mapping entries

def entries? : Value → Option Entries
  | .mapping entries => some entries
  | _ => none

theorem entries?_eq_some_iff {entries : Entries} :
    value.entries? = some entries ↔ value = .mapping entries := by
  cases value <;> simp [entries?]

/-! ## Paths of keys -/

/-- The value of a key, if the value is a mapping that has it. -/
def find? (value key : Value) : Option Value :=
  match value with
  | mapping entries => Entries.find? entries key
  | _ => none

/-- The value at the end of a path of keys. -/
def follow? (value : Value) : List Value → Option Value
  | [] => some value
  | key :: rest => (value.find? key).bind fun found => follow? found rest

/-- Whether something else than a mapping stands before the end of a path. -/
def Obstructs (value : Value) (path : List Value) : Prop :=
  ∃ front, front <+: path ∧ front ≠ path ∧
    ∃ found, value.follow? front = some found ∧ ¬found.IsMapping

theorem isMapping_of_find? (h : value.find? key = some found) : value.IsMapping := by
  cases value with
  | mapping entries => exact ⟨entries, rfl⟩
  | _ => cases h

theorem find?_of_not_mapping (h : ¬value.IsMapping) (key : Value) : value.find? key = none := by
  cases value with
  | mapping entries => exact absurd ⟨entries, rfl⟩ h
  | _ => rfl

theorem IsTidy.find? (h : value.IsTidy) (hfind : value.find? key = some found) : found.IsTidy := by
  cases value with
  | mapping entries => exact (isTidy_mapping_iff.mp h).find? hfind
  | _ => cases hfind

theorem follow?_append (value : Value) (front rest : List Value) :
    value.follow? (front ++ rest) = (value.follow? front).bind fun found => found.follow? rest := by
  induction front generalizing value with
  | nil => rfl
  | cons key front ih =>
    rw [List.cons_append, follow?, follow?, Option.bind_assoc]
    exact congrArg _ (funext ih)

theorem obstructs_cons_iff : value.Obstructs (key :: rest) ↔
    ¬value.IsMapping ∨ ∃ found, value.find? key = some found ∧ found.Obstructs rest := by
  constructor
  · rintro ⟨front, hfront, hne, last, hlast, hmapping⟩
    rcases List.prefix_cons_iff.mp hfront with rfl | ⟨front, rfl, hrest⟩
    · cases hlast
      exact .inl hmapping
    · rw [follow?] at hlast
      obtain ⟨found, hfound, hlast⟩ := Option.bind_eq_some_iff.mp hlast
      exact .inr ⟨found, hfound, front, hrest, fun heq => hne (heq ▸ rfl), last, hlast, hmapping⟩
  · rintro (hvalue | ⟨found, hfound, front, hrest, hne, last, hlast, hmapping⟩)
    · exact ⟨[], List.nil_prefix, (List.cons_ne_nil key rest).symm, value, rfl, hvalue⟩
    · refine ⟨key :: front, (List.prefix_cons_inj key).mpr hrest, ?_, last, ?_, hmapping⟩
      · exact fun heq => hne (List.cons.inj heq).2
      · rw [follow?, hfound]
        exact hlast

theorem follow?_of_obstructs (h : value.Obstructs path) : value.follow? path = none := by
  obtain ⟨front, ⟨rest, rfl⟩, hne, found, hfound, hmapping⟩ := h
  rw [follow?_append, hfound]
  cases rest with
  | nil => exact absurd (List.append_nil front).symm hne
  | cons key rest => rw [Option.bind_some, follow?, find?_of_not_mapping hmapping, Option.bind_none]

/-- From something else than a mapping a path leads nowhere only if it is cut off. -/
theorem obstructs_of_follow? (h : ¬value.IsMapping) (hnone : value.follow? path = none) :
    value.Obstructs path := by
  cases path with
  | nil => cases hnone
  | cons key rest => exact obstructs_cons_iff.mpr (.inl h)

end Value

namespace Entries

variable {source : Entries} {value : Value}

theorem mergedOnto_of_not_mapping (h : ¬value.IsMapping) (base : Option Value) :
    value.mergedOnto base = value := by
  unfold Value.mergedOnto
  split
  next source => exact absurd ⟨source, rfl⟩ h
  · rfl

/-- Under a key of the later mapping stands its value, merged onto the earlier one; under any other
key nothing changes. -/
theorem find?_merge (h : source.AreTidy) (target : Entries) (key : Value) :
    (target.merge source).find? key =
      match source.find? key with
      | some value => some (value.mergedOnto (target.find? key))
      | none => target.find? key := by
  induction source generalizing target with
  | nil => rfl
  | cons entry rest ih =>
    obtain ⟨k, v⟩ := entry
    rw [AreTidy] at h
    rw [merge, ih h.2.2, find?]
    by_cases hk : k.sameKey key = true
    · -- The key is not repeated, so the rest leaves the first entry alone.
      have hrest : find? rest key = none := by
        rw [← find?_congr hk]
        exact find?_eq_none h.1
      rw [hrest, if_pos hk, find?_congr hk]
      exact find?_insert_of_sameKey hk _ _
    · rw [if_neg hk, find?_insert_of_not_sameKey (Bool.eq_false_iff.mpr hk)]

end Entries

namespace Value

variable {value found key : Value} {base : Option Value} {source : Entries} {path : List Value}

theorem mergedOnto_mapping (target source : Entries) :
    (mapping source).mergedOnto (some (mapping target)) = mapping (target.merge source) := by
  rw [mergedOnto]

/-- Where there is no mapping yet, the later value stands as it is. -/
theorem mergedOnto_of_no_mapping (h : ∀ target, base ≠ some (mapping target)) (value : Value) :
    value.mergedOnto base = value := by
  unfold mergedOnto
  split
  · split
    next target => exact absurd rfl (h target)
    · rfl
  · rfl

theorem mergedOnto_none (value : Value) : value.mergedOnto none = value :=
  mergedOnto_of_no_mapping (fun target => (Option.some_ne_none (mapping target)).symm) value

/-- Each value of a mapping is merged onto what is there under its key. -/
theorem find?_mergedOnto (h : source.AreTidy) (base : Option Value) (key : Value) :
    ((mapping source).mergedOnto base).find? key =
      match (mapping source).find? key with
      | some value => some (value.mergedOnto (base.bind fun base => base.find? key))
      | none => base.bind fun base => base.find? key := by
  by_cases hbase : ∃ target, base = some (mapping target)
  · obtain ⟨target, rfl⟩ := hbase
    rw [mergedOnto_mapping]
    exact Entries.find?_merge h target key
  · have hother : ∀ target, base ≠ some (mapping target) := fun target heq => hbase ⟨target, heq⟩
    have hnone : (base.bind fun base => base.find? key) = none := by
      refine Option.bind_eq_none_iff.mpr fun value hvalue => find?_of_not_mapping ?_ key
      rintro ⟨target, rfl⟩
      exact hother target hvalue
    rw [mergedOnto_of_no_mapping hother, hnone]
    cases (mapping source).find? key with
    | none => rfl
    | some value => exact congrArg some (mergedOnto_none value).symm

/-! ## What stands at a path -/

/-- What the later value has at a path is merged onto what the earlier one has there. -/
theorem follow?_mergedOnto_of_some (htidy : value.IsTidy) (h : value.follow? path = some found)
    (base : Option Value) :
    (value.mergedOnto base).follow? path =
      some (found.mergedOnto (base.bind fun base => base.follow? path)) := by
  induction path generalizing value base with
  | nil =>
    cases h
    exact congrArg (fun base => some (mergedOnto base found)) (Option.bind_fun_some base).symm
  | cons key rest ih =>
    rw [follow?] at h
    obtain ⟨next, hnext, hrest⟩ := Option.bind_eq_some_iff.mp h
    obtain ⟨source, rfl⟩ := isMapping_of_find? hnext
    rw [follow?, find?_mergedOnto (isTidy_mapping_iff.mp htidy), hnext]
    dsimp only
    rw [Option.bind_some, ih (htidy.find? hnext) hrest, Option.bind_assoc]
    rfl

/-- What is cut off in the later value is gone. -/
theorem follow?_mergedOnto_of_obstructs (htidy : value.IsTidy) (h : value.Obstructs path)
    (base : Option Value) : (value.mergedOnto base).follow? path = none := by
  obtain ⟨front, hprefix, hne, found, hfound, hmapping⟩ := h
  refine follow?_of_obstructs ⟨front, hprefix, hne, found, ?_, hmapping⟩
  rw [follow?_mergedOnto_of_some htidy hfound, Entries.mergedOnto_of_not_mapping hmapping]

/-- What the later value does not have, without being cut off, stays as it was. -/
theorem follow?_mergedOnto_of_none (htidy : value.IsTidy) (h : value.follow? path = none)
    (hclear : ¬value.Obstructs path) (base : Option Value) :
    (value.mergedOnto base).follow? path = base.bind fun base => base.follow? path := by
  induction path generalizing value base with
  | nil => cases h
  | cons key rest ih =>
    rw [obstructs_cons_iff, not_or, Classical.not_not] at hclear
    obtain ⟨⟨source, rfl⟩, hclear⟩ := hclear
    rw [follow?] at h
    rw [follow?, find?_mergedOnto (isTidy_mapping_iff.mp htidy)]
    cases hnext : (mapping source).find? key with
    | none =>
      dsimp only
      rw [Option.bind_assoc]
      rfl
    | some next =>
      rw [hnext, Option.bind_some] at h
      have hrest : ¬next.Obstructs rest := fun hobstructs => hclear ⟨next, hnext, hobstructs⟩
      dsimp only
      rw [Option.bind_some, ih (htidy.find? hnext) h hrest, Option.bind_assoc]
      rfl

end Value
end TypedRoutes
