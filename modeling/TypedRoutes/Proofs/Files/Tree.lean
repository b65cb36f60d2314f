import Mathlib.Data.List.Basic
import TypedRoutes.Files.Tree

/-!
# Looking up files

What a path leads to can be told unless the path or the name of a component is too long.
-/
namespace TypedRoutes
namespace FileTree

variable {tree : FileTree} {path name : List Char} {place : Place} {entry : Entry}
variable {failure : Failure}

theorem entry?_of_find {found : Option Entry} (h : tree.find path = .ok found) :
    tree.entry? path = found := by
  unfold find at h
  unfold entry?
  split at h
  next hplace =>
    rw [hplace]
    exact Except.ok.inj h
  next hmissing =>
    rw [hmissing]
    exact Except.ok.inj h
  · cases h

theorem nameTooLong_of_find (h : tree.find path = .error failure) : failure = .nameTooLong := by
  unfold find at h
  split at h
  · cases h
  · cases h
  · cases h
    rfl

/-- Whether neither a path nor a name in it is too long. -/
def IsWithinLimits (path : List Char) : Prop :=
  sizeOf path ≤ maxPathSize ∧ ∀ name ∈ Text.pieces path, sizeOf name ≤ maxNameSize

instance (path : List Char) : Decidable (IsWithinLimits path) :=
  inferInstanceAs (Decidable (_ ∧ _))

theorem step_ne_nameTooLong (h : sizeOf name ≤ maxNameSize) :
    tree.step place name ≠ .error .nameTooLong := by
  unfold step
  rw [if_neg (Nat.not_lt.mpr h)]
  split_ifs
  · exact nofun
  · exact nofun
  · unfold enter
    split
    · split_ifs <;> exact nofun
    · split_ifs <;> exact nofun

theorem foldlM_step_ne_nameTooLong {names : List (List Char)}
    (h : ∀ name ∈ names, sizeOf name ≤ maxNameSize) (place : Place) :
    names.foldlM tree.step place ≠ .error .nameTooLong := by
  induction names generalizing place with
  | nil => exact nofun
  | cons name rest ih =>
    obtain ⟨hname, hrest⟩ := List.forall_mem_cons.mp h
    rw [List.foldlM_cons]
    cases hstep : tree.step place name with
    | ok next => exact ih hrest next
    | error obstacle =>
      rintro ⟨⟩
      exact step_ne_nameTooLong hname hstep

theorem exists_find (h : IsWithinLimits path) (tree : FileTree) :
    ∃ found, tree.find path = .ok found := by
  have hlocate : tree.locate path ≠ .error .nameTooLong := by
    unfold locate
    rw [if_neg (Nat.not_lt.mpr h.1)]
    split_ifs
    · exact nofun
    · exact foldlM_step_ne_nameTooLong h.2 _
  unfold find
  split
  · exact ⟨_, rfl⟩
  · exact ⟨_, rfl⟩
  next htoo => exact absurd htoo hlocate

end FileTree
end TypedRoutes
