import TypedRoutes.Proofs.Config.Lookup

/-!
# Merging at paths of names

What a later mapping has at a path of names stands there after merging, and a path that it spares
leads to the same as before. Putting a value at a path is merging with the nested mappings that hold
nothing else, as long as nothing but mappings stands on the way.
-/
namespace TypedRoutes
namespace Entries

variable {entries layer inner : Entries} {value : Value} {name raw : String}
variable {path : List String}

/-! ## Paths -/

/-- Whether a mapping has nothing at a path, nor anything but mappings on the way. -/
def spares (entries : Entries) : List String → Bool
  | [] => false
  | name :: rest =>
    match entries.get? name with
    | none => true
    | some (.mapping inner) => spares inner rest
    | some _ => false

/-- Whether nothing but mappings stands on the way to the end of a path. -/
def admits (entries : Entries) : List String → Bool
  | [] | [_] => true
  | name :: rest =>
    match entries.get? name with
    | none => true
    | some (.mapping inner) => admits inner rest
    | some _ => false

theorem at?_cons_cons (entries : Entries) (name next : String) (more : List String) :
    entries.at? (name :: next :: more) =
      match entries.get? name with
      | some (.mapping inner) => at? inner (next :: more)
      | _ => none :=
  rfl

theorem nest_cons_cons (value : Value) (name next : String) (more : List String) :
    nest value (name :: next :: more) = [(.text name, .mapping (nest value (next :: more)))] :=
  rfl

theorem admits_cons_cons (entries : Entries) (name next : String) (more : List String) :
    entries.admits (name :: next :: more) =
      match entries.get? name with
      | none => true
      | some (.mapping inner) => admits inner (next :: more)
      | some _ => false :=
  rfl

theorem assign_cons_cons (entries : Entries) (raw name next : String) (more : List String) :
    entries.assign raw (name :: next :: more) =
      match entries.get? name with
      | some (.mapping inner) =>
        (assign inner raw (next :: more)).map fun inner =>
          entries.insert (.text name) (.mapping inner)
      | some _ => assignNowhere raw (next :: more)
      | none =>
        (Value.guess raw).map fun value =>
          entries.insert (.text name) (.mapping (nest value (next :: more))) :=
  rfl

theorem at?_cons_of_mapping (h : entries.get? name = some (.mapping inner)) (hpath : path ≠ []) :
    entries.at? (name :: path) = inner.at? path := by
  obtain ⟨next, rest, rfl⟩ := List.exists_cons_of_ne_nil hpath
  rw [at?_cons_cons, h]

theorem at?_cons_of_none (h : entries.get? name = none) (path : List String) :
    entries.at? (name :: path) = none := by
  cases path with
  | nil => exact h
  | cons next rest => rw [at?_cons_cons, h]

theorem at?_cons_of_not_mapping (h : entries.get? name = some value) (hvalue : ¬value.IsMapping)
    (hpath : path ≠ []) : entries.at? (name :: path) = none := by
  obtain ⟨next, rest, rfl⟩ := List.exists_cons_of_ne_nil hpath
  rw [at?_cons_cons, h]
  cases value with
  | mapping inner => exact absurd ⟨inner, rfl⟩ hvalue
  | _ => rfl

/-- A path of names is a path of keys. -/
theorem follow?_names (entries : Entries) (path : List String) :
    (Value.mapping entries).follow? (path.map .text) = entries.at? path := by
  induction path generalizing entries with
  | nil => rfl
  | cons name rest ih =>
    rw [List.map_cons, Value.follow?]
    change (entries.get? name).bind _ = _
    by_cases hrest : rest = []
    · subst hrest
      exact Option.bind_fun_some _
    · cases hget : entries.get? name with
      | none => exact (at?_cons_of_none hget rest).symm
      | some found =>
        rw [Option.bind_some]
        by_cases hfound : found.IsMapping
        · obtain ⟨inner, rfl⟩ := hfound
          rw [ih, at?_cons_of_mapping hget hrest]
        · obtain ⟨next, more, rfl⟩ := List.exists_cons_of_ne_nil hrest
          rw [at?_cons_of_not_mapping hget hfound hrest, List.map_cons, Value.follow?,
            Value.find?_of_not_mapping hfound, Option.bind_none]

theorem spares_iff : entries.spares path = true ↔
    (Value.mapping entries).follow? (path.map .text) = none ∧
      ¬(Value.mapping entries).Obstructs (path.map .text) := by
  induction path generalizing entries with
  | nil => exact iff_of_false Bool.false_ne_true fun h => nomatch h.1
  | cons name rest ih =>
    have hmapping : (Value.mapping entries).IsMapping := ⟨entries, rfl⟩
    have hfind : (Value.mapping entries).find? (.text name) = entries.get? name := rfl
    rw [spares, List.map_cons, Value.follow?, Value.obstructs_cons_iff, hfind]
    split
    next hnone => simp [hmapping, hnone]
    next inner hinner => simp [hmapping, hinner, ih]
    next found hnot hfound =>
      have hother : ¬found.IsMapping := by
        rintro ⟨inner, rfl⟩
        exact hnot inner rfl
      rw [hfound, Option.bind_some]
      refine iff_of_false Bool.false_ne_true ?_
      rintro ⟨hnone, hclear⟩
      exact hclear (.inr ⟨found, rfl, Value.obstructs_of_follow? hother hnone⟩)

/-- What a later mapping has at a path stands there, whatever the earlier one has. -/
theorem at?_merge_of_at? (htidy : layer.AreTidy) (h : layer.at? path = some value)
    (hvalue : ¬value.IsMapping) (target : Entries) :
    (target.merge layer).at? path = some value := by
  rw [← follow?_names] at h
  rw [← follow?_names, ← Value.mergedOnto_mapping,
    Value.follow?_mergedOnto_of_some (Value.isTidy_mapping_iff.mpr htidy) h,
    mergedOnto_of_not_mapping hvalue]

/-- A path that a later mapping spares leads to the same as before. -/
theorem at?_merge_of_spares (htidy : layer.AreTidy) (h : layer.spares path = true) (target : Entries) :
    (target.merge layer).at? path = target.at? path := by
  obtain ⟨hnone, hclear⟩ := spares_iff.mp h
  rw [← follow?_names, ← Value.mergedOnto_mapping,
    Value.follow?_mergedOnto_of_none (Value.isTidy_mapping_iff.mpr htidy) hnone hclear,
    Option.bind_some, follow?_names]

/-- Layers that spare a path change nothing there. -/
theorem at?_foldl_merge {after : List Entries} (htidy : ∀ later ∈ after, later.AreTidy)
    (hspares : ∀ later ∈ after, later.spares path = true) (entries : Entries) :
    (after.foldl merge entries).at? path = entries.at? path := by
  induction after generalizing entries with
  | nil => rfl
  | cons later after ih =>
    obtain ⟨htidyLater, htidyAfter⟩ := List.forall_mem_cons.mp htidy
    obtain ⟨hlater, hafter⟩ := List.forall_mem_cons.mp hspares
    rw [List.foldl_cons, ih htidyAfter hafter, at?_merge_of_spares htidyLater hlater]

/-- The last of some layers that does not spare a path decides what stands there. -/
theorem at?_foldl_merge_of_at? {before after : List Entries}
    (htidy : ∀ other ∈ layer :: after, other.AreTidy) (h : layer.at? path = some value)
    (hvalue : ¬value.IsMapping) (hspares : ∀ later ∈ after, later.spares path = true)
    (entries : Entries) :
    ((before ++ layer :: after).foldl merge entries).at? path = some value := by
  obtain ⟨htidyLayer, htidyAfter⟩ := List.forall_mem_cons.mp htidy
  rw [List.foldl_append, List.foldl_cons, at?_foldl_merge htidyAfter hspares,
    at?_merge_of_at? htidyLayer h hvalue]

/-! ## Single values -/

theorem areTidy_nest (hvalue : value.IsTidy) (path : List String) : (nest value path).AreTidy := by
  induction path with
  | nil =>
    rw [nest, AreTidy]
    trivial
  | cons name rest ih =>
    cases rest with
    | nil =>
      rw [nest, AreTidy, AreTidy]
      exact ⟨by simp, hvalue, trivial⟩
    | cons next more =>
      rw [nest_cons_cons, AreTidy, AreTidy, Value.IsTidy]
      exact ⟨by simp, ih, trivial⟩

theorem at?_nest (value : Value) (hpath : path ≠ []) : (nest value path).at? path = some value := by
  induction path with
  | nil => exact absurd rfl hpath
  | cons name rest ih =>
    cases rest with
    | nil => exact get?_cons_self
    | cons next more =>
      rw [nest_cons_cons, at?_cons_of_mapping get?_cons_self (List.cons_ne_nil next more)]
      exact ih (List.cons_ne_nil next more)

theorem assignNowhere_of_guess_eq_error {failure : Failure}
    (hguess : Value.guess raw = .error failure) (path : List String) :
    assignNowhere raw path = .error failure ∨ assignNowhere raw path = .error .wrongShape := by
  unfold assignNowhere
  rw [hguess]
  split
  · exact .inl rfl
  · exact .inr rfl

theorem assignNowhere_of_guess (hguess : Value.guess raw = .ok value) (path : List String) :
    assignNowhere raw path = .error .wrongShape := by
  unfold assignNowhere
  rw [hguess]
  split <;> rfl

/-- Putting a value at a path is merging with the nested mappings that hold only it. -/
theorem assign_of_admits (hguess : Value.guess raw = .ok value) (hvalue : ¬value.IsMapping)
    (h : entries.admits path = true) : entries.assign raw path = .ok (entries.merge (nest value path)) := by
  induction path generalizing entries with
  | nil => rfl
  | cons name rest ih =>
    cases rest with
    | nil =>
      rw [assign, hguess, nest, merge, merge, mergedOnto_of_not_mapping hvalue]
      rfl
    | cons next more =>
      rw [admits_cons_cons] at h
      rw [assign_cons_cons, nest_cons_cons, merge, merge]
      split at h
      next hnone =>
        have hfind : entries.find? (.text name) = none := hnone
        rw [hnone, hguess, hfind]
        unfold Value.mergedOnto
        rfl
      next inner hinner =>
        have hfind : entries.find? (.text name) = some (.mapping inner) := hinner
        rw [hinner, hfind]
        unfold Value.mergedOnto
        dsimp only
        rw [ih h]
        rfl
      · cases h

/-- A value that would have to be put into something else than a mapping is refused. -/
theorem assign_of_not_admits (hguess : Value.guess raw = .ok value) (h : entries.admits path = false) :
    entries.assign raw path = .error .wrongShape := by
  induction path generalizing entries with
  | nil => cases h
  | cons name rest ih =>
    cases rest with
    | nil => cases h
    | cons next more =>
      rw [admits_cons_cons] at h
      rw [assign_cons_cons]
      split at h
      · cases h
      next inner hinner =>
        rw [hinner]
        dsimp only
        rw [ih h]
        rfl
      next found hnot hfound =>
        rw [hfound]
        cases found with
        | mapping inner => exact absurd rfl (hnot inner)
        | _ => exact assignNowhere_of_guess hguess (next :: more)

/-- Any value can be put at a path that nothing but mappings stands on the way to. -/
theorem exists_assign_eq_ok (hguess : Value.guess raw = .ok value)
    (h : entries.admits path = true) : ∃ next, entries.assign raw path = .ok next := by
  induction path generalizing entries with
  | nil => exact ⟨entries, rfl⟩
  | cons name rest ih =>
    cases rest with
    | nil => exact ⟨_, by rw [assign, hguess]; rfl⟩
    | cons next more =>
      rw [admits_cons_cons] at h
      rw [assign_cons_cons]
      split at h
      next hnone => exact ⟨_, by rw [hnone, hguess]; rfl⟩
      next inner hinner =>
        obtain ⟨changed, hchanged⟩ := ih h
        exact ⟨_, by rw [hinner]; dsimp only; rw [hchanged]; rfl⟩
      · cases h

/-- Where a value cannot be guessed, nothing is put anywhere. -/
theorem assign_of_guess_eq_error {failure : Failure} (hguess : Value.guess raw = .error failure)
    (hpath : path ≠ []) (entries : Entries) :
    entries.assign raw path = .error failure ∨ entries.assign raw path = .error .wrongShape := by
  induction path generalizing entries with
  | nil => exact absurd rfl hpath
  | cons name rest ih =>
    cases rest with
    | nil => exact .inl (by rw [assign, hguess]; rfl)
    | cons next more =>
      rw [assign_cons_cons]
      split
      next inner _ =>
        rcases ih (List.cons_ne_nil next more) inner with hinner | hinner
        · exact .inl (by rw [hinner]; rfl)
        · exact .inr (by rw [hinner]; rfl)
      · exact assignNowhere_of_guess_eq_error hguess (next :: more)
      · exact .inl (by rw [hguess]; rfl)

end Entries
end TypedRoutes
