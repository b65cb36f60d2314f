import TypedRoutes.Proofs.Config.Layers

/-!
# Assigning along paths

A text that is assigned at a path puts the value that it is taken for there, and the mappings that
are missing on the way. It does so exactly if nothing but mappings stands on the way. Paths of which
neither leads through the end of the other do not get in each other's way.
-/
namespace TypedRoutes

theorem Value.guess_of_truthWord? {s : String} {b : Bool} (h : truthWord? s = some b) :
    guess s = .ok (.boolean b) := by
  rw [guess, h]

/-- Whether neither of two paths is the other or leads through its end. -/
def Apart (path other : List String) : Prop :=
  ¬path <+: other ∧ ¬other <+: path

instance (path other : List String) : Decidable (Apart path other) :=
  inferInstanceAs (Decidable (¬path <+: other ∧ ¬other <+: path))

namespace Apart

variable {path other : List String} {name : String}

theorem symm (h : Apart path other) : Apart other path :=
  ⟨h.2, h.1⟩

theorem ne_nil (h : Apart path other) : path ≠ [] := by
  rintro rfl
  exact h.1 List.nil_prefix

theorem of_cons (h : Apart (name :: path) (name :: other)) : Apart path other :=
  ⟨fun hprefix => h.1 ((List.prefix_cons_inj name).mpr hprefix),
    fun hprefix => h.2 ((List.prefix_cons_inj name).mpr hprefix)⟩

end Apart

namespace Entries

/-- The entries of the mapping under a name, none if there is no mapping. -/
def inner (entries : Entries) (name : String) : Entries :=
  match entries.get? name with
  | some (.mapping inner) => inner
  | _ => []

/-- The entries with a value at a path and the mappings that lead there. -/
def put (entries : Entries) (value : Value) : List String → Entries
  | [] => entries
  | name :: rest =>
    entries.insert (.text name)
      (if rest = [] then value else .mapping (put (entries.inner name) value rest))

variable {entries next found : Entries} {value : Value} {name key raw : String}
variable {path other rest : List String}

/-! ## One step of a path -/

theorem inner_of_get? (h : entries.get? name = some (.mapping found)) :
    entries.inner name = found := by
  rw [inner, h]

theorem inner_of_none (h : entries.get? name = none) : entries.inner name = [] := by
  rw [inner, h]

theorem inner_of_not_mapping (h : entries.get? name = some value) (hvalue : ¬value.IsMapping) :
    entries.inner name = [] := by
  rw [inner, h]
  cases value with
  | mapping found => exact absurd ⟨found, rfl⟩ hvalue
  | _ => rfl

theorem put_cons (hrest : rest ≠ []) :
    entries.put value (name :: rest) =
      entries.insert (.text name) (.mapping ((entries.inner name).put value rest)) := by
  rw [put, if_neg hrest]

theorem get?_put_self (hrest : rest ≠ []) :
    (entries.put value (name :: rest)).get? name =
      some (.mapping ((entries.inner name).put value rest)) := by
  rw [put_cons hrest, get?_insert_self]

theorem get?_put_of_ne (h : name ≠ key) :
    (entries.put value (key :: rest)).get? name = entries.get? name :=
  get?_insert_of_ne (fun heq => h (Value.text.inj heq).symm) _ _

theorem inner_put_self (hrest : rest ≠ []) :
    (entries.put value (name :: rest)).inner name = (entries.inner name).put value rest :=
  inner_of_get? (get?_put_self hrest)

theorem inner_put_of_ne (h : name ≠ key) :
    (entries.put value (key :: rest)).inner name = entries.inner name := by
  rw [inner, get?_put_of_ne h, inner]

theorem at?_empty (hpath : path ≠ []) : at? [] path = none := by
  obtain ⟨name, rest, rfl⟩ := List.exists_cons_of_ne_nil hpath
  exact at?_cons_of_none rfl rest

theorem at?_cons (hrest : rest ≠ []) :
    entries.at? (name :: rest) = (entries.inner name).at? rest := by
  cases hget : entries.get? name with
  | none => rw [inner_of_none hget, at?_cons_of_none hget, at?_empty hrest]
  | some found =>
    by_cases hfound : found.IsMapping
    · obtain ⟨inner, rfl⟩ := hfound
      rw [inner_of_get? hget, at?_cons_of_mapping hget hrest]
    · rw [inner_of_not_mapping hget hfound, at?_cons_of_not_mapping hget hfound hrest,
        at?_empty hrest]

theorem admits_empty (path : List String) : admits [] path = true := by
  cases path with
  | nil => rfl
  | cons name rest => cases rest <;> rfl

theorem admits_cons_iff (hrest : rest ≠ []) :
    entries.admits (name :: rest) = true ↔
      (∀ value, entries.get? name = some value → value.IsMapping) ∧
        (entries.inner name).admits rest = true := by
  obtain ⟨next, more, rfl⟩ := List.exists_cons_of_ne_nil hrest
  rw [admits_cons_cons]
  cases hget : entries.get? name with
  | none => simp [inner_of_none hget, admits_empty]
  | some found =>
    cases found with
    | mapping inner => simp [inner_of_get? hget, Value.IsMapping]
    | _ => simp [Value.IsMapping]

/-! ## Assigning is putting -/

theorem nest_eq_put (value : Value) (path : List String) : nest value path = put [] value path := by
  induction path with
  | nil => rfl
  | cons name rest ih =>
    cases rest with
    | nil => rfl
    | cons next more =>
      rw [nest_cons_cons, ih, put_cons (List.cons_ne_nil next more)]
      rfl

theorem assign_eq_put (hguess : Value.guess raw = .ok value) (h : entries.admits path = true) :
    entries.assign raw path = .ok (entries.put value path) := by
  induction path generalizing entries with
  | nil => rfl
  | cons name rest ih =>
    cases rest with
    | nil =>
      rw [assign, hguess]
      rfl
    | cons next more =>
      have hrest := List.cons_ne_nil next more
      obtain ⟨hmapping, hinner⟩ := (admits_cons_iff hrest).mp h
      rw [assign_cons_cons, put_cons hrest]
      cases hget : entries.get? name with
      | none =>
        rw [hguess, inner_of_none hget, ← nest_eq_put]
        rfl
      | some found =>
        obtain ⟨inner, rfl⟩ := hmapping found hget
        rw [inner_of_get? hget] at hinner ⊢
        dsimp only
        rw [ih hinner]
        rfl

/-- A text is assigned exactly if it is taken for a value and nothing but mappings stands on the
way. -/
theorem assign_eq_ok_iff (hpath : path ≠ []) :
    entries.assign raw path = .ok next ↔
      ∃ value, Value.guess raw = .ok value ∧ entries.admits path = true ∧
        next = entries.put value path := by
  constructor
  · intro h
    cases hguess : Value.guess raw with
    | error failure =>
      rcases assign_of_guess_eq_error hguess hpath entries with hassign | hassign <;>
        cases hassign.symm.trans h
    | ok value =>
      cases hadmits : entries.admits path with
      | false => cases (assign_of_not_admits hguess hadmits).symm.trans h
      | true =>
        rw [assign_eq_put hguess hadmits] at h
        cases h
        exact ⟨value, rfl, rfl, rfl⟩
  · rintro ⟨value, hguess, hadmits, rfl⟩
    exact assign_eq_put hguess hadmits

/-! ## Where a value is put, and elsewhere -/

theorem at?_put_self (hpath : path ≠ []) : (entries.put value path).at? path = some value := by
  induction path generalizing entries with
  | nil => exact absurd rfl hpath
  | cons name rest ih =>
    by_cases hrest : rest = []
    · subst hrest
      exact get?_insert_self _ _ _
    · rw [at?_cons hrest, inner_put_self hrest, ih hrest]

/-- What stands at other paths does not change. -/
theorem at?_put_of_apart (h : Apart path other) :
    (entries.put value path).at? other = entries.at? other := by
  induction path generalizing entries other with
  | nil => exact absurd rfl h.ne_nil
  | cons key more ih =>
    obtain ⟨name, rest, rfl⟩ := List.exists_cons_of_ne_nil h.symm.ne_nil
    by_cases hname : name = key
    · subst hname
      have happart := h.of_cons
      rw [at?_cons happart.symm.ne_nil, inner_put_self happart.ne_nil, ih happart,
        at?_cons happart.symm.ne_nil]
    · by_cases hrest : rest = []
      · subst hrest
        exact get?_put_of_ne hname
      · rw [at?_cons hrest, inner_put_of_ne hname, at?_cons hrest]

/-- Nor does what stands on the way to them. -/
theorem admits_put (h : Apart path other) (hpath : entries.admits path = true) :
    (entries.put value path).admits other = entries.admits other := by
  induction path generalizing entries other with
  | nil => exact absurd rfl h.ne_nil
  | cons key more ih =>
    obtain ⟨name, rest, rfl⟩ := List.exists_cons_of_ne_nil h.symm.ne_nil
    rw [Bool.eq_iff_iff]
    by_cases hname : name = key
    · subst hname
      have happart := h.of_cons
      obtain ⟨hmapping, hinner⟩ := (admits_cons_iff happart.ne_nil).mp hpath
      rw [admits_cons_iff happart.symm.ne_nil, admits_cons_iff happart.symm.ne_nil,
        get?_put_self happart.ne_nil, inner_put_self happart.ne_nil, ih happart hinner]
      refine and_congr_left fun _ => iff_of_true ?_ hmapping
      rintro _ ⟨⟩
      exact ⟨_, rfl⟩
    · by_cases hrest : rest = []
      · subst hrest
        exact Iff.rfl
      · rw [admits_cons_iff hrest, admits_cons_iff hrest, get?_put_of_ne hname,
          inner_put_of_ne hname]

end Entries

namespace Config

variable {data next : Entries} {text : List String × String} {texts : List (List String × String)}
variable {path : List String}

/-! ## One text after another -/

theorem place_cons_eq_ok_iff (htext : text.1 ≠ []) :
    place data (text :: texts) = .ok next ↔
      ∃ value, Value.guess text.2 = .ok value ∧ data.admits text.1 = true ∧
        place (data.put value text.1) texts = .ok next := by
  have hcons : place data (text :: texts) =
      data.assign text.2 text.1 >>= fun next => place next texts := List.foldlM_cons
  rw [hcons, Except.bind_eq_ok_iff]
  constructor
  · rintro ⟨reached, hassign, h⟩
    obtain ⟨value, hguess, hadmits, rfl⟩ := (Entries.assign_eq_ok_iff htext).mp hassign
    exact ⟨value, hguess, hadmits, h⟩
  · rintro ⟨value, hguess, hadmits, h⟩
    exact ⟨_, Entries.assign_eq_put hguess hadmits, h⟩

/-- Texts at paths apart change nothing at a path. -/
theorem at?_place_of_apart (h : place data texts = .ok next)
    (hapart : ∀ text ∈ texts, Apart path text.1) : next.at? path = data.at? path := by
  induction texts generalizing data with
  | nil =>
    cases h
    rfl
  | cons text texts ih =>
    obtain ⟨htext, hrest⟩ := List.forall_mem_cons.mp hapart
    obtain ⟨value, -, -, hplace⟩ := (place_cons_eq_ok_iff htext.symm.ne_nil).mp h
    rw [ih hplace hrest, Entries.at?_put_of_apart htext.symm]

end Config
end TypedRoutes
