import TypedRoutes.Config.Sharing
import TypedRoutes.Proofs.Config.SameData
import TypedRoutes.Proofs.Value.Store

/-!
# Assigning in mappings that stand in several places

A path leads from one mapping with a number to the next, until what is left of it stays within
mappings that stand nowhere else. So a text that is assigned changes one entry of one mapping with a
number. The place where it is put is in the way of another path only if this path leads through it,
or ends there.
-/
namespace TypedRoutes

open Value (SameData)

theorem Entries.exists_assignNowhere_eq_error (raw : String) (path : List String) :
    ∃ failure, Entries.assignNowhere raw path = .error failure := by
  unfold Entries.assignNowhere
  split
  · split
    · exact ⟨_, rfl⟩
    · exact ⟨_, rfl⟩
  · exact ⟨_, rfl⟩

namespace Held

/-- The entries of a mapping that stands nowhere else, none if something else is found. -/
def inner : Option Held → Entries
  | some (.plain (.mapping entries)) => entries
  | _ => []

/-- Whether nothing but mappings that stand nowhere else is on the rest of a path. -/
def admits : Option Held → List String → Bool
  | _, [] | none, _ => true
  | some (.plain (.mapping entries)), rest => Entries.admits entries rest
  | some _, _ => false

/-- The value under a name with another value at the rest of a path. -/
def put (found : Option Held) (value : Value) (rest : List String) : Value :=
  if rest = [] then value else .mapping ((inner found).put value rest)

variable {found other : Option Held} {rest : List String} {raw : String} {result : Value}

theorem put_of_ne_nil (h : rest ≠ []) (found : Option Held) (value : Value) :
    put found value rest = .mapping ((inner found).put value rest) :=
  if_neg h

theorem admits_iff (hrest : rest ≠ []) :
    admits found rest = true ↔
      (∀ held, found = some held → ∃ entries, held = .plain (.mapping entries)) ∧
        (inner found).admits rest = true := by
  obtain ⟨name, more, rfl⟩ := List.exists_cons_of_ne_nil hrest
  rcases found with _ | ⟨value⟩ | ⟨items⟩ | ⟨number⟩
  · simp [admits, inner, Entries.admits_empty]
  · cases value <;> simp [admits, inner]
  · simp [admits]
  · simp [admits]

/-- A text is assigned exactly if it is taken for a value and nothing is in the way. -/
theorem assign_eq_ok_iff :
    assign raw rest found = .ok result ↔
      ∃ value, Value.guess raw = .ok value ∧ admits found rest = true ∧
        result = put found value rest := by
  by_cases hrest : rest = []
  · subst hrest
    have hadmits : admits found [] = true := by cases found <;> rfl
    simp [assign, put, hadmits, eq_comm]
  · unfold assign
    rw [if_neg hrest, admits_iff hrest]
    simp only [put_of_ne_nil hrest]
    obtain ⟨failure, hnowhere⟩ := Entries.exists_assignNowhere_eq_error raw rest
    rcases found with _ | ⟨value⟩ | ⟨items⟩ | ⟨number⟩
    · simp only [Except.map_eq_ok_iff, Entries.nest_eq_put, inner, Entries.admits_empty]
      simp [eq_comm]
    · cases value with
      | mapping entries =>
        simp only [Except.map_eq_ok_iff, Entries.assign_eq_ok_iff hrest, inner]
        constructor
        · rintro ⟨_, ⟨value, hguess, hadmits, rfl⟩, rfl⟩
          exact ⟨value, hguess, ⟨by simp, hadmits⟩, rfl⟩
        · rintro ⟨value, hguess, ⟨-, hadmits⟩, rfl⟩
          exact ⟨_, ⟨value, hguess, hadmits, rfl⟩, rfl⟩
      | _ => simp [hnowhere, Except.map]
    · simp [hnowhere, Except.map]
    · simp [hnowhere, Except.map]

/-- Where a value is that of what is held, but of no mapping with a number, both have the same
entries. -/
theorem inner_eq_of_rel {mapping : Nat → Except Failure Value} {entries : Entries} {name : String}
    (h : Option.Rel (fun held value => held.value mapping = .ok value) found (entries.get? name))
    (hfound : ∀ number, found ≠ some (.shared number)) : inner found = entries.inner name := by
  rw [Entries.inner]
  generalize entries.get? name = value at h ⊢
  cases h with
  | none => rfl
  | @some held value hvalue =>
    cases held with
    | plain =>
      rw [Held.value] at hvalue
      cases hvalue
      cases value <;> rfl
    | list items =>
      rw [Held.value] at hvalue
      obtain ⟨values, -, rfl⟩ := Except.map_eq_ok_iff.mp hvalue
      rfl
    | shared number => exact absurd rfl (hfound number)

/-! ## The same data -/

theorem sameData_inner (h : Option.Rel Held.SameData found other) :
    (Value.mapping (inner found)).SameData (.mapping (inner other)) := by
  cases h with
  | none => exact .refl _
  | some hheld =>
    cases hheld with
    | refl => exact .refl _
    | plain hvalue =>
      cases hvalue with
      | refl => exact .refl _
      | list => exact .refl _
      | mapping keys values => exact .mapping keys values

theorem admits_congr (h : Option.Rel Held.SameData found other) (rest : List String) :
    admits found rest = admits other rest := by
  cases rest with
  | nil => cases h <;> rfl
  | cons name more =>
    have hinner := sameData_inner h
    cases h with
    | none => rfl
    | some hheld =>
      cases hheld with
      | refl => rfl
      | plain hvalue =>
        cases hvalue with
        | refl => rfl
        | list => rfl
        | mapping => exact Entries.admits_congr hinner _

theorem sameData_put (h : Option.Rel Held.SameData found other) (value : Value)
    (rest : List String) : (put found value rest).SameData (put other value rest) := by
  rw [put, put]
  split
  · exact .refl value
  · exact Entries.sameData_put (sameData_inner h) value rest

end Held

/-! ## Places -/

namespace Place

variable {place other : Place}

/-- Whether a place is another, or stands on the way to it in the same mapping. -/
def IsOnWayTo (place other : Place) : Prop :=
  place.number = other.number ∧ place.path <+: other.path

instance (place other : Place) : Decidable (place.IsOnWayTo other) :=
  inferInstanceAs (Decidable (place.number = other.number ∧ place.path <+: other.path))

/-- Whether neither of two places is the other or stands on the way to it. -/
def Apart (place other : Place) : Prop :=
  ¬place.IsOnWayTo other ∧ ¬other.IsOnWayTo place

/-- Places apart are not in one mapping, or their paths are apart. -/
theorem Apart.paths (h : place.Apart other) (hnumber : place.number = other.number) :
    TypedRoutes.Apart place.path other.path :=
  ⟨fun hpath => h.1 ⟨hnumber, hpath⟩, fun hpath => h.2 ⟨hnumber.symm, hpath⟩⟩

end Place

namespace Store

/-- The store with a value at a place and the mappings that lead there. -/
def put (store : Store) (value : Value) : Place → Store
  | ⟨_, []⟩ => store
  | ⟨number, name :: rest⟩ =>
    store.insert number (.text name) (.plain (Held.put (store.get? number name) value rest))

/-- Whether nothing but mappings stands on the way to a place. -/
def admits (store : Store) : Place → Bool
  | ⟨_, []⟩ => true
  | ⟨number, name :: rest⟩ => Held.admits (store.get? number name) rest

/-- The places that a path leads through: the entries with the mappings that it goes on in, and its
own place at the end. -/
def places (store : Store) (number : Nat) : List String → List Place
  | [] => []
  | name :: rest =>
    match store.onward? number name rest with
    | some inner => ⟨number, [name]⟩ :: places store inner rest
    | none => [⟨number, name :: rest⟩]

/-- Whether a path leads through a place, or ends there. -/
def LeadsThrough (store : Store) (path : List String) (place : Place) : Prop :=
  ∃ stop ∈ store.places 0 path, place.IsOnWayTo stop

instance (store : Store) (path : List String) (place : Place) :
    Decidable (store.LeadsThrough path place) :=
  inferInstanceAs (Decidable (∃ stop ∈ store.places 0 path, place.IsOnWayTo stop))

/-- Whether neither of two paths leads through the place of the other, or ends there. -/
def Apart (store : Store) (path other : List String) : Prop :=
  ¬store.LeadsThrough other (store.locate 0 path) ∧
    ¬store.LeadsThrough path (store.locate 0 other)

instance (store : Store) (path other : List String) : Decidable (store.Apart path other) :=
  inferInstanceAs (Decidable (_ ∧ _))

variable {store other next : Store} {place stop : Place} {path more rest : List String}
variable {number inner : Nat} {name raw : String} {value value' : Value}

theorem Apart.symm (h : store.Apart path more) : store.Apart more path :=
  ⟨h.2, h.1⟩

theorem assignAt_eq_ok_iff (hplace : place.path ≠ []) :
    store.assignAt raw place = .ok next ↔
      ∃ value, Value.guess raw = .ok value ∧ store.admits place = true ∧
        next = store.put value place := by
  obtain ⟨number, path⟩ := place
  obtain ⟨name, rest, rfl⟩ := List.exists_cons_of_ne_nil hplace
  simp only [assignAt, admits, put, Except.map_eq_ok_iff, Held.assign_eq_ok_iff]
  constructor
  · rintro ⟨_, ⟨value, hguess, hadmits, rfl⟩, rfl⟩
    exact ⟨value, hguess, hadmits, rfl⟩
  · rintro ⟨value, hguess, hadmits, rfl⟩
    exact ⟨_, ⟨value, hguess, hadmits, rfl⟩, rfl⟩

/-! ## Along a path -/

theorem onward?_eq_some_iff : store.onward? number name rest = some inner ↔
    rest ≠ [] ∧ store.get? number name = some (.shared inner) := by
  unfold onward?
  split
  next hget => simp [hget]
  next hother =>
    refine iff_of_false nofun fun ⟨hrest, hget⟩ => ?_
    obtain ⟨first, more, rfl⟩ := List.exists_cons_of_ne_nil hrest
    exact hother first more inner rfl hget

theorem ne_nil_of_onward? (h : store.onward? number name rest = some inner) : rest ≠ [] :=
  (onward?_eq_some_iff.mp h).1

theorem path_locate_ne_nil (hpath : path ≠ []) : (store.locate number path).path ≠ [] := by
  induction path generalizing number with
  | nil => exact absurd rfl hpath
  | cons name rest ih =>
    rw [locate]
    split
    next honward => exact ih (ne_nil_of_onward? honward)
    next => exact List.cons_ne_nil _ _

/-- A text is assigned exactly if it is taken for a value and nothing but mappings stands on the
way to the place that the path leads to. -/
theorem assign_eq_ok_iff (hpath : path ≠ []) :
    store.assign raw path = .ok next ↔
      ∃ value, Value.guess raw = .ok value ∧ store.admits (store.locate 0 path) = true ∧
        next = store.put value (store.locate 0 path) :=
  assignAt_eq_ok_iff (path_locate_ne_nil hpath)

/-- The place of a path is the last one that it leads through. -/
theorem getLast?_places (hpath : path ≠ []) :
    (store.places number path).getLast? = some (store.locate number path) := by
  induction path generalizing number with
  | nil => exact absurd rfl hpath
  | cons name rest ih =>
    rw [places, locate]
    cases honward : store.onward? number name rest with
    | some inner =>
      dsimp only
      rw [List.getLast?_cons, ih (ne_nil_of_onward? honward)]
      rfl
    | none => rfl

theorem locate_mem_places (hpath : path ≠ []) :
    store.locate number path ∈ store.places number path :=
  List.mem_of_getLast? (getLast?_places hpath)

/-- Every path leads through an entry of the mapping that it starts in. -/
theorem exists_first_stop (store : Store) (number : Nat) (name : String) (rest : List String) :
    ∃ stop ∈ store.places number (name :: rest), stop.number = number ∧ [name] <+: stop.path := by
  rw [places]
  split
  · exact ⟨_, List.mem_cons_self, rfl, List.prefix_rfl⟩
  · exact ⟨_, List.mem_singleton_self _, rfl, List.prefix_append [name] rest⟩

/-- Whether a place can be the end of a path: it stays within one mapping with a number. -/
def IsSettled (store : Store) (place : Place) : Prop :=
  ∀ name rest, place.path = name :: rest → store.onward? place.number name rest = none

theorem isSettled_locate (store : Store) (number : Nat) (path : List String) :
    store.IsSettled (store.locate number path) := by
  induction path generalizing number with
  | nil =>
    intro name rest h
    cases h
  | cons name rest ih =>
    rw [locate]
    split
    · exact ih _
    next honward =>
      rintro _ _ ⟨rfl, rfl⟩
      exact honward

/-- Two paths that are apart end in places apart. -/
theorem Apart.locate (h : store.Apart path more) (hpath : path ≠ []) (hmore : more ≠ []) :
    (store.locate 0 path).Apart (store.locate 0 more) :=
  ⟨fun hway => h.1 ⟨_, locate_mem_places hmore, hway⟩,
    fun hway => h.2 ⟨_, locate_mem_places hpath, hway⟩⟩

/-! ## What a value leaves as it was -/

theorem get?_put_self (store : Store) (value : Value) (number : Nat) (name : String)
    (rest : List String) :
    (store.put value ⟨number, name :: rest⟩).get? number name =
      some (.plain (Held.put (store.get? number name) value rest)) :=
  get?_insert_self store number name _

theorem get?_put_of_ne (h : ¬(inner = number ∧ raw = name)) (store : Store) (value : Value)
    (rest : List String) :
    (store.put value ⟨number, name :: rest⟩).get? inner raw = store.get? inner raw :=
  get?_insert_of_ne h store _

/-- A value in place of something else than a mapping that a path goes on in leaves the path. -/
theorem onward?_put (hsettled : store.IsSettled place)
    (h : ¬(place.number = number ∧ place.path <+: [name])) (value : Value) (rest : List String) :
    (store.put value place).onward? number name rest = store.onward? number name rest := by
  obtain ⟨inner, path⟩ := place
  cases path with
  | nil => rfl
  | cons key more =>
    refine Option.ext fun reached => ?_
    rw [onward?_eq_some_iff, onward?_eq_some_iff]
    refine and_congr_right fun _ => ?_
    by_cases hsame : number = inner ∧ name = key
    · obtain ⟨rfl, rfl⟩ := hsame
      have hmore : more ≠ [] := by
        rintro rfl
        exact h ⟨rfl, List.prefix_rfl⟩
      rw [get?_put_self]
      refine iff_of_false nofun fun hget => ?_
      have honward := hsettled name more rfl
      rw [onward?_eq_some_iff.mpr ⟨hmore, hget⟩] at honward
      cases honward
    · rw [get?_put_of_ne hsame]

/-- A path leads through the same places as before if it did not lead through the changed one. -/
theorem places_put (hsettled : store.IsSettled place)
    (h : ∀ stop ∈ store.places number path, ¬place.IsOnWayTo stop) (value : Value) :
    (store.put value place).places number path = store.places number path := by
  induction path generalizing number with
  | nil => rfl
  | cons name rest ih =>
    have honward : (store.put value place).onward? number name rest =
        store.onward? number name rest := by
      refine onward?_put hsettled (fun hplace => ?_) value rest
      obtain ⟨stop, hstop, rfl, hname⟩ := store.exists_first_stop number name rest
      exact h stop hstop ⟨hplace.1, hplace.2.trans hname⟩
    rw [places] at h
    rw [places, places, honward]
    split
    next inner hinner =>
      rw [hinner] at h
      rw [ih (List.forall_mem_cons.mp h).2]
    next => rfl

theorem locate_put (hsettled : store.IsSettled place)
    (h : ∀ stop ∈ store.places number path, ¬place.IsOnWayTo stop) (value : Value) :
    (store.put value place).locate number path = store.locate number path := by
  by_cases hpath : path = []
  · subst hpath
    rfl
  · have hlast : ((store.put value place).places number path).getLast? =
        some ((store.put value place).locate number path) := getLast?_places hpath
    rw [places_put hsettled h, getLast?_places hpath] at hlast
    exact (Option.some.inj hlast).symm

theorem admits_put (hapart : place.Apart stop) (hplace : store.admits place = true)
    (value : Value) : (store.put value place).admits stop = store.admits stop := by
  obtain ⟨number, path⟩ := place
  obtain ⟨inner, more⟩ := stop
  rcases path with _ | ⟨name, rest⟩
  · rfl
  rcases more with _ | ⟨key, last⟩
  · rfl
  rw [admits, admits]
  by_cases hsame : inner = number ∧ key = name
  · obtain ⟨rfl, rfl⟩ := hsame
    have hpaths := (hapart.paths rfl).of_cons
    rw [admits, Held.admits_iff hpaths.ne_nil] at hplace
    rw [get?_put_self, Bool.eq_iff_iff, Held.admits_iff hpaths.symm.ne_nil,
      Held.admits_iff hpaths.symm.ne_nil, Held.put_of_ne_nil hpaths.ne_nil, Held.inner,
      Entries.admits_put hpaths hplace.2]
    refine and_congr_left fun _ => iff_of_true ?_ hplace.1
    rintro _ ⟨⟩
    exact ⟨_, rfl⟩
  · rw [get?_put_of_ne hsame]

/-! ## Reading -/

/-- What stands at the end of a path of names from a mapping with a number on. -/
def at? (store : Store) (number : Nat) : List String → Option Held
  | [] => some (.shared number)
  | [name] => store.get? number name
  | name :: rest =>
    match store.onward? number name rest with
    | some inner => at? store inner rest
    | none => ((Held.inner (store.get? number name)).at? rest).map .plain

theorem at?_cons (hrest : rest ≠ []) :
    store.at? number (name :: rest) =
      match store.onward? number name rest with
      | some inner => store.at? inner rest
      | none => ((Held.inner (store.get? number name)).at? rest).map .plain := by
  obtain ⟨next, more, rfl⟩ := List.exists_cons_of_ne_nil hrest
  rfl

/-- Whether a value is that of what is held, as far as the mappings of a store come to values. -/
def IsValueOf (store : Store) (held : Held) (value : Value) : Prop :=
  ∃ depth, held.value (fun inner => (store.unfold depth inner).map .mapping) = .ok value

/-- Where a store comes to values, the value at a path is that of what stands there. -/
theorem rel_at?_unfold {depth : Nat} {entries : Entries} (hpath : path ≠ [])
    (h : store.unfold depth number = .ok entries) :
    Option.Rel store.IsValueOf (store.at? number path) (entries.at? path) := by
  induction path generalizing depth number entries with
  | nil => exact absurd rfl hpath
  | cons name rest ih =>
    cases depth with
    | zero => cases h
    | succ depth =>
      rw [unfold] at h
      have hname : Option.Rel _ (store.get? number name) (entries.get? name) :=
        find?_of_mapM h (.text name)
      by_cases hrest : rest = []
      · subst hrest
        rw [at?, Entries.at?]
        generalize store.get? number name = found at hname ⊢
        generalize entries.get? name = value at hname ⊢
        cases hname with
        | none => exact .none
        | some hvalue => exact .some ⟨depth, hvalue⟩
      · rw [at?_cons hrest, Entries.at?_cons hrest]
        split
        next inner honward =>
          rw [(onward?_eq_some_iff.mp honward).2] at hname
          rw [Entries.inner]
          generalize entries.get? name = value at hname ⊢
          cases hname with
          | some hvalue =>
            rw [Held.value] at hvalue
            obtain ⟨found, hfound, rfl⟩ := Except.map_eq_ok_iff.mp hvalue
            exact ih hrest hfound
        next hnone =>
          have hplain (inner : Nat) : store.get? number name ≠ some (.shared inner) := by
            intro hget
            rw [onward?_eq_some_iff.mpr ⟨hrest, hget⟩] at hnone
            cases hnone
          rw [← Held.inner_eq_of_rel hname hplain]
          cases (Held.inner (store.get? number name)).at? rest with
          | none => exact .none
          | some value => exact .some ⟨0, by rw [Held.value]⟩

/-! ## The same data -/

theorem SameData.onward? (h : store.SameData other) (number : Nat) (name : String)
    (rest : List String) : store.onward? number name rest = other.onward? number name rest := by
  refine Option.ext fun inner => ?_
  rw [onward?_eq_some_iff, onward?_eq_some_iff]
  refine and_congr_right fun _ => ?_
  have hget := h.get? number name
  generalize store.get? number name = found at hget ⊢
  generalize other.get? number name = found' at hget ⊢
  cases hget with
  | none => exact Iff.rfl
  | some hheld =>
    cases hheld with
    | refl => exact Iff.rfl
    | plain => exact iff_of_false nofun nofun

theorem SameData.locate (h : store.SameData other) (number : Nat) (path : List String) :
    store.locate number path = other.locate number path := by
  induction path generalizing number with
  | nil => rfl
  | cons name rest ih =>
    rw [Store.locate, Store.locate, h.onward? number name rest]
    split
    · exact ih _
    · rfl

theorem SameData.admits (h : store.SameData other) (place : Place) :
    store.admits place = other.admits place := by
  obtain ⟨number, path⟩ := place
  cases path with
  | nil => rfl
  | cons name rest => exact Held.admits_congr (h.get? number name) rest

theorem SameData.at? (h : store.SameData other) (number : Nat) (path : List String) :
    Option.Rel Held.SameData (store.at? number path) (other.at? number path) := by
  induction path generalizing number with
  | nil => exact .some (.refl _)
  | cons name rest ih =>
    have hget := h.get? number name
    by_cases hrest : rest = []
    · subst hrest
      exact hget
    · rw [at?_cons hrest, at?_cons hrest, h.onward? number name rest]
      split
      · exact ih _
      next =>
        have hpath := Entries.rel_at? (Held.sameData_inner hget) rest
        generalize (Held.inner (store.get? number name)).at? rest = found at hpath ⊢
        generalize (Held.inner (other.get? number name)).at? rest = found' at hpath ⊢
        cases hpath with
        | none => exact .none
        | some hvalue => exact .some (.plain hvalue)

theorem SameData.put (h : store.SameData other) (value : Value) (place : Place) :
    (store.put value place).SameData (other.put value place) := by
  obtain ⟨number, path⟩ := place
  cases path with
  | nil => exact h
  | cons name rest =>
    exact h.insert (.plain (Held.sameData_put (h.get? number name) value rest)) number name

/-- A store that comes to values still does with a value put at a place. -/
theorem exists_toEntries_put (value : Value) (place : Place)
    (h : ∃ entries, store.toEntries = .ok entries) :
    ∃ entries, (store.put value place).toEntries = .ok entries := by
  obtain ⟨number, path⟩ := place
  cases path with
  | nil => exact h
  | cons name rest => exact exists_unfold_insert number (.text name) _ _ 0 h

/-- Of two values that are put at places apart it does not matter which is put first. -/
theorem sameData_put_comm (hapart : place.Apart stop) (store : Store) (value value' : Value) :
    ((store.put value place).put value' stop).SameData
      ((store.put value' stop).put value place) := by
  obtain ⟨number, path⟩ := place
  obtain ⟨inner, more⟩ := stop
  rcases path with _ | ⟨name, rest⟩
  · exact .refl _
  rcases more with _ | ⟨key, last⟩
  · exact .refl _
  by_cases hsame : inner = number ∧ key = name
  · -- Both values go into the mapping under one name, where their paths are apart.
    obtain ⟨rfl, rfl⟩ := hsame
    have hpaths := (hapart.paths rfl).of_cons
    have hput {ahead behind : List String} (hahead : ahead ≠ []) (hbehind : behind ≠ [])
        (first second : Value) :
        (store.put first ⟨inner, key :: ahead⟩).put second ⟨inner, key :: behind⟩ =
          store.insert inner (.text key) (.plain (.mapping
            (((Held.inner (store.get? inner key)).put first ahead).put second behind))) := by
      rw [put, get?_put_self, Held.put_of_ne_nil hahead, Held.put_of_ne_nil hbehind, put,
        insert_insert_self, Held.inner]
    rw [hput hpaths.ne_nil hpaths.symm.ne_nil, hput hpaths.symm.ne_nil hpaths.ne_nil]
    exact (SameData.refl store).insert (.plain (Entries.sameData_put_comm hpaths _ value value'))
      inner key
  · have hswapped : ¬(number = inner ∧ name = key) := fun heq => hsame ⟨heq.1.symm, heq.2.symm⟩
    rw [put, get?_put_of_ne hsame, put, put, get?_put_of_ne hswapped, put]
    exact sameData_insert_comm hsame _ _ _

end Store
end TypedRoutes
