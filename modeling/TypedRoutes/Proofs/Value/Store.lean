import TypedRoutes.Proofs.Attempt
import TypedRoutes.Proofs.Value.SameData
import TypedRoutes.Value.Store

/-!
# Stores with the same data

An entry that is made in one mapping is found there, and changes nothing else. Two stores hold the
same data if they do under each key of every mapping; then what they come to as values is the same
data, too.
-/
namespace TypedRoutes

open Value (SameData sameData_list sameData_mapping_iff)

namespace Held

/-- Whether two entries hold the same: the mapping with the same number, or the same data. -/
inductive SameData : Held → Held → Prop
  | refl (held : Held) : SameData held held
  | plain {value other : Value} (h : value.SameData other) : SameData (.plain value) (.plain other)

theorem SameData.trans {held other third : Held} (h : held.SameData other)
    (h' : other.SameData third) : held.SameData third := by
  cases h with
  | refl => exact h'
  | plain h =>
    cases h' with
    | refl => exact .plain h
    | plain h' => exact .plain (h.trans h')

end Held

theorem Entries.held_cons (key value : Value) (entries : Entries) :
    held ((key, value) :: entries) = (key, .plain value) :: entries.held :=
  rfl

theorem Entries.find?_held (entries : Entries) (key : Value) :
    entries.held.find? key = (entries.find? key).map .plain := by
  induction entries with
  | nil => rfl
  | cons entry rest ih =>
    obtain ⟨k, v⟩ := entry
    rw [held_cons, find?, find?, ih]
    split <;> rfl

theorem Entries.held_insert (entries : Entries) (key value : Value) :
    (entries.insert key value).held = entries.held.insert key (.plain value) := by
  induction entries with
  | nil => rfl
  | cons entry rest ih =>
    obtain ⟨k, v⟩ := entry
    rw [held_cons, insert, insert, ← ih]
    split <;> rfl

namespace Store

variable {store other third : Store} {held held' : Held} {key : Value} {name more : String}
variable {number inner : Nat}

/-! ## One entry -/

theorem find?_insert_self (store : Store) (number : Nat) (name : String) (held : Held) :
    (store.insert number (.text name) held).find? number (.text name) = some held := by
  rw [find?, insert]
  dsimp only
  rw [if_pos rfl]
  exact Entries.get?_insert_self _ _ _

theorem find?_insert_of_ne (h : ¬(inner = number ∧ key = .text name)) (store : Store)
    (held : Held) :
    (store.insert number (.text name) held).find? inner key = store.find? inner key := by
  rw [find?, insert]
  dsimp only
  split
  next hnumber =>
    subst hnumber
    exact Entries.find?_insert_of_ne (fun hkey => h ⟨rfl, hkey⟩) _ _
  next => rfl

theorem get?_insert_self (store : Store) (number : Nat) (name : String) (held : Held) :
    (store.insert number (.text name) held).get? number name = some held :=
  find?_insert_self store number name held

theorem get?_insert_of_ne (h : ¬(inner = number ∧ more = name)) (store : Store) (held : Held) :
    (store.insert number (.text name) held).get? inner more = store.get? inner more :=
  find?_insert_of_ne (fun heq => h ⟨heq.1, Value.text.inj heq.2⟩) store held

theorem insert_insert_self (store : Store) (number : Nat) (name : String) (held held' : Held) :
    (store.insert number (.text name) held).insert number (.text name) held' =
      store.insert number (.text name) held' := by
  rw [insert, insert, insert]
  congr 1
  funext other
  dsimp only
  split
  · rw [if_pos rfl, Entries.insert_insert_self]
  · rfl

theorem find?_ofEntries (entries : Entries) (number : Nat) (key : Value) :
    (ofEntries entries).find? number key =
      if number = 0 then (entries.find? key).map .plain else none := by
  rw [find?, ofEntries]
  dsimp only
  split
  · exact entries.find?_held key
  · rfl

theorem get?_ofEntries (entries : Entries) (name : String) :
    (ofEntries entries).get? 0 name = (entries.get? name).map .plain :=
  find?_ofEntries entries 0 (.text name)

theorem get?_ofEntries_ne_shared (entries : Entries) (number inner : Nat) (name : String) :
    (ofEntries entries).get? number name ≠ some (.shared inner) := by
  rw [get?, find?_ofEntries]
  split
  · cases entries.find? (.text name) <;> nofun
  · nofun

theorem insert_ofEntries (entries : Entries) (key value : Value) :
    (ofEntries entries).insert 0 key (.plain value) = ofEntries (entries.insert key value) := by
  rw [insert, ofEntries, ofEntries]
  congr 1
  funext number
  dsimp only
  rw [if_pos rfl, Entries.held_insert]
  split <;> rfl

/-! ## The same data -/

/-- Whether two stores hold the same data under each key of every mapping. -/
structure SameData (store other : Store) : Prop where
  size : store.size = other.size
  find? : ∀ number key, Option.Rel Held.SameData (store.find? number key) (other.find? number key)

theorem SameData.refl (store : Store) : store.SameData store where
  size := rfl
  find? number key := by
    cases store.find? number key with
    | none => exact .none
    | some held => exact .some (.refl held)

theorem SameData.of_find?_eq (size : store.size = other.size)
    (h : ∀ number key, store.find? number key = other.find? number key) : store.SameData other where
  size := size
  find? number key := by
    rw [h number key]
    exact (refl other).find? number key

theorem SameData.trans (h : store.SameData other) (h' : other.SameData third) :
    store.SameData third where
  size := h.size.trans h'.size
  find? number key := by
    have hfirst := h.find? number key
    have hsecond := h'.find? number key
    generalize store.find? number key = found at hfirst ⊢
    generalize third.find? number key = last at hsecond ⊢
    generalize other.find? number key = between at hfirst hsecond
    cases hfirst with
    | none =>
      cases hsecond with
      | none => exact .none
    | some hheld =>
      cases hsecond with
      | some hheld' => exact .some (hheld.trans hheld')

theorem SameData.get? (h : store.SameData other) (number : Nat) (name : String) :
    Option.Rel Held.SameData (store.get? number name) (other.get? number name) :=
  h.find? number (.text name)

theorem SameData.insert (h : store.SameData other) (hheld : held.SameData held') (number : Nat)
    (name : String) :
    (store.insert number (.text name) held).SameData
      (other.insert number (.text name) held') where
  size := h.size
  find? inner key := by
    by_cases hsame : inner = number ∧ key = .text name
    · obtain ⟨rfl, rfl⟩ := hsame
      rw [find?_insert_self, find?_insert_self]
      exact .some hheld
    · rw [find?_insert_of_ne hsame, find?_insert_of_ne hsame]
      exact h.find? inner key

/-- Of two different entries it does not matter which is made first. -/
theorem sameData_insert_comm (h : ¬(inner = number ∧ more = name)) (store : Store)
    (held held' : Held) :
    ((store.insert number (.text name) held).insert inner (.text more) held').SameData
      ((store.insert inner (.text more) held').insert number (.text name) held) := by
  have hne : ¬(inner = number ∧ Value.text more = .text name) :=
    fun heq => h ⟨heq.1, Value.text.inj heq.2⟩
  refine .of_find?_eq rfl fun place key => ?_
  by_cases hmore : place = inner ∧ key = .text more
  · obtain ⟨rfl, rfl⟩ := hmore
    rw [find?_insert_self, find?_insert_of_ne hne, find?_insert_self]
  · rw [find?_insert_of_ne hmore]
    by_cases hname : place = number ∧ key = .text name
    · obtain ⟨rfl, rfl⟩ := hname
      rw [find?_insert_self, find?_insert_self]
    · rw [find?_insert_of_ne hname, find?_insert_of_ne hname, find?_insert_of_ne hmore]

/-! ## As values -/

/-- What is found among entries that have all been turned into values. -/
theorem find?_of_mapM {f : Held → Except Failure Value} {held : Entries Held} {entries : Entries}
    (h : held.mapM (fun (key, held) => (f held).map fun value => (key, value)) = .ok entries)
    (key : Value) :
    Option.Rel (fun held value => f held = .ok value) (held.find? key) (entries.find? key) := by
  rw [mapM_eq_ok_iff] at h
  induction h with
  | nil => exact .none
  | @cons entry value rest others hentry _ ih =>
    obtain ⟨k, held⟩ := entry
    obtain ⟨value, hvalue, rfl⟩ := Except.map_eq_ok_iff.mp hentry
    rw [Entries.find?, Entries.find?]
    split
    · exact .some hvalue
    · exact ih

end Store

namespace Held

variable {f g : Nat → Except Failure Value}

mutual

/-- What is held comes to the same data if the mappings with numbers do. -/
theorem sameData_value (h : ∀ number value other, f number = .ok value → g number = .ok other →
      value.SameData other) :
    ∀ (held : Held) {value other}, held.value f = .ok value → held.value g = .ok other →
      value.SameData other
  | .plain value, _, _, hvalue, hother => by
    rw [Held.value] at hvalue hother
    cases hvalue
    cases hother
    exact .refl value
  | .list items, _, _, hvalue, hother => by
    rw [Held.value] at hvalue hother
    obtain ⟨values, hvalues, rfl⟩ := Except.map_eq_ok_iff.mp hvalue
    obtain ⟨others, hothers, rfl⟩ := Except.map_eq_ok_iff.mp hother
    exact sameData_list (forall₂_values h items hvalues hothers)
  | .shared number, _, _, hvalue, hother => by
    rw [Held.value] at hvalue hother
    exact h number _ _ hvalue hother

theorem forall₂_values (h : ∀ number value other, f number = .ok value → g number = .ok other →
      value.SameData other) :
    ∀ (items : List Held) {found others}, values f items = .ok found →
      values g items = .ok others → List.Forall₂ Value.SameData found others
  | [], _, _, hvalues, hothers => by
    rw [values] at hvalues hothers
    cases hvalues
    cases hothers
    exact .nil
  | item :: rest, _, _, hvalues, hothers => by
    rw [values] at hvalues hothers
    split at hvalues
    · cases hvalues
    next first hfirst =>
      split at hothers
      · cases hothers
      next second hsecond =>
        obtain ⟨more, hmore, rfl⟩ := Except.map_eq_ok_iff.mp hvalues
        obtain ⟨last, hlast, rfl⟩ := Except.map_eq_ok_iff.mp hothers
        exact .cons (sameData_value h item hfirst hsecond) (forall₂_values h rest hmore hlast)

end

mutual

/-- What is held has a value if the mappings with numbers have one where they had one before. -/
theorem exists_value
    (h : ∀ number, (∃ value, f number = .ok value) → ∃ value, g number = .ok value) :
    ∀ held : Held, (∃ value, held.value f = .ok value) → ∃ value, held.value g = .ok value
  | .plain value, _ => ⟨value, by rw [Held.value]⟩
  | .list items, ⟨_, hvalue⟩ => by
    rw [Held.value] at hvalue
    obtain ⟨values, hvalues, -⟩ := Except.map_eq_ok_iff.mp hvalue
    obtain ⟨others, hothers⟩ := exists_values h items ⟨values, hvalues⟩
    exact ⟨.list others, by rw [Held.value, hothers]; rfl⟩
  | .shared number, hvalue => by
    rw [Held.value] at hvalue ⊢
    exact h number hvalue

theorem exists_values
    (h : ∀ number, (∃ value, f number = .ok value) → ∃ value, g number = .ok value) :
    ∀ items : List Held, (∃ found, values f items = .ok found) → ∃ found, values g items = .ok found
  | [], _ => ⟨[], by rw [values]⟩
  | item :: rest, ⟨_, hvalues⟩ => by
    rw [values] at hvalues ⊢
    split at hvalues
    · cases hvalues
    next first hfirst =>
      obtain ⟨more, hmore, -⟩ := Except.map_eq_ok_iff.mp hvalues
      obtain ⟨second, hsecond⟩ := exists_value h item ⟨first, hfirst⟩
      obtain ⟨last, hlast⟩ := exists_values h rest ⟨more, hmore⟩
      rw [hsecond, hlast]
      exact ⟨_, rfl⟩

end

end Held

namespace Store

variable {store other : Store}

theorem SameData.unfold (h : store.SameData other) (depth number : Nat) {entries others : Entries}
    (hentries : store.unfold depth number = .ok entries)
    (hothers : other.unfold depth number = .ok others) :
    (Value.mapping entries).SameData (.mapping others) := by
  induction depth generalizing number entries others with
  | zero => cases hentries
  | succ depth ih =>
    rw [Store.unfold] at hentries hothers
    have hmappings (inner : Nat) (value value' : Value)
        (hvalue : (store.unfold depth inner).map .mapping = .ok value)
        (hvalue' : (other.unfold depth inner).map .mapping = .ok value') :
        value.SameData value' := by
      obtain ⟨found, hfound, rfl⟩ := Except.map_eq_ok_iff.mp hvalue
      obtain ⟨found', hfound', rfl⟩ := Except.map_eq_ok_iff.mp hvalue'
      exact ih inner hfound hfound'
    rw [sameData_mapping_iff]
    intro key
    have hkey := h.find? number key
    have hfind := find?_of_mapM hentries key
    have hfind' := find?_of_mapM hothers key
    rw [Store.find?, Store.find?] at hkey
    generalize (store.entries number).find? key = held at hkey hfind
    generalize (other.entries number).find? key = held' at hkey hfind'
    generalize entries.find? key = value at hfind ⊢
    generalize others.find? key = value' at hfind' ⊢
    cases hkey with
    | none =>
      cases hfind
      cases hfind'
      exact .none
    | some hheld =>
      cases hfind with
      | some hvalue =>
        cases hfind' with
        | some hvalue' =>
          refine .some ?_
          cases hheld with
          | refl => exact Held.sameData_value hmappings _ hvalue hvalue'
          | plain hplain =>
            rw [Held.value] at hvalue hvalue'
            cases hvalue
            cases hvalue'
            exact hplain

/-- Stores with the same data come to the same data as values. -/
theorem SameData.toEntries (h : store.SameData other) {entries others : Entries}
    (hentries : store.toEntries = .ok entries) (hothers : other.toEntries = .ok others) :
    (Value.mapping entries).SameData (.mapping others) := by
  rw [Store.toEntries, ← h.size] at hothers
  exact h.unfold _ _ hentries hothers

theorem exists_unfold_succ_iff {depth number : Nat} :
    (∃ entries, store.unfold (depth + 1) number = .ok entries) ↔
      ∀ entry ∈ store.entries number, ∃ value,
        entry.2.value (fun inner => (store.unfold depth inner).map .mapping) = .ok value := by
  rw [unfold]
  constructor
  · rintro ⟨entries, hentries⟩ entry hentry
    obtain ⟨found, hfound⟩ := exists_of_mapM_eq_ok hentries hentry
    exact Except.exists_map_eq_ok_iff.mp ⟨found, hfound⟩
  · exact fun h => exists_mapM_eq_ok fun entry hentry =>
      Except.exists_map_eq_ok_iff.mpr (h entry hentry)

/-- What holds of all that a mapping holds still does after an entry is made. -/
theorem forall_mem_entries_insert {q : Held → Prop} {held : Held} {inner : Nat}
    (h : ∀ entry ∈ store.entries inner, q entry.2) (hheld : q held) (number : Nat) (key : Value) :
    ∀ entry ∈ (store.insert number key held).entries inner, q entry.2 := by
  rw [insert]
  dsimp only
  split
  next hinner =>
    subst hinner
    exact fun entry hentry => (Entries.forall_mem_insert (p := fun _ => True)
      (fun entry hentry => ⟨trivial, h entry hentry⟩) trivial hheld entry hentry).2
  next => exact h

/-- A store that comes to values still does with a value in the place of an entry. -/
theorem exists_unfold_insert (number : Nat) (key value : Value) (depth inner : Nat)
    (h : ∃ entries, store.unfold depth inner = .ok entries) :
    ∃ entries, (store.insert number key (.plain value)).unfold depth inner = .ok entries := by
  induction depth generalizing inner with
  | zero =>
    obtain ⟨_, hentries⟩ := h
    cases hentries
  | succ depth ih =>
    rw [exists_unfold_succ_iff] at h ⊢
    refine forall_mem_entries_insert (q := fun held => ∃ found, held.value _ = .ok found)
      (fun entry hentry => ?_) ⟨value, by rw [Held.value]⟩ number key
    refine Held.exists_value (fun other hother => ?_) entry.2 (h entry hentry)
    rw [Except.exists_map_eq_ok_iff] at hother ⊢
    exact ih other hother

end Store
end TypedRoutes
