import TypedRoutes.Proofs.Value.Keys
import TypedRoutes.Value.Display

/-!
# Looking up entries

What is entered is found under the same key and changes nothing under any other. A text is the same
key as itself only, so this goes for names. What is looked up is part of the mapping, and can be
shown if that can. Entering keeps keys from being repeated.
-/
namespace TypedRoutes

namespace Value

variable {key : Value} {name : String}

theorem sameKey_text_iff : key.sameKey (.text name) = true ↔ key = .text name := by
  rw [sameKey_iff]
  constructor
  · intro h
    cases h with
    | number _ hname => cases hname
    | text => rfl
  · rintro rfl
    exact .text name

theorem text_sameKey_iff : (Value.text name).sameKey key = true ↔ key = .text name := by
  rw [sameKey_comm, sameKey_text_iff]

end Value

namespace Entries

variable {α : Type} {entries : Entries α} {key other : Value} {value : α} {name : String}

/-! ## Any key -/

theorem find?_congr (h : key.sameKey other = true) (entries : Entries α) :
    entries.find? key = entries.find? other := by
  induction entries with
  | nil => rfl
  | cons entry rest ih =>
    obtain ⟨k, v⟩ := entry
    rw [find?, find?, Value.sameKey_congr_right h k, ih]

theorem find?_insert_of_sameKey (h : key.sameKey other = true) (entries : Entries α) (value : α) :
    (entries.insert key value).find? other = some value := by
  induction entries with
  | nil => exact if_pos h
  | cons entry rest ih =>
    obtain ⟨k, v⟩ := entry
    rw [insert, Value.sameKey_congr_right h k]
    split
    next hsame => exact if_pos hsame
    next hother => rw [find?, if_neg hother, ih]

theorem find?_insert_of_not_sameKey (h : key.sameKey other = false) (entries : Entries α)
    (value : α) : (entries.insert key value).find? other = entries.find? other := by
  induction entries with
  | nil => exact if_neg (Bool.eq_false_iff.mp h)
  | cons entry rest ih =>
    obtain ⟨k, v⟩ := entry
    rw [insert]
    split
    next hsame =>
      have hother : ¬k.sameKey other = true := by
        rw [Value.sameKey_comm, Value.sameKey_congr_right hsame, Value.sameKey_comm, h]
        exact Bool.false_ne_true
      rw [find?, find?, if_neg hother, if_neg hother]
    next => rw [find?, find?, ih]

theorem find?_eq_none (h : ∀ entry ∈ entries, key.sameKey entry.1 = false) :
    entries.find? key = none := by
  induction entries with
  | nil => rfl
  | cons entry rest ih =>
    obtain ⟨hentry, hrest⟩ := List.forall_mem_cons.mp h
    rw [Value.sameKey_comm] at hentry
    rw [find?, if_neg (Bool.eq_false_iff.mp hentry), ih hrest]

/-- Entering once more what is there changes nothing. -/
theorem insert_of_find? (h : entries.find? key = some value) : entries.insert key value = entries := by
  induction entries with
  | nil => cases h
  | cons entry rest ih =>
    obtain ⟨k, v⟩ := entry
    rw [find?] at h
    rw [insert]
    split at h
    next hsame =>
      cases h
      exact if_pos hsame
    next hother => rw [if_neg hother, ih h]

/-! ## Names -/

theorem get?_cons_self : get? ((.text name, value) :: entries) name = some value :=
  if_pos (Value.sameKey_text_iff.mpr rfl)

theorem get?_cons_of_ne (h : key ≠ .text name) :
    get? ((key, value) :: entries) name = get? entries name :=
  if_neg fun hsame => h (Value.sameKey_text_iff.mp hsame)

theorem get?_insert_self (entries : Entries α) (name : String) (value : α) :
    get? (entries.insert (.text name) value) name = some value :=
  find?_insert_of_sameKey (Value.sameKey_text_iff.mpr rfl) entries value

theorem get?_insert_of_ne (h : key ≠ .text name) (entries : Entries α) (value : α) :
    get? (entries.insert key value) name = get? entries name :=
  find?_insert_of_not_sameKey (Bool.eq_false_iff.mpr (mt Value.sameKey_text_iff.mp h)) entries value

theorem find?_insert_of_ne (h : key ≠ .text name) (entries : Entries α) (value : α) :
    (entries.insert (.text name) value).find? key = entries.find? key :=
  find?_insert_of_not_sameKey (Bool.eq_false_iff.mpr (mt Value.text_sameKey_iff.mp h)) entries value

/-- Entering once more under the same key leaves the later value. -/
theorem insert_insert_self (entries : Entries α) (name : String) (value other : α) :
    (entries.insert (.text name) value).insert (.text name) other =
      entries.insert (.text name) other := by
  induction entries with
  | nil => exact if_pos (Value.sameKey_text_iff.mpr rfl)
  | cons entry rest ih =>
    obtain ⟨k, v⟩ := entry
    rw [insert, insert]
    split
    next hsame => exact if_pos hsame
    next hother => rw [insert, if_neg hother, ih]

/-- A key that is there is not added again. -/
theorem keys_insert_of_get? (h : entries.get? name = some value) (other : α) :
    (entries.insert (.text name) other).keys = entries.keys := by
  induction entries with
  | nil => cases h
  | cons entry rest ih =>
    obtain ⟨k, v⟩ := entry
    rw [insert]
    split
    next => rfl
    next hother =>
      have hk : k ≠ .text name := fun heq => hother (Value.sameKey_text_iff.mpr heq)
      rw [get?_cons_of_ne hk] at h
      exact congrArg (k :: ·) (ih h)

theorem exists_mem_of_find? (h : entries.find? key = some value) : ∃ k, (k, value) ∈ entries := by
  induction entries with
  | nil => cases h
  | cons entry rest ih =>
    obtain ⟨k, v⟩ := entry
    rw [find?] at h
    split at h
    · cases h
      exact ⟨k, List.mem_cons_self⟩
    · obtain ⟨other, hother⟩ := ih h
      exact ⟨other, List.mem_cons_of_mem _ hother⟩

/-- What holds of all keys and of all values still does after an entry is made. -/
theorem forall_mem_insert {p : Value → Prop} {q : α → Prop} (h : ∀ entry ∈ entries, p entry.1 ∧ q entry.2)
    (hkey : p key) (hvalue : q value) :
    ∀ entry ∈ entries.insert key value, p entry.1 ∧ q entry.2 := by
  induction entries with
  | nil => exact List.forall_mem_singleton.mpr ⟨hkey, hvalue⟩
  | cons entry rest ih =>
    obtain ⟨hentry, hrest⟩ := List.forall_mem_cons.mp h
    rw [insert]
    split
    · exact List.forall_mem_cons.mpr ⟨⟨hentry.1, hvalue⟩, hrest⟩
    · exact List.forall_mem_cons.mpr ⟨hentry, ih hrest⟩

end Entries

/-! ## What can be shown -/

namespace Value

theorem areShowable_iff {items : List Value} :
    areShowable items = true ↔ ∀ item ∈ items, item.isShowable = true := by
  induction items with
  | nil => simp [areShowable]
  | cons item rest ih => simp [areShowable, ih]

theorem entriesShowable_iff {entries : List (Value × Value)} :
    entriesShowable entries = true ↔
      ∀ entry ∈ entries, entry.1.isShowable = true ∧ entry.2.isShowable = true := by
  induction entries with
  | nil => simp [entriesShowable]
  | cons entry rest ih =>
    obtain ⟨key, value⟩ := entry
    simp [entriesShowable, ih]

theorem isShowable_of_get? {value part : Value} {name : String} (h : value.get? name = some part)
    (hvalue : value.isShowable = true) : part.isShowable = true := by
  cases value with
  | mapping entries =>
    obtain ⟨key, hmem⟩ := Entries.exists_mem_of_find? h
    rw [isShowable, entriesShowable_iff] at hvalue
    exact (hvalue _ hmem).2
  | _ => cases h

theorem isShowable_of_mem {items : List Value} {item : Value} (hmem : item ∈ items)
    (h : (Value.list items).isShowable = true) : item.isShowable = true := by
  rw [isShowable, areShowable_iff] at h
  exact h item hmem

end Value

/-! ## Repeated keys -/

mutual

/-- Whether a value is no mapping with repeated keys, nor has one among its entries. -/
def Value.IsTidy : Value → Prop
  | .mapping entries => Entries.AreTidy entries
  | _ => True

/-- Whether no key of some entries comes twice, and their values are tidy. -/
def Entries.AreTidy : Entries → Prop
  | [] => True
  | (key, value) :: rest =>
    (∀ entry ∈ rest, key.sameKey entry.1 = false) ∧ value.IsTidy ∧ Entries.AreTidy rest

end

theorem Value.isTidy_mapping_iff {entries : Entries} :
    (mapping entries).IsTidy ↔ entries.AreTidy := by
  rw [IsTidy]

namespace Entries

variable {entries : Entries} {key value : Value}

theorem AreTidy.find? (h : entries.AreTidy) (hfind : entries.find? key = some value) :
    value.IsTidy := by
  induction entries with
  | nil => cases hfind
  | cons entry rest ih =>
    obtain ⟨k, v⟩ := entry
    rw [Entries.AreTidy] at h
    rw [Entries.find?] at hfind
    split at hfind
    · cases hfind
      exact h.2.1
    · exact ih h.2.2 hfind

/-- Every entry is found under its key. -/
theorem AreTidy.find?_of_mem {entry : Value × Value} (h : entries.AreTidy) (hmem : entry ∈ entries)
    (hkey : entry.1.isKey = true) : entries.find? entry.1 = some entry.2 := by
  induction entries with
  | nil => cases hmem
  | cons first rest ih =>
    obtain ⟨k, v⟩ := first
    rw [Entries.AreTidy] at h
    rcases List.mem_cons.mp hmem with rfl | hrest
    · exact if_pos (Value.sameKey_self hkey)
    · rw [Entries.find?, if_neg (Bool.eq_false_iff.mp (h.1 entry hrest)), ih h.2.2 hrest]

/-- What is entered keeps the keys, or comes behind them if its own is new. -/
theorem key_of_mem_insert {entry : Value × Value} (h : entry ∈ entries.insert key value) :
    entry.1 = key ∨ ∃ other ∈ entries, entry.1 = other.1 := by
  induction entries with
  | nil =>
    rw [insert, List.mem_singleton] at h
    exact .inl (congrArg Prod.fst h)
  | cons first rest ih =>
    obtain ⟨k, v⟩ := first
    rw [insert] at h
    split at h
    · rcases List.mem_cons.mp h with rfl | hrest
      · exact .inr ⟨_, List.mem_cons_self, rfl⟩
      · exact .inr ⟨entry, List.mem_cons_of_mem _ hrest, rfl⟩
    · rcases List.mem_cons.mp h with rfl | hrest
      · exact .inr ⟨_, List.mem_cons_self, rfl⟩
      · rcases ih hrest with hkey | ⟨other, hother, hkey⟩
        · exact .inl hkey
        · exact .inr ⟨other, List.mem_cons_of_mem _ hother, hkey⟩

theorem AreTidy.insert (h : entries.AreTidy) (hvalue : value.IsTidy) (key : Value) :
    (entries.insert key value).AreTidy := by
  induction entries with
  | nil =>
    rw [Entries.insert, Entries.AreTidy]
    exact ⟨by simp, hvalue, h⟩
  | cons entry rest ih =>
    obtain ⟨k, v⟩ := entry
    rw [Entries.AreTidy] at h
    obtain ⟨hfresh, hv, hrest⟩ := h
    rw [Entries.insert]
    split
    · rw [Entries.AreTidy]
      exact ⟨hfresh, hvalue, hrest⟩
    next hother =>
      rw [Entries.AreTidy]
      refine ⟨?_, hv, ih hrest⟩
      intro later hlater
      rcases key_of_mem_insert hlater with hkey | ⟨other, hmem, hkey⟩
      · rw [hkey]
        exact Bool.eq_false_iff.mpr hother
      · rw [hkey]
        exact hfresh other hmem

end Entries
end TypedRoutes
