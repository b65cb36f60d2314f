import Mathlib.Data.List.Nodup
import TypedRoutes.Named

/-!
# Looking up names

In a table without repeated names, what is looked up is what is there. Two tables that go together
entry by entry are known by their names and by what is looked up in them.
-/
namespace TypedRoutes

theorem lookup_of_mem {κ α : Type} [BEq κ] [LawfulBEq κ] {table : List (κ × α)} {key : κ}
    {value : α} (hkeys : (table.map (·.1)).Nodup) (h : (key, value) ∈ table) :
    table.lookup key = some value := by
  induction table with
  | nil => cases h
  | cons entry rest ih =>
    obtain ⟨k, v⟩ := entry
    obtain ⟨hk, hrest⟩ := List.nodup_cons.mp hkeys
    rcases List.mem_cons.mp h with hhead | htail
    · cases hhead
      exact List.lookup_cons_self
    · have hne : key ≠ k := by
        rintro rfl
        exact hk (List.mem_map.mpr ⟨(key, value), htail, rfl⟩)
      rw [List.lookup_cons, beq_eq_false_iff_ne.mpr hne]
      exact ih hrest htail

namespace Named

variable {α β : Type} {table : Named α} {name : String} {value : α}

theorem mem_names_iff : name ∈ names table ↔ ∃ value, (name, value) ∈ table := by
  simp [names]

theorem isSome_lookup_iff : (table.lookup name).isSome = true ↔ name ∈ names table := by
  simp [names, List.lookup_isSome_iff]

theorem lookup_eq_none_iff : table.lookup name = none ↔ name ∉ names table := by
  rw [← isSome_lookup_iff, Option.not_isSome_iff_eq_none]

theorem mem_of_lookup (h : table.lookup name = some value) : (name, value) ∈ table := by
  obtain ⟨before, after, rfl, -⟩ := List.lookup_eq_some_iff.mp h
  simp

theorem lookup_eq_some_iff_mem (hnames : (names table).Nodup) :
    table.lookup name = some value ↔ (name, value) ∈ table :=
  ⟨mem_of_lookup, lookup_of_mem hnames⟩

theorem set_of_not_mem (h : name ∉ names table) (value : α) :
    set table name value = table ++ [(name, value)] := by
  induction table with
  | nil => rfl
  | cons entry rest ih =>
    obtain ⟨n, v⟩ := entry
    obtain ⟨hn, hrest⟩ : name ≠ n ∧ name ∉ names rest := by simpa [names] using h
    rw [set, if_neg (Ne.symm hn), ih hrest]
    rfl

theorem set_set (table : Named α) (name : String) (value : α) :
    set (set table name value) name value = set table name value := by
  induction table with
  | nil => simp [set]
  | cons entry rest ih =>
    obtain ⟨n, v⟩ := entry
    by_cases hn : n = name
    · simp [set, hn]
    · simp [set, hn, ih]

theorem mem_names_set_iff {key : String} (table : Named α) (value : α) :
    key ∈ names (set table name value) ↔ key = name ∨ key ∈ names table := by
  rw [← isSome_lookup_iff, ← isSome_lookup_iff, lookup_set]
  split_ifs with h <;> simp [h]

theorem nodup_names_set (h : (names table).Nodup) : (names (set table name value)).Nodup := by
  induction table with
  | nil => exact List.nodup_singleton name
  | cons entry rest ih =>
    obtain ⟨n, v⟩ := entry
    obtain ⟨hn, hrest⟩ := List.nodup_cons.mp h
    rw [set]
    split_ifs with hname
    · exact hname ▸ h
    · refine List.nodup_cons.mpr ⟨fun hmem => ?_, ih hrest⟩
      rcases (mem_names_set_iff rest value).mp hmem with heq | hmem
      · exact hname heq
      · exact hn hmem

theorem names_filterMap_sublist (f : String → α → Option β) (table : Named α) :
    (names (table.filterMap fun (n, v) => (f n v).map fun w => (n, w))).Sublist (names table) := by
  induction table with
  | nil => exact .slnil
  | cons entry rest ih =>
    obtain ⟨n, v⟩ := entry
    cases hv : f n v with
    | none => simpa [names, hv] using ih.cons n
    | some w => simpa [names, hv] using ih.cons_cons n

/-! ## Tables in step -/

/-- Whether a table has the names of another, in the same order, and each of its values goes with
the entry of the other. -/
def Align (r : String → α → β → Prop) (table : Named β) (other : Named α) : Prop :=
  List.Forall₂ (fun entry line => entry.1 = line.1 ∧ r line.1 line.2 entry.2) table other

variable {r : String → α → β → Prop} {values : Named β}

theorem align_cons_iff : Align r values ((name, value) :: table) ↔
    ∃ b others, values = (name, b) :: others ∧ r name value b ∧ Align r others table := by
  constructor
  · rintro (_ | @⟨⟨_, b⟩, _, others, _, ⟨rfl, hr⟩, hothers⟩)
    exact ⟨b, others, rfl, hr, hothers⟩
  · rintro ⟨b, others, rfl, hr, hothers⟩
    exact .cons ⟨rfl, hr⟩ hothers

/-- A table goes with another in one way only if each value goes with one entry only. -/
theorem align_iff_eq_map {f : String → α → β} (h : ∀ name a b, r name a b ↔ f name a = b) :
    Align r values table ↔ values = table.map fun (name, a) => (name, f name a) := by
  induction table generalizing values with
  | nil => simp [Align]
  | cons entry rest ih =>
    obtain ⟨name, a⟩ := entry
    simp only [align_cons_iff, h, ih, List.map_cons]
    constructor
    · rintro ⟨_, _, rfl, rfl, rfl⟩
      rfl
    · rintro rfl
      exact ⟨_, _, rfl, rfl, rfl⟩

theorem Align.names_eq (h : Align r values table) : names values = names table := by
  induction h with
  | nil => rfl
  | cons hhead _ ih => exact congrArg₂ List.cons hhead.1 ih

theorem exists_align (h : ∀ name a, (name, a) ∈ table → ∃ b, r name a b) :
    ∃ values, Align r values table := by
  induction table with
  | nil => exact ⟨[], .nil⟩
  | cons entry rest ih =>
    obtain ⟨n, a⟩ := entry
    obtain ⟨b, hb⟩ := h n a List.mem_cons_self
    obtain ⟨values, hvalues⟩ := ih fun name a ha => h name a (List.mem_cons_of_mem _ ha)
    exact ⟨(n, b) :: values, .cons ⟨rfl, hb⟩ hvalues⟩

theorem Align.exists_mem (h : Align r values table) (hmem : (name, value) ∈ table) :
    ∃ b, (name, b) ∈ values ∧ r name value b := by
  induction h with
  | nil => cases hmem
  | cons hhead _ ih =>
    rcases List.mem_cons.mp hmem with rfl | hrest
    · obtain ⟨rfl, hr⟩ := hhead
      exact ⟨_, List.mem_cons_self, hr⟩
    · obtain ⟨b, hb, hr⟩ := ih hrest
      exact ⟨b, List.mem_cons_of_mem _ hb, hr⟩

theorem Align.exists_lookup (h : Align r values table) (hnames : (names table).Nodup)
    (hmem : (name, value) ∈ table) : ∃ b, values.lookup name = some b ∧ r name value b := by
  obtain ⟨b, hb, hr⟩ := h.exists_mem hmem
  rw [← h.names_eq] at hnames
  exact ⟨b, (lookup_eq_some_iff_mem hnames).mpr hb, hr⟩

theorem align_of_lookup (hnames : (names table).Nodup) (heq : names values = names table)
    (h : ∀ name a, (name, a) ∈ table → ∃ b, values.lookup name = some b ∧ r name a b) :
    Align r values table := by
  induction table generalizing values with
  | nil =>
    rw [List.map_eq_nil_iff.mp heq]
    exact .nil
  | cons line rest ih =>
    obtain ⟨n, a⟩ := line
    obtain ⟨hn, hrest⟩ := List.nodup_cons.mp hnames
    cases values with
    | nil => cases heq
    | cons entry values =>
      obtain ⟨m, b⟩ := entry
      obtain ⟨hmn, htail⟩ : m = n ∧ names values = names rest := List.cons.inj heq
      subst hmn
      refine .cons ⟨rfl, ?_⟩ (ih hrest htail ?_)
      · obtain ⟨b', hb', hr⟩ := h m a List.mem_cons_self
        rw [List.lookup_cons_self] at hb'
        rwa [Option.some.inj hb']
      · intro name a' ha'
        have hne : name ≠ m := by
          rintro rfl
          exact hn (mem_names_iff.mpr ⟨a', ha'⟩)
        obtain ⟨b', hb', hr⟩ := h name a' (List.mem_cons_of_mem _ ha')
        rw [List.lookup_cons, beq_eq_false_iff_ne.mpr hne] at hb'
        exact ⟨b', hb', hr⟩

end Named
end TypedRoutes
