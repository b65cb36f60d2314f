import TypedRoutes.Proofs.Document.Json
import TypedRoutes.Proofs.Document.Yaml
import TypedRoutes.Proofs.Value.Entries

/-!
# Keys of documents

Of entries with the same key the readers keep one: no mapping that is read from a document has a key
twice, nor has one among its entries. And no key is a list or a mapping.
-/
namespace TypedRoutes

namespace Value

variable {value : Value}

theorem isTidy_of_ne_mapping (h : ∀ entries, value ≠ .mapping entries) : value.IsTidy := by
  rw [IsTidy]
  · trivial
  · exact h

theorem invariant_isTidy : Document.Invariant IsTidy where
  null := isTidy_of_ne_mapping nofun
  boolean := fun _ => isTidy_of_ne_mapping nofun
  integer := fun _ => isTidy_of_ne_mapping nofun
  float := fun _ => isTidy_of_ne_mapping nofun
  text := fun _ => isTidy_of_ne_mapping nofun
  list := fun _ _ => isTidy_of_ne_mapping nofun
  empty := by
    rw [isTidy_mapping_iff, Entries.AreTidy]
    trivial
  insert := fun _ key _ hentries _ _ hvalue =>
    isTidy_mapping_iff.mpr ((isTidy_mapping_iff.mp hentries).insert hvalue key)

/-- Whether no mapping has a list or a mapping as a key, neither a value nor one among its entries. -/
inductive HasPlainKeys : Value → Prop
  | plain {value : Value} (h : ∀ entries, value ≠ .mapping entries) : HasPlainKeys value
  | mapping {entries : Entries} (hkeys : ∀ entry ∈ entries, entry.1.isKey = true)
    (hvalues : ∀ entry ∈ entries, HasPlainKeys entry.2) : HasPlainKeys (.mapping entries)

theorem hasPlainKeys_mapping_iff {entries : Entries} : (mapping entries).HasPlainKeys ↔
    ∀ entry ∈ entries, entry.1.isKey = true ∧ entry.2.HasPlainKeys := by
  constructor
  · intro h
    cases h with
    | plain h => exact absurd rfl (h entries)
    | mapping hkeys hvalues => exact fun entry hentry => ⟨hkeys entry hentry, hvalues entry hentry⟩
  · intro h
    exact .mapping (fun entry hentry => (h entry hentry).1) fun entry hentry => (h entry hentry).2

theorem invariant_hasPlainKeys : Document.Invariant HasPlainKeys where
  null := .plain nofun
  boolean := fun _ => .plain nofun
  integer := fun _ => .plain nofun
  float := fun _ => .plain nofun
  text := fun _ => .plain nofun
  list := fun _ _ => .plain nofun
  empty := .mapping nofun nofun
  insert := fun _ _ _ hentries _ hkey hvalue =>
    hasPlainKeys_mapping_iff.mpr
      (Entries.forall_mem_insert (p := fun key => key.isKey = true)
        (hasPlainKeys_mapping_iff.mp hentries) hkey hvalue)

end Value

variable {s : String} {value : Value}

theorem Json.isTidy_read (h : Json.read s = .ok value) : value.IsTidy :=
  (Json.gives_read Value.invariant_isTidy s).of_ok h

theorem Yaml.isTidy_read (h : Yaml.read s = .ok value) : value.IsTidy :=
  (Yaml.gives_read Value.invariant_isTidy s).of_ok h

end TypedRoutes
