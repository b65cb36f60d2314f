import TypedRoutes.Proofs.Config.Lookup
import TypedRoutes.Proofs.Document.Keys

/-!
# Merging along paths of keys

What stands at a path of a merged mapping is decided by the later mapping as far as it leads: its
value, merged into the earlier one if both are mappings, nothing where it cuts the path off, and
otherwise what stood there before. A mapping that has been merged is covered by the result, so that
merging it once more changes nothing. Mappings are taken for what they hold; whether two places hold
one and the same mapping is not looked at.
-/
namespace TypedRoutes

open Value (IsMapping mapping)

namespace Entries

variable {target source : Entries} {value : Value}

/-! ## Merging once more -/

/-- Whether a mapping has a value under each key of another that the other's would not change. -/
def Covers (target source : Entries) : Prop :=
  ∀ entry ∈ source, ∃ found, target.find? entry.1 = some found ∧
    entry.2.mergedOnto (some found) = found

theorem merge_of_covers (h : target.Covers source) : target.merge source = target := by
  induction source with
  | nil => rfl
  | cons entry rest ih =>
    obtain ⟨key, value⟩ := entry
    obtain ⟨⟨found, hfound, hvalue⟩, hrest⟩ := List.forall_mem_cons.mp h
    rw [merge, hfound, hvalue, insert_of_find? hfound, ih hrest]

theorem exists_mergedOnto_eq_mapping (source : Entries) (base : Option Value) :
    ∃ merged, (mapping source).mergedOnto base = mapping merged := by
  by_cases hbase : ∃ target, base = some (mapping target)
  · obtain ⟨target, rfl⟩ := hbase
    exact ⟨merge target source, Value.mergedOnto_mapping target source⟩
  · exact ⟨source, Value.mergedOnto_of_no_mapping (fun target heq => hbase ⟨target, heq⟩) _⟩

/-- A value that was merged onto something changes nothing when it is merged again. -/
theorem mergedOnto_mergedOnto (hkeys : value.HasPlainKeys) (htidy : value.IsTidy)
    (base : Option Value) :
    value.mergedOnto (some (value.mergedOnto base)) = value.mergedOnto base := by
  induction hkeys generalizing base with
  | plain h =>
    have hvalue : ¬IsMapping _ := fun ⟨entries, heq⟩ => h entries heq
    rw [mergedOnto_of_not_mapping hvalue, mergedOnto_of_not_mapping hvalue]
  | @mapping source hkeys _ ih =>
    -- Under each key stands the value merged onto something, which covers the value by induction.
    rw [Value.isTidy_mapping_iff] at htidy
    obtain ⟨merged, hmerged⟩ := exists_mergedOnto_eq_mapping source base
    rw [hmerged, Value.mergedOnto_mapping]
    refine congrArg mapping (merge_of_covers fun entry hentry => ?_)
    have hsource : (mapping source).find? entry.1 = some entry.2 :=
      htidy.find?_of_mem hentry (hkeys entry hentry)
    have hfound := Value.find?_mergedOnto htidy base entry.1
    rw [hmerged, hsource] at hfound
    exact ⟨_, hfound, ih entry hentry (htidy.find? hsource) _⟩

/-! ## What stands where -/

/-- At every path the later mapping has the last word: its value stands there, a mapping of it is
merged into a mapping that was there, what it cuts off is gone, and the rest is as before. Merging
it once more changes nothing. -/
theorem merge_along_paths (htidy : source.AreTidy) (hkeys : (mapping source).HasPlainKeys)
    (target : Entries) :
    let merged := target.merge source
    (∀ path : List Value,
      (∀ value, (mapping source).follow? path = some value → ¬value.IsMapping →
        (mapping merged).follow? path = some value) ∧
      (∀ later : Entries, (mapping source).follow? path = some (mapping later) →
        (∀ earlier : Entries, (mapping target).follow? path = some (mapping earlier) →
          (mapping merged).follow? path = some (mapping (earlier.merge later))) ∧
        ((∀ earlier, (mapping target).follow? path ≠ some (mapping earlier)) →
          (mapping merged).follow? path = some (mapping later))) ∧
      ((mapping source).follow? path = none →
        ((mapping source).Obstructs path → (mapping merged).follow? path = none) ∧
        (¬(mapping source).Obstructs path →
          (mapping merged).follow? path = (mapping target).follow? path))) ∧
    merged.merge source = merged := by
  intro merged
  have hmerged : mapping merged = (mapping source).mergedOnto (some (mapping target)) :=
    (Value.mergedOnto_mapping target source).symm
  have htidySource : (mapping source).IsTidy := Value.isTidy_mapping_iff.mpr htidy
  have hsome {path : List Value} {found : Value} (h : (mapping source).follow? path = some found) :
      (mapping merged).follow? path =
        some (found.mergedOnto ((mapping target).follow? path)) := by
    rw [hmerged]
    exact Value.follow?_mergedOnto_of_some htidySource h (some (mapping target))
  refine ⟨fun path => ⟨?_, ?_, ?_⟩, ?_⟩
  · intro value hvalue hmapping
    rw [hsome hvalue, mergedOnto_of_not_mapping hmapping]
  · intro later hlater
    constructor
    · intro earlier hearlier
      rw [hsome hlater, hearlier, Value.mergedOnto_mapping]
    · intro hother
      rw [hsome hlater, Value.mergedOnto_of_no_mapping hother]
  · intro hnone
    rw [hmerged]
    constructor
    · intro hobstructs
      exact Value.follow?_mergedOnto_of_obstructs htidySource hobstructs _
    · intro hclear
      exact Value.follow?_mergedOnto_of_none htidySource hnone hclear _
  · have hagain := mergedOnto_mergedOnto hkeys htidySource (some (mapping target))
    rw [← hmerged, Value.mergedOnto_mapping] at hagain
    exact Value.mapping.inj hagain

def earlierLayer : Entries :=
  [(.text "router", .mapping [(.text "base_uri", .text "/a"),
      (.text "app_url", .mapping [(.text "host", .text "h")])]),
    (.integer 1, .null),
    (.text "log", .mapping [(.text "level", .integer 3)])]

def laterLayer : Entries :=
  [(.text "router", .mapping [(.text "base_uri", .text "/b"), (.text "app_url", .null)]),
    (.boolean true, .mapping [(.text "deep", .integer 2)])]

/-- A section that both mappings have, with a value that is overridden and a mapping that is cut off;
a mapping in the place of null, under a key that is written in another way; and a section that only
the earlier mapping has. -/
theorem merge_along_paths_section :
    let merged := mapping (earlierLayer.merge laterLayer)
    laterLayer.AreTidy ∧ (mapping laterLayer).HasPlainKeys ∧
      merged.follow? [.text "router"] =
        some (mapping [(.text "base_uri", .text "/b"), (.text "app_url", .null)]) ∧
      merged.follow? [.text "router", .text "base_uri"] = some (.text "/b") ∧
      merged.follow? [.text "router", .text "app_url", .text "host"] = none ∧
      merged.follow? [.integer 1] = some (mapping [(.text "deep", .integer 2)]) ∧
      merged.follow? [.text "log", .text "level"] = some (.integer 3) ∧
      (earlierLayer.merge laterLayer).merge laterLayer = earlierLayer.merge laterLayer := by
  intro merged
  have htidy : laterLayer.AreTidy := by
    simp only [laterLayer, AreTidy, Value.IsTidy, List.forall_mem_cons]
    decide
  have hkeys : (mapping laterLayer).HasPlainKeys := by
    have hplain := Value.invariant_hasPlainKeys
    simp [laterLayer, Value.hasPlainKeys_mapping_iff, Value.isKey, hplain.null, hplain.text,
      hplain.integer]
  have htext : ¬(Value.text "/b").IsMapping := by
    rintro ⟨entries, heq⟩
    cases heq
  have hnull : ¬Value.null.IsMapping := by
    rintro ⟨entries, heq⟩
    cases heq
  have hother : ∀ earlier : Entries,
      (mapping earlierLayer).follow? [.integer 1] ≠ some (mapping earlier) := by
    intro earlier heq
    cases heq
  have hcut : (mapping laterLayer).Obstructs [.text "router", .text "app_url", .text "host"] :=
    ⟨[.text "router", .text "app_url"], ⟨[.text "host"], rfl⟩, by simp, .null, rfl, hnull⟩
  have hclear : ¬(mapping laterLayer).Obstructs [.text "log", .text "level"] := by
    rw [Value.obstructs_cons_iff]
    rintro (hroot | ⟨found, hfound, -⟩)
    · exact hroot ⟨laterLayer, rfl⟩
    · cases hfound
  obtain ⟨hpaths, hagain⟩ := merge_along_paths htidy hkeys earlierLayer
  have hsection := ((hpaths [.text "router"]).2.1 _ rfl).1 _ rfl
  exact ⟨htidy, hkeys, hsection, (hpaths _).1 _ rfl htext, ((hpaths _).2.2 rfl).1 hcut,
    ((hpaths _).2.1 _ rfl).2 hother, ((hpaths _).2.2 rfl).2 hclear, hagain⟩

end Entries
end TypedRoutes
