import TypedRoutes.Proofs.Config.Order

/-!
# Data in which no mapping stands in two places

Only names in documents make a mapping stand in several places. As long as none is given, layers on
a store come to the same as layers on nested mappings, step by step.
-/
namespace TypedRoutes

/-- Whether a text, read as YAML, gives no name to a node and refers to none. -/
def Yaml.NamesNothing (content : String) : Prop :=
  (Yaml.tokens content).any Yaml.Token.isOfName = false

/-- Whether the text of every file of a tree is fit for something. -/
def FileTree.HoldsOnly (tree : FileTree) (isFit : String → Prop) : Prop :=
  ∀ path content, tree.entry? path = some (.file content) → isFit (FileTree.textOf content)

/-- Assigning behind a name that no mapping with a number stands under. -/
theorem Held.assign_plain (entries : Entries) (raw name : String) (rest : List String) :
    (Held.assign raw rest ((entries.get? name).map .plain)).map
        (fun value => entries.insert (.text name) value) =
      entries.assign raw (name :: rest) := by
  cases rest with
  | nil => rfl
  | cons next more =>
    rw [Entries.assign_cons_cons]
    unfold Held.assign
    rw [if_neg (List.cons_ne_nil next more)]
    obtain ⟨failure, hfailure⟩ := Entries.exists_assignNowhere_eq_error raw (next :: more)
    cases entries.get? name with
    | none => cases Value.guess raw <;> rfl
    | some found =>
      cases found with
      | mapping inner =>
        dsimp only [Option.map_some]
        cases Entries.assign inner raw (next :: more) <;> rfl
      | _ =>
        dsimp only [Option.map_some]
        rw [hfailure]
        rfl

namespace Store

theorem locate_ofEntries (entries : Entries) (path : List String) :
    (ofEntries entries).locate 0 path = ⟨0, path⟩ := by
  cases path with
  | nil => rfl
  | cons name rest =>
    rw [locate]
    split
    next inner honward =>
      exact absurd (onward?_eq_some_iff.mp honward).2 (get?_ofEntries_ne_shared entries _ _ _)
    next => rfl

theorem assign_ofEntries (raw : String) (path : List String) (entries : Entries) :
    (ofEntries entries).assign raw path = (entries.assign raw path).map ofEntries := by
  rw [assign, locate_ofEntries]
  cases path with
  | nil => rfl
  | cons name rest =>
    rw [assignAt, get?_ofEntries, ← Held.assign_plain]
    simp only [insert_ofEntries]
    cases Held.assign raw rest ((entries.get? name).map .plain) <;> rfl

theorem merge_ofEntries (depth : Nat) (source target : Entries) :
    (ofEntries target).merge (depth + 1) 0 source.held = .ok (ofEntries (target.merge source)) := by
  rw [merge]
  induction source generalizing target with
  | nil => rfl
  | cons entry rest ih =>
    obtain ⟨key, value⟩ := entry
    rw [Entries.held_cons, List.foldlM_cons, Entries.merge, ← ih]
    dsimp only
    rw [find?_ofEntries, if_pos rfl]
    cases target.find? key with
    | none =>
      rw [Value.mergedOnto_of_no_mapping (by simp), ← insert_ofEntries]
      rfl
    | some found =>
      rw [← insert_ofEntries]
      cases found <;> rfl

theorem mergeDocument_ofEntries (data : Entries) (value : Value) :
    (ofEntries data).mergeDocument (.plain value) =
      (Config.mergeDocument data value).map ofEntries := by
  cases value with
  | mapping source => exact merge_ofEntries _ source data
  | _ => rfl

theorem mergeText_ofEntries {content : String} (hnames : Yaml.NamesNothing content)
    (data : Entries) (suffix : String) :
    (ofEntries data).mergeText suffix content =
      (Config.mergeText data suffix content).map ofEntries := by
  rw [mergeText, Config.mergeText]
  split
  · cases Json.read content with
    | error failure => rfl
    | ok value => exact mergeDocument_ofEntries data value
  · rw [Yaml.readGraph, hnames, if_neg Bool.false_ne_true]
    cases Yaml.read content with
    | error failure => rfl
    | ok value =>
      dsimp only
      rw [apply_ite (Except.map ofEntries), ← mergeDocument_ofEntries]
      rfl

theorem toEntries_ofEntries (entries : Entries) : (ofEntries entries).toEntries = .ok entries := by
  have hheld (mapping : Nat → Except Failure Value) (entries : Entries) :
      entries.held.mapM (fun entry => (entry.2.value mapping).map fun value => (entry.1, value)) =
        .ok entries := by
    induction entries with
    | nil => rfl
    | cons entry rest ih =>
      rw [Entries.held_cons, List.mapM_cons, ih, Held.value]
      rfl
  rw [toEntries, ofEntries, unfold]
  exact hheld _ entries

end Store

namespace Config

variable {tree : FileTree}

/-- Whether layers on two kinds of data come to the same, given the contents of files. -/
structure Layering.Agrees {α β : Type} (layering : Layering α) (other : Layering β) (image : α → β)
    (isFit : String → Prop) : Prop where
  empty : other.empty = image layering.empty
  mergeText : ∀ data suffix content, isFit content →
    other.mergeText (image data) suffix content = (layering.mergeText data suffix content).map image
  assign : ∀ data raw path,
    other.assign (image data) raw path = (layering.assign data raw path).map image
  mergeValues : ∀ data value,
    other.mergeValues (image data) value = (layering.mergeValues data value).map image

namespace Layering.Agrees

variable {α β : Type} {layering : Layering α} {other : Layering β} {image : α → β}
variable {isFit : String → Prop}

theorem mergeFile (h : layering.Agrees other image isFit)
    (hfit : tree.HoldsOnly isFit) (data : α) (name : String) :
    other.mergeFile tree (image data) name = (layering.mergeFile tree data name).map image := by
  unfold Layering.mergeFile
  dsimp only
  split
  · split
    next content hfile => exact h.mergeText data _ _ (hfit _ _ hfile)
    · rfl
    · rfl
  · rfl

theorem mergePattern (h : layering.Agrees other image isFit)
    (hfit : tree.HoldsOnly isFit) (data : α) (pattern : String) :
    other.mergePattern tree (image data) pattern =
      (layering.mergePattern tree data pattern).map image := by
  unfold Layering.mergePattern
  cases tree.glob pattern with
  | error failure => rfl
  | ok names => exact foldlM_image image (fun data name _ => h.mergeFile hfit data name) data

theorem assignAll (h : layering.Agrees other image isFit) (envPrefix : String) (data : α)
    (given : Named String) :
    other.assignAll envPrefix (image data) given =
      (layering.assignAll envPrefix data given).map image := by
  rw [assignAll_eq_foldlM, assignAll_eq_foldlM]
  exact foldlM_image image (fun data text _ => h.assign data text.2 text.1) data

/-- Layers of all sources come to the same on both kinds of data. -/
theorem load (h : layering.Agrees other image isFit) (hfit : tree.HoldsOnly isFit)
    (sources : Sources) :
    other.load tree sources = (layering.load tree sources).map image := by
  unfold Layering.load
  rw [h.empty, foldlM_image image (fun data pattern _ => h.mergePattern hfit data pattern)]
  refine Except.map_bind_eq_map fun fromFiles => ?_
  rw [Except.map_bind]
  refine congrArg _ (funext fun bound => ?_)
  dsimp only
  rw [h.assignAll]
  refine Except.map_bind_eq_map fun fromEnvFile => ?_
  rw [h.assignAll]
  refine Except.map_bind_eq_map fun fromEnv => ?_
  split
  · exact h.mergeValues fromEnv sources.overrides
  · rfl

end Layering.Agrees

theorem agrees_nested_shared : nested.Agrees shared Store.ofEntries Yaml.NamesNothing where
  empty := rfl
  mergeText data suffix _ hnames := Store.mergeText_ofEntries hnames data suffix
  assign data raw path := Store.assign_ofEntries raw path data
  mergeValues := Store.mergeDocument_ofEntries

/-- Where no file gives a name to a node, data come to be in which every mapping stands in one
place. -/
theorem holdsOnce_of_load (hnames : tree.HoldsOnly Yaml.NamesNothing) {sources : Sources}
    {store : Store} (h : shared.load tree sources = .ok store) : store.HoldsOnce := by
  rw [agrees_nested_shared.load hnames] at h
  obtain ⟨data, -, rfl⟩ := Except.map_eq_ok_iff.mp h
  exact Store.holdsOnce_ofEntries data

/-- Then it does not matter whether mappings can stand in several places. -/
theorem loadShared_eq_load (hnames : tree.HoldsOnly Yaml.NamesNothing) (sources : Sources) :
    loadShared tree sources = load tree sources := by
  rw [loadShared, load, agrees_nested_shared.load hnames]
  cases nested.load tree sources with
  | error failure => rfl
  | ok data => exact congrArg (Except.map Config.mk) (Store.toEntries_ofEntries data)

end Config
end TypedRoutes
