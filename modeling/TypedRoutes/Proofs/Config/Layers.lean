import Mathlib.Data.List.Forall2
import TypedRoutes.Config.Layers
import TypedRoutes.Proofs.Attempt
import TypedRoutes.Proofs.Config.Merge
import TypedRoutes.Proofs.Document.Keys

/-!
# Layers are merged

Every source of a configuration comes to layers: a file to the mapping that it holds, a variable to
the nested mappings that its name denotes, with its value at the end. The configuration is what is
left of merging the layers in order, as long as no variable leads through something else than a
mapping; a later layer has the last word about every path.
-/
namespace TypedRoutes
namespace Config

open Entries (merge nest)

variable {tree : FileTree} {data : Entries} {layers : List Entries}

/-! ## Files -/

def suffixOf (name : String) : String :=
  String.ofList (Pathname.ofText name.toList).suffix

/-- What a file counts for: the mapping that it holds. An empty YAML document counts for nothing, and
so does a file of another format. -/
inductive Counts (tree : FileTree) (name : String) : Entries → Prop
  | json {content : String} {entries : Entries} (hsuffix : suffixOf name = ".json")
    (hfile : tree.entry? (Pathname.ofText name.toList).text = some (.file content))
    (hread : Json.read (FileTree.textOf content) = .ok (.mapping entries)) :
    Counts tree name entries
  | yaml {content : String} {entries : Entries} (hsuffix : suffixOf name ∈ [".yaml", ".yml"])
    (hfile : tree.entry? (Pathname.ofText name.toList).text = some (.file content))
    (hread : Yaml.read (FileTree.textOf content) = .ok (.mapping entries)) :
    Counts tree name entries
  | blank {content : String} {value : Value} (hsuffix : suffixOf name ∈ [".yaml", ".yml"])
    (hfile : tree.entry? (Pathname.ofText name.toList).text = some (.file content))
    (hread : Yaml.read (FileTree.textOf content) = .ok value) (hvalue : value.isPresent = false) :
    Counts tree name []
  | other (hsuffix : suffixOf name ∉ [".json", ".yaml", ".yml"]) : Counts tree name []

/-- The layers of the files that patterns stand for. -/
def FileLayers (tree : FileTree) (patterns : List String) (layers : List Entries) : Prop :=
  ∃ names, List.Forall₂ (fun pattern found => tree.glob pattern = .ok found) patterns names ∧
    List.Forall₂ (Counts tree) names.flatten layers

theorem Counts.areTidy {name : String} {layer : Entries} (h : Counts tree name layer) :
    layer.AreTidy := by
  have hnone : Entries.AreTidy [] := by
    rw [Entries.AreTidy]
    trivial
  cases h with
  | json _ _ hread => exact Value.isTidy_mapping_iff.mp (Json.isTidy_read hread)
  | yaml _ _ hread => exact Value.isTidy_mapping_iff.mp (Yaml.isTidy_read hread)
  | blank => exact hnone
  | other => exact hnone

theorem FileLayers.areTidy {patterns : List String} (h : FileLayers tree patterns layers) :
    ∀ layer ∈ layers, layer.AreTidy := by
  obtain ⟨names, -, hlayers⟩ := h
  generalize names.flatten = files at hlayers
  induction hlayers with
  | nil => nofun
  | cons hname _ ih => exact List.forall_mem_cons.mpr ⟨hname.areTidy, ih⟩

/-- A file of a known format is merged by its content; a directory is refused. -/
theorem mergeFile_of_known {name : String} (hsuffix : suffixOf name ∈ [".json", ".yaml", ".yml"])
    (data : Entries) :
    nested.mergeFile tree data name =
      match tree.entry? (Pathname.ofText name.toList).text with
      | some (.file content) => mergeText data (suffixOf name) (FileTree.textOf content)
      | some .directory => .error (.isDirectory name)
      | none => .ok data :=
  if_pos (List.contains_iff_mem.mpr hsuffix)

theorem mergeFile_of_unknown {name : String} (hsuffix : suffixOf name ∉ [".json", ".yaml", ".yml"])
    (data : Entries) : nested.mergeFile tree data name = .ok data :=
  if_neg fun hknown => hsuffix (List.contains_iff_mem.mp hknown)

theorem mergeFile_of_file {name content : String}
    (hsuffix : suffixOf name ∈ [".json", ".yaml", ".yml"])
    (hfile : tree.entry? (Pathname.ofText name.toList).text = some (.file content))
    (data : Entries) :
    nested.mergeFile tree data name = mergeText data (suffixOf name) (FileTree.textOf content) := by
  rw [mergeFile_of_known hsuffix, hfile]

theorem mergeText_yaml {suffix : String} (hsuffix : suffix ∈ [".yaml", ".yml"]) (data : Entries)
    (content : String) :
    mergeText data suffix content =
      match Yaml.read content with
      | .error failure => .error failure
      | .ok value => if value.isPresent then mergeDocument data value else .ok data := by
  have hjson : suffix ≠ ".json" := by
    rintro rfl
    revert hsuffix
    decide
  exact if_neg hjson

/-- A file is merged by what it counts for. -/
theorem Counts.mergeFile_eq {name : String} {layer : Entries} (h : Counts tree name layer)
    (data : Entries) : nested.mergeFile tree data name = .ok (data.merge layer) := by
  cases h with
  | json hsuffix hfile hread =>
    rw [mergeFile_of_file (by simp [hsuffix]) hfile, mergeText, if_pos hsuffix, hread]
    rfl
  | yaml hsuffix hfile hread =>
    rw [mergeFile_of_file (List.mem_cons_of_mem _ hsuffix) hfile, mergeText_yaml hsuffix, hread]
    cases layer <;> rfl
  | blank hsuffix hfile hread hvalue =>
    rw [mergeFile_of_file (List.mem_cons_of_mem _ hsuffix) hfile, mergeText_yaml hsuffix, hread]
    dsimp only
    rw [hvalue]
    rfl
  | other hsuffix => exact mergeFile_of_unknown hsuffix data

theorem foldlM_mergeFile {names : List String} (h : List.Forall₂ (Counts tree) names layers)
    (data : Entries) : names.foldlM (nested.mergeFile tree) data = .ok (layers.foldl merge data) := by
  induction h generalizing data with
  | nil => rfl
  | cons hname _ ih =>
    rw [List.foldlM_cons, hname.mergeFile_eq]
    exact ih _

theorem foldlM_mergePattern {patterns : List String} (h : FileLayers tree patterns layers)
    (data : Entries) :
    patterns.foldlM (nested.mergePattern tree) data = .ok (layers.foldl merge data) := by
  obtain ⟨names, hnames, hlayers⟩ := h
  have hpatterns : patterns.foldlM (nested.mergePattern tree) data =
      names.flatten.foldlM (nested.mergeFile tree) data := by
    clear hlayers
    induction hnames generalizing data with
    | nil => rfl
    | cons hglob _ ih =>
      rw [List.foldlM_cons, List.flatten_cons, List.foldlM_append, Layering.mergePattern, hglob]
      exact congrArg _ (funext fun next => ih next)
  rw [hpatterns, foldlM_mergeFile hlayers]

/-! ## Variables -/

/-- The paths that the names of variables denote, with their texts. Other variables are left out. -/
def denoted (envPrefix : String) (given : Named String) : List (List String × String) :=
  given.filterMap fun (name, raw) =>
    (variablePath? envPrefix name).map fun path => (path, raw)

/-- Values in the places of texts, if every text is taken for a value. -/
def Taken (texts : List (List String × String)) (values : List (List String × Value)) : Prop :=
  List.Forall₂ (fun text value => value.1 = text.1 ∧ Value.guess text.2 = .ok value.2) texts values

/-- The layer of a value at a path. -/
def layerOf (value : List String × Value) : Entries :=
  nest value.2 value.1

/-- Whether every value finds nothing but mappings on its way, after those before it. -/
def admitsAll (data : Entries) : List (List String × Value) → Bool
  | [] => true
  | value :: rest => data.admits value.1 && admitsAll (data.merge (layerOf value)) rest

/-- Puts texts in their places. -/
def place (data : Entries) (texts : List (List String × String)) : Except Failure Entries :=
  texts.foldlM (fun data text => data.assign text.2 text.1) data

/-- Variables are put in their places by what their names denote. -/
theorem assignAll_eq_foldlM {α : Type} (layering : Layering α) (envPrefix : String)
    (given : Named String) (data : α) :
    layering.assignAll envPrefix data given =
      (denoted envPrefix given).foldlM (fun data text => layering.assign data text.2 text.1)
        data := by
  induction given generalizing data with
  | nil => rfl
  | cons entry rest ih =>
    obtain ⟨name, raw⟩ := entry
    unfold Layering.assignAll denoted
    rw [List.foldlM_cons, List.filterMap_cons]
    dsimp only
    cases variablePath? envPrefix name with
    | none => exact ih data
    | some path =>
      rw [Option.map_some, List.foldlM_cons]
      exact congrArg _ (funext fun next => ih next)

theorem assignAll_eq_place (envPrefix : String) (given : Named String) (data : Entries) :
    nested.assignAll envPrefix data given = place data (denoted envPrefix given) :=
  assignAll_eq_foldlM nested envPrefix given data

theorem place_append (data : Entries) (texts more : List (List String × String)) :
    place data (texts ++ more) = place data texts >>= fun next => place next more :=
  List.foldlM_append

theorem splitLevels_ne_nil (name cs : List Char) : splitLevels name cs ≠ [] := by
  fun_induction splitLevels name cs <;> simp_all

/-- The path of a variable has a name at least. -/
theorem ne_nil_of_mem_denoted {envPrefix : String} {given : Named String}
    {text : List String × String} (h : text ∈ denoted envPrefix given) : text.1 ≠ [] := by
  obtain ⟨⟨name, raw⟩, -, hpath⟩ := List.mem_filterMap.mp h
  obtain ⟨path, hname, rfl⟩ := Option.map_eq_some_iff.mp hpath
  obtain ⟨rest, -, rfl⟩ := Option.map_eq_some_iff.mp hname
  simpa using splitLevels_ne_nil _ _

variable {texts : List (List String × String)} {values : List (List String × Value)}

/-- Texts are put in their places by merging, as far as nothing stands in the way. -/
theorem place_of_taken (h : Taken texts values) (hscalar : ∀ value ∈ values, ¬value.2.IsMapping)
    (data : Entries) :
    place data texts =
      if admitsAll data values then .ok ((values.map layerOf).foldl merge data)
      else .error .wrongShape := by
  induction h generalizing data with
  | nil => rfl
  | @cons text value texts values htext _ ih =>
    obtain ⟨hvalue, hrest⟩ := List.forall_mem_cons.mp hscalar
    obtain ⟨hpath, hguess⟩ := htext
    unfold place
    rw [List.foldlM_cons, ← hpath]
    rw [admitsAll]
    cases hadmits : data.admits value.1 with
    | true =>
      rw [Entries.assign_of_admits hguess hvalue hadmits]
      exact ih hrest (data.merge (layerOf value))
    | false =>
      rw [Entries.assign_of_not_admits hguess hadmits]
      rfl

/-- A text that is taken for no value ends in a failure. -/
theorem exists_place_eq_error (hpaths : ∀ text ∈ texts, text.1 ≠ [])
    (h : ¬∃ values, Taken texts values) (data : Entries) :
    ∃ failure, place data texts = .error failure := by
  induction texts generalizing data with
  | nil => exact absurd ⟨[], .nil⟩ h
  | cons text texts ih =>
    obtain ⟨hpath, hrest⟩ := List.forall_mem_cons.mp hpaths
    unfold place
    rw [List.foldlM_cons]
    cases hguess : Value.guess text.2 with
    | error failure =>
      rcases Entries.assign_of_guess_eq_error hguess hpath data with hassign | hassign
      · exact ⟨failure, by rw [hassign]; rfl⟩
      · exact ⟨.wrongShape, by rw [hassign]; rfl⟩
    | ok value =>
      cases hassign : data.assign text.2 text.1 with
      | error failure => exact ⟨failure, rfl⟩
      | ok next =>
        refine ih hrest (fun ⟨values, hvalues⟩ => h ⟨(text.1, value) :: values, ?_⟩) next
        exact .cons ⟨rfl, hguess⟩ hvalues

theorem not_isMapping_of_taken (h : Taken texts values)
    (hscalar : ∀ text ∈ texts, ∀ entries, Value.guess text.2 ≠ .ok (.mapping entries)) :
    ∀ value ∈ values, ¬value.2.IsMapping := by
  induction h with
  | nil => nofun
  | cons hvalue _ ih =>
    obtain ⟨hfirst, hrest⟩ := List.forall_mem_cons.mp hscalar
    refine List.forall_mem_cons.mpr ⟨?_, ih hrest⟩
    rintro ⟨entries, hmapping⟩
    exact hfirst entries (hmapping ▸ hvalue.2)

/-! ## All layers -/

/-- The layer of explicit values: a mapping, or nothing. -/
def IsLayer (explicit : Value) (layer : Entries) : Prop :=
  explicit = .mapping layer ∨ explicit = .null ∧ layer = []

variable {sources : Sources} {fileLayers : List Entries} {bound : Named String}
variable {overrides : Entries}

theorem merge_explicit {explicit : Value} {layer : Entries} (h : IsLayer explicit layer)
    (data : Entries) :
    (if explicit.isPresent then mergeDocument data explicit else .ok data).map Config.mk =
      .ok ⟨data.merge layer⟩ := by
  rcases h with rfl | ⟨rfl, rfl⟩
  · cases layer <;> rfl
  · rfl

/-- The files are followed by the variables of both sources, and these by the explicit values. -/
theorem load_eq (tree : FileTree) (sources : Sources) :
    load tree sources =
      sources.patterns.foldlM (nested.mergePattern tree) [] >>= fun fromFiles =>
        fileVariables tree sources.environment
            (sources.envFile.filter fun name => !name.isEmpty) >>= fun bound =>
          place fromFiles (denoted sources.envPrefix (bound ++ sources.environment)) >>= fun data =>
            (if sources.overrides.isPresent then mergeDocument data sources.overrides
              else .ok data).map Config.mk := by
  rw [load, Layering.load, Except.map_bind]
  refine congrArg _ (funext fun fromFiles => ?_)
  rw [Except.map_bind]
  refine congrArg _ (funext fun bound => ?_)
  have hdenoted : denoted sources.envPrefix (bound ++ sources.environment) =
      denoted sources.envPrefix bound ++ denoted sources.envPrefix sources.environment :=
    List.filterMap_append
  simp only [hdenoted, place_append, assignAll_eq_place]
  cases place fromFiles (denoted sources.envPrefix bound) with
  | error failure => rfl
  | ok next =>
    change Except.map mk (place next (denoted sources.envPrefix sources.environment) >>= _) = _
    rw [Except.map_bind]
    rfl

/-- Behind the files come the variables, and behind these the explicit values. -/
theorem load_eq_place (hfiles : FileLayers tree sources.patterns fileLayers)
    (hbound : fileVariables tree sources.environment
      (sources.envFile.filter fun name => !name.isEmpty) = .ok bound)
    (hoverrides : IsLayer sources.overrides overrides) :
    load tree sources =
      (place (fileLayers.foldl merge [])
        (denoted sources.envPrefix (bound ++ sources.environment))).map
          fun data => ⟨data.merge overrides⟩ := by
  rw [load_eq, foldlM_mergePattern hfiles, hbound]
  change place _ _ >>= _ = _
  cases place (fileLayers.foldl merge []) (denoted sources.envPrefix (bound ++ sources.environment)) with
  | error failure => rfl
  | ok data => exact merge_explicit hoverrides data

/-- Every text being taken for a value, a configuration is what merging the layers in order comes to,
or else a variable leads through something that is no mapping, which is refused. What stands at a
path is decided by the last layer that does not spare it. -/
theorem load_layers (hfiles : FileLayers tree sources.patterns fileLayers)
    (hbound : fileVariables tree sources.environment
      (sources.envFile.filter fun name => !name.isEmpty) = .ok bound)
    (hoverrides : IsLayer sources.overrides overrides)
    (hscalar : ∀ text ∈ denoted sources.envPrefix (bound ++ sources.environment),
      ∀ entries, Value.guess text.2 ≠ .ok (.mapping entries)) :
    let texts := denoted sources.envPrefix (bound ++ sources.environment)
    (∀ values, Taken texts values →
      let layers := fileLayers ++ values.map layerOf ++ [overrides]
      (admitsAll (fileLayers.foldl merge []) values = true →
        load tree sources = .ok ⟨layers.foldl merge []⟩ ∧
        (overrides.AreTidy → ∀ before layer after path value,
          layers = before ++ layer :: after → layer.at? path = some value → ¬value.IsMapping →
          (∀ later ∈ after, later.spares path = true) →
            (layers.foldl merge []).at? path = some value)) ∧
      (admitsAll (fileLayers.foldl merge []) values = false →
        load tree sources = .error .wrongShape)) ∧
    ((¬∃ values, Taken texts values) → ∃ failure, load tree sources = .error failure) := by
  intro texts
  rw [load_eq_place hfiles hbound hoverrides]
  constructor
  · intro values htaken layers
    have hvalues := not_isMapping_of_taken htaken hscalar
    rw [place_of_taken htaken hvalues]
    refine ⟨fun hadmitted => ⟨?_, ?_⟩, fun hblocked => ?_⟩
    · rw [hadmitted, List.foldl_append, List.foldl_append]
      rfl
    · intro htidy before layer after path value hlayers hat hvalue hspares
      have htidyAll : ∀ other ∈ layers, other.AreTidy := by
        intro other hother
        rcases List.mem_append.mp hother with hother | hother
        · rcases List.mem_append.mp hother with hother | hother
          · exact hfiles.areTidy other hother
          · obtain ⟨found, hfound, rfl⟩ := List.mem_map.mp hother
            exact Entries.areTidy_nest (Value.isTidy_of_ne_mapping fun entries hmapping =>
              hvalues found hfound ⟨entries, hmapping⟩) found.1
        · rw [List.mem_singleton.mp hother]
          exact htidy
      rw [hlayers] at htidyAll ⊢
      exact Entries.at?_foldl_merge_of_at?
        (fun other hother => htidyAll other (List.mem_append_right before hother))
        hat hvalue hspares []
    · rw [hblocked]
      rfl
  · intro hnone
    obtain ⟨failure, hfailure⟩ := exists_place_eq_error
      (fun _ => ne_nil_of_mem_denoted) hnone (fileLayers.foldl merge [])
    exact ⟨failure, by rw [hfailure]; rfl⟩

/-- A file with a section, a variable for an entry of the section and one for another, and an
explicit value. -/
def sectioned : Sources where
  patterns := ["a.json"]
  environment := [("PW_A__B", "yes"), ("PATH", "/"), ("PW_A__C", "no")]
  overrides := .mapping [(.text "d", .null)]

/-- The entry of the file is overridden by the variable, which the later layers spare. -/
theorem load_layers_sectioned :
    let tree := FileTree.ofFiles [("a.json", "\x7b\"a\":\x7b\"b\":0\x7d\x7d")]
    let values : List (List String × Value) :=
      [(["a", "b"], .boolean true), (["a", "c"], .boolean false)]
    ∃ file : Entries, file.at? ["a", "b"] ≠ none ∧
      FileLayers tree sectioned.patterns [file] ∧
      fileVariables tree sectioned.environment
        (sectioned.envFile.filter fun name => !name.isEmpty) = .ok [] ∧
      IsLayer sectioned.overrides [(.text "d", .null)] ∧
      Taken (denoted sectioned.envPrefix ([] ++ sectioned.environment)) values ∧
      ∃ config, load tree sectioned = .ok config ∧
        config.data.at? ["a", "b"] = some (.boolean true) := by
  intro tree values
  have hfound : ((Json.read (FileTree.textOf "\x7b\"a\":\x7b\"b\":0\x7d\x7d")).toOption.bind
      Value.entries?).any (fun file =>
        admitsAll ([file].foldl merge []) values && (Entries.at? file ["a", "b"]).isSome) = true := by
    decide +kernel
  have hglob : tree.glob "a.json" = .ok ["a.json"] := by decide +kernel
  have hentry : tree.entry? (Pathname.ofText "a.json".toList).text =
      some (.file "\x7b\"a\":\x7b\"b\":0\x7d\x7d") := by decide +kernel
  have hsuffix : suffixOf "a.json" = ".json" := by decide +kernel
  have hdenoted : denoted sectioned.envPrefix ([] ++ sectioned.environment) =
      [(["a", "b"], "yes"), (["a", "c"], "no")] := by decide +kernel
  have hyes : Value.guess "yes" = .ok (.boolean true) := by
    have hword : truthWord? "yes" = some true := by decide +kernel
    rw [Value.guess, hword]
  have hno : Value.guess "no" = .ok (.boolean false) := by
    have hword : truthWord? "no" = some false := by decide +kernel
    rw [Value.guess, hword]
  have htaken : Taken (denoted sectioned.envPrefix ([] ++ sectioned.environment)) values := by
    rw [hdenoted]
    exact .cons ⟨rfl, hyes⟩ (.cons ⟨rfl, hno⟩ .nil)
  have hscalar : ∀ text ∈ denoted sectioned.envPrefix ([] ++ sectioned.environment),
      ∀ entries, Value.guess text.2 ≠ .ok (.mapping entries) := by
    rw [hdenoted]
    simp [hyes, hno]
  have hexplicit : IsLayer sectioned.overrides [(.text "d", .null)] := .inl rfl
  have hspares : ∀ later ∈ [layerOf (["a", "c"], .boolean false), [(.text "d", .null)]],
      later.spares ["a", "b"] = true := by decide +kernel
  have hat : (layerOf (["a", "b"], .boolean true)).at? ["a", "b"] = some (.boolean true) :=
    Entries.at?_nest _ (List.cons_ne_nil _ _)
  have hnull : Value.IsTidy .null := Value.isTidy_of_ne_mapping nofun
  have htidy : Entries.AreTidy [(.text "d", .null)] := Entries.areTidy_nest hnull ["d"]
  have hvalue : ¬(Value.boolean true).IsMapping := nofun
  obtain ⟨file, hfile, hholds⟩ := (Option.any_eq_true _ _).mp hfound
  obtain ⟨document, hdocument, hentries⟩ := Option.bind_eq_some_iff.mp hfile
  rw [Value.entries?_eq_some_iff] at hentries
  subst hentries
  rw [Bool.and_eq_true] at hholds
  have hfiles : FileLayers tree sectioned.patterns [file] :=
    ⟨[["a.json"]], .cons hglob .nil,
      .cons (.json hsuffix hentry (Except.toOption_eq_some_iff.mp hdocument)) .nil⟩
  obtain ⟨hload, hlast⟩ :=
    ((load_layers hfiles rfl hexplicit hscalar).1 values htaken).1 hholds.1
  exact ⟨file, Option.isSome_iff_ne_none.mp hholds.2, hfiles, rfl, hexplicit, htaken, _, hload,
    hlast htidy [file] _ _ _ _ rfl hat hvalue hspares⟩

/-- A section without entries stands in the way of a variable, although merging would replace it. -/
theorem load_empty_section :
    let tree := FileTree.ofFiles [("a.yaml", "router:\n")]
    let sources : Sources :=
      { patterns := ["a.yaml"], environment := [("PW_ROUTER__BASE_URI", "/app")] }
    load tree sources = .error .wrongShape ∧
      (merge (merge [] [(.text "router", .null)])
        (nest (.text "/app") ["router", "base_uri"])).at? ["router", "base_uri"] =
          some (.text "/app") := by
  intro tree sources
  have hload : (load tree sources).map (fun _ => ()) = .error .wrongShape := by decide +kernel
  refine ⟨?_, rfl⟩
  cases hresult : load tree sources with
  | ok config =>
    rw [hresult] at hload
    cases hload
  | error failure =>
    rw [hresult] at hload
    cases hload
    rfl

end Config
end TypedRoutes
