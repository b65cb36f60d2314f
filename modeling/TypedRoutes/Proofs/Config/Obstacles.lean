import TypedRoutes.Config.Router
import TypedRoutes.Proofs.Config.Layers
import TypedRoutes.Proofs.Fault.Ends

/-!
# Obstacles to a configuration

A file that cannot be read or holds no mapping, an environment file with an impossible name, a
variable that cannot be put in its place, explicit values that are no mapping, a key or a number of
the router section that cannot be written out: any of these breaks off the reading of a
configuration, and nothing else does. Everything else that is wrong with a configuration is a fault
of a setting.
-/
namespace TypedRoutes

/-- Whether a failure is the fault of a setting. -/
def Failure.IsOfSetting (failure : Failure) : Prop :=
  ∃ key reason, failure = .fault (.settingInvalid key reason)

theorem Failure.isFault_of_isOfDocument {failure : Failure} (h : failure.isOfDocument = true) :
    failure.isFault = false := by
  cases failure with
  | fault cause => cases h
  | _ => rfl

open Document

theorem Document.Gives.completes {α : Type} {P : α → Prop} {result : Except Failure α}
    (h : Gives P result) : Completes (∃ failure, result = .error failure) result := by
  cases h with
  | ok => exact .ok nofun
  | error hfailure => exact .broken ⟨_, rfl⟩ (Failure.isFault_of_isOfDocument hfailure)

/-! ## Patterns -/

variable (tree : FileTree)

theorem FileTree.gives_names (path : List Char) : Gives (fun _ => True) (tree.names path) := by
  unfold names
  refine gives_ite (.error rfl) ?_
  split
  · exact .ok trivial
  · exact .ok trivial

namespace Glob

theorem gives_namesIn (directory pattern : List Char) (onlyDirectories : Bool) :
    Gives (fun _ => True) (namesIn tree directory pattern onlyDirectories) :=
  (tree.gives_names _).map fun _ _ => trivial

/-- In each of some directories names are looked for. -/
theorem gives_below (base : List Char) (onlyDirectories : Bool) (directories : List (List Char)) :
    Gives (fun _ => True) (do
      let found ← directories.mapM fun directory => do
        let names ←
          if hasMagic base then namesIn tree directory base onlyDirectories
          else .ok (nameIn tree directory base)
        return names.map (joinLast directory)
      return found.flatten) := by
  have heach (directory : List Char) : Gives (fun _ => True) (do
      let names ←
        if hasMagic base then namesIn tree directory base onlyDirectories
        else .ok (nameIn tree directory base)
      return names.map (joinLast directory)) :=
    gives_ite ((gives_namesIn tree directory base onlyDirectories).map fun _ _ => trivial)
      (.ok trivial)
  exact (gives_mapM fun directory _ => heach directory).bind fun _ _ => .ok trivial

theorem gives_expand (fuel : Nat) (onlyDirectories : Bool) (pattern : List Char) :
    Gives (fun _ => True) (expand tree fuel onlyDirectories pattern) := by
  induction fuel generalizing onlyDirectories pattern with
  | zero => exact .ok trivial
  | succ fuel ih =>
    rw [expand]
    refine gives_ite (.ok trivial) (gives_ite (gives_namesIn tree [] _ _) (gives_ite ?_ ?_))
    · exact (ih true _).bind fun directories _ => gives_below tree _ _ directories
    · exact gives_below tree _ _ _

end Glob

theorem FileTree.gives_glob (pattern : String) : Gives (fun _ => True) (tree.glob pattern) :=
  (Glob.gives_expand tree _ _ _).map fun _ _ => trivial

namespace Config

variable {tree : FileTree}

/-! ## Files -/

/-- Whether the content of a file is malformed or holds something else than a mapping. A YAML document
that is empty or zero may stand for no entries. -/
inductive IsUnfit (suffix content : String) : Prop
  | json (hsuffix : suffix = ".json")
    (hread : ∀ entries, Json.read content ≠ .ok (.mapping entries))
  | yaml (hsuffix : suffix ∈ [".yaml", ".yml"])
    (hread : ∀ value, Yaml.read content = .ok value →
      value.isPresent = true ∧ ¬value.IsMapping)

/-- Whether a file that a pattern stands for is an obstacle: it has to be of a known format. -/
inductive BlocksFile (tree : FileTree) (name : String) : Prop
  | directory (hsuffix : suffixOf name ∈ [".json", ".yaml", ".yml"])
    (hdirectory : tree.entry? (Pathname.ofText name.toList).text = some .directory)
  | content {content : String}
    (hfile : tree.entry? (Pathname.ofText name.toList).text = some (.file content))
    (h : IsUnfit (suffixOf name) (FileTree.textOf content))

/-- Whether a pattern cannot be followed, or stands for an obstacle. -/
inductive BlocksPattern (tree : FileTree) (pattern : String) : Prop
  | pattern {failure : Failure} (h : tree.glob pattern = .error failure)
  | file {names : List String} {name : String} (hglob : tree.glob pattern = .ok names)
    (hname : name ∈ names) (h : BlocksFile tree name)

theorem IsUnfit.mem_suffixes {suffix content : String} (h : IsUnfit suffix content) :
    suffix ∈ [".json", ".yaml", ".yml"] := by
  cases h with
  | json hsuffix => simp [hsuffix]
  | yaml hsuffix => exact List.mem_cons_of_mem _ hsuffix

theorem completes_mergeDocument (data : Entries) (value : Value) :
    Completes (¬value.IsMapping) (mergeDocument data value) := by
  cases value with
  | mapping entries => exact .ok (not_not_intro ⟨entries, rfl⟩)
  | _ => exact .broken nofun rfl

theorem completes_mergeText_json (data : Entries) (content : String) :
    Completes (IsUnfit ".json" content) (mergeText data ".json" content) := by
  have hunfit : (∀ entries, Json.read content ≠ .ok (.mapping entries)) ↔
      IsUnfit ".json" content := by
    constructor
    · exact .json rfl
    · rintro (⟨-, hread⟩ | ⟨hsuffix, -⟩)
      · exact hread
      · simp at hsuffix
  refine Ends.congr ?_ hunfit
  have hgives := Json.gives_read Value.invariant_isTidy content
  rw [mergeText, if_pos rfl]
  cases hread : Json.read content with
  | error failure =>
    exact .broken (by simp) (Failure.isFault_of_isOfDocument (hgives.isOfDocument hread))
  | ok value => exact (completes_mergeDocument data value).congr (by simp [Value.IsMapping])

theorem completes_mergeText_yaml {suffix : String} (hsuffix : suffix ∈ [".yaml", ".yml"])
    (data : Entries) (content : String) :
    Completes (IsUnfit suffix content) (mergeText data suffix content) := by
  have hunfit : (∀ value, Yaml.read content = .ok value →
      value.isPresent = true ∧ ¬value.IsMapping) ↔ IsUnfit suffix content := by
    constructor
    · exact .yaml hsuffix
    · rintro (⟨rfl, -⟩ | ⟨-, hread⟩)
      · simp at hsuffix
      · exact hread
  refine Ends.congr ?_ hunfit
  have hgives := Yaml.gives_read Value.invariant_isTidy content
  rw [mergeText_yaml hsuffix]
  cases hread : Yaml.read content with
  | error failure =>
    exact .broken (by simp) (Failure.isFault_of_isOfDocument (hgives.isOfDocument hread))
  | ok value =>
    dsimp only
    split
    next hpresent => exact (completes_mergeDocument data value).congr (by simp [hpresent])
    next habsent => exact .ok (by simp [habsent])

theorem completes_mergeFile (data : Entries) (name : String) :
    Completes (BlocksFile tree name) (nested.mergeFile tree data name) := by
  by_cases hsuffix : suffixOf name ∈ [".json", ".yaml", ".yml"]
  · rw [mergeFile_of_known hsuffix]
    split
    next content hfile =>
      have hblocks : IsUnfit (suffixOf name) (FileTree.textOf content) ↔ BlocksFile tree name := by
        constructor
        · exact .content hfile
        · rintro (⟨-, hdirectory⟩ | ⟨hother, hunfit⟩)
          · simp [hfile] at hdirectory
          · rw [hfile] at hother
            cases hother
            exact hunfit
      refine Ends.congr ?_ hblocks
      rcases List.mem_cons.mp hsuffix with hjson | hyaml
      · rw [hjson]
        exact completes_mergeText_json data _
      · exact completes_mergeText_yaml hyaml data _
    next hdirectory => exact .broken (.directory hsuffix hdirectory) rfl
    next hnone =>
      refine .ok ?_
      rintro (⟨-, hdirectory⟩ | ⟨hfile, -⟩)
      · simp [hnone] at hdirectory
      · simp [hnone] at hfile
  · rw [mergeFile_of_unknown hsuffix]
    refine .ok ?_
    rintro (⟨hknown, -⟩ | ⟨-, hunfit⟩)
    · exact hsuffix hknown
    · exact hsuffix hunfit.mem_suffixes

theorem completes_mergePattern (data : Entries) (pattern : String) :
    Completes (BlocksPattern tree pattern) (nested.mergePattern tree data pattern) := by
  unfold Layering.mergePattern
  have hglob := (tree.gives_glob pattern).completes
  refine (hglob.bind fun names _ => completes_foldlM completes_mergeFile names data).congr ?_
  constructor
  · rintro (⟨failure, hfailure⟩ | ⟨names, hnames, name, hname, hblocks⟩)
    · exact .pattern hfailure
    · exact .file hnames hname hblocks
  · rintro (hfailure | ⟨hnames, hname, hblocks⟩)
    · exact .inl ⟨_, hfailure⟩
    · exact .inr ⟨_, hnames, _, hname, hblocks⟩

/-! ## Variables -/

/-- Whether the text of a variable is taken for a value that nothing but mappings stands in the way
of. -/
def Takes (data : Entries) (text : List String × String) : Prop :=
  (∃ value, Value.guess text.2 = .ok value) ∧ data.admits text.1 = true

/-- Whether one of some variables cannot be put in its place, after those before it have been put in
theirs. -/
def BlocksTexts (data : Entries) (texts : List (List String × String)) : Prop :=
  ∃ before text after reached, texts = before ++ text :: after ∧
    place data before = .ok reached ∧ ¬Takes reached text

theorem gives_guess (raw : String) : Gives (fun _ => True) (Value.guess raw) := by
  unfold Value.guess
  split
  · exact .ok trivial
  split
  · exact .ok trivial
  unfold containerOrText
  refine gives_ite ?_ (.ok trivial)
  have hgives := Json.gives_read Value.invariant_isTidy raw
  cases hread : Json.read raw with
  | ok value => exact .ok trivial
  | error failure =>
    cases failure with
    | malformed format => exact .ok trivial
    | _ => exact hgives.of_error hread

theorem completes_assign {text : List String × String} (hpath : text.1 ≠ []) (data : Entries) :
    Completes (¬Takes data text) (data.assign text.2 text.1) := by
  cases hguess : Value.guess text.2 with
  | error failure =>
    -- Which failure it is depends on whether the path is followed first.
    have htakes : ¬Takes data text := by
      rintro ⟨⟨value, hvalue⟩, -⟩
      rw [hguess] at hvalue
      cases hvalue
    rcases Entries.assign_of_guess_eq_error hguess hpath data with hassign | hassign
    · rw [hassign]
      exact .broken htakes
        (Failure.isFault_of_isOfDocument ((gives_guess text.2).isOfDocument hguess))
    · rw [hassign]
      exact .broken htakes rfl
  | ok value =>
    cases hadmits : data.admits text.1 with
    | false =>
      rw [Entries.assign_of_not_admits hguess hadmits]
      exact .broken (fun htakes => by simp [htakes.2] at hadmits) rfl
    | true =>
      obtain ⟨next, hnext⟩ := Entries.exists_assign_eq_ok hguess hadmits
      rw [hnext]
      exact .ok (not_not_intro ⟨⟨value, hguess⟩, hadmits⟩)

theorem completes_place {texts : List (List String × String)}
    (hpaths : ∀ text ∈ texts, text.1 ≠ []) (data : Entries) :
    Completes (BlocksTexts data texts) (place data texts) :=
  ends_foldlM (fun text htext data => completes_assign (hpaths text htext) data) data

theorem completes_fileVariables (environment : Named String) (envFile : Option String) :
    Completes (∃ name, envFile = some name ∧
        tree.locate (Pathname.ofText name.toList).text = .error .nameTooLong)
      (fileVariables tree environment envFile) := by
  cases envFile with
  | none => exact .ok (by simp)
  | some name =>
    rw [fileVariables, FileTree.find]
    split
    next place hplace => exact .ok (by simp [hplace])
    next hmissing => exact .ok (by simp [hmissing])
    next hlong => exact .broken ⟨name, rfl, hlong⟩ rfl

/-! ## All layers -/

/-- What a configuration is put together from can have an obstacle in every layer. -/
inductive BlocksLoading (tree : FileTree) (sources : Sources) : Prop
  | file {pattern : String} (hpattern : pattern ∈ sources.patterns)
    (h : BlocksPattern tree pattern)
  | envFile {name : String} (hname : (sources.envFile.filter fun name => !name.isEmpty) = some name)
    (h : tree.locate (Pathname.ofText name.toList).text = .error .nameTooLong)
  | variable {fromFiles : Entries} {bound : Named String}
    (hfiles : sources.patterns.foldlM (nested.mergePattern tree) [] = .ok fromFiles)
    (hbound : fileVariables tree sources.environment
      (sources.envFile.filter fun name => !name.isEmpty) = .ok bound)
    (h : BlocksTexts fromFiles (denoted sources.envPrefix (bound ++ sources.environment)))
  | overrides (hpresent : sources.overrides.isPresent = true) (h : ¬sources.overrides.IsMapping)

theorem completes_overrides (overrides : Value) (data : Entries) :
    Completes (overrides.isPresent = true ∧ ¬overrides.IsMapping)
      ((if overrides.isPresent then mergeDocument data overrides else .ok data).map Config.mk) := by
  refine Ends.map ?_
  split
  next hpresent => exact (completes_mergeDocument data overrides).congr (by simp [hpresent])
  next habsent => exact .ok (by simp [habsent])

/-- A configuration is put together if there is no obstacle in any layer, and only then. -/
theorem completes_load (tree : FileTree) (sources : Sources) :
    Completes (BlocksLoading tree sources) (load tree sources) := by
  -- Variables are placed into what the files come to, so their obstacle is said of that.
  have hvariables {fromFiles : Entries} {bound : Named String}
      (hfiles : sources.patterns.foldlM (nested.mergePattern tree) [] = .ok fromFiles)
      (hbound : fileVariables tree sources.environment
        (sources.envFile.filter fun name => !name.isEmpty) = .ok bound) :
      Completes (∃ fromFiles bound, sources.patterns.foldlM (nested.mergePattern tree) [] = .ok fromFiles ∧
          fileVariables tree sources.environment
            (sources.envFile.filter fun name => !name.isEmpty) = .ok bound ∧
          BlocksTexts fromFiles (denoted sources.envPrefix (bound ++ sources.environment)))
        (place fromFiles (denoted sources.envPrefix (bound ++ sources.environment))) := by
    refine (completes_place (fun _ => ne_nil_of_mem_denoted) fromFiles).congr ?_
    constructor
    · intro hblocks
      exact ⟨fromFiles, bound, hfiles, hbound, hblocks⟩
    · rintro ⟨others, more, hothers, hmore, hblocks⟩
      rw [hfiles] at hothers
      rw [hbound] at hmore
      cases hothers
      cases hmore
      exact hblocks
  rw [load_eq]
  refine ((completes_foldlM completes_mergePattern sources.patterns []).bind_or
    fun fromFiles hfiles => (completes_fileVariables sources.environment _).bind_or
    fun bound hbound => (hvariables hfiles hbound).bind_or
    fun data _ => completes_overrides sources.overrides data).congr ?_
  constructor
  · rintro (⟨pattern, hpattern, h⟩ | ⟨name, hname, h⟩ | ⟨fromFiles, bound, hfiles, hbound, h⟩ |
      ⟨hpresent, h⟩)
    · exact .file hpattern h
    · exact .envFile hname h
    · exact .variable hfiles hbound h
    · exact .overrides hpresent h
  · rintro (⟨hpattern, h⟩ | ⟨hname, h⟩ | ⟨hfiles, hbound, h⟩ | ⟨hpresent, h⟩)
    · exact .inl ⟨_, hpattern, h⟩
    · exact .inr (.inl ⟨_, hname, h⟩)
    · exact .inr (.inr (.inl ⟨_, _, hfiles, hbound, h⟩))
    · exact .inr (.inr (.inr ⟨hpresent, h⟩))

end Config

/-! ## The router section -/

namespace Schema

/-- Whether a key of a section is a list or a mapping, or unknown and too long to be shown. -/
def BlocksKey (schema : Schema) (key : Value) : Prop :=
  key.isKey = false ∨ schema.isKnown key = false ∧ key.isShowable = false

/-- Whether a field that is a text is given a number that is too long for one. -/
def BlocksField (entries : Entries) (field : Field) : Prop :=
  field.type = .text ∧ ∃ n, entries.get? field.name = some (.integer n) ∧ Number.intText? n = none

/-- Whether a section has a key that cannot be looked at, or else a number that cannot be a text, in
a field behind others that can be read. -/
def BlocksSection (schema : Schema) (entries : Entries) : Prop :=
  (∃ key ∈ entries.keys, schema.BlocksKey key) ∨
    ∃ before field after, schema.fields = before ++ field :: after ∧
      (∀ earlier ∈ before, ∃ value, readField earlier (entries.get? earlier.name) = .ok value) ∧
      BlocksField entries field

variable (schema : Schema)

theorem completes_checkKey (key : Value) :
    Completes (schema.BlocksKey key) (schema.checkKey key) := by
  unfold checkKey
  cases hkey : key.isKey with
  | false => exact .broken (.inl hkey) rfl
  | true =>
    cases hshown : schema.isKnown key || key.isShowable with
    | true =>
      refine .ok ?_
      rintro (hno | ⟨hunknown, hhidden⟩)
      · simp [hkey] at hno
      · simp [hunknown, hhidden] at hshown
    | false => exact .broken (.inr (Bool.or_eq_false_iff.mp hshown)) rfl

theorem completes_recover (type : FieldType) (value : Value) :
    Completes (type = .text ∧ ∃ n, value = .integer n ∧ Number.intText? n = none)
      (type.recover value) := by
  unfold FieldType.recover
  split
  · cases value with
    | integer n =>
      unfold FieldType.recoverText
      dsimp only
      split
      next cs hcs => exact .ok (by simp [hcs])
      next hnone => exact .broken ⟨rfl, n, rfl, hnone⟩ rfl
    | _ => exact .ok (by simp)
  · exact .ok (by simp)
  next hnotText _ => exact .ok fun hblocks => hnotText hblocks.1

/-- A field has a value, or the one that is given for it is refused, or it cannot be a text. -/
theorem ends_readField (entries : Entries) (field : Field) :
    Ends Failure.IsOfSetting (BlocksField entries field)
      (readField field (entries.get? field.name)) := by
  unfold BlocksField
  cases entries.get? field.name with
  | none =>
    unfold readField
    dsimp only
    split
    · exact .ok (by simp)
    · exact .refused (by simp) ⟨_, _, rfl⟩
  | some value =>
    have hrecover := completes_recover field.type value
    have hblocks : (field.type = .text ∧ ∃ n, value = .integer n ∧ Number.intText? n = none) ↔
        field.type = .text ∧ ∃ n, some value = some (.integer n) ∧ Number.intText? n = none := by
      simp
    refine Ends.congr ?_ hblocks
    unfold readField
    dsimp only
    cases hrecovered : field.type.recover value with
    | error failure =>
      rw [hrecovered] at hrecover
      exact hrecover.ends
    | ok recovered =>
      rw [hrecovered] at hrecover
      dsimp only
      split
      · exact .ok hrecover.not_of_ok
      · exact .refused hrecover.not_of_ok ⟨_, _, rfl⟩

/-- A section is read from its first key to its last field, as far as nothing blocks it. -/
theorem ends_read (entries : Entries) :
    Ends Failure.IsOfSetting (schema.BlocksSection entries) (schema.read (.mapping entries)) := by
  have hkeys := completes_forM (completes_checkKey schema) entries.keys
  have hfields := ends_mapM
    (fun field => (ends_readField entries field).map (f := fun value => (field.name, value)))
    schema.fields
  have hread (field : Field) :
      (∃ entry, (readField field (entries.get? field.name)).map
        (fun value => (field.name, value)) = .ok entry) ↔
      ∃ value, readField field (entries.get? field.name) = .ok value := by
    cases readField field (entries.get? field.name) <;> simp [Except.map]
  simp only [hread] at hfields
  exact hkeys.bind_or fun _ _ => hfields

end Schema

namespace Config

/-- Whether a configuration has a router section that cannot be gone through to the end. -/
def BlocksSettings (config : Config) : Prop :=
  ∃ entries, config.routerSection = .mapping entries ∧ Settings.schema.BlocksSection entries

theorem ends_settings (config : Config) :
    Ends Failure.IsOfSetting config.BlocksSettings config.settings := by
  unfold BlocksSettings settings
  split
  next entries hsection =>
    exact (Schema.ends_read Settings.schema entries).map.congr (by simp [hsection])
  next hsection =>
    refine .refused ?_ ⟨_, _, rfl⟩
    rintro ⟨entries, hentries, -⟩
    exact hsection entries hentries

/-- Whether sources have an obstacle, in a layer or in the section of the router. -/
def IsBlocked (tree : FileTree) (sources : Sources) : Prop :=
  BlocksLoading tree sources ∨ ∃ config, load tree sources = .ok config ∧ config.BlocksSettings

/-- Reading the settings from sources breaks off at an obstacle. Without one it gives settings, or
fails with the fault of a setting. -/
theorem ends_load_settings (tree : FileTree) (sources : Sources) :
    Ends Failure.IsOfSetting (IsBlocked tree sources) (load tree sources >>= settings) :=
  (completes_load tree sources).ends.bind fun config _ => ends_settings config

end Config
end TypedRoutes
