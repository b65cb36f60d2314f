import TypedRoutes.Config.GivenSettings
import TypedRoutes.Proofs.Config.Obstacles
import TypedRoutes.Proofs.Config.Section
import TypedRoutes.Proofs.Config.Verbatim
import TypedRoutes.Proofs.Uri

/-!
# Text settings from variables

A variable that has the last word about a setting decides it. Where the setting is a text, the
settings are those that the text of the variable gives when it stands in the configuration as it is,
if it arrives as it is. A numeral gives the text that its number is written with instead, and a text
that is taken for a value of another type is refused.
-/
namespace TypedRoutes

namespace Settings

/-- A setting that is a text, in its normal form. -/
def normalText (name text : String) : String :=
  if name ∈ ["base_uri", "pages_directory", "static_directory_uri"] then Uri.withTrailingSlash text
  else if name = "app_url" then normalAppUrl text
  else text

variable {field : Field} {name s t : String}

/-- Without slashes the normal form tells texts apart. -/
theorem eq_of_normalText_eq (hs : '/' ∉ s.toList) (ht : '/' ∉ t.toList)
    (h : normalText name s = normalText name t) : s = t := by
  have hkept {text : String} (htext : '/' ∉ text.toList) :
      (Uri.withTrailingSlash text).toList = text.toList ++ ['/'] := by
    rw [Uri.toList_withTrailingSlash, Text.dropTrailingSlashes_eq_self]
    exact fun hlast => htext (List.mem_of_getLast? hlast)
  have hslash (heq : Uri.withTrailingSlash s = Uri.withTrailingSlash t) : s = t := by
    have hlists := congrArg String.toList heq
    rw [hkept hs, hkept ht] at hlists
    exact String.toList_inj.mp (List.append_cancel_right hlists)
  have hne (text : String) : Uri.withTrailingSlash text ≠ "" := by
    intro heq
    have hlist := congrArg String.toList heq
    rw [Uri.toList_withTrailingSlash] at hlist
    simp at hlist
  unfold normalText normalAppUrl at h
  split_ifs at h with _ _ hs ht
  · exact hslash h
  · rw [hs, ht]
  · exact absurd h.symm (hne t)
  · exact absurd h (hne s)
  · exact hslash h
  · exact h

theorem summary_ofValues (hfield : field ∈ schema.fields) (htype : field.type = .text)
    (values : Named Value) :
    (GivenSettings.ofSettings (ofValues values)).summary.get? field.name =
      some (.text (normalText field.name (textOf values field.name))) := by
  simp only [schema, textField, List.mem_cons, List.not_mem_nil, or_false] at hfield
  rcases hfield with rfl | rfl | rfl | rfl | rfl | rfl | rfl
  all_goals first | rfl | cases htype

theorem nodup_names : (Named.names schema.table).Nodup := by
  decide +kernel

theorem eq_of_name {other : Field} (hother : other ∈ schema.fields)
    (hfield : field ∈ schema.fields) (h : other.name = field.name) : other = field := by
  have hnames := nodup_names
  rw [Named.names, Schema.table, List.map_map] at hnames
  exact List.inj_on_of_nodup_map hnames hother hfield h

end Settings

namespace Config

variable {tree : FileTree} {sources : Sources} {config : Config} {settings : Settings}
variable {path : List String} {s t : String} {value : Value} {field : Field}

/-! ## The last word -/

/-- Whether the text of a variable has the last word about a path: neither a later variable nor the
explicit values say anything about it. -/
inductive HasLastWord (tree : FileTree) (sources : Sources) (path : List String) (s : String) : Prop
  | intro {bound : Named String} {before after : List (List String × String)}
    (hbound : fileVariables tree sources.environment
      (sources.envFile.filter fun name => !name.isEmpty) = .ok bound)
    (htexts : denoted sources.envPrefix (bound ++ sources.environment) =
      before ++ (path, s) :: after)
    (hafter : ∀ text ∈ after, Apart path text.1)
    (hoverrides : sources.overrides.isPresent = false ∨ ∃ layer : Entries,
      sources.overrides = .mapping layer ∧ layer.AreTidy ∧ layer.spares path = true)

/-- What a text with the last word is taken for is what stands at the path. -/
theorem HasLastWord.exists_at? (h : HasLastWord tree sources path s)
    (hload : load tree sources = .ok config) :
    ∃ value, Value.guess s = .ok value ∧ config.data.at? path = some value := by
  obtain ⟨hbound, htexts, hafter, hoverrides⟩ := h
  rw [load_eq] at hload
  obtain ⟨fromFiles, -, hload⟩ := Except.bind_eq_ok_iff.mp hload
  rw [hbound] at hload
  change place fromFiles _ >>= _ = _ at hload
  obtain ⟨data, hplace, hload⟩ := Except.bind_eq_ok_iff.mp hload
  have hpath : path ≠ [] :=
    ne_nil_of_mem_denoted (by rw [htexts]; exact List.mem_append_right _ List.mem_cons_self)
  rw [htexts, place_append] at hplace
  obtain ⟨reached, -, hplace⟩ := Except.bind_eq_ok_iff.mp hplace
  obtain ⟨value, hguess, -, hplace⟩ := (place_cons_eq_ok_iff hpath).mp hplace
  have hdata : data.at? path = some value := by
    rw [at?_place_of_apart hplace hafter, Entries.at?_put_self hpath]
  refine ⟨value, hguess, ?_⟩
  obtain ⟨merged, hmerged, rfl⟩ := Except.map_eq_ok_iff.mp hload
  rcases hoverrides with habsent | ⟨layer, hlayer, htidy, hspares⟩
  · rw [if_neg (by simp [habsent])] at hmerged
    cases hmerged
    exact hdata
  · rw [hlayer] at hmerged
    split_ifs at hmerged <;> cases hmerged
    · rw [← hdata]
      exact Entries.at?_merge_of_spares htidy hspares data
    · exact hdata

/-! ## The section with a text in a place -/

/-- The configuration with a text as a setting of the router. -/
def withText (config : Config) (name text : String) : Config :=
  ⟨config.data.put (.text text) ["router", name]⟩

variable {entries : Entries}

theorem exists_section (h : config.data.at? ["router", field.name] = some value) :
    ∃ entries : Entries, config.data.get? "router" = some (.mapping entries) ∧
      entries.get? field.name = some value := by
  rw [Entries.at?_cons_cons] at h
  split at h
  next entries hentries => exact ⟨entries, hentries, h⟩
  next => cases h

theorem settings_of_section (h : config.data.get? "router" = some (.mapping entries))
    (hvalue : entries.get? field.name = some value) :
    config.settings = (Settings.schema.read (.mapping entries)).map Settings.ofValues := by
  have hpresent : (Value.mapping entries).isPresent = true := by
    cases entries with
    | nil => cases hvalue
    | cons => rfl
  have hrouter : config.get? "router" = some (.mapping entries) := h
  have hsection : config.routerSection = .mapping entries := by
    rw [routerSection, hrouter]
    exact if_pos hpresent
  rw [settings, hsection]

theorem settings_withText (h : config.data.get? "router" = some (.mapping entries)) :
    (config.withText field.name t).settings =
      (Settings.schema.read (.mapping (entries.insert (.text field.name) (.text t)))).map
        Settings.ofValues := by
  have hget : (config.withText field.name t).data.get? "router" =
      some (.mapping (entries.insert (.text field.name) (.text t))) := by
    rw [withText, Entries.get?_put_self (List.cons_ne_nil _ _), Entries.inner_of_get? h]
    rfl
  exact settings_of_section hget (Entries.get?_insert_self _ _ _)

/-- The text of a field, from the value that is given for it. -/
theorem fieldValue_text (htype : field.type = .text)
    (hvalue : entries.get? field.name = some value) {recovered : Value}
    (hrecover : FieldType.text.recover value = .ok recovered) :
    Schema.fieldValue entries field =
      if FieldType.text.accepts recovered then .ok recovered
      else .error (.fault (.settingInvalid field.name
        ("expected str, got " ++ recovered.typeName))) := by
  rw [Schema.fieldValue, hvalue, Schema.readField, htype, hrecover]
  rfl

theorem fieldValue_insert_self (htype : field.type = .text) (entries : Entries) (t : String) :
    Schema.fieldValue (entries.insert (.text field.name) (.text t)) field = .ok (.text t) := by
  have hrecover : FieldType.text.recover (.text t) = .ok (.text t) := rfl
  rw [fieldValue_text htype (Entries.get?_insert_self _ _ _) hrecover]
  rfl

theorem fieldValue_insert_of_ne {other : Field} (h : other.name ≠ field.name) (entries : Entries)
    (value : Value) :
    Schema.fieldValue (entries.insert (.text field.name) value) other =
      Schema.fieldValue entries other := by
  rw [Schema.fieldValue, Schema.fieldValue,
    Entries.get?_insert_of_ne fun heq => h (Value.text.inj heq).symm]

/-- A text that stands in the section is the setting, in its normal form. -/
theorem summary_of_withText (hfield : field ∈ Settings.schema.fields) (htype : field.type = .text)
    (hvalue : config.data.at? ["router", field.name] = some value)
    (h : (config.withText field.name t).settings = .ok settings) :
    (GivenSettings.ofSettings settings).summary.get? field.name =
      some (.text (Settings.normalText field.name t)) := by
  obtain ⟨entries, hentries, hgiven⟩ := exists_section hvalue
  rw [settings_withText hentries] at h
  obtain ⟨values, hread, rfl⟩ := Except.map_eq_ok_iff.mp h
  obtain ⟨found, hlookup, hfound⟩ := (Schema.align_of_read hread).exists_lookup
    Settings.nodup_names (List.mem_map_of_mem hfield)
  rw [fieldValue_insert_self htype] at hfound
  cases hfound
  rw [Settings.summary_ofValues hfield htype, Settings.textOf, hlookup]

/-- Where the value of a text field comes to a text, the settings are those with this text. -/
theorem settings_eq_withText (hfield : field ∈ Settings.schema.fields) (htype : field.type = .text)
    (hvalue : config.data.at? ["router", field.name] = some value)
    (hrecover : FieldType.text.recover value = .ok (.text t)) :
    config.settings = (config.withText field.name t).settings := by
  obtain ⟨entries, hentries, hgiven⟩ := exists_section hvalue
  rw [settings_of_section hentries hgiven, settings_withText hentries]
  refine congrArg _ (Schema.read_congr (Entries.keys_insert_of_get? hgiven _).symm ?_)
  intro other hother
  by_cases hname : other.name = field.name
  · rw [Settings.eq_of_name hother hfield hname, fieldValue_insert_self htype,
      fieldValue_text htype hgiven hrecover]
    rfl
  · rw [fieldValue_insert_of_ne hname]

theorem settings_ne_ok (hfield : field ∈ Settings.schema.fields) (htype : field.type = .text)
    (hvalue : config.data.at? ["router", field.name] = some value) {recovered : Value}
    (hrecover : FieldType.text.recover value = .ok recovered)
    (hrefused : FieldType.text.accepts recovered = false) (settings : Settings) :
    config.settings ≠ .ok settings := by
  intro h
  obtain ⟨entries, hentries, hgiven⟩ := exists_section hvalue
  rw [settings_of_section hentries hgiven] at h
  obtain ⟨values, hread, -⟩ := Except.map_eq_ok_iff.mp h
  obtain ⟨found, -, hfound⟩ := (Schema.align_of_read hread).exists_lookup
    Settings.nodup_names (List.mem_map_of_mem hfield)
  rw [fieldValue_text htype hgiven hrecover, hrefused] at hfound
  cases hfound

/-- Where the value of a text field is no text, it is what reading ends with, if there is nothing
else to refuse. -/
theorem settings_of_not_text (hfield : field ∈ Settings.schema.fields) (htype : field.type = .text)
    (hvalue : config.data.at? ["router", field.name] = some value) {recovered : Value}
    (hrecover : FieldType.text.recover value = .ok recovered)
    (hrefused : FieldType.text.accepts recovered = false)
    (h : (config.withText field.name t).settings = .ok settings) :
    config.settings = .error (.fault (.settingInvalid field.name
      ("expected str, got " ++ recovered.typeName))) := by
  obtain ⟨entries, hentries, hgiven⟩ := exists_section hvalue
  rw [settings_withText hentries] at h
  obtain ⟨values, hread, rfl⟩ := Except.map_eq_ok_iff.mp h
  rw [settings_of_section hentries hgiven, Except.map_eq_error_iff]
  refine Schema.read_of_refused Settings.nodup_names
    (Entries.keys_insert_of_get? hgiven _).symm hread ?_ hfield ?_
  · intro name hname
    rw [Entries.get?_insert_of_ne fun heq => hname (Value.text.inj heq).symm]
  · rw [fieldValue_text htype hgiven hrecover, hrefused]
    rfl

/-! ## Texts of variables -/

/-- What the settings are if a text is the last word about one of them that is a text. -/
structure FollowsText (config : Config) (field : Field) (s : String) : Prop where
  /-- A text that arrives as it is makes the same settings as when it stands there as a text. -/
  verbatim : IsVerbatim s → config.settings = (config.withText field.name s).settings
  /-- The setting is the text, in its normal form, only then. -/
  kept_iff : ∀ settings, config.settings = .ok settings →
    ((GivenSettings.ofSettings settings).summary.get? field.name =
        some (.text (Settings.normalText field.name s)) ↔
      IsVerbatim s)
  /-- Any other text stands for one that arrives as it is, or it is refused if nothing else is. -/
  otherwise : ¬IsVerbatim s →
    (∃ t ≠ s, IsVerbatim t ∧ Value.received s = .ok (.text t) ∧
      config.settings = (config.withText field.name t).settings) ∨
    ∃ value, Value.received s = .ok value ∧ FieldType.text.accepts value = false ∧
      ∀ settings, (config.withText field.name s).settings = .ok settings →
        config.settings = .error (.fault (.settingInvalid field.name
          ("expected str, got " ++ value.typeName)))

theorem followsText (hfield : field ∈ Settings.schema.fields) (htype : field.type = .text)
    (hguess : Value.guess s = .ok value)
    (hvalue : config.data.at? ["router", field.name] = some value) :
    config.FollowsText field s := by
  have harrives := Value.arrives s
  generalize hresult : Value.received s = result at harrives
  have hrecover : FieldType.text.recover value = result := by
    rw [← hresult, Value.received, hguess]
    rfl
  have hnot (hne : result ≠ .ok (.text s)) : ¬IsVerbatim s := fun hs =>
    hne (hresult.symm.trans (Value.received_of_isVerbatim hs))
  cases harrives with
  | verbatim hs =>
    have hsettings := settings_eq_withText hfield htype hvalue hrecover
    refine ⟨fun _ => hsettings, fun settings hok => ?_, fun hnot => absurd hs hnot⟩
    rw [hsettings] at hok
    exact iff_of_true (summary_of_withText hfield htype hvalue hok) hs
  | @restated t hne ht hslash hslash' =>
    have hsettings := settings_eq_withText hfield htype hvalue hrecover
    have hother := hnot fun heq => hne (Value.text.inj (Except.ok.inj heq))
    refine ⟨fun hs => absurd hs hother, fun settings hok => iff_of_false ?_ hother,
      fun _ => .inl ⟨t, hne, ht, hresult, hsettings⟩⟩
    rw [hsettings] at hok
    rw [summary_of_withText hfield htype hvalue hok]
    intro heq
    have htext := Value.text.inj (Option.some.inj heq)
    exact hne (Settings.eq_of_normalText_eq hslash' hslash htext)
  | @refused other haccepts =>
    have hother : ¬IsVerbatim s := by
      refine hnot fun heq => ?_
      cases heq
      cases haccepts
    refine ⟨fun hs => absurd hs hother, fun settings hok => ?_, fun _ => .inr ⟨other, hresult,
      haccepts, fun settings hok => settings_of_not_text hfield htype hvalue hrecover haccepts hok⟩⟩
    exact absurd hok (settings_ne_ok hfield htype hvalue hrecover haccepts settings)
  | failed hfailed =>
    rw [hguess] at hfailed
    cases hfailed

theorem HasLastWord.followsText (h : HasLastWord tree sources ["router", field.name] s)
    (hfield : field ∈ Settings.schema.fields) (htype : field.type = .text)
    (hload : load tree sources = .ok config) : config.FollowsText field s := by
  obtain ⟨value, hguess, hvalue⟩ := h.exists_at? hload
  exact Config.followsText hfield htype hguess hvalue

/-- A text that is taken for no value makes no configuration. -/
theorem HasLastWord.exists_error (h : HasLastWord tree sources path s) {failure : Failure}
    (hguess : Value.guess s = .error failure) :
    ∃ failure, failure.isFault = false ∧ load tree sources = .error failure := by
  have hcompletes := completes_load tree sources
  cases hload : load tree sources with
  | ok config =>
    obtain ⟨value, hvalue, -⟩ := h.exists_at? hload
    rw [hguess] at hvalue
    cases hvalue
  | error cause =>
    rw [hload] at hcompletes
    cases hcompletes with
    | refused _ himpossible => exact himpossible.elim
    | broken _ hfault => exact ⟨cause, hfault, rfl⟩

/-! ## One variable alone -/

/-- One variable and nothing else. -/
def lone (envPrefix name text : String) : Sources where
  envPrefix := envPrefix
  environment := [(name, text)]

variable {envPrefix name : String}

theorem denoted_lone (hpath : variablePath? envPrefix name = some path) (s : String) :
    denoted envPrefix (lone envPrefix name s).environment = [(path, s)] := by
  simp [denoted, lone, hpath]

theorem load_lone (hpath : variablePath? envPrefix name = some path)
    (hguess : Value.guess s = .ok value) (tree : FileTree) :
    load tree (lone envPrefix name s) = .ok ⟨Entries.put [] value path⟩ := by
  have hdenoted := denoted_lone hpath s
  have hne : path ≠ [] :=
    ne_nil_of_mem_denoted (by rw [hdenoted]; exact List.mem_singleton.mpr rfl)
  have hplace : place [] [(path, s)] = .ok (Entries.put [] value path) :=
    (place_cons_eq_ok_iff hne).mpr ⟨value, hguess, Entries.admits_empty path, rfl⟩
  rw [load_eq]
  change place [] (denoted envPrefix (lone envPrefix name s).environment) >>= _ = _
  rw [hdenoted, hplace]
  rfl

theorem hasLastWord_lone (hpath : variablePath? envPrefix name = some path) (s : String)
    (tree : FileTree) : HasLastWord tree (lone envPrefix name s) path s := by
  have htexts : denoted envPrefix (lone envPrefix name s).environment = [] ++ (path, s) :: [] :=
    denoted_lone hpath s
  exact .intro rfl htexts (by simp) (.inl rfl)

theorem exists_settings_withText (hfield : field ∈ Settings.schema.fields)
    (htype : field.type = .text) (value : Value) (t : String) :
    ∃ settings, (withText ⟨Entries.put [] value ["router", field.name]⟩ field.name t).settings =
      .ok settings := by
  simp only [Settings.schema, Settings.textField, List.mem_cons, List.not_mem_nil, or_false]
    at hfield
  rcases hfield with rfl | rfl | rfl | rfl | rfl | rfl | rfl
  all_goals first | exact ⟨_, rfl⟩ | cases htype

/-- By itself a text that arrives as it is makes settings. -/
theorem exists_settings_lone (hfield : field ∈ Settings.schema.fields) (htype : field.type = .text)
    (hpath : variablePath? envPrefix name = some ["router", field.name]) (hs : IsVerbatim s)
    (tree : FileTree) :
    ∃ settings, load tree (lone envPrefix name s) >>= Config.settings = .ok settings ∧
      (GivenSettings.ofSettings settings).summary.get? field.name =
        some (.text (Settings.normalText field.name s)) := by
  obtain ⟨value, hguess⟩ := Value.exists_guess_of_isVerbatim hs
  have hload := load_lone hpath hguess tree
  have hfollows := (hasLastWord_lone hpath s tree).followsText hfield htype hload
  obtain ⟨settings, hsettings⟩ := exists_settings_withText hfield htype value s
  rw [← hfollows.verbatim hs] at hsettings
  rw [hload]
  exact ⟨settings, hsettings, (hfollows.kept_iff settings hsettings).mpr hs⟩

/-! ## All sources -/

/-- A text that is the last word about a text setting makes the settings that follow from it, and no
configuration if it is taken for no value. By itself every text that arrives as it is makes settings
with it. -/
theorem settings_follow_text (hfield : field ∈ Settings.schema.fields) (htype : field.type = .text)
    (s : String) :
    (∀ tree sources, HasLastWord tree sources ["router", field.name] s →
      (∀ config, load tree sources = .ok config → config.FollowsText field s) ∧
      ((∃ failure, Value.guess s = .error failure) →
        ∃ failure, failure.isFault = false ∧ load tree sources = .error failure)) ∧
    ∀ tree envPrefix name, variablePath? envPrefix name = some ["router", field.name] →
      IsVerbatim s →
      ∃ settings, load tree (lone envPrefix name s) >>= Config.settings = .ok settings ∧
        (GivenSettings.ofSettings settings).summary.get? field.name =
          some (.text (Settings.normalText field.name s)) := by
  refine ⟨fun tree sources hlast => ⟨fun config hload => ?_, ?_⟩, ?_⟩
  · exact hlast.followsText hfield htype hload
  · rintro ⟨failure, hfailure⟩
    exact hlast.exists_error hfailure
  · intro tree envPrefix name hpath hs
    exact exists_settings_lone hfield htype hpath hs tree

/-- A numeral with zeros in front, another setting behind it, and an explicit value for neither. -/
def padded : Sources where
  environment := [("PW_ROUTER__ERROR_404_ROUTE", "007"), ("PATH", "/bin"),
    ("PW_ROUTER__BASE_URI", "/app")]
  overrides := .mapping [(.text "name", .null)]

theorem received_padded : Value.received "007" = .ok (.text "7") := by
  have hnumeral : numeral? "007".toList = some (.integer 7) := by
    have hread : Number.readLooseInt "007".toList = .value 7 := by decide +kernel
    rw [numeral?, if_neg (by decide), hread]
  rw [Value.received_of_numeral? (by decide +kernel) hnumeral]
  rfl

/-- The numeral stands for the text of its number; a name that is no numeral stands for itself. -/
theorem settings_follow_text_padded :
    let tree := FileTree.ofFiles []
    let field := Settings.textField "error_404_route" ""
    field ∈ Settings.schema.fields ∧ field.type = .text ∧
      HasLastWord tree padded ["router", field.name] "007" ∧ ¬IsVerbatim "007" ∧
      (∃ config, load tree padded = .ok config ∧
        config.settings = (config.withText field.name "7").settings) ∧
      variablePath? "PW_" "PW_ROUTER__ERROR_404_ROUTE" = some ["router", field.name] ∧
      IsVerbatim "home" ∧
      ∃ settings,
        load tree (lone "PW_" "PW_ROUTER__ERROR_404_ROUTE" "home") >>= Config.settings =
          .ok settings ∧
        (GivenSettings.ofSettings settings).summary.get? field.name = some (.text "home") := by
  intro tree field
  have hfield : field ∈ Settings.schema.fields := by simp [field, Settings.schema]
  have htexts : denoted padded.envPrefix ([] ++ padded.environment) =
      [] ++ (["router", field.name], "007") :: [(["router", "base_uri"], "/app")] := by
    decide +kernel
  have hlast : HasLastWord tree padded ["router", field.name] "007" := by
    refine .intro rfl htexts ?_ (.inr ⟨[(.text "name", .null)], rfl, ?_, ?_⟩)
    · simp only [List.mem_singleton]
      rintro text rfl
      decide
    · have hnull : Value.IsTidy .null := Value.isTidy_of_ne_mapping nofun
      exact Entries.areTidy_nest hnull ["name"]
    · decide +kernel
  have hpadded : ¬IsVerbatim "007" := by
    rw [← Value.received_eq_self_iff, received_padded]
    simp
  have hhome : IsVerbatim "home" :=
    isVerbatim_of_plain (by decide +kernel) (by decide +kernel) (by decide)
  have hpath : variablePath? "PW_" "PW_ROUTER__ERROR_404_ROUTE" = some ["router", field.name] := by
    decide +kernel
  obtain ⟨hall, hlone⟩ := settings_follow_text hfield rfl "007"
  have hloads : (load tree padded).toOption.isSome = true := by decide +kernel
  obtain ⟨config, hconfig⟩ := Option.isSome_iff_exists.mp hloads
  have hload := Except.toOption_eq_some_iff.mp hconfig
  have hfollows := (hall tree padded hlast).1 config hload
  refine ⟨hfield, rfl, hlast, hpadded, ⟨config, hload, ?_⟩, hpath, hhome,
    (settings_follow_text hfield rfl "home").2 tree "PW_" _ hpath hhome⟩
  rcases hfollows.otherwise hpadded with
    ⟨t, -, -, hreceived, hsettings⟩ | ⟨value, hreceived, hvalue, -⟩
  · rw [received_padded] at hreceived
    cases hreceived
    exact hsettings
  · rw [received_padded] at hreceived
    cases hreceived
    cases hvalue

/-- Zeros in front are lost and a word for a truth value is refused where a text is expected. -/
theorem settings_lone_padded :
    let tree := FileTree.ofFiles []
    let name := "PW_ROUTER__ERROR_404_ROUTE"
    (load tree (lone "PW_" name "007") >>= Config.settings).map (·.error404Route) = .ok "7" ∧
      (load tree (lone "PW_" name "true") >>= Config.settings).map (·.error404Route) =
        .error (.fault (.settingInvalid "error_404_route" "expected str, got bool")) := by
  decide +kernel

end Config
end TypedRoutes
