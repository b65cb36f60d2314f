import TypedRoutes.Proofs.Route.Operation
import TypedRoutes.Proofs.Route.RoundTrip
import TypedRoutes.Proofs.Template.Rendering
import TypedRoutes.Value.Tag

/-!
# Accounting for values

Building accounts for every supplied value, by a complaint or by a text in the place of a parameter,
and for every parameter that is left without a text. Generating ends with a path or with one of the
diagnostics, and no diagnostic is lost or told twice on the way. Of the values nothing matters for
the path but the scalars that the parameters are given.
-/
namespace TypedRoutes
namespace Route

/-- What becomes of one supplied value: the complaint about it, or the text that it puts in the
place of a parameter. -/
inductive Outcome (route : Route) (name : String) (value : Value) : Except Fault String → Prop
  | unknown (hname : name ∉ Named.names route.parameters) :
    Outcome route name value (.error (.parameterUnknown name route.name))
  | mistyped {kind : Kind} (hkind : (name, kind) ∈ route.parameters)
    (hvalue : value.supplies? kind = none) :
    Outcome route name value (.error (.parameterMistyped name kind.label value.suppliedType))
  | unmatchable {kind : Kind} {scalar : Scalar} (hkind : (name, kind) ∈ route.parameters)
    (hvalue : value.supplies? kind = some scalar)
    (htext : ∀ cs, scalar.encode? = some cs → kind.matchesText cs = false) :
    Outcome route name value (.error (.parameterMistyped name kind.label
      (value.suppliedType ++ " outside the matchable range")))
  | substituted {kind : Kind} {scalar : Scalar} {text : String}
    (hkind : (name, kind) ∈ route.parameters) (hvalue : value.supplies? kind = some scalar)
    (hspells : kind.Spells scalar text) : Outcome route name value (.ok text)

/-- The outcomes of supplied values, by the names of these. -/
abbrev Outcomes := Named (Except Fault String)

/-- The complaints among outcomes, in order. -/
def Outcomes.complaints (outcomes : Outcomes) : List Fault :=
  outcomes.filterMap fun (_, outcome) =>
    match outcome with
    | .ok _ => none
    | .error fault => some fault

/-- The texts among outcomes. -/
def Outcomes.texts (outcomes : Outcomes) : Captures :=
  outcomes.filterMap fun (name, outcome) => outcome.toOption.map fun text => (name, text)

variable {route : Route} {name : String} {value other : Value} {values others : Named Value}
variable {outcome : Except Fault String} {source path : String}
variable {endpoint : Value} {given : Option String}

/-! ## One value -/

theorem outcome_place (route : Route) (name : String) (value : Value) :
    route.Outcome name value (route.place name value) := by
  unfold place
  split
  next hlookup => exact .unknown (Named.lookup_eq_none_iff.mp hlookup)
  next kind hlookup =>
    have hkind := Named.mem_of_lookup hlookup
    split
    next hvalue => exact .mistyped hkind hvalue
    next scalar hvalue =>
      split
      next cs htext =>
        obtain ⟨hencode, hmatch⟩ := Option.filter_eq_some_iff.mp htext
        refine .substituted hkind hvalue ⟨(Value.of_supplies? hvalue).2, ?_, ?_⟩
        · rw [String.toList_ofList, hencode]
        · rwa [String.toList_ofList]
      next htext =>
        refine .unmatchable hkind hvalue fun cs hcs => ?_
        simpa [hcs] using htext

/-- A value has one outcome. -/
theorem outcome_iff (hnames : (Named.names route.parameters).Nodup) :
    route.Outcome name value outcome ↔ route.place name value = outcome := by
  constructor
  · intro h
    cases h with
    | unknown hname => simp [place, Named.lookup_eq_none_iff.mpr hname]
    | mistyped hkind hvalue =>
      simp [place, (Named.lookup_eq_some_iff_mem hnames).mpr hkind, hvalue]
    | @unmatchable kind scalar hkind hvalue htext =>
      have hnone : scalar.encode?.filter kind.matchesText = none := by
        cases hencode : scalar.encode? with
        | none => rfl
        | some cs => simp [htext cs hencode]
      simp [place, (Named.lookup_eq_some_iff_mem hnames).mpr hkind, hvalue, hnone]
    | substituted hkind hvalue hspells =>
      exact (place_eq_ok_iff ((Named.lookup_eq_some_iff_mem hnames).mpr hkind)).mpr
        ⟨_, hvalue, hspells⟩
  · rintro rfl
    exact outcome_place route name value

/-! ## All values -/

/-- The outcomes of supplied values, in order. -/
def outcomes (route : Route) (values : Named Value) : Outcomes :=
  values.map fun (name, value) => (name, route.place name value)

theorem complaints_outcomes (route : Route) (values : Named Value) :
    (route.outcomes values).complaints = route.complaints values :=
  List.filterMap_map

theorem texts_outcomes (route : Route) (values : Named Value) :
    (route.outcomes values).texts = route.placed values :=
  List.filterMap_map

/-! ## What does not matter for the path -/

/-- For the path nothing matters but the texts of the parameters. -/
theorem path?_build_congr (h : ∀ name ∈ Named.names route.parameters,
    (route.placed values).lookup name = (route.placed others).lookup name) :
    (route.build values).path? = (route.build others).path? := by
  apply Option.ext
  intro path
  rw [path?_build_eq_some_iff, path?_build_eq_some_iff, Template.fill_congr h]
  exact and_congr_left fun _ => forall₂_congr fun name hname => by rw [h name hname]

theorem lookup_placed_congr (hvalues : (Named.names values).Nodup)
    (hothers : (Named.names others).Nodup) (h : values.lookup name = others.lookup name) :
    (route.placed values).lookup name = (route.placed others).lookup name := by
  apply Option.ext
  intro text
  rw [lookup_placed_iff hvalues, lookup_placed_iff hothers, h]

theorem path?_build_of_perm (hvalues : (Named.names values).Nodup) (h : others.Perm values) :
    (route.build others).path? = (route.build values).path? := by
  have hothers : (Named.names others).Nodup := (h.map _).nodup_iff.mpr hvalues
  refine path?_build_congr fun name _ => lookup_placed_congr hothers hvalues ?_
  apply Option.ext
  intro value
  rw [Named.lookup_eq_some_iff_mem hothers, Named.lookup_eq_some_iff_mem hvalues, h.mem_iff]

/-- The supplied values with names that are declared. -/
def declared (route : Route) (values : Named Value) : Named Value :=
  values.filter fun (name, _) => name ∈ Named.names route.parameters

theorem path?_build_declared (hvalues : (Named.names values).Nodup) :
    (route.build (route.declared values)).path? = (route.build values).path? := by
  have hdeclared : (Named.names (route.declared values)).Nodup :=
    hvalues.sublist (List.filter_sublist.map _)
  refine path?_build_congr fun name hname => lookup_placed_congr hdeclared hvalues ?_
  apply Option.ext
  intro value
  rw [Named.lookup_eq_some_iff_mem hdeclared, Named.lookup_eq_some_iff_mem hvalues, declared,
    List.mem_filter]
  simp [hname]

/-- Whether a value is another one or its tagged form. -/
def IsTagOf (_ : String) (value other : Value) : Prop :=
  other = value ∨ ∃ tagged, value.tag = .ok tagged ∧ other = .typed tagged

theorem eq_of_tag {tagged : TypedValue} (h : value.tag = .ok tagged) :
    value.toScalar? = some tagged.value ∧ tagged.value.kind? = some tagged.kind := by
  unfold Value.tag at h
  split at h
  next found hfound =>
    cases h
    obtain ⟨scalar, hscalar, htagged⟩ := Option.bind_eq_some_iff.mp hfound
    obtain ⟨kind, hkind, hvalue⟩ := Option.bind_eq_some_iff.mp htagged
    unfold TypedValue.ofKind? at hvalue
    split_ifs at hvalue
    cases hvalue
    exact ⟨hscalar, hkind⟩
  · cases h

/-- A tag of its own does not change what a value supplies. -/
theorem supplies?_of_tag {tagged : TypedValue} (h : value.tag = .ok tagged) (kind : Kind) :
    (Value.typed tagged).supplies? kind = value.supplies? kind := by
  obtain ⟨hscalar, hkind⟩ := eq_of_tag h
  have hplain : value.supplies? kind = (some tagged.value).filter kind.accepts := by
    rw [← hscalar]
    cases value with
    | typed t => cases hscalar
    | null | boolean | integer | float | text | list | mapping | handler => rfl
  have haccepts : kind.accepts tagged.value = true ↔ tagged.kind = kind := by
    rw [← Scalar.kind?_eq_some_iff, hkind, Option.some_inj]
  rw [hplain, Option.filter_some, Value.supplies?]
  simp only [haccepts]

theorem toOption_place_congr (h : ∀ kind, value.supplies? kind = other.supplies? kind) :
    (route.place name value).toOption = (route.place name other).toOption := by
  unfold place
  cases route.parameters.lookup name with
  | none => rfl
  | some kind =>
    dsimp only
    rw [h kind]
    cases other.supplies? kind with
    | none => rfl
    | some scalar =>
      dsimp only
      cases scalar.encode?.filter kind.matchesText <;> rfl

theorem path?_build_of_tagged (h : Named.Align IsTagOf others values) :
    (route.build others).path? = (route.build values).path? := by
  have hplaced : route.placed others = route.placed values := by
    induction h with
    | nil => rfl
    | @cons entry line _ _ hentry _ ih =>
      obtain ⟨name, other⟩ := entry
      obtain ⟨_, value⟩ := line
      obtain ⟨rfl, htag⟩ := hentry
      have hsame : (route.place name other).toOption = (route.place name value).toOption := by
        rcases htag with rfl | ⟨tagged, htagged, rfl⟩
        · rfl
        · exact toOption_place_congr (supplies?_of_tag htagged)
      simp only [placed, List.filterMap_cons, hsame] at ih ⊢
      rw [ih]
  exact path?_build_congr fun name _ => by rw [hplaced]

/-! ## All values and all parameters -/

/-- How building accounts for supplied values and for parameters: the values have one outcome each,
the complaints among these are the first diagnostics, and the names of the parameters without a text
are the last. Without such names the path is the source with every placeholder replaced. -/
structure Accounts (route : Route) (source : String) (values : Named Value) (outcomes : Outcomes)
    (missing : List String) : Prop where
  outcomes_iff : ∀ other, Named.Align route.Outcome other values ↔ other = outcomes
  missing_eq : missing =
    (Named.names route.parameters).filter fun name => name ∉ Named.names outcomes.texts
  diagnostics_eq : (route.build values).diagnostics =
    outcomes.complaints ++ if missing = [] then [] else [.parametersMissing route.name missing]
  path?_eq_none_iff : (route.build values).path? = none ↔ missing ≠ []
  renders : ∀ path, (route.build values).path? = some path →
    List.Forall₂ (Template.Renders outcomes.texts) (Text.pieces source.toList)
      (Text.pieces path.toList)

/-- How generating follows building: a strict generation is refused by the first diagnostic, and a
lenient one, which records every complaint, by the missing parameters. -/
structure Follows (route : Route) (values : Named Value) (complaints : List Fault)
    (missing : List String) : Prop where
  strict_error : ∀ fault rest, (route.build values).diagnostics = fault :: rest →
    (route.generate values true).on [] = (.error (some fault), [])
  strict_ok : (route.build values).diagnostics = [] →
    ∃ path, (route.build values).path? = some path ∧
      (route.generate values true).on [] = (.ok path, [])
  lenient_error : (route.build values).path? = none →
    (route.generate values false).on [] =
      (.error (some (.parametersMissing route.name missing)), complaints.map Generating.warning)
  lenient_ok : ∀ path, (route.build values).path? = some path →
    (route.generate values false).on [] = (.ok path, complaints.map Generating.warning)

theorem namesMissingFrom_eq (route : Route) (texts : Captures) :
    route.namesMissingFrom texts =
      (Named.names route.parameters).filter fun name => name ∉ Named.names texts := by
  apply List.filter_congr
  intro name _
  rw [Bool.eq_iff_iff, Option.isNone_iff_eq_none, Named.lookup_eq_none_iff, decide_eq_true_iff]

theorem fit_placed (hnames : (Named.names route.parameters).Nodup)
    (hvalues : (Named.names values).Nodup) (hbuild : (route.build values).path? = some path) :
    (route.placed values).Fit route.parameters := by
  obtain ⟨_, hsupplied⟩ := exists_supplied hnames hvalues hbuild
  exact fit_of_spelled hnames (spelled_of_supplied hsupplied)

theorem accounts_build (hroute : ofSource source endpoint given = .ok route)
    (hvalues : (Named.names values).Nodup) :
    route.Accounts source values (route.outcomes values)
      (route.namesMissingFrom (route.placed values)) where
  outcomes_iff other :=
    Named.align_iff_eq_map fun _ _ _ => outcome_iff (wellFormed_of_ofSource hroute).names_nodup
  missing_eq := by rw [texts_outcomes, namesMissingFrom_eq]
  diagnostics_eq := by
    rw [complaints_outcomes]
    rcases route.build_cases values with ⟨hmissing, -, hdiagnostics⟩ | ⟨hmissing, -, hdiagnostics⟩
    · rw [hdiagnostics, if_pos hmissing, List.append_nil]
    · rw [hdiagnostics, if_neg hmissing]
  path?_eq_none_iff := by
    rw [Generation.path?]
    rcases route.build_cases values with ⟨hmissing, hresult, -⟩ | ⟨hmissing, hresult, -⟩
    · simp [hresult, hmissing, Except.toOption]
    · simp [hresult, hmissing, Except.toOption]
  renders path hpath := by
    rw [texts_outcomes, ← (path?_build_eq_some_iff.mp hpath).2]
    exact Template.forall₂_renders_fill (parse_of_ofSource hroute)
      (fit_placed (wellFormed_of_ofSource hroute).names_nodup hvalues hpath)

theorem follows_build (route : Route) (values : Named Value) :
    route.Follows values (route.complaints values)
      (route.namesMissingFrom (route.placed values)) where
  strict_error fault rest hfault := by
    rw [on_generate_strict, strict_build, hfault]
    rfl
  strict_ok hnone := by
    obtain ⟨path, hpath⟩ := exists_result_of_diagnostics hnone
    refine ⟨path, Except.toOption_eq_some_iff.mpr hpath, ?_⟩
    rw [on_generate_strict, strict_build, hnone, hpath]
    rfl
  lenient_error hnone := by
    rcases route.build_cases values with ⟨-, hresult, -⟩ | ⟨-, hresult, -⟩
    · simp [Generation.path?, hresult, Except.toOption] at hnone
    · rw [on_generate_lenient, hresult]
      rfl
  lenient_ok path hpath := by
    rw [on_generate_lenient, Except.toOption_eq_some_iff.mp hpath]
    rfl

/-- Building accounts for every supplied value and every parameter, and generating follows it. Going
through the values one by one comes to the same, and the path does not depend on undeclared names,
on the order of the values, or on whether they are tagged. -/
theorem build_accounts (hroute : ofSource source endpoint given = .ok route)
    (hvalues : (Named.names values).Nodup) :
    ∃ outcomes missing, route.Accounts source values outcomes missing ∧
      route.Follows values outcomes.complaints missing ∧
      route.buildEach values = route.build values ∧
      (route.build (route.declared values)).path? = (route.build values).path? ∧
      (∀ others : Named Value, others.Perm values →
        (route.build others).path? = (route.build values).path?) ∧
      ∀ others : Named Value, Named.Align IsTagOf others values →
        (route.build others).path? = (route.build values).path? := by
  refine ⟨_, _, accounts_build hroute hvalues, ?_, buildEach_eq hvalues,
    path?_build_declared hvalues, fun _ => path?_build_of_perm hvalues,
    fun _ => path?_build_of_tagged⟩
  rw [complaints_outcomes]
  exact follows_build route values

theorem build_accounts_tagged :
    let source := "/u/\x7bi:id\x7d/\x7bs:tag\x7d/"
    let values := [("tag", .integer 3), ("x", .null), ("id", .typed ⟨.integer, .integer 42, rfl⟩)]
    ∃ outcomes missing, tagged.Accounts source values outcomes missing ∧
      tagged.Follows values outcomes.complaints missing ∧
      tagged.buildEach values = tagged.build values ∧
      (tagged.build (tagged.declared values)).path? = (tagged.build values).path? ∧
      (∀ others : Named Value, others.Perm values →
        (tagged.build others).path? = (tagged.build values).path?) ∧
      ∀ others : Named Value, Named.Align IsTagOf others values →
        (tagged.build others).path? = (tagged.build values).path? :=
  build_accounts ofSource_tagged (by decide)

end Route
end TypedRoutes
