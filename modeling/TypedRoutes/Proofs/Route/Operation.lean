import TypedRoutes.Proofs.Attempt
import TypedRoutes.Proofs.Named
import TypedRoutes.Route.Operation

/-!
# Building and generating step by step

Value by value, building comes to the same complaints and texts. Going through the diagnostics, a
strict generation is refused by the first of them, and a lenient one records all complaints and is
refused only where there is no path.
-/
namespace TypedRoutes

/-! ## Telling of diagnostics -/

namespace Generating

variable {α β : Type}

/-- The record of a diagnostic that does not end a generation. -/
def warning (fault : Fault) : LogRecord :=
  ⟨.warning, .templates, fault.message⟩

theorem on_bind (steps : Generating α) (next : α → Generating β) (records : List LogRecord) :
    (steps >>= next).on records = match steps.on records with
      | (.ok a, left) => (next a).on left
      | (.error e, left) => (.error e, left) := by
  unfold on
  rw [run_bind]
  rcases StateT.run (ExceptT.run steps) records with ⟨_ | _, _⟩ <;> rfl

/-- A strict generation ends with its first diagnostic. -/
theorem on_forM_tell_strict (fault : Fault) (rest : List Fault) (records : List LogRecord) :
    ((fault :: rest).forM (tell true)).on records = (.error (some fault), records) :=
  rfl

theorem on_tell_lenient (fault : Fault) (records : List LogRecord) :
    (tell false fault).on records =
      (.ok (), records ++ if fault.isParametersMissing then [] else [warning fault]) := by
  cases hmissing : fault.isParametersMissing with
  | true =>
    rw [tell, hmissing]
    exact congrArg (Prod.mk (Except.ok ())) (List.append_nil records).symm
  | false =>
    rw [tell, hmissing]
    rfl

/-- A lenient generation leaves one record of each diagnostic but that of missing parameters. -/
theorem on_forM_tell_lenient (faults : List Fault) (records : List LogRecord) :
    (faults.forM (tell false)).on records =
      (.ok (), records ++ (faults.filter fun fault => !fault.isParametersMissing).map warning) := by
  induction faults generalizing records with
  | nil =>
    rw [List.filter_nil, List.map_nil, List.append_nil]
    rfl
  | cons fault rest ih =>
    rw [List.forM, on_bind, on_tell_lenient]
    dsimp only
    rw [ih]
    cases hmissing : fault.isParametersMissing <;> simp [hmissing]

end Generating

namespace Route

variable {route : Route} {values : Named Value} {fault : Fault}

/-! ## Value by value -/

/-- From any progress on, if no further value comes under a name that has a text. -/
theorem foldl_next {progress : Progress}
    (hnames : (Named.names progress.texts ++ Named.names values).Nodup) :
    values.foldl (Progress.next route) progress =
      ⟨progress.complaints ++ route.complaints values,
        progress.texts ++ route.placed values⟩ := by
  induction values generalizing progress with
  | nil => simp [complaints, placed]
  | cons entry rest ih =>
    obtain ⟨name, value⟩ := entry
    have hnew : name ∉ Named.names progress.texts := by
      intro hmem
      exact List.disjoint_of_nodup_append hnames hmem List.mem_cons_self
    cases hplace : route.place name value with
    | error fault =>
      have hnext : progress.next route (name, value) =
          ⟨progress.complaints ++ [fault], progress.texts⟩ := by
        simp [Progress.next, hplace]
      rw [List.foldl_cons, hnext, ih]
      · simp [complaints, placed, hplace, Except.toOption]
      · exact hnames.sublist ((List.sublist_cons_self _ _).append_left _)
    | ok text =>
      have hnext : progress.next route (name, value) =
          ⟨progress.complaints, progress.texts ++ [(name, text)]⟩ := by
        simp [Progress.next, hplace, Named.set_of_not_mem hnew]
      rw [List.foldl_cons, hnext, ih]
      · simp [complaints, placed, hplace, Except.toOption]
      · simpa [Named.names] using hnames

/-- Value by value, building comes to the same. -/
theorem buildEach_eq (hvalues : (Named.names values).Nodup) :
    route.buildEach values = route.build values := by
  have hfoldl : values.foldl (Progress.next route) ⟨[], []⟩ =
      ⟨route.complaints values, route.placed values⟩ := foldl_next hvalues
  rw [buildEach, hfoldl]
  rfl

/-! ## Diagnostics -/

/-- A complaint is of a name that is not declared, or of a value that does not fit. -/
theorem of_place_eq_error {name : String} {value : Value}
    (h : route.place name value = .error fault) :
    fault = .parameterUnknown name route.name ∨
      ∃ expected actual, fault = .parameterMistyped name expected actual := by
  unfold place at h
  split at h
  · cases h
    exact .inl rfl
  · split at h
    · cases h
      exact .inr ⟨_, _, rfl⟩
    · split at h <;> cases h
      exact .inr ⟨_, _, rfl⟩

theorem of_mem_complaints (h : fault ∈ route.complaints values) :
    ∃ name ∈ Named.names values, fault = .parameterUnknown name route.name ∨
      ∃ expected actual, fault = .parameterMistyped name expected actual := by
  rw [complaints, List.mem_filterMap] at h
  obtain ⟨⟨name, value⟩, hmem, hfault⟩ := h
  dsimp only at hfault
  split at hfault
  · cases hfault
  next hplace =>
    cases hfault
    exact ⟨name, Named.mem_names_iff.mpr ⟨value, hmem⟩, of_place_eq_error hplace⟩

theorem isParametersMissing_of_mem_complaints (h : fault ∈ route.complaints values) :
    fault.isParametersMissing = false := by
  obtain ⟨name, -, rfl | ⟨expected, actual, rfl⟩⟩ := of_mem_complaints h
  · rfl
  · rfl

/-- Either every parameter has a text, or the names without one are the last diagnostic. -/
theorem build_cases (route : Route) (values : Named Value) :
    let missing := route.namesMissingFrom (route.placed values)
    (missing = [] ∧
      (route.build values).result = .ok (route.template.fill (route.placed values)) ∧
      (route.build values).diagnostics = route.complaints values) ∨
    (missing ≠ [] ∧
      (route.build values).result = .error (.parametersMissing route.name missing) ∧
      (route.build values).diagnostics =
        route.complaints values ++ [.parametersMissing route.name missing]) := by
  intro missing
  cases hmissing : missing with
  | nil =>
    have hresult : (route.build values).result =
        .ok (route.template.fill (route.placed values)) := by
      rw [build]
      dsimp only
      rw [show route.namesMissingFrom (route.placed values) = [] from hmissing]
    refine .inl ⟨rfl, hresult, ?_⟩
    rw [Generation.diagnostics, hresult]
    rfl
  | cons name rest =>
    have hresult : (route.build values).result =
        .error (.parametersMissing route.name (name :: rest)) := by
      rw [build]
      dsimp only
      rw [show route.namesMissingFrom (route.placed values) = name :: rest from hmissing]
    refine .inr ⟨List.cons_ne_nil name rest, hresult, ?_⟩
    rw [Generation.diagnostics, hresult]
    rfl

/-- A strict generation has the first diagnostic for its result, if there is one. -/
theorem strict_build (route : Route) (values : Named Value) :
    (route.build values).strict =
      match (route.build values).diagnostics with
      | fault :: _ => .error fault
      | [] => (route.build values).result := by
  have hstrict : (route.build values).strict =
      match route.complaints values with
      | fault :: _ => .error fault
      | [] => (route.build values).result := rfl
  rw [hstrict]
  rcases route.build_cases values with ⟨-, -, hdiagnostics⟩ | ⟨-, hresult, hdiagnostics⟩
  · rw [hdiagnostics]
  · rw [hdiagnostics, hresult]
    cases route.complaints values <;> rfl

theorem exists_result_of_diagnostics (h : (route.build values).diagnostics = []) :
    ∃ path, (route.build values).result = .ok path := by
  rcases route.build_cases values with ⟨-, hresult, -⟩ | ⟨-, -, hdiagnostics⟩
  · exact ⟨_, hresult⟩
  · simp [hdiagnostics] at h

/-! ## Generating -/

theorem filter_complaints (route : Route) (values : Named Value) :
    (route.complaints values).filter (fun fault => !fault.isParametersMissing) =
      route.complaints values := by
  rw [List.filter_eq_self]
  intro fault hfault
  simp [isParametersMissing_of_mem_complaints hfault]

theorem missing?_build {missing : List String}
    (h : (route.build values).diagnostics =
      route.complaints values ++ [.parametersMissing route.name missing]) :
    (route.build values).missing? = some (.parametersMissing route.name missing) := by
  have hnone : (route.complaints values).find? Fault.isParametersMissing = none := by
    rw [List.find?_eq_none]
    intro fault hfault
    simp [isParametersMissing_of_mem_complaints hfault]
  rw [Generation.missing?, h, List.find?_append, hnone]
  rfl

theorem generate_eq (route : Route) (values : Named Value) (strict : Bool) :
    route.generate values strict =
      (route.build values).diagnostics.forM (Generating.tell strict) >>= fun _ =>
        match (route.build values).path? with
        | some path => pure path
        | none => throw (route.build values).missing? :=
  rfl

theorem on_generate_strict (route : Route) (values : Named Value) :
    (route.generate values true).on [] = ((route.build values).strict.mapError some, []) := by
  rw [generate_eq, Generating.on_bind, strict_build]
  cases hdiagnostics : (route.build values).diagnostics with
  | nil =>
    obtain ⟨path, hpath⟩ := exists_result_of_diagnostics hdiagnostics
    rw [Generation.path?, hpath]
    rfl
  | cons fault rest =>
    rw [Generating.on_forM_tell_strict]
    rfl

/-- A lenient generation is refused only without a path, and records every complaint. -/
theorem on_generate_lenient (route : Route) (values : Named Value) :
    (route.generate values false).on [] =
      ((route.build values).result.mapError some, (route.build values).records) := by
  have hrecords : (route.build values).records =
      (route.complaints values).map Generating.warning := rfl
  rw [generate_eq, Generating.on_bind, Generating.on_forM_tell_lenient, List.nil_append, hrecords,
    Generation.path?]
  dsimp only
  rcases route.build_cases values with ⟨-, hresult, hdiagnostics⟩ | ⟨-, hresult, hdiagnostics⟩
  · rw [hresult, hdiagnostics, filter_complaints]
    rfl
  · have hlast (missing : List String) : [Fault.parametersMissing route.name missing].filter
        (fun fault => !fault.isParametersMissing) = [] := rfl
    rw [missing?_build hdiagnostics, hresult, hdiagnostics, List.filter_append, filter_complaints,
      hlast, List.append_nil]
    rfl

/-- A path without a complaint is generated without a record, strictly or not. -/
theorem on_generate_of_build {path : String} (hbuild : route.build values = ⟨[], .ok path⟩)
    (strict : Bool) :
    (route.generate values strict).on [] = (.ok path, []) := by
  cases strict with
  | true =>
    rw [on_generate_strict, hbuild]
    rfl
  | false =>
    rw [on_generate_lenient, hbuild]
    rfl

end Route
end TypedRoutes
