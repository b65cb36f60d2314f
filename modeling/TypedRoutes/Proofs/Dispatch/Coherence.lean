import TypedRoutes.Proofs.Dispatch.Endpoints
import TypedRoutes.Proofs.Dispatch.Unreadable

/-!
# Coherent decisions

A request ends in one of a few ways, and whatever is decided about it follows from that: the status,
the fault, the kind and the endpoint go together, and so do the route and what is matched. There is
no decision only where the name of a file is too long to be looked up.
-/
namespace TypedRoutes

/-- Where failed requests of a status are sent, if anywhere. -/
def Settings.errorRoute? (settings : Settings) (status : Nat) : Option String :=
  let target := if status = 400 then settings.error400Route else settings.error404Route
  if target = "" then none else some target

/-- Whether the parts of a decision go together. -/
structure Decision.IsCoherent (decision : Decision) (settings : Settings) : Prop where
  status_cases : decision.status = 200 ∨ decision.status = 400 ∨ decision.status = 404
  fault_iff : decision.status = 200 ↔ decision.fault? = none
  kind_iff : decision.status = 200 ↔ decision.kind?.isSome = true
  endpoint_iff : decision.status = 200 ↔ decision.endpoint?.isSome = true
  endpoint_ne : decision.endpoint? ≠ some .null
  httpStatus_eq : ∀ fault, decision.fault? = some fault →
    fault.report.httpStatus = decision.status
  arguments_eq : decision.status ≠ 200 → decision.arguments = []
  redirect_eq : decision.redirect? =
    if decision.status = 200 then none else settings.errorRoute? decision.status
  mediaType_iff : decision.mediaType?.isSome = true ↔ decision.kind? = some "file"

namespace Dispatcher

/-- Whether a route has no endpoint, or one that names no file. -/
def LacksEndpoint (dispatcher : Dispatcher) (route : Route) : Prop :=
  route.endpoint = .null ∨ ∃ name, route.endpoint = .text name ∧
    ∀ content, dispatcher.files.entry? (dispatcher.endpointPath name).text ≠ some (.file content)

/-- The ways in which a request ends. -/
inductive LeadsTo (dispatcher : Dispatcher) (request : Request) : Outcome → Prop
  | notRouted (h : dispatcher.resolver.resolve? request.method request.path = none) :
    LeadsTo dispatcher request (.notRouted (.routeNotFound request.path request.method))
  | unreadable {found : RouteMatch} {fault : Fault}
    (hfound : dispatcher.resolver.resolve? request.method request.path = some found)
    (hdecode : found.decode = .error fault) :
    LeadsTo dispatcher request (.unreadable found.route fault)
  | notFound {found : RouteMatch} {arguments : Arguments} {missing : String}
    (hfound : dispatcher.resolver.resolve? request.method request.path = some found)
    (hdecode : found.decode = .ok arguments) (hlacks : dispatcher.LacksEndpoint found.route) :
    LeadsTo dispatcher request
      (.notFound found.route (.endpointMissing missing found.route.name))
  | granted {found : RouteMatch} {outcome : Outcome}
    (hfound : dispatcher.resolver.resolve? request.method request.path = some found)
    (hdecode : found.decode = .ok outcome.arguments)
    (hgrants : dispatcher.Grants found.route outcome) :
    LeadsTo dispatcher request outcome

/-- Whether a decision tells what is matched, read and found. -/
structure Tells (dispatcher : Dispatcher) (decision : Decision) : Prop where
  route_eq : decision.route? =
    (dispatcher.resolver.resolve? decision.request.method decision.request.path).map (·.route)
  route_iff : decision.route? = none ↔
    ∀ route ∈ dispatcher.resolver.registry.routesForToken decision.request.method,
      route.match? decision.request.path = none
  unreadable_iff : decision.status = 400 ↔ ∃ found fault,
    dispatcher.resolver.resolve? decision.request.method decision.request.path = some found ∧
      found.decode = .error fault
  unreadable_fault : decision.status = 400 → ∃ text label name route,
    decision.fault? = some (.textUnreadable text label (some name) (some route))
  missing_iff : (decision.status = 404 ∧ decision.route? ≠ none) ↔ ∃ found arguments,
    dispatcher.resolver.resolve? decision.request.method decision.request.path = some found ∧
      found.decode = .ok arguments ∧ dispatcher.LacksEndpoint found.route
  granted : decision.status = 200 → ∃ found,
    dispatcher.resolver.resolve? decision.request.method decision.request.path = some found ∧
      found.decode = .ok decision.arguments ∧
      Named.names decision.arguments = Named.names found.route.parameters
  script_iff : decision.kind? = some "script" ↔ ∃ found arguments name content,
    dispatcher.resolver.resolve? decision.request.method decision.request.path = some found ∧
      found.decode = .ok arguments ∧ found.route.endpoint = .text name ∧
      dispatcher.files.entry? (dispatcher.endpointPath name).text = some (.file content) ∧
      (dispatcher.endpointPath name).suffix = ".py".toList

variable {dispatcher : Dispatcher} {request : Request} {route : Route} {arguments : Arguments}
variable {outcome : Outcome} {decision : Decision} {failure : Failure} {method uri : String}
variable {log : List Registration}

/-! ## The ways in which requests end -/

theorem lacksEndpoint_or_grants (h : dispatcher.classify route arguments = .ok outcome) :
    (dispatcher.LacksEndpoint route ∧
        ∃ missing, outcome = .notFound route (.endpointMissing missing route.name)) ∨
      dispatcher.Grants route outcome ∧ outcome.arguments = arguments := by
  unfold classify at h
  split at h
  next hnull =>
    cases h
    exact .inl ⟨.inl hnull, _, rfl⟩
  next name hname =>
    obtain ⟨found, hfind, rfl⟩ := Except.map_eq_ok_iff.mp h
    have hentry := FileTree.entry?_of_find hfind
    unfold serve
    split
    next content =>
      dsimp only
      split
      next hsuffix => exact .inr ⟨.script hname hentry hsuffix, rfl⟩
      next hsuffix => exact .inr ⟨.file hname hentry hsuffix, rfl⟩
    next hother =>
      refine .inl ⟨.inr ⟨name, hname, ?_⟩, _, rfl⟩
      rw [hentry]
      exact hother
  next hnull hname =>
    cases h
    exact .inr ⟨.handler hnull hname, rfl⟩

theorem leadsTo_of_outcome (h : dispatcher.outcome request = .ok outcome) :
    dispatcher.LeadsTo request outcome := by
  unfold Dispatcher.outcome at h
  split at h
  next hnone =>
    cases h
    exact .notRouted hnone
  next found hfound =>
    split at h
    next fault hdecode =>
      cases h
      exact .unreadable hfound hdecode
    next arguments hdecode =>
      rcases lacksEndpoint_or_grants h with ⟨hlacks, missing, rfl⟩ | ⟨hgrants, rfl⟩
      · exact .notFound hfound hdecode hlacks
      · exact .granted hfound hdecode hgrants

theorem classify_eq_error_iff : dispatcher.classify route arguments = .error failure ↔
    failure = .nameTooLong ∧ ∃ name, route.endpoint = .text name ∧
      dispatcher.files.find (dispatcher.endpointPath name).text = .error .nameTooLong := by
  unfold classify
  split
  next hnull => simp [hnull]
  next name hname =>
    rw [Except.map_eq_error_iff, hname]
    constructor
    · intro h
      cases FileTree.nameTooLong_of_find h
      exact ⟨rfl, name, rfl, h⟩
    · rintro ⟨rfl, _, ⟨⟩, h⟩
      exact h
  next hname =>
    refine iff_of_false nofun ?_
    rintro ⟨-, name, hendpoint, -⟩
    exact hname name hendpoint

theorem outcome_eq_error_iff : dispatcher.outcome request = .error failure ↔
    failure = .nameTooLong ∧ ∃ found arguments name,
      dispatcher.resolver.resolve? request.method request.path = some found ∧
        found.decode = .ok arguments ∧ found.route.endpoint = .text name ∧
        dispatcher.files.find (dispatcher.endpointPath name).text = .error .nameTooLong := by
  unfold Dispatcher.outcome
  cases dispatcher.resolver.resolve? request.method request.path with
  | none => simp
  | some found =>
    dsimp only
    cases hdecode : found.decode with
    | error fault => simp [hdecode]
    | ok arguments => simp [hdecode, classify_eq_error_iff]

theorem Grants.route?_eq (h : dispatcher.Grants route outcome) : outcome.route? = some route := by
  cases h <;> rfl

theorem Grants.status_eq (h : dispatcher.Grants route outcome) : outcome.status = 200 := by
  cases h <;> rfl

theorem Grants.not_lacksEndpoint (h : dispatcher.Grants route outcome) :
    ¬dispatcher.LacksEndpoint route := by
  rintro (hnull | ⟨name, hname, hmissing⟩)
  · cases h with
    | script hendpoint | file hendpoint => cases hendpoint.symm.trans hnull
    | handler hendpoint => exact hendpoint hnull
  · cases h with
    | script hendpoint hfile | file hendpoint hfile =>
      cases hendpoint.symm.trans hname
      exact hmissing _ hfile
    | handler _ htext => exact htext name hname

theorem LeadsTo.of_decode_error {found : RouteMatch} {fault : Fault}
    (h : dispatcher.LeadsTo request outcome)
    (hfound : dispatcher.resolver.resolve? request.method request.path = some found)
    (hdecode : found.decode = .error fault) : outcome = .unreadable found.route fault := by
  cases h with
  | notRouted hnone => cases hnone.symm.trans hfound
  | unreadable hother hfault =>
    cases hother.symm.trans hfound
    cases hfault.symm.trans hdecode
    rfl
  | notFound hother harguments | granted hother harguments =>
    cases hother.symm.trans hfound
    cases harguments.symm.trans hdecode

theorem LeadsTo.of_decode_ok {found : RouteMatch} (h : dispatcher.LeadsTo request outcome)
    (hfound : dispatcher.resolver.resolve? request.method request.path = some found)
    (hdecode : found.decode = .ok arguments) :
    (dispatcher.LacksEndpoint found.route ∧
        ∃ missing, outcome = .notFound found.route (.endpointMissing missing found.route.name)) ∨
      dispatcher.Grants found.route outcome := by
  cases h with
  | notRouted hnone => cases hnone.symm.trans hfound
  | unreadable hother hfault =>
    cases hother.symm.trans hfound
    cases hfault.symm.trans hdecode
  | notFound hother _ hlacks =>
    cases hother.symm.trans hfound
    exact .inl ⟨hlacks, _, rfl⟩
  | granted hother _ hgrants =>
    cases hother.symm.trans hfound
    exact .inr hgrants

end Dispatcher

/-! ## What goes together -/

namespace Outcome

variable (outcome : Outcome)

theorem status_cases : outcome.status = 200 ∨ outcome.status = 400 ∨ outcome.status = 404 := by
  cases outcome <;> simp [status]

theorem status_iff_fault? : outcome.status = 200 ↔ outcome.fault? = none := by
  cases outcome <;> simp [status, fault?]

theorem status_iff_kind? : outcome.status = 200 ↔ outcome.kind?.isSome = true := by
  cases outcome <;> simp [status, kind?]

theorem status_iff_endpoint? : outcome.status = 200 ↔ outcome.endpoint?.isSome = true := by
  cases outcome <;> simp [status, endpoint?]

theorem arguments_of_status (h : outcome.status ≠ 200) : outcome.arguments = [] := by
  cases outcome with
  | handler | script | file => exact absurd rfl h
  | notRouted | unreadable | notFound => rfl

theorem redirect?_eq (settings : Settings) : outcome.redirect? settings =
    if outcome.status = 200 then none else settings.errorRoute? outcome.status := by
  cases outcome <;> rfl

theorem mediaType?_iff : outcome.mediaType?.isSome = true ↔ outcome.kind? = some "file" := by
  cases outcome <;> simp [mediaType?, kind?]

end Outcome

namespace Dispatcher

variable {dispatcher : Dispatcher} {request : Request} {route : Route} {arguments : Arguments}
variable {outcome : Outcome} {decision : Decision} {failure : Failure} {method uri : String}
variable {log : List Registration}

/-- Whether what cannot be read is about the text of a parameter. -/
def FaultsAreReadings (dispatcher : Dispatcher) (request : Request) : Prop :=
  ∀ found fault, dispatcher.resolver.resolve? request.method request.path = some found →
    found.decode = .error fault →
    ∃ text label name route, fault = .textUnreadable text label (some name) (some route)

theorem LeadsTo.isCoherent (h : dispatcher.LeadsTo request outcome)
    (hfaults : dispatcher.FaultsAreReadings request) (settings : Settings) :
    (outcome.decision settings request).IsCoherent settings where
  status_cases := outcome.status_cases
  fault_iff := outcome.status_iff_fault?
  kind_iff := outcome.status_iff_kind?
  endpoint_iff := outcome.status_iff_endpoint?
  arguments_eq := outcome.arguments_of_status
  redirect_eq := outcome.redirect?_eq settings
  mediaType_iff := outcome.mediaType?_iff
  endpoint_ne := by
    cases h with
    | notRouted | unreadable | notFound => exact nofun
    | granted _ _ hgrants =>
      cases hgrants with
      | script | file => exact nofun
      | handler hnull => exact fun hendpoint => hnull (Option.some.inj hendpoint)
  httpStatus_eq := by
    intro fault hfault
    cases h with
    | notRouted | notFound =>
      cases hfault
      rfl
    | unreadable hfound hdecode =>
      obtain ⟨text, label, name, route, rfl⟩ := hfaults _ _ hfound hdecode
      cases hfault
      rfl
    | granted _ _ hgrants =>
      rw [Outcome.decision, outcome.status_iff_fault?.mp hgrants.status_eq] at hfault
      cases hfault

theorem LeadsTo.route?_eq (h : dispatcher.LeadsTo request outcome) : outcome.route? =
    (dispatcher.resolver.resolve? request.method request.path).map (·.route) := by
  cases h with
  | notRouted hnone =>
    rw [hnone]
    rfl
  | unreadable hfound | notFound hfound =>
    rw [hfound]
    rfl
  | granted hfound _ hgrants =>
    rw [hfound, hgrants.route?_eq]
    rfl

theorem Grants.kind?_iff (h : dispatcher.Grants route outcome) :
    outcome.kind? = some "script" ↔ ∃ name content, route.endpoint = .text name ∧
      dispatcher.files.entry? (dispatcher.endpointPath name).text = some (.file content) ∧
      (dispatcher.endpointPath name).suffix = ".py".toList := by
  cases h with
  | script hendpoint hfile hsuffix => exact iff_of_true rfl ⟨_, _, hendpoint, hfile, hsuffix⟩
  | file hendpoint _ hsuffix =>
    refine iff_of_false (by simp [Outcome.kind?]) ?_
    rintro ⟨name, _, hname, -, hother⟩
    cases hendpoint.symm.trans hname
    exact hsuffix hother
  | handler _ htext =>
    refine iff_of_false (by simp [Outcome.kind?]) ?_
    rintro ⟨name, _, hname, -⟩
    exact htext name hname

theorem LeadsTo.kind?_iff (h : dispatcher.LeadsTo request outcome) :
    outcome.kind? = some "script" ↔ ∃ found arguments name content,
      dispatcher.resolver.resolve? request.method request.path = some found ∧
        found.decode = .ok arguments ∧ found.route.endpoint = .text name ∧
        dispatcher.files.entry? (dispatcher.endpointPath name).text = some (.file content) ∧
        (dispatcher.endpointPath name).suffix = ".py".toList := by
  constructor
  · intro hkind
    cases h with
    | notRouted | unreadable | notFound => cases hkind
    | granted hfound hdecode hgrants =>
      obtain ⟨name, content, hscript⟩ := hgrants.kind?_iff.mp hkind
      exact ⟨_, _, name, content, hfound, hdecode, hscript⟩
  · rintro ⟨found, arguments, name, content, hfound, hdecode, hname, hfile, hsuffix⟩
    rcases h.of_decode_ok hfound hdecode with ⟨hlacks, -⟩ | hgrants
    · rcases hlacks with hnull | ⟨other, hother, hmissing⟩
      · cases hnull.symm.trans hname
      · cases hother.symm.trans hname
        exact absurd hfile (hmissing content)
    · exact hgrants.kind?_iff.mpr ⟨name, content, hname, hfile, hsuffix⟩

theorem LeadsTo.unreadable_iff (h : dispatcher.LeadsTo request outcome) :
    outcome.status = 400 ↔ ∃ found fault,
      dispatcher.resolver.resolve? request.method request.path = some found ∧
        found.decode = .error fault := by
  constructor
  · intro hstatus
    cases h with
    | notRouted | notFound => cases hstatus
    | unreadable hfound hdecode => exact ⟨_, _, hfound, hdecode⟩
    | granted _ _ hgrants => cases hgrants.status_eq.symm.trans hstatus
  · rintro ⟨found, fault, hfound, hdecode⟩
    rw [h.of_decode_error hfound hdecode]
    rfl

theorem LeadsTo.missing_iff (h : dispatcher.LeadsTo request outcome) :
    (outcome.status = 404 ∧ outcome.route? ≠ none) ↔ ∃ found arguments,
      dispatcher.resolver.resolve? request.method request.path = some found ∧
        found.decode = .ok arguments ∧ dispatcher.LacksEndpoint found.route := by
  constructor
  · rintro ⟨hstatus, hroute⟩
    cases h with
    | notRouted => exact absurd rfl hroute
    | unreadable => cases hstatus
    | notFound hfound hdecode hlacks => exact ⟨_, _, hfound, hdecode, hlacks⟩
    | granted _ _ hgrants => cases hgrants.status_eq.symm.trans hstatus
  · rintro ⟨found, arguments, hfound, hdecode, hlacks⟩
    rcases h.of_decode_ok hfound hdecode with ⟨-, missing, rfl⟩ | hgrants
    · exact ⟨rfl, Option.some_ne_none _⟩
    · exact absurd hlacks hgrants.not_lacksEndpoint

theorem LeadsTo.tells (h : dispatcher.LeadsTo request outcome)
    (hfaults : dispatcher.FaultsAreReadings request) (settings : Settings) :
    dispatcher.Tells (outcome.decision settings request) where
  route_eq := h.route?_eq
  route_iff := by
    change outcome.route? = none ↔ _
    rw [h.route?_eq, Option.map_eq_none_iff]
    exact List.findSome?_eq_none_iff
  unreadable_iff := h.unreadable_iff
  unreadable_fault := by
    intro hstatus
    obtain ⟨found, fault, hfound, hdecode⟩ := h.unreadable_iff.mp hstatus
    obtain ⟨text, label, name, route, rfl⟩ := hfaults found fault hfound hdecode
    rw [h.of_decode_error hfound hdecode]
    exact ⟨text, label, name, route, rfl⟩
  missing_iff := h.missing_iff
  granted := by
    intro hstatus
    cases h with
    | notRouted | unreadable | notFound => cases hstatus
    | granted hfound hdecode _ =>
      exact ⟨_, hfound, hdecode, (Route.decode_eq_ok_iff.mp hdecode).2.names_eq⟩
  script_iff := h.kind?_iff

/-! ## Decisions -/

theorem faultsAreReadings_of_represents (hlog : dispatcher.resolver.registry.Represents log)
    (request : Request) : dispatcher.FaultsAreReadings request := by
  intro found fault hfound hdecode
  obtain ⟨ht, hmatch⟩ := Resolver.match?_of_resolve? hlog hfound
  obtain ⟨name, kind, text, -, rfl⟩ := (Route.decode_eq_error_iff ht hmatch).mp hdecode
  exact ⟨text, kind.label, name, found.route.name, rfl⟩

theorem decision_eq_error_iff : dispatcher.decision method uri = .error failure ↔
    failure = .nameTooLong ∧ ∃ found arguments name,
      dispatcher.resolver.resolve? (Text.upper method) (dispatcher.clean uri) = some found ∧
        found.decode = .ok arguments ∧ found.route.endpoint = .text name ∧
        dispatcher.files.find (dispatcher.endpointPath name).text = .error .nameTooLong := by
  rw [decision, Except.map_eq_error_iff]
  exact outcome_eq_error_iff

/-- The route for the root with an endpoint. -/
def rootRoute (endpoint : Value) : Route :=
  ⟨"root", ⟨[.literal ""], true⟩, endpoint⟩

theorem resolve?_rootRoute (endpoint : Value) :
    let calls : List History.Call := [.register (.text "GET") "/" endpoint "root"]
    (⟨(History.run calls).registry, .ofRaw {}⟩ : Resolver).resolve? "GET" "/" =
      some ⟨rootRoute endpoint, []⟩ := by
  intro calls
  have hroutes : (History.run calls).registry.routesForToken "GET" = [rootRoute endpoint] := rfl
  have hmatch : (rootRoute .null).template.match? "/" = some [] := by decide +kernel
  have hfirst : (rootRoute endpoint).match? "/" = some ⟨rootRoute endpoint, []⟩ :=
    Option.map_eq_some_iff.mpr ⟨[], hmatch, rfl⟩
  rw [Resolver.resolve?, hroutes, Route.matchFirst?, List.findSome?_cons, hfirst]

end Dispatcher
end TypedRoutes
