import TypedRoutes.Proofs.Route.Operation
import TypedRoutes.Proofs.Routing.History
import TypedRoutes.Routing.Degrading

/-!
# Degraded URLs

The URL of a name is the path of its route behind what every URL begins with, or only the latter
where no route has the name or its path cannot be built. A lenient resolver leaves one record of
each diagnostic on the way, and a strict one ends with the first of them.
-/
namespace TypedRoutes

/-- Steps whose faults are caught go on where a fault ended them. -/
theorem Generating.on_tryCatch {α : Type} (steps : Generating α)
    (handle : Option Fault → Generating α) (records : List LogRecord) :
    (tryCatch steps handle).on records = match steps.on records with
      | (.ok a, left) => (.ok a, left)
      | (.error e, left) => (handle e).on left := by
  simp only [on, tryCatch, tryCatchThe, MonadExceptOf.tryCatch, ExceptT.tryCatch, ExceptT.run,
    ExceptT.mk, StateT.run, bind, StateT.bind]
  rcases (steps records : Except (Option Fault) α × List LogRecord) with ⟨_ | _, _⟩ <;> rfl

namespace Route

variable {route : Route} {values : Named Value} {fault : Fault}

/-- Building a path ends with no faults but those of generation. -/
theorem isOfGeneration_of_mem_diagnostics (h : fault ∈ (route.build values).diagnostics) :
    fault.isOfGeneration = true := by
  have hcomplaints (hmem : fault ∈ route.complaints values) : fault.isOfGeneration = true := by
    obtain ⟨name, -, rfl | ⟨expected, actual, rfl⟩⟩ := of_mem_complaints hmem
    · rfl
    · rfl
  rcases route.build_cases values with ⟨-, -, hdiagnostics⟩ | ⟨-, -, hdiagnostics⟩
  · rw [hdiagnostics] at h
    exact hcomplaints h
  · rw [hdiagnostics, List.mem_append, List.mem_singleton] at h
    rcases h with hmem | rfl
    · exact hcomplaints hmem
    · rfl

theorem mem_diagnostics_of_strict (h : (route.build values).strict = .error fault) :
    fault ∈ (route.build values).diagnostics := by
  rw [strict_build] at h
  cases hdiagnostics : (route.build values).diagnostics with
  | nil =>
    obtain ⟨path, hpath⟩ := exists_result_of_diagnostics hdiagnostics
    simp [hdiagnostics, hpath] at h
  | cons first rest =>
    rw [hdiagnostics] at h
    cases h
    exact List.mem_cons_self

theorem mem_diagnostics_of_result (h : (route.build values).result = .error fault) :
    fault ∈ (route.build values).diagnostics := by
  rw [Generation.diagnostics, h]
  exact List.mem_append_right _ List.mem_cons_self

end Route

namespace Resolver

variable {resolver : Resolver} {route : Route} {name : String} {values : Named Value}
variable {withHost : Bool}

/-! ## Step by step -/

theorem on_degrade (resolver : Resolver) (url : String) (fault : Fault)
    (records : List LogRecord) :
    (resolver.degrade url fault).on records =
      if resolver.settings.strictGeneration then (.error (some fault), records)
      else (.ok url, records ++ [warning fault]) := by
  unfold degrade
  cases resolver.settings.strictGeneration <;> rfl

/-- The end of building a path is a fault of generation, which is recovered from. -/
theorem recover_of_mem_diagnostics {url : String} {fault : Fault}
    (h : fault ∈ (route.build values).diagnostics) :
    resolver.recover url (some fault) = resolver.degrade url fault := by
  rw [recover, if_pos (Route.isOfGeneration_of_mem_diagnostics h)]

/-- Step by step, reversing comes to the same. -/
theorem on_reverseEach (resolver : Resolver) (name : String) (values : Named Value)
    (withHost : Bool) :
    (resolver.reverseEach name values withHost).on [] =
      ((resolver.reverse name values withHost).result.mapError some,
        (resolver.reverse name values withHost).records) := by
  unfold reverseEach reverse
  cases resolver.registry.findByName? name with
  | none =>
    dsimp only
    rw [on_degrade]
    cases resolver.settings.strictGeneration <;> rfl
  | some route =>
    dsimp only
    rw [Generating.on_tryCatch, Generating.on_bind, urlOf]
    cases hstrict : resolver.settings.strictGeneration with
    | true =>
      rw [Route.on_generate_strict]
      cases hbuild : (route.build values).strict with
      | ok path => rfl
      | error fault =>
        -- The fault is caught, and a strict resolver passes it on.
        have hmem := Route.mem_diagnostics_of_strict hbuild
        dsimp only [Except.mapError]
        rw [recover_of_mem_diagnostics hmem, on_degrade, hstrict]
        rfl
    | false =>
      rw [Route.on_generate_lenient]
      cases hbuild : (route.build values).result with
      | ok path => rfl
      | error fault =>
        have hmem := Route.mem_diagnostics_of_result hbuild
        dsimp only [Except.mapError]
        rw [recover_of_mem_diagnostics hmem, on_degrade, hstrict]
        rfl

/-- A path without a complaint stands in the URL, strict or not, and leaves no record. -/
theorem reverse_of_build {path : String}
    (hfind : resolver.registry.findByName? name = some route)
    (hbuild : route.build values = ⟨[], .ok path⟩) (withHost : Bool) :
    resolver.reverse name values withHost =
      ⟨[], .ok (appendPath (resolver.urlPrefix withHost) path)⟩ := by
  unfold reverse
  rw [hfind]
  dsimp only
  rw [urlOf, hbuild]
  cases resolver.settings.strictGeneration <;> rfl

/-! ## Degrading -/

/-- The same resolver, strict or lenient. -/
def generating (resolver : Resolver) (strict : Bool) : Resolver :=
  { resolver with settings := { resolver.settings with strictGeneration := strict } }

/-- The record of a diagnostic. The resolver speaks of what leaves no path, and the template of
everything else. -/
def degradation (fault : Fault) : LogRecord :=
  match fault with
  | .parametersMissing .. | .routeUnknown _ => warning fault
  | _ => Generating.warning fault

/-- How the URL of a name degrades, given the log of registrations: there is always a URL, with or
without a path, which a lenient resolver gives with one record of each diagnostic. A strict resolver
gives the same URL, or else the first diagnostic. -/
structure Degrades (resolver : Resolver) (log : List Registration) (name : String)
    (values : Named Value) (withHost : Bool) (diagnostics : List Fault) (url : String) : Prop where
  diagnostics_of_unknown : name ∉ log.map (·.name) → diagnostics = [.routeUnknown name]
  diagnostics_of_mem : ∀ registration ∈ log, registration.name = name →
    diagnostics = (registration.route.build values).diagnostics
  url_of_path : ∀ registration ∈ log, registration.name = name →
    ∀ path, (registration.route.build values).path? = some path →
      url = appendPath (resolver.urlPrefix withHost) path
  url_of_no_path : (∀ registration ∈ log, registration.name = name →
    (registration.route.build values).path? = none) → url = resolver.urlPrefix withHost
  lenient_eq : (resolver.generating false).reverse name values withHost =
    ⟨diagnostics.map degradation, .ok url⟩
  strict_error : ∀ fault rest, diagnostics = fault :: rest →
    (resolver.generating true).reverse name values withHost = ⟨[], .error fault⟩
  strict_ok : diagnostics = [] →
    (resolver.generating true).reverse name values withHost = ⟨[], .ok url⟩

theorem map_degradation_complaints (route : Route) (values : Named Value) :
    (route.complaints values).map degradation = (route.build values).records := by
  apply List.map_congr_left
  intro fault hfault
  obtain ⟨_, -, rfl | ⟨_, _, rfl⟩⟩ := Route.of_mem_complaints hfault
  · rfl
  · rfl

variable {log : List Registration}

theorem degrades_of_unknown (h : resolver.registry.Represents log)
    (hname : name ∉ log.map (·.name)) :
    resolver.Degrades log name values withHost [.routeUnknown name]
      (resolver.urlPrefix withHost) := by
  have hnone : ∀ registration ∈ log, registration.name ≠ name := by
    intro registration hmem heq
    exact hname (List.mem_map.mpr ⟨registration, hmem, heq⟩)
  have hfind := h.findByName?_eq_none hname
  have hreverse (strict : Bool) : (resolver.generating strict).reverse name values withHost =
      if strict then ⟨[], .error (.routeUnknown name)⟩
      else ⟨[warning (.routeUnknown name)], .ok (resolver.urlPrefix withHost)⟩ := by
    unfold reverse
    rw [show (resolver.generating strict).registry.findByName? name = none from hfind]
    rfl
  exact {
    diagnostics_of_unknown := fun _ => rfl
    diagnostics_of_mem := fun registration hmem heq => absurd heq (hnone registration hmem)
    url_of_path := fun registration hmem heq => absurd heq (hnone registration hmem)
    url_of_no_path := fun _ => rfl
    lenient_eq := hreverse false
    strict_error := by
      intro fault rest hfault
      cases hfault
      exact hreverse true
    strict_ok := by
      intro hnil
      cases hnil }

/-- A path, if there is one, behind a URL. -/
def urlWith (url : String) : Option String → String
  | some path => appendPath url path
  | none => url

/-- A lenient URL has the path, if there is one, and one record of each diagnostic. -/
theorem urlOf_lenient (resolver : Resolver) (route : Route) (values : Named Value)
    (withHost : Bool) :
    (resolver.generating false).urlOf route values withHost =
      ⟨(route.build values).diagnostics.map degradation,
        .ok (urlWith (resolver.urlPrefix withHost) (route.build values).path?)⟩ := by
  have hcomplaints := map_degradation_complaints route values
  rcases route.build_cases values with ⟨-, hresult, hdiagnostics⟩ | ⟨-, hresult, hdiagnostics⟩
  · rw [hdiagnostics, hcomplaints, Generation.path?, urlOf, hresult]
    rfl
  · rw [hdiagnostics, List.map_append, hcomplaints, Generation.path?, urlOf, hresult]
    rfl

/-- A strict URL is the lenient one, or else the first diagnostic. -/
theorem urlOf_strict (resolver : Resolver) (route : Route) (values : Named Value)
    (withHost : Bool) :
    (resolver.generating true).urlOf route values withHost =
      ⟨[], match (route.build values).diagnostics with
        | fault :: _ => .error fault
        | [] => .ok (urlWith (resolver.urlPrefix withHost) (route.build values).path?)⟩ := by
  have hurl : (resolver.generating true).urlOf route values withHost =
      ⟨[], (route.build values).strict.map (appendPath (resolver.urlPrefix withHost))⟩ := rfl
  rw [hurl, Route.strict_build]
  cases hdiagnostics : (route.build values).diagnostics with
  | nil =>
    obtain ⟨path, hpath⟩ := Route.exists_result_of_diagnostics hdiagnostics
    rw [Generation.path?, hpath]
    rfl
  | cons fault rest => rfl

theorem degrades_of_mem {registration : Registration} (h : resolver.registry.Represents log)
    (hmem : registration ∈ log) :
    resolver.Degrades log registration.name values withHost
      (registration.route.build values).diagnostics
      (urlWith (resolver.urlPrefix withHost) (registration.route.build values).path?) := by
  have hfind := h.findByName?_name hmem
  have hroute : ∀ other ∈ log, other.name = registration.name →
      other.route = registration.route := by
    intro other hother hname
    have hsame := h.findByName?_name hother
    rw [hname, hfind] at hsame
    exact (Option.some.inj hsame).symm
  have hreverse (strict : Bool) :
      (resolver.generating strict).reverse registration.name values withHost =
        (resolver.generating strict).urlOf registration.route values withHost := by
    unfold reverse
    rw [show (resolver.generating strict).registry.findByName? registration.name =
      some registration.route from hfind]
  exact {
    diagnostics_of_unknown := fun hname => absurd (List.mem_map_of_mem hmem) hname
    diagnostics_of_mem := by
      intro other hother hname
      rw [hroute other hother hname]
    url_of_path := by
      intro other hother hname path hpath
      rw [hroute other hother hname] at hpath
      rw [hpath, urlWith]
    url_of_no_path := by
      intro hnone
      rw [hnone registration hmem rfl, urlWith]
    lenient_eq := by rw [hreverse, urlOf_lenient]
    strict_error := by
      intro fault rest hfault
      rw [hreverse, urlOf_strict, hfault]
    strict_ok := by
      intro hnil
      rw [hreverse, urlOf_strict, hnil] }

end Resolver
end TypedRoutes
