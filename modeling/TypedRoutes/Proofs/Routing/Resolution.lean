import TypedRoutes.Proofs.Routing.History
import TypedRoutes.Routing.Resolver

/-!
# The first match

A request is answered by the earliest registration of the log that serves its method and whose
route accepts its path. Later registrations are only reached by requests that no earlier one
answers.
-/
namespace TypedRoutes

namespace Registration

/-- Whether a route is registered for the method that a token names in any letter case. -/
def serves (registration : Registration) (token : String) : Bool :=
  registration.methods.any (·.token == Text.upper token)

/-- The match of a registered route, if it is registered for the method and accepts the path. -/
def answer? (registration : Registration) (token path : String) : Option RouteMatch :=
  if registration.serves token then registration.route.match? path else none

variable {registration : Registration} {token path : String} {found : RouteMatch}

theorem answer?_eq_some_iff : registration.answer? token path = some found ↔
    registration.serves token = true ∧ registration.route.match? path = some found := by
  simp [answer?]

end Registration

namespace Resolver

/-- How the requests for a method and a path are answered, given the log of registrations: all
matches are those of the log in its order, and the request resolves to the first of them. -/
structure FirstMatch (resolver : Resolver) (log : List Registration) (token path : String) :
    Prop where
  eq_some_iff : ∀ found, resolver.resolve? token path = some found ↔
    ∃ earlier registration later, log = earlier ++ registration :: later ∧
      (∀ other ∈ earlier, other.answer? token path = none) ∧
      registration.answer? token path = some found
  eq_none_iff : resolver.resolve? token path = none ↔
    ∀ registration ∈ log, registration.answer? token path = none
  eq_head? : resolver.resolve? token path = (resolver.matchAll token path).head?
  matchAll_eq : resolver.matchAll token path = log.filterMap (·.answer? token path)
  tail_matchAll : ∀ earlier registration later, log = earlier ++ registration :: later →
    (∀ other ∈ earlier, other.answer? token path = none) →
    (registration.answer? token path).isSome = true →
    (resolver.matchAll token path).tail = later.filterMap (·.answer? token path)

variable {resolver : Resolver} {log more : List Registration} {token path : String}
variable {found : RouteMatch}

theorem filterMap_routesForToken {α : Type} (h : resolver.registry.Represents log)
    (token : String) (f : Route → Option α) :
    (resolver.registry.routesForToken token).filterMap f =
      log.filterMap fun registration =>
        if registration.serves token then f registration.route else none := by
  rw [h.routesForToken_eq, List.filterMap_map, List.filterMap_filter]
  rfl

theorem matchAll_of_represents (h : resolver.registry.Represents log) (token path : String) :
    resolver.matchAll token path = log.filterMap (·.answer? token path) :=
  filterMap_routesForToken h token fun route => route.match? path

theorem resolve?_eq_head? (resolver : Resolver) (token path : String) :
    resolver.resolve? token path = (resolver.matchAll token path).head? :=
  Route.matchFirst?_eq_head? _ _

theorem resolve?_of_represents (h : resolver.registry.Represents log) (token path : String) :
    resolver.resolve? token path = log.findSome? (·.answer? token path) := by
  rw [resolve?_eq_head?, matchAll_of_represents h, List.head?_filterMap]

theorem firstMatch_of_represents (h : resolver.registry.Represents log) (token path : String) :
    resolver.FirstMatch log token path where
  eq_some_iff := by
    intro found
    rw [resolve?_of_represents h, List.findSome?_eq_some_iff]
    constructor
    · rintro ⟨earlier, registration, later, hlog, hfound, hnone⟩
      exact ⟨earlier, registration, later, hlog, hnone, hfound⟩
    · rintro ⟨earlier, registration, later, hlog, hnone, hfound⟩
      exact ⟨earlier, registration, later, hlog, hfound, hnone⟩
  eq_none_iff := by rw [resolve?_of_represents h, List.findSome?_eq_none_iff]
  eq_head? := resolve?_eq_head? resolver token path
  matchAll_eq := matchAll_of_represents h token path
  tail_matchAll := by
    intro earlier registration later hlog hnone hsome
    obtain ⟨found, hfound⟩ := Option.isSome_iff_exists.mp hsome
    have hrest := List.filterMap_cons_some (f := (·.answer? token path)) (l := later) hfound
    rw [matchAll_of_represents h, hlog, List.filterMap_append,
      List.filterMap_eq_nil_iff.mpr hnone, List.nil_append, hrest, List.tail_cons]

/-! ## Later registrations -/

/-- What is registered later answers only what nothing answered before. -/
theorem resolve?_of_append {next : Registry} (h : resolver.registry.Represents log)
    (hnext : next.Represents (log ++ more)) (token path : String) :
    ({ resolver with registry := next } : Resolver).resolve? token path =
      (resolver.resolve? token path).or (more.findSome? (·.answer? token path)) := by
  rw [resolve?_of_represents hnext, resolve?_of_represents h, List.findSome?_append]

/-- At every point of a run a request resolves to the earliest registration that answers it. One
more registration leaves every answer as it is, answers a request that had none by the new route or
not at all, and does not concern the methods that it does not name; nor does any other later call
change an answer. -/
theorem resolve?_run (calls : List History.Call) (settings : Settings) (token path : String) :
    let resolver : Resolver := ⟨(History.run calls).registry, settings⟩
    resolver.FirstMatch (History.run calls).log token path ∧
    (∀ methods source endpoint name next registration,
      resolver.registry.register methods source endpoint name = .ok (next, registration) →
      let later : Resolver := ⟨next, settings⟩
      (∀ found, resolver.resolve? token path = some found →
        later.resolve? token path = some found) ∧
      (resolver.resolve? token path = none →
        later.resolve? token path = registration.answer? token path) ∧
      (registration.serves token = false →
        later.resolve? token path = resolver.resolve? token path)) ∧
    ∀ more found, resolver.resolve? token path = some found →
      (⟨(History.run (calls ++ more)).registry, settings⟩ : Resolver).resolve? token path =
        some found := by
  intro resolver
  have hlog : resolver.registry.Represents (History.run calls).log := History.represents_run calls
  refine ⟨firstMatch_of_represents hlog token path, ?_, ?_⟩
  · intro methods source endpoint name next registration hregister later
    have hnext : later.resolve? token path =
        (resolver.resolve? token path).or (registration.answer? token path) := by
      refine (resolve?_of_append hlog (hlog.register hregister) token path).trans ?_
      rw [List.findSome?_singleton]
    refine ⟨fun found hfound => ?_, fun hnone => ?_, fun hserves => ?_⟩
    · rw [hnext, hfound, Option.some_or]
    · rw [hnext, hnone, Option.none_or]
    · have hanswer : registration.answer? token path = none := by
        simp [Registration.answer?, hserves]
      rw [hnext, hanswer, Option.or_none]
  · intro more found hfound
    obtain ⟨rest, hrest⟩ := History.log_prefix_run calls more
    have hmore := History.represents_run (calls ++ more)
    rw [← hrest] at hmore
    refine (resolve?_of_append hlog hmore token path).trans ?_
    rw [hfound, Option.some_or]

/-- Users by number, registered first, keep their requests when users by tag are added. -/
theorem resolve?_run_users :
    let calls : List History.Call :=
      [.register (.text "GET") "/u/\x7bi:id\x7d" .null "number"]
    let number : Route :=
      ⟨"number", ⟨[.literal "", .literal "u", .parameter .integer "id"], false⟩, .null⟩
    let tag : Registration :=
      ⟨⟨"tag", ⟨[.literal "", .literal "U", .parameter .text "tag"], false⟩, .null⟩, [.get, .post]⟩
    let registry := (History.run calls).registry
    let settings := Settings.ofRaw {}
    registry.register (.text "get|post") "/U/\x7bs:tag\x7d" .null "tag" =
      .ok (registry.add tag, tag) ∧
    (⟨registry.add tag, settings⟩ : Resolver).resolve? "get" "/u/7" =
      some ⟨number, [("id", "7")]⟩ ∧
    (⟨registry.add tag, settings⟩ : Resolver).resolve? "POST" "/u/7" =
      some ⟨tag.route, [("tag", "7")]⟩ ∧
    (⟨registry.add tag, settings⟩ : Resolver).resolve? "put" "/u/7" =
      (⟨registry, settings⟩ : Resolver).resolve? "put" "/u/7" := by
  intro calls number tag registry settings
  have hregister : registry.register (.text "get|post") "/U/\x7bs:tag\x7d" .null "tag" =
      .ok (registry.add tag, tag) := rfl
  have hfirst := (resolve?_run calls settings "get" "/u/7").2.1 _ _ _ _ _ _ hregister
  have hnew := (resolve?_run calls settings "POST" "/u/7").2.1 _ _ _ _ _ _ hregister
  have hother := (resolve?_run calls settings "put" "/u/7").2.1 _ _ _ _ _ _ hregister
  exact ⟨hregister, hfirst.1 ⟨number, [("id", "7")]⟩ rfl,
    (hnew.2.1 rfl).trans rfl, hother.2.2 rfl⟩

end Resolver
end TypedRoutes
