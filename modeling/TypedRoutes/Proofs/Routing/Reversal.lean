import TypedRoutes.Proofs.Route.RoundTrip
import TypedRoutes.Proofs.Routing.History
import TypedRoutes.Proofs.Template.Address
import TypedRoutes.Routing.Resolver

/-!
# Generated URLs

The URL of a named route, cleaned, is a path that the route accepts with the texts that were put
into it. It resolves to the route, or to one that was registered earlier and accepts it too.
-/
namespace TypedRoutes

namespace Route

variable {route : Route} {path : String} {found : RouteMatch}

theorem route_of_match? (h : route.match? path = some found) : found.route = route := by
  obtain ⟨captures, -, rfl⟩ := Option.map_eq_some_iff.mp h
  rfl

/-- The first match among routes of which one accepts the path is by this route or an earlier. -/
theorem exists_matchFirst? (earlier later : List Route) (h : route.match? path = some found) :
    ∃ first, matchFirst? (earlier ++ route :: later) path = some first ∧
      (first.route = route ∨ first.route ∈ earlier) ∧ first.route.match? path = some first := by
  rw [matchFirst?, List.findSome?_append]
  cases hearlier : earlier.findSome? fun route => route.match? path with
  | none =>
    refine ⟨found, by simp [h], .inl (route_of_match? h), ?_⟩
    rwa [route_of_match? h]
  | some first =>
    obtain ⟨other, hother, hmatch⟩ := List.exists_of_findSome?_eq_some hearlier
    refine ⟨first, by simp, .inr ?_, ?_⟩
    · rwa [route_of_match? hmatch]
    · rwa [route_of_match? hmatch]

end Route

namespace Registry

variable {registry : Registry} {log : List Registration} {token : String} {route : Route}

theorem Represents.exists_registration (h : registry.Represents log)
    (hroute : route ∈ registry.routesForToken token) :
    ∃ registration ∈ log, registration.route = route := by
  rw [h.routesForToken_eq] at hroute
  obtain ⟨registration, hmem, rfl⟩ := List.mem_map.mp hroute
  exact ⟨registration, (List.mem_filter.mp hmem).1, rfl⟩

end Registry

namespace Resolver

variable {resolver : Resolver} {route : Route} {values : Named Value} {path : String}

/-- A lenient resolver puts the path of a named route behind the base URI. -/
theorem result_reverse (hlenient : resolver.settings.strictGeneration = false)
    (hname : resolver.registry.findByName? route.name = some route)
    (hbuild : (route.build values).path? = some path) :
    (resolver.reverse route.name values false).result =
      .ok (appendPath resolver.settings.baseUri path) := by
  have hresult : (route.build values).result = .ok path := Except.toOption_eq_some_iff.mp hbuild
  simp [reverse, hname, urlOf, hlenient, hresult, urlPrefix]

/-- Cleaned, the URL of a filled template is matched with the texts that fill it. -/
theorem match?_clean_appendPath {raw : String} {t : Template} {texts : Captures}
    (settings : Settings) (hbase : Uri.IsPlain settings.baseUri.toList)
    (hparse : Template.parse raw = .ok t) (hshape : t.IsAddressable)
    (hfit : texts.Fit t.parameters) :
    t.match? (Uri.clean (appendPath settings.baseUri (t.fill texts)) settings.baseUri) =
      some (texts.select t.parameters) := by
  rw [appendPath, Uri.clean_append settings.baseUri_ne_nil hbase (hshape.isPlain_fill hfit)]
  exact Template.match?_of_cuts (Template.cuts_clean hparse hshape hfit)
    (Segment.captureAll?_segmentText hfit)

/-- The URL that is generated for a registered route leads back to it: cleaned, it is matched with
the texts that stand in it, and it resolves to the route, whose arguments are then the values that
it was generated from, or to an earlier route that accepts it too. -/
theorem resolve?_clean_reverse (calls : List History.Call) (settings : Settings) (token : String)
    {earlier later : List Route} (hlenient : settings.strictGeneration = false)
    (hbase : Uri.IsPlain settings.baseUri.toList)
    (hroute : (History.run calls).registry.routesForToken token = earlier ++ route :: later)
    (hshape : route.template.IsAddressable) (hvalues : (Named.names values).Nodup)
    (hbuild : (route.build values).path? = some path) :
    let resolver : Resolver := ⟨(History.run calls).registry, settings⟩
    ∃ url captures arguments first,
      (resolver.reverse route.name values false).result = .ok url ∧
      route.template.match? (Uri.clean url settings.baseUri) = some captures ∧
      route.template.fill captures = path ∧
      route.RoundTrip values captures arguments ∧
      resolver.resolve? token (Uri.clean url settings.baseUri) = some first ∧
      first.route.match? (Uri.clean url settings.baseUri) = some first ∧
      (first.route = route ∨ first.route ∈ earlier) ∧
      (first.route = route → first.captures = captures ∧ first.decode = .ok arguments) := by
  intro resolver
  have hlog := History.represents_run calls
  have hmem : route ∈ (History.run calls).registry.routesForToken token := by simp [hroute]
  obtain ⟨registration, hregistration, rfl⟩ := hlog.exists_registration hmem
  obtain ⟨source, endpoint, hsource⟩ := hlog.ofSource registration hregistration
  have ht := Route.wellFormed_of_ofSource hsource
  obtain ⟨arguments, hsupplied⟩ := Route.exists_supplied ht.names_nodup hvalues hbuild
  have hspelled := Route.spelled_of_supplied hsupplied
  have hfit := Route.fit_of_spelled ht.names_nodup hspelled
  have hfill := (Route.path?_build_eq_some_iff.mp hbuild).2
  have hcaptures := match?_clean_appendPath settings hbase (Route.parse_of_ofSource hsource)
    hshape hfit
  rw [hfill] at hcaptures
  have hdecode := Route.decode_of_spelled ht.names_nodup hspelled
  have hmatch : registration.route.match?
      (Uri.clean (appendPath settings.baseUri path) settings.baseUri) = some ⟨_, _⟩ :=
    Option.map_eq_some_iff.mpr ⟨_, hcaptures, rfl⟩
  obtain ⟨first, hfirst, horigin, hfirstMatch⟩ := Route.exists_matchFirst? earlier later hmatch
  refine ⟨_, _, arguments, first, result_reverse hlenient (hlog.findByName?_name hregistration)
    hbuild, hcaptures, (Template.fill_select _ _).trans hfill,
    Route.roundTrip_of_supplied ht.names_nodup hsupplied, ?_, hfirstMatch, horigin, ?_⟩
  · rw [resolve?, hroute]
    exact hfirst
  · intro hsame
    rw [hsame, hmatch] at hfirstMatch
    cases hfirstMatch
    exact ⟨rfl, hdecode⟩

theorem isAddressable_tagged : Route.tagged.template.IsAddressable where
  leading_slash := by decide +kernel
  literal_plain := by
    intro text htext
    obtain rfl | rfl : text = "" ∨ text = "u" := by simpa [Route.tagged] using htext
    · decide
    · decide
  ends_ne_nil :=
    .inr ⟨⟨.literal "u", rfl, by decide⟩, .parameter .text "tag", rfl, by decide⟩

theorem resolve?_clean_reverse_tagged :
    let calls : List History.Call :=
      [.register (.text "GET|post") "/u/\x7bi:id\x7d/\x7bs:tag\x7d/" .null "user", .freeze]
    let values : Named Value := [("tag", .text "é/x"), ("id", .integer 42)]
    let resolver : Resolver :=
      ⟨(History.run calls).registry, Settings.ofRaw { baseUri := "/app" }⟩
    ∃ url captures arguments first,
      (resolver.reverse "user" values false).result = .ok url ∧
      Route.tagged.template.match? (Uri.clean url "/app/") = some captures ∧
      Route.tagged.template.fill captures = "/u/42/%C3%A9%2Fx/" ∧
      Route.tagged.RoundTrip values captures arguments ∧
      resolver.resolve? "get" (Uri.clean url "/app/") = some first ∧
      first.route.match? (Uri.clean url "/app/") = some first ∧
      (first.route = Route.tagged ∨ first.route ∈ []) ∧
      (first.route = Route.tagged → first.captures = captures ∧ first.decode = .ok arguments) := by
  intro calls values
  have hbase : Uri.IsPlain (Settings.ofRaw { baseUri := "/app" }).baseUri.toList := by
    decide +kernel
  have hroute :
      (History.run calls).registry.routesForToken "get" = [] ++ Route.tagged :: [] := rfl
  have hbuild : (Route.tagged.build values).path? = some "/u/42/%C3%A9%2Fx/" := by
    decide +kernel
  exact resolve?_clean_reverse calls _ "get" rfl hbase hroute isAddressable_tagged (by decide)
    hbuild

end Resolver
end TypedRoutes
