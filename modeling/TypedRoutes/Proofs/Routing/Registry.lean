import TypedRoutes.Proofs.Named
import TypedRoutes.Routing.Registry

/-!
# Registries as logs

Both tables of a registry are functions of the log of its registrations. This holds of the empty
registry, and a registration with a new name and some method preserves it.
-/
namespace TypedRoutes

namespace Method

theorem ofToken?_eq_some_iff {token : String} {method : Method} :
    ofToken? token = some method ↔ method.token = token := by
  constructor
  · intro h
    simpa using List.find?_some h
  · rintro rfl
    exact ofToken?_token method

theorem token_eq_iff {token : String} {method other : Method} (h : ofToken? token = some method) :
    other.token = token ↔ other = method := by
  rw [← ofToken?_eq_some_iff, h, Option.some.injEq, eq_comm]

theorem ne_nil_of_ofValue {methods : List Method} {value : Value}
    (h : ofValue value = .ok methods) : methods ≠ [] := by
  unfold ofValue at h
  split at h
  · cases h
  · split at h
    · cases h
    · cases h
    next named hne _ =>
      cases h
      intro hnil
      obtain ⟨method, hmethod⟩ := List.exists_mem_of_ne_nil named hne
      rw [← List.mem_eraseDups, hnil] at hmethod
      cases hmethod

end Method

namespace MethodTable

variable {table : MethodTable} {route : Route} {method other : Method} {methods : List Method}

theorem methods_enter (route : Route) (table : MethodTable) (method : Method) :
    (enter route table method).methods =
      if method ∈ table.methods then table.methods else table.methods ++ [method] := by
  induction table with
  | nil => rfl
  | cons entry rest ih =>
    obtain ⟨m, routes⟩ := entry
    simp only [enter, MethodTable.methods, List.map_cons, List.mem_cons] at ih ⊢
    by_cases hm : m = method
    · simp [hm]
    · rw [if_neg hm, List.map_cons, ih]
      by_cases hrest : method ∈ rest.map (·.1) <;> simp [hrest, Ne.symm hm]

theorem routesAt_enter (route : Route) (table : MethodTable) (method other : Method) :
    (enter route table method).routesAt other =
      if other = method then (table.routesAt other).set route.name route
      else table.routesAt other := by
  induction table with
  | nil =>
    by_cases h : other = method
    · simp [enter, routesAt, h, Named.set]
    · simp [enter, routesAt, h, List.lookup_cons, beq_eq_false_iff_ne.mpr h]
  | cons entry rest ih =>
    obtain ⟨m, routes⟩ := entry
    simp only [routesAt] at ih ⊢
    by_cases hm : m = method
    · subst hm
      by_cases ho : other = m
      · simp [enter, ho]
      · simp [enter, ho, List.lookup_cons, beq_eq_false_iff_ne.mpr ho]
    · by_cases ho : other = m
      · subst ho
        simp [enter, hm]
      · simp [enter, hm, List.lookup_cons, beq_eq_false_iff_ne.mpr ho, ih]

theorem routesAt_foldl_enter (route : Route) (table : MethodTable) (methods : List Method)
    (other : Method) :
    (methods.foldl (enter route) table).routesAt other =
      if other ∈ methods then (table.routesAt other).set route.name route
      else table.routesAt other := by
  induction methods generalizing table with
  | nil => simp
  | cons method methods ih =>
    rw [List.foldl_cons, ih, routesAt_enter]
    by_cases hm : other = method
    · simp [hm, Named.set_set]
    · simp [hm]

/-- Entering a route under some methods appends those that are not there yet. -/
theorem methods_foldl_enter {before : List Method} (h : table.methods = before.eraseDups) :
    (methods.foldl (enter route) table).methods = (before ++ methods).eraseDups := by
  induction methods generalizing table before with
  | nil => simpa using h
  | cons method methods ih =>
    have hnext : (enter route table method).methods = (before ++ [method]).eraseDups := by
      rw [methods_enter, h, List.eraseDups_append]
      by_cases hmem : method ∈ before <;> simp [hmem, List.removeAll, List.eraseDups_cons]
    rw [List.foldl_cons, ih hnext, List.append_assoc]
    rfl

theorem nodup_methods_foldl_enter (h : table.methods.Nodup) :
    (methods.foldl (enter route) table).methods.Nodup := by
  induction methods generalizing table with
  | nil => exact h
  | cons method methods ih =>
    apply ih
    rw [methods_enter]
    split_ifs with hmem
    · exact h
    · exact h.append (List.nodup_singleton method) (by simpa using hmem)

end MethodTable

def Registration.name (registration : Registration) : String :=
  registration.route.name

/-- The routes of a log, by name. -/
def namedRoutes (log : List Registration) : Named Route :=
  log.map fun registration => (registration.name, registration.route)

theorem names_namedRoutes (log : List Registration) :
    Named.names (namedRoutes log) = log.map (·.name) := by
  simp [namedRoutes, Named.names]

theorem set_namedRoutes {log : List Registration} {registration : Registration}
    (h : registration.name ∉ log.map (·.name)) :
    (namedRoutes log).set registration.name registration.route =
      namedRoutes (log ++ [registration]) := by
  rw [Named.set_of_not_mem (by rwa [names_namedRoutes]), namedRoutes, namedRoutes, List.map_append]
  rfl

theorem isSome_lookup_namedRoutes (log : List Registration) (name : String) :
    ((namedRoutes log).lookup name).isSome = log.any (·.name == name) := by
  rw [Bool.eq_iff_iff, Named.isSome_lookup_iff, names_namedRoutes]
  simp

theorem lookup_namedRoutes (log : List Registration) (name : String) :
    (namedRoutes log).lookup name = (log.find? (·.name == name)).map (·.route) := by
  induction log with
  | nil => rfl
  | cons registration log ih =>
    simp only [namedRoutes, List.map_cons, List.lookup_cons] at ih ⊢
    by_cases h : registration.name = name
    · simp [h]
    · simp [h, beq_eq_false_iff_ne.mpr (Ne.symm h), ih]

/-- Where names are not repeated, searching under a condition is searching and then asking. -/
theorem find?_filter_name {log : List Registration} (hnames : (log.map (·.name)).Nodup)
    (p : Registration → Bool) (name : String) :
    (log.filter p).find? (·.name == name) = (log.find? (·.name == name)).filter p := by
  induction log with
  | nil => rfl
  | cons registration log ih =>
    obtain ⟨hnew, hrest⟩ := List.nodup_cons.mp hnames
    have ih := ih hrest
    by_cases h : registration.name = name
    · have hnone : log.find? (·.name == name) = none := by
        simp only [List.find?_eq_none, beq_iff_eq]
        intro other hother heq
        exact hnew (List.mem_map.mpr ⟨other, hother, heq.trans h.symm⟩)
      cases hp : p registration with
      | true => simp [h, hp, Option.filter_some]
      | false => simp [h, hp, ih, hnone, Option.filter_some]
    · cases hp : p registration with
      | true => simp [h, hp, ih]
      | false => simp [h, hp, ih]

namespace Registry

/-- Whether a registry holds exactly the registrations of a log, in their order. -/
structure Represents (registry : Registry) (log : List Registration) : Prop where
  names_nodup : (log.map (·.name)).Nodup
  methods_ne_nil : ∀ registration ∈ log, registration.methods ≠ []
  ofSource : ∀ registration ∈ log, ∃ source endpoint,
    Route.ofSource source endpoint (some registration.name) = .ok registration.route
  byName_eq : registry.byName = namedRoutes log
  methods_nodup : registry.byMethod.methods.Nodup
  methods_eq : registry.byMethod.methods = (log.flatMap (·.methods)).eraseDups
  routesAt_eq : ∀ method, registry.byMethod.routesAt method =
    namedRoutes (log.filter (·.methods.contains method))

variable {registry : Registry} {log : List Registration} {registration : Registration}

theorem represents_empty : empty.Represents [] where
  names_nodup := .nil
  methods_ne_nil := by simp
  ofSource := by simp
  byName_eq := rfl
  methods_nodup := .nil
  methods_eq := rfl
  routesAt_eq := fun _ => rfl

theorem Represents.freeze (h : registry.Represents log) : registry.freeze.Represents log :=
  { h with }

/-- A registration with a new name and some method goes to the end of the log. -/
theorem Represents.add (h : registry.Represents log)
    (hname : registration.name ∉ log.map (·.name)) (hmethods : registration.methods ≠ [])
    {source : String} {endpoint : Value}
    (hsource : Route.ofSource source endpoint (some registration.name) = .ok registration.route) :
    (registry.add registration).Represents (log ++ [registration]) where
  names_nodup := by
    rw [List.map_append]
    exact h.names_nodup.append (List.nodup_singleton _) (by simpa using hname)
  methods_ne_nil := by
    intro other hother
    rcases List.mem_append.mp hother with hother | hother
    · exact h.methods_ne_nil other hother
    · rw [List.mem_singleton.mp hother]
      exact hmethods
  ofSource := by
    intro other hother
    rcases List.mem_append.mp hother with hother | hother
    · exact h.ofSource other hother
    · rw [List.mem_singleton.mp hother]
      exact ⟨source, endpoint, hsource⟩
  byName_eq := by
    calc
      registry.byName.set registration.name registration.route
        = (namedRoutes log).set registration.name registration.route := by rw [h.byName_eq]
      _ = namedRoutes (log ++ [registration]) := set_namedRoutes hname
  methods_nodup := MethodTable.nodup_methods_foldl_enter h.methods_nodup
  methods_eq := by
    rw [List.flatMap_append, List.flatMap_singleton]
    exact MethodTable.methods_foldl_enter h.methods_eq
  routesAt_eq := by
    intro method
    have hfresh : registration.name ∉ (log.filter (·.methods.contains method)).map (·.name) :=
      fun hmem => hname ((List.filter_sublist.map _).subset hmem)
    refine (MethodTable.routesAt_foldl_enter _ _ _ _).trans ?_
    rw [h.routesAt_eq, List.filter_append]
    split_ifs with hmem
    · rw [List.filter_cons_of_pos (by simpa using hmem), List.filter_nil]
      exact set_namedRoutes hfresh
    · rw [List.filter_cons_of_neg (by simpa using hmem), List.filter_nil, List.append_nil]

/-! ## Views -/

theorem Represents.find?_eq (h : registry.Represents log) (name : String) :
    registry.find? name = (log.find? (·.name == name)).map (·.route) := by
  rw [find?, h.byName_eq, lookup_namedRoutes]

theorem Represents.contains_eq (h : registry.Represents log) (name : String) :
    registry.contains name = log.any (·.name == name) := by
  rw [contains, h.byName_eq, isSome_lookup_namedRoutes]

theorem Represents.mem_methods (h : registry.Represents log) {method : Method}
    (hmem : registration ∈ log) (hmethod : method ∈ registration.methods) :
    method ∈ registry.methods := by
  rw [Registry.methods, h.methods_eq, List.mem_eraseDups]
  exact List.mem_flatMap.mpr ⟨registration, hmem, hmethod⟩

/-- The table of methods agrees with the table of names on every named route. -/
theorem Represents.findByName?_eq (h : registry.Represents log) (name : String) :
    registry.findByName? name = (log.find? (·.name == name)).map (·.route) := by
  have hat (method : Method) : (registry.byMethod.routesAt method).lookup name =
      ((log.find? (·.name == name)).filter (·.methods.contains method)).map (·.route) := by
    rw [h.routesAt_eq, lookup_namedRoutes, find?_filter_name h.names_nodup]
  -- Every method gives the registered route or nothing, and one of its own methods gives it.
  simp only [findByName?, hat]
  cases hfind : log.find? (·.name == name) with
  | none => simp
  | some registration =>
    have hmem := List.mem_of_find?_eq_some hfind
    obtain ⟨method, hmethod⟩ := List.exists_mem_of_ne_nil _ (h.methods_ne_nil registration hmem)
    have hmethods := h.mem_methods hmem hmethod
    cases hfirst : registry.methods.findSome? fun method =>
        ((some registration).filter (·.methods.contains method)).map (·.route) with
    | none =>
      have hnone := List.findSome?_eq_none_iff.mp hfirst method hmethods
      simp [hmethod, Option.filter_some] at hnone
    | some route =>
      obtain ⟨other, -, hother⟩ := List.exists_of_findSome?_eq_some hfirst
      obtain ⟨found, hfound, hroute⟩ := Option.map_eq_some_iff.mp hother
      obtain ⟨hsame, -⟩ := Option.filter_eq_some_iff.mp hfound
      rw [hsame, Option.map_some, hroute]

theorem Represents.findByName?_eq_none (h : registry.Represents log) {name : String}
    (hname : name ∉ log.map (·.name)) : registry.findByName? name = none := by
  rw [h.findByName?_eq, Option.map_eq_none_iff, List.find?_eq_none]
  intro registration hmem heq
  exact hname (List.mem_map.mpr ⟨registration, hmem, by simpa using heq⟩)

/-- The named route is the one that was registered, in both tables. -/
theorem Represents.findByName?_name (h : registry.Represents log) (hmem : registration ∈ log) :
    registry.findByName? registration.name = some registration.route := by
  have hnames : (Named.names (namedRoutes log)).Nodup := by
    rw [names_namedRoutes]
    exact h.names_nodup
  rw [h.findByName?_eq, ← lookup_namedRoutes]
  exact lookup_of_mem hnames (List.mem_map.mpr ⟨registration, hmem, rfl⟩)

theorem Represents.routesFor_eq (h : registry.Represents log) (method : Method) :
    registry.routesFor method = (log.filter (·.methods.contains method)).map (·.route) := by
  rw [routesFor, h.routesAt_eq, namedRoutes, List.map_map]
  rfl

theorem Represents.routesForToken_eq (h : registry.Represents log) (token : String) :
    registry.routesForToken token =
      (log.filter (·.methods.any (·.token == Text.upper token))).map (·.route) := by
  rw [routesForToken, Method.ofName?]
  cases hmethod : Method.ofToken? (Text.upper token) with
  | none =>
    have hnone : ∀ registration ∈ log,
        ¬registration.methods.any (·.token == Text.upper token) = true := by
      intro registration _ hany
      obtain ⟨method, -, htoken⟩ := List.any_eq_true.mp hany
      rw [← beq_iff_eq.mp htoken, Method.ofToken?_token] at hmethod
      cases hmethod
    rw [List.filter_eq_nil_iff.mpr hnone]
    rfl
  | some method =>
    refine (h.routesFor_eq method).trans ?_
    congr 2
    funext registration
    rw [Bool.eq_iff_iff, List.contains_iff_mem, List.any_eq_true]
    simp only [beq_iff_eq, Method.token_eq_iff hmethod, exists_eq_right]

theorem Represents.methodsFor_eq (h : registry.Represents log) (name : String) :
    registry.methodsFor name =
      registry.methods.filter fun method =>
        log.any fun registration =>
          registration.name == name && registration.methods.contains method := by
  have hentry (method : Method) (routes : Named Route)
      (hmem : (method, routes) ∈ registry.byMethod) :
      (routes.lookup name).isSome = log.any fun registration =>
        registration.name == name && registration.methods.contains method := by
    have hroutes : registry.byMethod.routesAt method = routes := by
      rw [MethodTable.routesAt, lookup_of_mem h.methods_nodup hmem, Option.getD_some]
    rw [← hroutes, h.routesAt_eq, isSome_lookup_namedRoutes, List.any_filter]
    simp only [Bool.and_comm]
  rw [methodsFor, Registry.methods, MethodTable.methods, MethodTable.methods, List.filter_map]
  congr 1
  apply List.filter_congr
  rintro ⟨method, routes⟩ hmem
  exact hentry method routes hmem

end Registry
end TypedRoutes
