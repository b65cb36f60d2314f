import TypedRoutes.Proofs.Routing.Registry
import TypedRoutes.Proofs.Template.Reading
import TypedRoutes.Routing.Table

/-!
# Histories of registries

A history is a registry together with the log of what was registered in it, and calls make it grow.
After any calls every view of the registry is a view of the log, to which later calls only append.
-/
namespace TypedRoutes

structure History where
  registry : Registry
  log : List Registration

/-- The calls that change a registry. -/
inductive History.Call where
  | register (methods : Value) (source : String) (endpoint : Value) (name : String)
  | load (table : Value)
  | loadFile (tree : FileTree) (name : String)
  | freeze

namespace History

def start : History := ⟨Registry.empty, []⟩

/-- The history after loading: whatever was registered before a failure stays. -/
def afterLoading (history : History) (loading : Loading) : History :=
  ⟨loading.registry, history.log ++ loading.registered⟩

/-- One call. A refused registration leaves the history as it was. -/
def perform (history : History) : Call → History
  | .register methods source endpoint name =>
    match history.registry.register methods source endpoint name with
    | .ok (registry, registration) => ⟨registry, history.log ++ [registration]⟩
    | .error _ => history
  | .load table => history.afterLoading (history.registry.load table)
  | .loadFile tree name => history.afterLoading (history.registry.loadFile tree name)
  | .freeze => { history with registry := history.registry.freeze }

def run (calls : List Call) : History :=
  calls.foldl perform start

end History

namespace Registry

/-- Whether the views of a registry are those of a log. -/
structure Agrees (registry : Registry) (log : List Registration) : Prop where
  names_nodup : (log.map (·.name)).Nodup
  names_eq : registry.names = log.map (·.name)
  routes_eq : registry.routes = log.map (·.route)
  size_eq : registry.size = log.length
  contains_eq : ∀ name, registry.contains name = log.any (·.name == name)
  find?_eq : ∀ name, registry.find? name = (log.find? (·.name == name)).map (·.route)
  findByName?_eq : ∀ name, registry.findByName? name = (log.find? (·.name == name)).map (·.route)
  routesForToken_eq : ∀ token, registry.routesForToken token =
    (log.filter (·.methods.any (·.token == Text.upper token))).map (·.route)
  methods_eq : registry.methods = (log.flatMap (·.methods)).eraseDups
  methodsFor_eq : ∀ name, registry.methodsFor name = registry.methods.filter fun method =>
    log.any fun registration => registration.name == name && registration.methods.contains method
  methodsFor_ne_nil : ∀ registration ∈ log, registry.methodsFor registration.name ≠ []

variable {registry next : Registry} {log : List Registration} {registration : Registration}
variable {methods : Value} {source : String} {endpoint : Value} {name : String}

theorem Represents.agrees (h : registry.Represents log) : registry.Agrees log where
  names_nodup := h.names_nodup
  names_eq := by rw [names, h.byName_eq, names_namedRoutes]
  routes_eq := by simp [routes, h.byName_eq, namedRoutes]
  size_eq := by simp [size, h.byName_eq, namedRoutes]
  contains_eq := h.contains_eq
  find?_eq := h.find?_eq
  findByName?_eq := h.findByName?_eq
  routesForToken_eq := h.routesForToken_eq
  methods_eq := h.methods_eq
  methodsFor_eq := h.methodsFor_eq
  methodsFor_ne_nil := by
    intro registration hmem
    obtain ⟨method, hmethod⟩ := List.exists_mem_of_ne_nil _ (h.methods_ne_nil registration hmem)
    have hmethods := h.mem_methods hmem hmethod
    rw [h.methodsFor_eq]
    apply List.ne_nil_of_mem
    refine List.mem_filter.mpr ⟨hmethods, List.any_eq_true.mpr ⟨registration, hmem, ?_⟩⟩
    simpa using hmethod

/-! ## Steps -/

/-- What is registered has a name that is not taken, some method, and the template and the endpoint
that it is registered with. -/
theorem of_check (h : registry.check methods source endpoint name = .ok registration) :
    registry.contains name = false ∧ registration.name = name ∧
      Method.ofValue methods = .ok registration.methods ∧
      Route.ofSource source endpoint (some name) = .ok registration.route := by
  unfold check at h
  split_ifs at h with hfrozen hcontains
  split at h
  · cases h
  next hmethods =>
    split at h
    · cases h
    next route hroute =>
      cases h
      obtain ⟨template, -, htemplate⟩ := Except.map_eq_ok_iff.mp hroute
      refine ⟨by simpa using hcontains, ?_, hmethods, hroute⟩
      rw [Registration.name, ← htemplate]
      rfl

theorem Represents.register (h : registry.Represents log)
    (hregister : registry.register methods source endpoint name = .ok (next, registration)) :
    next.Represents (log ++ [registration]) := by
  obtain ⟨_, hcheck, hpair⟩ := Except.map_eq_ok_iff.mp hregister
  cases hpair
  obtain ⟨hnew, rfl, hmethods, hsource⟩ := of_check hcheck
  have hfresh : registration.name ∉ log.map (·.name) := by
    rw [h.contains_eq, List.any_eq_false] at hnew
    simpa using hnew
  exact h.add hfresh (Method.ne_nil_of_ofValue hmethods) hsource

theorem Represents.registerEntry (h : registry.Represents log) {index : Nat} {value : Value}
    (hentry : registry.registerEntry index value = .ok (next, registration)) :
    next.Represents (log ++ [registration]) := by
  unfold Registry.registerEntry at hentry
  split at hentry
  · cases hentry
  · exact h.register hentry

theorem Represents.loadEntries (h : registry.Represents log) (index : Nat) (values : List Value) :
    (registry.loadEntries index values).registry.Represents
      (log ++ (registry.loadEntries index values).registered) := by
  induction values generalizing registry log index with
  | nil => simpa [Registry.loadEntries] using h
  | cons value rest ih =>
    simp only [Registry.loadEntries]
    split
    · simpa using h
    next next registration hentry =>
      have hrest := ih (h.registerEntry hentry) (index + 1)
      rwa [List.append_assoc] at hrest

theorem Represents.load (h : registry.Represents log) (table : Value) :
    (registry.load table).registry.Represents (log ++ (registry.load table).registered) := by
  unfold Registry.load
  split
  · simpa using h
  · exact h.loadEntries 0 _

theorem Represents.loadFile (h : registry.Represents log) (tree : FileTree) (name : String) :
    (registry.loadFile tree name).registry.Represents
      (log ++ (registry.loadFile tree name).registered) := by
  unfold Registry.loadFile
  split
  · simpa using h
  · exact h.load _

end Registry

/-! ## Runs -/

namespace History

theorem represents_perform {history : History} (h : history.registry.Represents history.log)
    (call : Call) : (history.perform call).registry.Represents (history.perform call).log := by
  cases call with
  | register methods source endpoint name =>
    simp only [perform]
    split
    next hregister => exact h.register hregister
    · exact h
  | load table => exact h.load table
  | loadFile tree name => exact h.loadFile tree name
  | freeze => exact h.freeze

theorem represents_foldl {history : History} (h : history.registry.Represents history.log)
    (calls : List Call) :
    (calls.foldl perform history).registry.Represents (calls.foldl perform history).log := by
  induction calls generalizing history with
  | nil => exact h
  | cons call calls ih => exact ih (represents_perform h call)

theorem represents_run (calls : List Call) : (run calls).registry.Represents (run calls).log :=
  represents_foldl Registry.represents_empty calls

theorem log_prefix_perform (history : History) (call : Call) :
    history.log <+: (history.perform call).log := by
  cases call with
  | register methods source endpoint name =>
    simp only [perform]
    split
    · exact List.prefix_append _ _
    · exact List.prefix_rfl
  | load _ => exact List.prefix_append _ _
  | loadFile _ _ => exact List.prefix_append _ _
  | freeze => exact List.prefix_rfl

theorem log_prefix_foldl (history : History) (calls : List Call) :
    history.log <+: (calls.foldl perform history).log := by
  induction calls generalizing history with
  | nil => exact List.prefix_rfl
  | cons call calls ih => exact (log_prefix_perform history call).trans (ih _)

theorem run_append (before after : List Call) :
    run (before ++ after) = after.foldl perform (run before) :=
  List.foldl_append

theorem log_prefix_run (before after : List Call) :
    (run before).log <+: (run (before ++ after)).log := by
  rw [run_append]
  exact log_prefix_foldl _ after

/-- At every point of a run the views of the registry are those of the log of all registrations so
far, of which no two have a name in common, and the log of the whole run begins with this log. -/
theorem agrees_run (before after : List Call) :
    (run before).registry.Agrees (run before).log ∧
      (run before).log <+: (run (before ++ after)).log := by
  refine ⟨(represents_run before).agrees, ?_⟩
  rw [run, run, List.foldl_append]
  exact log_prefix_foldl _ after

end History
end TypedRoutes
