import TypedRoutes.Dispatch.Basic
import TypedRoutes.Proofs.Files.Tree
import TypedRoutes.Proofs.Routing.Loading
import TypedRoutes.Proofs.Routing.Resolution

/-!
# Endpoints of loaded routes

The routes that are loaded from tables have data as endpoints, and none of them can be called. A
request that is granted leads to a file where the endpoint is a text. Any other endpoint that is not
null is taken for a handler, although it is none.
-/
namespace TypedRoutes

/-! ## Data -/

/-- Whether a value is made of null, truth values, numbers, texts, lists and mappings alone. -/
inductive Value.IsData : Value → Prop
  | null : IsData .null
  | boolean (b : Bool) : IsData (.boolean b)
  | integer (n : Int) : IsData (.integer n)
  | float (x : Binary64) : IsData (.float x)
  | text (s : String) : IsData (.text s)
  | list {items : List Value} (h : ∀ item ∈ items, IsData item) : IsData (.list items)
  | mapping {entries : Entries} (hkeys : ∀ entry ∈ entries, IsData entry.1)
    (hvalues : ∀ entry ∈ entries, IsData entry.2) : IsData (.mapping entries)

namespace Value

variable {items : List Value} {entries : Entries} {key value : Value} {name : String}

theorem isData_list_iff : (list items).IsData ↔ ∀ item ∈ items, item.IsData := by
  constructor
  · intro h
    cases h with
    | list hitems => exact hitems
  · exact .list

theorem isData_mapping_iff :
    (mapping entries).IsData ↔ ∀ entry ∈ entries, entry.1.IsData ∧ entry.2.IsData := by
  constructor
  · intro h
    cases h with
    | mapping hkeys hvalues => exact fun entry hentry => ⟨hkeys entry hentry, hvalues entry hentry⟩
  · intro h
    exact .mapping (fun entry hentry => (h entry hentry).1) fun entry hentry => (h entry hentry).2

theorem IsData.insert (h : (Value.mapping entries).IsData) (hkey : key.IsData) (hvalue : value.IsData) :
    (Value.mapping (entries.insert key value)).IsData := by
  rw [isData_mapping_iff] at h ⊢
  exact Entries.forall_mem_insert h hkey hvalue

theorem IsData.get? (h : (Value.mapping entries).IsData) (hget : entries.get? name = some value) :
    value.IsData := by
  obtain ⟨key, hmem⟩ := Entries.exists_mem_of_find? hget
  exact (isData_mapping_iff.mp h _ hmem).2

/-- What is under a name, or null if there is nothing. -/
theorem IsData.getD_get? (h : (Value.mapping entries).IsData) (name : String) :
    ((entries.get? name).getD .null).IsData := by
  cases hget : entries.get? name with
  | none => exact .null
  | some value => exact h.get? hget

theorem invariant_isData : Document.Invariant IsData where
  null := .null
  boolean := .boolean
  integer := .integer
  float := .float
  text := .text
  list := fun _ => .list
  empty := .mapping nofun nofun
  insert := fun _ _ _ hentries hkey _ hvalue => hentries.insert hkey hvalue

end Value

/-! ## Tables -/

namespace RouteTable

variable {tree : FileTree} {name : String} {entries : Entries} {table value : Value}

/-- What is read of a file is data. -/
theorem isData_read (h : read tree name = .ok entries) : (Value.mapping entries).IsData :=
  holds_read Value.invariant_isData h

theorem isData_of_mem_entriesOf {items : List Value} (htable : table.IsData)
    (h : entriesOf table = .ok items) : ∀ item ∈ items, item.IsData := by
  unfold entriesOf at h
  split at h
  next entries =>
    have hroutes := htable.getD_get? "routes"
    split at h
    next hlist =>
      cases h
      rw [hlist] at hroutes
      exact Value.isData_list_iff.mp hroutes
    · split at h
      · cases h
      · cases h
        intro item hitem
        cases hitem
  · cases h

end RouteTable

/-! ## Registrations -/

/-- Whether the routes of a log have data as endpoints. -/
def EndpointsAreData (log : List Registration) : Prop :=
  ∀ registration ∈ log, registration.route.endpoint.IsData

namespace Registry

variable {registry next : Registry} {registration : Registration} {index : Nat}
variable {methods endpoint value : Value} {source name : String}

theorem endpoint_of_register
    (h : registry.register methods source endpoint name = .ok (next, registration)) :
    registration.route.endpoint = endpoint := by
  obtain ⟨_, hcheck, hpair⟩ := Except.map_eq_ok_iff.mp h
  cases hpair
  obtain ⟨-, -, -, hsource⟩ := of_check hcheck
  obtain ⟨_, -, hroute⟩ := Except.map_eq_ok_iff.mp hsource
  rw [← hroute]

theorem isData_registerEntry (hvalue : value.IsData)
    (h : registry.registerEntry index value = .ok (next, registration)) :
    registration.route.endpoint.IsData := by
  obtain ⟨entry, hentry, hregister⟩ := registerEntry_eq_ok_iff.mp h
  obtain ⟨entries, rfl, -, -, -, -, hendpoint⟩ := hentry
  rw [endpoint_of_register hregister, ← hendpoint]
  exact hvalue.getD_get? "endpoint"

theorem endpointsAreData_loadEntries (registry : Registry) (index : Nat) {values : List Value}
    (h : ∀ value ∈ values, value.IsData) :
    EndpointsAreData (registry.loadEntries index values).registered := by
  induction values generalizing registry index with
  | nil =>
    intro registration hmem
    cases hmem
  | cons value rest ih =>
    obtain ⟨hvalue, hrest⟩ := List.forall_mem_cons.mp h
    rw [loadEntries]
    split
    · intro registration hmem
      cases hmem
    next hentry =>
      exact List.forall_mem_cons.mpr ⟨isData_registerEntry hvalue hentry, ih _ _ hrest⟩

theorem endpointsAreData_load (registry : Registry) {table : Value} (h : table.IsData) :
    EndpointsAreData (registry.load table).registered := by
  unfold load
  split
  · nofun
  next hentries =>
    exact endpointsAreData_loadEntries registry 0 (RouteTable.isData_of_mem_entriesOf h hentries)

theorem endpointsAreData_loadFile (registry : Registry) (tree : FileTree) (name : String) :
    EndpointsAreData (registry.loadFile tree name).registered := by
  unfold loadFile
  split
  · nofun
  next hread => exact endpointsAreData_load registry (RouteTable.isData_read hread)

end Registry

namespace History

/-- The calls that populate a registry from tables alone. -/
def Call.LoadsData : Call → Prop
  | .register .. => False
  | .load table => table.IsData
  | .loadFile .. | .freeze => True

theorem endpointsAreData_perform {history : History} {call : Call} (hcall : call.LoadsData)
    (h : EndpointsAreData history.log) : EndpointsAreData (history.perform call).log := by
  cases call with
  | register => cases hcall
  | load table =>
    exact List.forall_mem_append.mpr ⟨h, history.registry.endpointsAreData_load hcall⟩
  | loadFile tree name =>
    exact List.forall_mem_append.mpr ⟨h, history.registry.endpointsAreData_loadFile tree name⟩
  | freeze => exact h

theorem endpointsAreData_foldl {history : History} {calls : List Call}
    (hcalls : ∀ call ∈ calls, call.LoadsData) (h : EndpointsAreData history.log) :
    EndpointsAreData (calls.foldl perform history).log := by
  induction calls generalizing history with
  | nil => exact h
  | cons call calls ih =>
    obtain ⟨hcall, hrest⟩ := List.forall_mem_cons.mp hcalls
    exact ih hrest (endpointsAreData_perform hcall h)

theorem endpointsAreData_run {calls : List Call} (h : ∀ call ∈ calls, call.LoadsData) :
    EndpointsAreData (run calls).log :=
  endpointsAreData_foldl h nofun

end History

/-! ## Granted requests -/

namespace Dispatcher

/-- What a granted request for a route leads to: the file that its endpoint names, or the endpoint
itself. -/
inductive Grants (dispatcher : Dispatcher) (route : Route) : Outcome → Prop
  | script {name content : String} {arguments : Arguments} (hendpoint : route.endpoint = .text name)
    (hfile : dispatcher.files.entry? (dispatcher.endpointPath name).text = some (.file content))
    (hsuffix : (dispatcher.endpointPath name).suffix = ".py".toList) :
    Grants dispatcher route
      (.script route arguments (String.ofList (dispatcher.endpointPath name).text))
  | file {name content : String} {arguments : Arguments} (hendpoint : route.endpoint = .text name)
    (hfile : dispatcher.files.entry? (dispatcher.endpointPath name).text = some (.file content))
    (hsuffix : (dispatcher.endpointPath name).suffix ≠ ".py".toList) :
    Grants dispatcher route
      (.file route arguments (String.ofList (dispatcher.endpointPath name).text))
  | handler {arguments : Arguments} (hnull : route.endpoint ≠ .null)
    (htext : ∀ name, route.endpoint ≠ .text name) :
    Grants dispatcher route (.handler route arguments)

variable {dispatcher : Dispatcher} {route : Route} {arguments : Arguments} {outcome : Outcome}
variable {log : List Registration} {method uri : String}

theorem grants_of_classify (h : dispatcher.classify route arguments = .ok outcome)
    (hstatus : outcome.status = 200) :
    dispatcher.Grants route outcome := by
  unfold classify at h
  split at h
  · cases h
    cases hstatus
  next name hendpoint =>
    obtain ⟨entry, hfind, rfl⟩ := Except.map_eq_ok_iff.mp h
    unfold serve at hstatus ⊢
    split at hstatus
    next content =>
      have hfile := FileTree.entry?_of_find hfind
      dsimp only
      split
      next hsuffix => exact .script hendpoint hfile hsuffix
      next hsuffix => exact .file hendpoint hfile hsuffix
    · cases hstatus
  next hnull htext =>
    cases h
    exact .handler hnull htext

/-- A granted request leads to what the endpoint of a registered route comes to. -/
theorem exists_grants_of_dispatch (hlog : dispatcher.resolver.registry.Represents log)
    (h : dispatcher.dispatch method uri = .ok outcome) (hstatus : outcome.status = 200) :
    ∃ registration ∈ log, dispatcher.Grants registration.route outcome := by
  unfold dispatch Dispatcher.outcome at h
  split at h
  · cases h
    cases hstatus
  next found hfound =>
    rw [Resolver.resolve?_of_represents hlog] at hfound
    obtain ⟨registration, hmem, hanswer⟩ := List.exists_of_findSome?_eq_some hfound
    obtain ⟨-, hmatch⟩ := Registration.answer?_eq_some_iff.mp hanswer
    obtain ⟨_, -, rfl⟩ := Option.map_eq_some_iff.mp hmatch
    split at h
    · cases h
      cases hstatus
    · exact ⟨registration, hmem, grants_of_classify h hstatus⟩

/-- Where routes are loaded from tables, a granted request leads to the file that the endpoint of one
of them names, or the endpoint is data that names none and is dispatched as a handler all the same.
If no endpoint is anything but null or a text, nothing is dispatched as a handler. -/
theorem dispatch_of_loadsData {calls : List History.Call}
    (hcalls : ∀ call ∈ calls, call.LoadsData) (settings own : Settings) (files : FileTree)
    (h : dispatch ⟨⟨(History.run calls).registry, own⟩, settings, files⟩ method uri = .ok outcome) :
    let dispatcher : Dispatcher := ⟨⟨(History.run calls).registry, own⟩, settings, files⟩
    let log := (History.run calls).log
    (outcome.status = 200 → ∃ registration ∈ log, registration.route.endpoint.IsData ∧
      dispatcher.Grants registration.route outcome) ∧
    ((∀ registration ∈ log, registration.route.endpoint = .null ∨
        ∃ name, registration.route.endpoint = .text name) →
      outcome.kind? ≠ some "handler") := by
  intro dispatcher log
  have hlog : dispatcher.resolver.registry.Represents log := History.represents_run calls
  constructor
  · intro hstatus
    obtain ⟨registration, hmem, hgrants⟩ := exists_grants_of_dispatch hlog h hstatus
    exact ⟨registration, hmem, History.endpointsAreData_run hcalls registration hmem, hgrants⟩
  · intro hendpoints hkind
    cases outcome with
    | handler route arguments =>
      obtain ⟨registration, hmem, hgrants⟩ := exists_grants_of_dispatch hlog h rfl
      cases hgrants with
      | handler hnull htext =>
        rcases hendpoints registration hmem with hendpoint | ⟨name, hendpoint⟩
        · exact hnull hendpoint
        · exact htext name hendpoint
    | script | file => simp [Outcome.kind?] at hkind
    | notRouted | unreadable | notFound => cases hkind

/-- A table with one route, for the root. -/
def rootTable (endpoint : Value) : Value :=
  .mapping [(.text "routes", .list [.mapping
    [(.text "name", .text "root"), (.text "template", .text "/"), (.text "endpoint", endpoint)]])]

theorem isData_rootTable {endpoint : Value} (h : endpoint.IsData) : (rootTable endpoint).IsData := by
  simp [rootTable, Value.isData_mapping_iff, Value.isData_list_iff, Value.IsData.text, h]

/-- Of an endpoint that names a script, that is what the request leads to. -/
theorem dispatch_of_loadsData_script :
    let calls : List History.Call := [.load (rootTable (.text "home.py")), .freeze]
    let settings := Settings.ofRaw { pagesDirectory := "pages" }
    let dispatcher : Dispatcher :=
      ⟨⟨(History.run calls).registry, settings⟩, settings, .ofFiles [("pages/home.py", "")]⟩
    (∀ call ∈ calls, call.LoadsData) ∧ ∃ outcome, dispatcher.dispatch "get" "/?a" = .ok outcome ∧
      outcome.kind? = some "script" ∧ ∃ registration ∈ (History.run calls).log,
        registration.route.endpoint.IsData ∧ dispatcher.Grants registration.route outcome := by
  intro calls settings dispatcher
  have hcalls : ∀ call ∈ calls, call.LoadsData := by
    simp [calls, History.Call.LoadsData, isData_rootTable, Value.IsData.text]
  have hkind : ((dispatcher.dispatch "get" "/?a").toOption.bind Outcome.kind?) = some "script" := by
    decide +kernel
  obtain ⟨outcome, houtcome, hscript⟩ := Option.bind_eq_some_iff.mp hkind
  have hdispatch := Except.toOption_eq_some_iff.mp houtcome
  have hstatus : outcome.status = 200 := by
    cases outcome with
    | script => rfl
    | handler | file | notRouted | unreadable | notFound => simp [Outcome.kind?] at hscript
  exact ⟨hcalls, outcome, hdispatch, hscript,
    (dispatch_of_loadsData hcalls settings settings _ hdispatch).1 hstatus⟩

/-- A number is dispatched as a handler. -/
theorem dispatch_number :
    let calls : List History.Call := [.load (rootTable (.integer 5))]
    let settings := Settings.ofRaw {}
    let dispatcher : Dispatcher := ⟨⟨(History.run calls).registry, settings⟩, settings, ⟨[]⟩⟩
    (∀ call ∈ calls, call.LoadsData) ∧
      (dispatcher.dispatch "GET" "/").toOption.map (fun outcome => (outcome.status, outcome.kind?)) =
        some (200, some "handler") := by
  intro calls settings dispatcher
  refine ⟨?_, by decide +kernel⟩
  simp [calls, History.Call.LoadsData, isData_rootTable, Value.IsData.integer]

end Dispatcher
end TypedRoutes
