import TypedRoutes.Command.Actions
import TypedRoutes.Dispatch.Basic
import TypedRoutes.Proofs.Command.Transcript
import TypedRoutes.Proofs.Files.Tree
import TypedRoutes.Proofs.Routing.Registration
import TypedRoutes.Proofs.Text.LetterCase

/-!
# Asking for the route of a request

A dispatcher, a resolver and the command that resolves a request are asked for the same route in
three ways. With the same settings they find the same one, whatever letter case the method has, and
the command tells of it what the dispatcher decides by.
-/
namespace TypedRoutes

namespace Method

variable {method : Method} {name : String}

theorem all_isUpper_token (method : Method) : method.token.toList.all Char.isUpper = true := by
  cases method <;> rfl

theorem upper_of_toUpper (h : name.toUpper = method.token) : Text.upper name = method.token :=
  Text.upper_of_toUpper h method.all_isUpper_token

theorem toUpper_token (method : Method) : method.token.toUpper = method.token := by
  cases method <;> decide +kernel

theorem ofName?_of_toUpper (h : name.toUpper = method.token) : ofName? name = some method := by
  rw [ofName?, upper_of_toUpper h, ofToken?_token]

/-- A method in any letter case is the only one that its text names. -/
theorem ofValue_of_toUpper (h : name.toUpper = method.token) :
    ofValue (.text name) = .ok [method] := by
  have hbars : splitBars name = [.text name] := by
    have hbar : '|' ∉ name.toList := fun hmem =>
      (Text.upperChar_of_isAlpha
        (Text.isAlpha_of_toUpper h method.all_isUpper_token hmem)).2.2 rfl
    rw [splitBars, List.splitOn_eq_singleton hbar, List.map_singleton, String.ofList_toList]
  have hnames : Names (.text name) method :=
    ⟨name, rfl, by
      rw [Text.strip_of_toUpper h method.all_isUpper_token, upper_of_toUpper h]⟩
  exact ofValue_eq_ok_iff.mpr
    ⟨[.text name], [method], congrArg some hbars, .cons hnames .nil, List.cons_ne_nil _ _, rfl⟩

end Method

/-- What asking for the route of a request comes to. -/
inductive Finding where
  /-- No route accepts the path. -/
  | nothing
  /-- The parameters of the route cannot be read. -/
  | unreadable (route : Route) (fault : Fault)
  /-- The route, and the others that accept the path too. -/
  | found (route : Route) (arguments : Arguments) (others : List Route)

def Finding.route? : Finding → Option Route
  | nothing => none
  | unreadable route _ | found route _ _ => some route

/-- What a resolver finds for a request. -/
def Resolver.finding (resolver : Resolver) (request : Request) : Finding :=
  match resolver.matchAll request.method request.path with
  | [] => .nothing
  | first :: others =>
    match first.decode with
    | .error fault => .unreadable first.route fault
    | .ok arguments => .found first.route arguments (others.map (·.route))

theorem Resolver.finding_freeze (registry : Registry) (settings : Settings) (request : Request) :
    finding ⟨registry.freeze, settings⟩ request = finding ⟨registry, settings⟩ request := by
  have hroutes (token : String) :
      registry.freeze.routesForToken token = registry.routesForToken token := rfl
  simp only [finding, matchAll, hroutes]

/-- Whether an outcome has the route that was found, and its arguments if they are to be used. -/
structure Finding.AgreesWith (finding : Finding) (outcome : Outcome) : Prop where
  nothing_iff : finding = .nothing ↔ outcome.route? = none
  unreadable_iff (route : Route) (fault : Fault) : finding = .unreadable route fault ↔
    outcome.status = 400 ∧ outcome.route? = some route ∧ outcome.fault? = some fault
  found_iff (route : Route) : (∃ arguments others, finding = .found route arguments others) ↔
    outcome.route? = some route ∧ outcome.status ≠ 400
  arguments_eq {route : Route} {arguments : Arguments} {others : List Route} :
    finding = .found route arguments others →
      outcome.arguments = if outcome.status = 200 then arguments else []

namespace Finding

variable {resolver : Resolver} {dispatcher : Dispatcher} {request : Request} {outcome : Outcome}
variable {route : Route} {arguments : Arguments} {others : List Route}

theorem agreesWith_notRouted (fault : Fault) : Finding.nothing.AgreesWith (.notRouted fault) where
  nothing_iff := iff_of_true rfl rfl
  unreadable_iff _ _ := by simp [Outcome.status]
  found_iff _ := by simp [Outcome.route?]
  arguments_eq := Finding.noConfusion

theorem agreesWith_unreadable (route : Route) (fault : Fault) :
    (Finding.unreadable route fault).AgreesWith (.unreadable route fault) where
  nothing_iff := by simp [Outcome.route?]
  unreadable_iff _ _ := by simp [Outcome.status, Outcome.route?, Outcome.fault?]
  found_iff _ := by simp [Outcome.status]
  arguments_eq := Finding.noConfusion

theorem agreesWith_of_route (hroute : outcome.route? = some route) (hstatus : outcome.status ≠ 400)
    (harguments : outcome.arguments = if outcome.status = 200 then arguments else []) :
    (Finding.found route arguments others).AgreesWith outcome where
  nothing_iff := by simp [hroute]
  unreadable_iff _ _ := by simp [hstatus]
  found_iff _ := by simp [hroute, hstatus]
  arguments_eq h := by
    cases h
    exact harguments

theorem agreesWith_serve (route : Route) (arguments : Arguments) (path : Pathname)
    (what : Option FileTree.Entry) :
    (Finding.found route arguments others).AgreesWith
      (Dispatcher.serve route arguments path what) := by
  unfold Dispatcher.serve
  split
  · split_ifs
    · exact agreesWith_of_route rfl (by simp [Outcome.status]) rfl
    · exact agreesWith_of_route rfl (by simp [Outcome.status]) rfl
  · exact agreesWith_of_route rfl (by simp [Outcome.status]) rfl

/-- Whatever its endpoint comes to, a route is found along with it, unless the name of the endpoint
is too long to be looked up. -/
theorem agreesWith_classify (dispatcher : Dispatcher) (route : Route) (arguments : Arguments)
    (others : List Route) :
    (∃ outcome, dispatcher.classify route arguments = .ok outcome ∧
      (Finding.found route arguments others).AgreesWith outcome) ∨
    ∃ endpoint, route.endpoint = .text endpoint ∧
      dispatcher.files.find (dispatcher.endpointPath endpoint).text = .error .nameTooLong := by
  unfold Dispatcher.classify
  split
  · exact .inl ⟨_, rfl, agreesWith_of_route rfl (by simp [Outcome.status]) rfl⟩
  next endpoint hendpoint =>
    dsimp only
    cases hfind : dispatcher.files.find (dispatcher.endpointPath endpoint).text with
    | ok what => exact .inl ⟨_, rfl, agreesWith_serve route arguments _ what⟩
    | error failure => exact .inr ⟨endpoint, hendpoint, by rw [hfind, FileTree.nameTooLong_of_find hfind]⟩
  · exact .inl ⟨_, rfl, agreesWith_of_route rfl (by simp [Outcome.status]) rfl⟩

/-- What a dispatcher decides by is what its resolver finds. -/
theorem agreesWith_outcome (dispatcher : Dispatcher) (request : Request) :
    (∃ outcome, dispatcher.outcome request = .ok outcome ∧
      (dispatcher.resolver.finding request).AgreesWith outcome) ∨
    ∃ found endpoint, dispatcher.resolver.resolve? request.method request.path = some found ∧
      found.route.endpoint = .text endpoint ∧
      dispatcher.files.find (dispatcher.endpointPath endpoint).text = .error .nameTooLong := by
  have hfirst : dispatcher.resolver.resolve? request.method request.path =
      (dispatcher.resolver.matchAll request.method request.path).head? :=
    Route.matchFirst?_eq_head? _ _
  unfold Dispatcher.outcome Resolver.finding
  rw [hfirst]
  cases dispatcher.resolver.matchAll request.method request.path with
  | nil => exact .inl ⟨_, rfl, agreesWith_notRouted _⟩
  | cons found others =>
    dsimp only [List.head?_cons]
    cases found.decode with
    | error fault => exact .inl ⟨_, rfl, agreesWith_unreadable _ _⟩
    | ok arguments =>
      rcases agreesWith_classify dispatcher found.route arguments (others.map (·.route)) with
        h | ⟨endpoint, hendpoint, hfind⟩
      · exact .inl h
      · exact .inr ⟨found, endpoint, rfl, hendpoint, hfind⟩

theorem AgreesWith.route?_eq {finding : Finding} (h : finding.AgreesWith outcome) :
    outcome.route? = finding.route? := by
  cases finding with
  | nothing => exact h.nothing_iff.mp rfl
  | unreadable route fault => exact ((h.unreadable_iff route fault).mp rfl).2.1
  | found route arguments others => exact ((h.found_iff route).mp ⟨arguments, others, rfl⟩).1

theorem route?_finding (resolver : Resolver) (request : Request) :
    (resolver.finding request).route? =
      (resolver.resolve? request.method request.path).map (·.route) := by
  have hfirst : resolver.resolve? request.method request.path =
      (resolver.matchAll request.method request.path).head? :=
    Route.matchFirst?_eq_head? _ _
  unfold Resolver.finding
  rw [hfirst]
  cases resolver.matchAll request.method request.path with
  | nil => rfl
  | cons found others =>
    dsimp only [List.head?_cons, Option.map_some]
    cases found.decode <;> rfl

end Finding

namespace ActionContext

/-- Tells what was found for a request. -/
def tell (context : ActionContext) (request : Request) (showAll : Bool) :
    Finding → Transcript Unit
  | .nothing => .refuse (crossed ++ "No route matches " ++ request.method ++ " " ++ request.path)
  | .unreadable route fault => .refuse (crossed ++ route.name ++ ": " ++ fault.text)
  | .found route arguments others => do
    .success (ticked ++ request.method ++ " " ++ request.path ++ " " ++ Layout.arrow ++ " " ++
      Style.apply { bold := true } route.name)
    context.unlessQuiet do
      Layout.pair "Template" route.template.raw
      arguments.forM fun (name, value) => Layout.pair name value.display
    if showAll then
      others.forM fun other =>
        .dim ("  shadowed: " ++ other.name ++ "  " ++ other.template.raw)

variable {context : ActionContext} {file name uri : String} {table : Entries} {method : Method}

theorem firstMethod_of_toUpper {name : String} {method : Method}
    (h : name.toUpper = method.token) : firstMethod name = .ok method.token := by
  rw [firstMethod, Method.ofValue_of_toUpper h]
  rfl

/-- A table that loads makes a resolver, and nothing but records. -/
theorem buildResolver_of_loadFile
    (hload : (Registry.empty.loadFile context.files file).failure = none) :
    let loading := Registry.empty.loadFile context.files file
    context.buildResolver file =
      ⟨(LogRecord.atLeast context.options.logLevel
          (loading.records ++ [loading.registry.freezeRecord])).map .record,
        .ok ⟨loading.registry.freeze, context.settings⟩⟩ := by
  intro loading
  have hresult : loading.result = .ok loading.routes := by
    unfold Loading.result
    rw [hload]
  unfold buildResolver
  dsimp only
  rw [hresult, Transcript.orRefuse_ok]
  exact Transcript.log_bind_log _ _ _ _

/-- Resolving a request is building a resolver and telling what it finds. -/
theorem find_of_toUpper (hmethod : name.toUpper = method.token) (context : ActionContext)
    (file uri : String) (showAll : Bool) :
    context.find file name uri showAll =
      context.buildResolver file >>= fun resolver =>
        let request : Request := ⟨method.token, Uri.clean uri resolver.settings.baseUri⟩
        context.tell request showAll (resolver.finding request) := by
  unfold find
  rw [firstMethod_of_toUpper hmethod, Transcript.orRefuse_ok, Transcript.pure_bind]
  refine congrArg (context.buildResolver file >>= ·) (funext fun resolver => ?_)
  unfold Resolver.finding
  dsimp only
  cases resolver.matchAll method.token (Uri.clean uri resolver.settings.baseUri) with
  | nil => rfl
  | cons first others =>
    dsimp only
    cases first.decode with
    | error fault => rfl
    | ok arguments =>
      dsimp only [tell]
      rw [Transcript.forM_map]
      rfl

theorem result_tell (context : ActionContext) (request : Request) (showAll : Bool)
    (finding : Finding) :
    (context.tell request showAll finding).result =
      match finding with
      | .found .. => .ok ()
      | _ => .error (.exit 1) := by
  cases finding with
  | nothing => rfl
  | unreadable route fault => rfl
  | found route arguments others =>
    have hpairs : (context.unlessQuiet do
        Layout.pair "Template" route.template.raw
        arguments.forM fun (name, value) => Layout.pair name value.display).IsCalm () := by
      unfold unlessQuiet
      split_ifs
      · exact Transcript.isCalm_pure ()
      · exact (Transcript.isCalm_line _).bind
          (Transcript.isCalm_forM fun _ _ => Transcript.isCalm_line _)
    have hothers : (if showAll then
        others.forM fun other =>
          .dim ("  shadowed: " ++ other.name ++ "  " ++ other.template.raw)
        else pure () : Transcript Unit).IsCalm () := by
      split_ifs
      · exact Transcript.isCalm_forM fun _ _ => Transcript.isCalm_line _
      · exact Transcript.isCalm_pure ()
    exact ((Transcript.isCalm_line _).bind (hpairs.bind hothers)).1

/-- A table with a route that has no endpoint. -/
def numbering : ActionContext where
  files := .ofFiles [("t", "routes: [\x7bname: page, template: '/\x7bi:n\x7d'\x7d]")]
  settings := .ofRaw { baseUri := "/b" }
  options := { isVerbose := false, isQuiet := false, configFile := none }
  width := 80

end ActionContext
end TypedRoutes
