import TypedRoutes.Dispatch.Basic
import TypedRoutes.Proofs.Attempt
import TypedRoutes.Proofs.Parameter.Oversized
import TypedRoutes.Proofs.Routing.Reversal

/-!
# Unreadable parameters

A matched path leaves no parameter without a text, and of these texts only numbers that are too
large cannot be read. A request is answered with status 400 exactly if there is one, and the fault
is about the first of them in the order of the parameters.
-/
namespace TypedRoutes

namespace Captures

/-- Whether the text of a parameter is a number that is too large. -/
def Oversized (captures : Captures) (name : String) (kind : Kind) : Prop :=
  ∃ text, captures.lookup name = some text ∧ kind.Oversized text.toList

/-- Whether a parameter is the first one whose text is a number that is too large. -/
def FirstOversized (captures : Captures) (parameters : Named Kind) (name : String) (kind : Kind)
    (text : String) : Prop :=
  ∃ earlier later, parameters = earlier ++ (name, kind) :: later ∧
    (∀ other ∈ earlier, ¬captures.Oversized other.1 other.2) ∧
    captures.lookup name = some text ∧ kind.Oversized text.toList

end Captures

namespace Route

variable {route : Route} {captures : Captures} {parameters : Named Kind} {path : String}
variable {parameter : String × Kind} {fault : Fault}

/-! ## What is matched -/

theorem fit_of_match? (ht : route.template.WellFormed)
    (h : route.template.match? path = some captures) : captures.Fit route.parameters :=
  fun _ _ hmem => (Template.align_of_match? h).exists_lookup ht.names_nodup hmem

theorem namesMissingFrom_of_match? (h : route.template.match? path = some captures) :
    route.namesMissingFrom captures = [] := by
  rw [namesMissingFrom_eq_nil_iff]
  intro name hname
  rw [parameters, ← (Template.align_of_match? h).names_eq, ← Named.isSome_lookup_iff] at hname
  exact Option.isSome_iff_exists.mp hname

theorem decode_of_match? (h : route.template.match? path = some captures) :
    route.decode captures = route.decodeAll captures route.parameters := by
  rw [decode, namesMissingFrom_of_match? h]

/-! ## Parameter by parameter -/

/-- Reads the text of one parameter. -/
def decodeEntry (route : Route) (captures : Captures) (parameter : String × Kind) :
    Except Fault (String × Scalar) :=
  (route.decodeParameter parameter.1 parameter.2 ((captures.lookup parameter.1).getD "")).map
    fun scalar => (parameter.1, scalar)

theorem decodeAll_eq_mapM (route : Route) (captures : Captures) (parameters : Named Kind) :
    route.decodeAll captures parameters = parameters.mapM (route.decodeEntry captures) := by
  induction parameters with
  | nil => rfl
  | cons parameter rest ih =>
    obtain ⟨name, kind⟩ := parameter
    rw [decodeAll]
    cases hread : route.decodeParameter name kind ((captures.lookup name).getD "") with
    | error fault => rw [mapM_cons_of_error (by rw [decodeEntry, hread]; rfl)]
    | ok scalar => rw [mapM_cons_of_ok (by rw [decodeEntry, hread]; rfl), ih]

theorem decodeEntry_eq_error_iff (hfit : captures.Fit parameters) (hmem : parameter ∈ parameters) :
    route.decodeEntry captures parameter = .error fault ↔
      ∃ text, captures.lookup parameter.1 = some text ∧ parameter.2.Oversized text.toList ∧
        fault = .textUnreadable text parameter.2.label (some parameter.1) (some route.name) := by
  obtain ⟨text, htext, hmatch⟩ := hfit _ _ hmem
  rw [decodeEntry, htext, Option.getD_some, Except.map_eq_error_iff, decodeParameter]
  simp only [Option.some.injEq, exists_eq_left', ← Kind.decode?_eq_none_iff hmatch]
  cases parameter.2.decode? text <;> simp [eq_comm]

theorem exists_decodeEntry_iff (hfit : captures.Fit parameters) (hmem : parameter ∈ parameters) :
    (∃ entry, route.decodeEntry captures parameter = .ok entry) ↔
      ¬captures.Oversized parameter.1 parameter.2 := by
  have herror (fault : Fault) := @decodeEntry_eq_error_iff route _ _ _ fault hfit hmem
  constructor
  · rintro ⟨entry, hentry⟩ ⟨text, htext, hoversized⟩
    simp [(herror _).mpr ⟨text, htext, hoversized, rfl⟩] at hentry
  · intro hnot
    cases hread : route.decodeEntry captures parameter with
    | ok entry => exact ⟨entry, rfl⟩
    | error fault =>
      obtain ⟨text, htext, hoversized, -⟩ := (herror fault).mp hread
      exact absurd ⟨text, htext, hoversized⟩ hnot

/-! ## All parameters -/

/-- Decoding what is matched ends with the first parameter whose text is a number that is too
large. -/
theorem decode_eq_error_iff (ht : route.template.WellFormed)
    (h : route.template.match? path = some captures) :
    route.decode captures = .error fault ↔
      ∃ name kind text, captures.FirstOversized route.parameters name kind text ∧
        fault = .textUnreadable text kind.label (some name) (some route.name) := by
  have hfit := fit_of_match? ht h
  rw [decode_of_match? h, decodeAll_eq_mapM, mapM_eq_error_iff]
  constructor
  · rintro ⟨earlier, ⟨name, kind⟩, later, heq, hearlier, herror⟩
    have hmem : (name, kind) ∈ route.parameters := by simp [heq]
    obtain ⟨text, htext, hoversized, hfault⟩ := (decodeEntry_eq_error_iff hfit hmem).mp herror
    refine ⟨name, kind, text, ⟨earlier, later, heq, ?_, htext, hoversized⟩, hfault⟩
    intro other hother
    exact (exists_decodeEntry_iff hfit (by simp [heq, hother])).mp (hearlier other hother)
  · rintro ⟨name, kind, text, ⟨earlier, later, heq, hearlier, htext, hoversized⟩, rfl⟩
    refine ⟨earlier, (name, kind), later, heq, ?_, ?_⟩
    · intro other hother
      exact (exists_decodeEntry_iff hfit (by simp [heq, hother])).mpr (hearlier other hother)
    · exact (decodeEntry_eq_error_iff hfit (by simp [heq])).mpr ⟨text, htext, hoversized, rfl⟩

theorem decode_ne_parametersMissing {name : String} {missing : List String}
    (h : route.template.match? path = some captures) :
    route.decode captures ≠ .error (.parametersMissing name missing) := by
  rw [decode_of_match? h, decodeAll_eq_mapM]
  intro hdecode
  obtain ⟨_, parameter, _, -, -, herror⟩ := mapM_eq_error_iff.mp hdecode
  rw [decodeEntry, Except.map_eq_error_iff, decodeParameter] at herror
  split at herror <;> cases herror

theorem exists_decode_eq_error_iff (ht : route.template.WellFormed)
    (h : route.template.match? path = some captures) :
    (∃ fault, route.decode captures = .error fault) ↔
      ∃ name kind, (name, kind) ∈ route.parameters ∧ captures.Oversized name kind := by
  constructor
  · rintro ⟨fault, hfault⟩
    obtain ⟨name, kind, text, ⟨earlier, later, heq, -, htext, hoversized⟩, -⟩ :=
      (decode_eq_error_iff ht h).mp hfault
    exact ⟨name, kind, by simp [heq], text, htext, hoversized⟩
  · rintro ⟨name, kind, hmem, text, htext, hoversized⟩
    cases hdecode : route.decode captures with
    | error fault => exact ⟨fault, rfl⟩
    | ok arguments =>
      obtain ⟨scalar, -, hread⟩ := (decode_eq_ok_iff.mp hdecode).2.exists_mem hmem
      obtain ⟨other, hother, hmatch⟩ := fit_of_match? ht h name kind hmem
      rw [Reads, htext, Option.getD_some] at hread
      cases htext.symm.trans hother
      simp [(Kind.decode?_eq_none_iff hmatch).mpr hoversized] at hread

end Route

namespace Resolver

/-- What a request resolves to is a match of a registered route. -/
theorem match?_of_resolve? {resolver : Resolver} {log : List Registration} {found : RouteMatch}
    {token path : String}
    (hlog : resolver.registry.Represents log) (h : resolver.resolve? token path = some found) :
    found.route.template.WellFormed ∧
      found.route.template.match? path = some found.captures := by
  obtain ⟨route, hroute, hmatch⟩ := List.exists_of_findSome?_eq_some h
  obtain ⟨captures, hcaptures, rfl⟩ := Option.map_eq_some_iff.mp hmatch
  obtain ⟨registration, hregistration, rfl⟩ := hlog.exists_registration hroute
  obtain ⟨source, endpoint, hsource⟩ := hlog.ofSource registration hregistration
  exact ⟨Route.wellFormed_of_ofSource hsource, hcaptures⟩

end Resolver

namespace Dispatcher

variable {dispatcher : Dispatcher} {route : Route} {arguments : Arguments} {outcome : Outcome}
variable {method uri : String} {found : RouteMatch}

theorem status_of_classify (h : dispatcher.classify route arguments = .ok outcome) :
    outcome.status ≠ 400 := by
  unfold classify at h
  split at h
  · cases h
    simp [Outcome.status]
  · obtain ⟨entry, -, rfl⟩ := Except.map_eq_ok_iff.mp h
    unfold serve
    split
    · split <;> simp [Outcome.status]
    · simp [Outcome.status]
  · cases h
    simp [Outcome.status]

/-- A request that resolves to a route is answered with status 400 exactly if what is captured
cannot be decoded. -/
theorem dispatch_with_status_iff
    (hfound : dispatcher.resolver.resolve? (Text.upper method) (dispatcher.clean uri) =
      some found) :
    (dispatcher.dispatch method uri = .ok outcome ∧ outcome.status = 400) ↔
      ∃ fault, found.decode = .error fault ∧ outcome = .unreadable found.route fault := by
  unfold dispatch Dispatcher.outcome request
  dsimp only
  rw [hfound]
  dsimp only
  cases found.decode with
  | error fault =>
    constructor
    · rintro ⟨houtcome, -⟩
      exact ⟨fault, rfl, (Except.ok.inj houtcome).symm⟩
    · rintro ⟨_, hfault, rfl⟩
      cases hfault
      exact ⟨rfl, rfl⟩
  | ok arguments =>
    constructor
    · rintro ⟨hclassify, hstatus⟩
      exact absurd hstatus (status_of_classify hclassify)
    · rintro ⟨_, hfault, -⟩
      cases hfault

/-- Matched texts can be read but for numbers that are too large, and matched paths leave no
parameter without a text. Hence a request that resolves to a route is answered with status 400
exactly if some number in its path is too large, and the fault is about the first of these. -/
theorem dispatch_run (calls : List History.Call) (settings own : Settings) (files : FileTree) :
    let dispatcher : Dispatcher := ⟨⟨(History.run calls).registry, own⟩, settings, files⟩
    (∀ kind text, Kind.matchesText kind text.toList = true →
      ((∃ fault, kind.decode text = .error fault) ↔ kind.Oversized text.toList)) ∧
    (∀ route path captures, Template.match? (Route.template route) path = some captures →
      ∀ name missing, route.decode captures ≠ .error (.parametersMissing name missing)) ∧
    ∀ method uri found,
      dispatcher.resolver.resolve? (Text.upper method) (dispatcher.clean uri) = some found →
      ((∃ outcome, dispatcher.dispatch method uri = .ok outcome ∧ outcome.status = 400) ↔
        ∃ name kind, (name, kind) ∈ found.route.parameters ∧ found.captures.Oversized name kind) ∧
      ∀ outcome, (dispatcher.dispatch method uri = .ok outcome ∧ outcome.status = 400) ↔
        ∃ name kind text, found.captures.FirstOversized found.route.parameters name kind text ∧
          outcome = .unreadable found.route
            (.textUnreadable text kind.label (some name) (some found.route.name)) := by
  intro dispatcher
  have hlog : dispatcher.resolver.registry.Represents (History.run calls).log :=
    History.represents_run calls
  refine ⟨fun kind text => Kind.exists_decode_eq_error_iff, ?_, ?_⟩
  · intro route path captures hmatch name missing
    exact Route.decode_ne_parametersMissing hmatch
  · intro method uri found hfound
    obtain ⟨ht, hmatch⟩ := Resolver.match?_of_resolve? hlog hfound
    constructor
    · rw [← Route.exists_decode_eq_error_iff ht hmatch]
      constructor
      · rintro ⟨outcome, houtcome⟩
        obtain ⟨fault, hfault, -⟩ := (dispatch_with_status_iff hfound).mp houtcome
        exact ⟨fault, hfault⟩
      · rintro ⟨fault, hfault⟩
        exact ⟨_, (dispatch_with_status_iff hfound).mpr ⟨fault, hfault, rfl⟩⟩
    · intro outcome
      rw [dispatch_with_status_iff hfound]
      constructor
      · rintro ⟨fault, hfault, rfl⟩
        obtain ⟨name, kind, text, hfirst, rfl⟩ := (Route.decode_eq_error_iff ht hmatch).mp hfault
        exact ⟨name, kind, text, hfirst, rfl⟩
      · rintro ⟨name, kind, text, hfirst, rfl⟩
        exact ⟨_, (Route.decode_eq_error_iff ht hmatch).mpr ⟨name, kind, text, hfirst, rfl⟩, rfl⟩

/-- A route of a count and a measure. -/
def measured : Route :=
  ⟨"t", ⟨[.literal "", .literal "t", .parameter .integer "n", .parameter .float "x"], false⟩, .null⟩

theorem isAddressable_measured : measured.template.IsAddressable where
  leading_slash := by decide +kernel
  literal_plain := by
    intro text htext
    obtain rfl | rfl : text = "" ∨ text = "t" := by simpa [measured] using htext
    · decide
    · decide
  ends_ne_nil :=
    .inr ⟨⟨.literal "t", rfl, by decide⟩, .parameter .float "x", rfl, by decide⟩

def measuringCalls : List History.Call :=
  [.register (.text "GET") "/t/\x7bi:n\x7d/\x7bf:x\x7d" .null "t"]

/-- A dispatcher with this route alone. -/
def measuring : Dispatcher :=
  ⟨⟨(History.run measuringCalls).registry, .ofRaw {}⟩, .ofRaw {}, ⟨[]⟩⟩

/-- The URL of a measure, the count being five. -/
def measuringUrl (text : String) : String :=
  Resolver.appendPath measuring.settings.baseUri (measured.template.fill [("n", "5"), ("x", text)])

theorem resolve?_measuringUrl {text : String} (h : Kind.float.matchesText text.toList = true) :
    measuring.resolver.resolve? (Text.upper "get") (measuring.clean (measuringUrl text)) =
      some ⟨measured, [("n", "5"), ("x", text)]⟩ := by
  have hfit : Captures.Fit [("n", "5"), ("x", text)] measured.template.parameters := by
    intro name kind hmem
    have hcases : "n" = name ∧ .integer = kind ∨ "x" = name ∧ .float = kind := by
      simpa [measured, Template.parameters, Segment.parameter?] using hmem
    rcases hcases with ⟨rfl, rfl⟩ | ⟨rfl, rfl⟩
    · exact ⟨"5", rfl, by decide⟩
    · exact ⟨text, rfl, h⟩
  have hparse : Template.parse "/t/\x7bi:n\x7d/\x7bf:x\x7d" = .ok measured.template := rfl
  have hbase : Uri.IsPlain measuring.settings.baseUri.toList := by decide +kernel
  have hmatch := Resolver.match?_clean_appendPath measuring.settings hbase hparse
    isAddressable_measured hfit
  have hfirst : measured.match? (measuring.clean (measuringUrl text)) =
      some ⟨measured, [("n", "5"), ("x", text)]⟩ := Option.map_eq_some_iff.mpr ⟨_, hmatch, rfl⟩
  have hroutes : measuring.resolver.registry.routesForToken (Text.upper "get") = [measured] := rfl
  rw [Resolver.resolve?, hroutes, Route.matchFirst?, List.findSome?_cons, hfirst]

/-- The least whole number that is too large for a floating-point value. -/
def thresholdText : String :=
  String.ofList (Number.digits ((2 ^ 54 - 1) * 2 ^ 970))

theorem plainNumeral_thresholdText :
    PlainNumeral thresholdText.toList ((2 ^ 54 - 1) * 2 ^ 970) 0 := by
  have h := PlainNumeral.whole (Number.digits_ne_nil ((2 ^ 54 - 1) * 2 ^ 970))
    fun _ => Number.isDigit_of_mem_digits
  rwa [Number.ofDigits_digits, ← String.toList_ofList (l := Number.digits _)] at h

theorem oversized_thresholdText : Kind.float.Oversized thresholdText.toList := by
  change Binary64.overflowThreshold ≤ Number.plainValue thresholdText.toList
  rw [plainNumeral_thresholdText.plainValue_eq, zpow_zero, mul_one,
    Binary64.cast_overflowThreshold]

/-- The count can be read, and the measure is too large. -/
theorem dispatch_run_measuring :
    ∃ outcome, measuring.dispatch "get" (measuringUrl thresholdText) = .ok outcome ∧
      outcome.status = 400 := by
  have hresolve := resolve?_measuringUrl plainNumeral_thresholdText.matchesText
  have hrun := (dispatch_run measuringCalls (.ofRaw {}) (.ofRaw {}) ⟨[]⟩).2.2 _ _ _ hresolve
  exact hrun.1.mpr ⟨"x", .float, .tail _ (.head _), thresholdText, rfl, oversized_thresholdText⟩

end Dispatcher
end TypedRoutes
