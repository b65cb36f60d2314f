import TypedRoutes.Proofs.Command.Arguments
import TypedRoutes.Proofs.Command.Finding
import TypedRoutes.Proofs.Route.Generation
import TypedRoutes.Proofs.Routing.Degrading

/-!
# URLs on the command line

Asking for the URL of a route writes it exactly if the arguments give every parameter a last text
whose scalar can stand in a path, and no argument is refused. Then the path is built without a
complaint, and no resolver, strict or lenient, does without it. Otherwise there is one complaint and
no URL.
-/
namespace TypedRoutes

/-! ## Building from arguments -/

/-- Whether the last text that arguments give to a name is read as a scalar of a kind that can stand
in a path. -/
def Argument.LastMatchable (arguments : List String) (name : String) (kind : Kind) : Prop :=
  ∃ text scalar, LastGiven arguments name text ∧ kind.decode text = .ok scalar ∧
    scalar.isMatchable = true

namespace Route

open Argument

variable {route : Route} {arguments : List String} {values : Named Value} {name path : String}
variable {kind : Kind} {value : Value}

/-- Whether arguments complete a route: each is a name and a text, every text that is given to a
parameter can be read, and the last one that is given to each parameter can stand in a path. -/
structure IsCompletedBy (route : Route) (arguments : List String) : Prop where
  separated : ∀ argument ∈ arguments, '=' ∈ argument.toList
  readable : ∀ argument ∈ arguments, ∀ name text kind, Gives argument name text →
    route.parameters.lookup name = some kind → ∃ scalar, kind.decode text = .ok scalar
  complete : ∀ name kind, route.parameters.lookup name = some kind →
    LastMatchable arguments name kind

theorem isCompletedBy_iff : route.IsCompletedBy arguments ↔
    (∀ argument ∈ arguments, ∀ message, ¬Refused route argument message) ∧
      ∀ name kind, route.parameters.lookup name = some kind → LastMatchable arguments name kind := by
  constructor
  · rintro ⟨hseparated, hreadable, hcomplete⟩
    exact ⟨fun argument hmem => not_refused_iff.mpr
      ⟨hseparated argument hmem, hreadable argument hmem⟩, hcomplete⟩
  · rintro ⟨hall, hcomplete⟩
    exact ⟨fun argument hmem => (not_refused_iff.mp (hall argument hmem)).1,
      fun argument hmem => (not_refused_iff.mp (hall argument hmem)).2, hcomplete⟩

/-- The value of a parameter fills its place exactly if it can stand in a path. -/
theorem HoldsLast.exists_place_iff (h : route.HoldsLast arguments values)
    (hkind : route.parameters.lookup name = some kind) :
    (∃ value spelled, values.lookup name = some value ∧ route.place name value = .ok spelled) ↔
      LastMatchable arguments name kind := by
  have hplace {text : String} {scalar : Scalar} (hdecode : kind.decode text = .ok scalar) :
      (∃ spelled, route.place name (.ofScalar scalar) = .ok spelled) ↔
        scalar.isMatchable = true := by
    have hread := Kind.decode_eq_ok_iff.mp hdecode
    have hsupplies := Value.supplies?_ofScalar (Kind.accepts_of_decode? hread)
    simp [place_eq_ok_iff hkind, hsupplies, ← Kind.exists_spells_iff hread]
  constructor
  · rintro ⟨value, spelled, hvalue, hspelled⟩
    obtain ⟨other, text, scalar, hother, hlast, hdecode, rfl⟩ := (h.lookup_iff name value).mp hvalue
    rw [hkind] at hother
    cases hother
    exact ⟨text, scalar, hlast, hdecode, (hplace hdecode).mp ⟨spelled, hspelled⟩⟩
  · rintro ⟨text, scalar, hlast, hdecode, hmatchable⟩
    obtain ⟨spelled, hspelled⟩ := (hplace hdecode).mpr hmatchable
    exact ⟨_, spelled, (h.lookup_iff name _).mpr ⟨kind, text, scalar, hkind, hlast, hdecode, rfl⟩,
      hspelled⟩

theorem HoldsLast.mem_namesMissingFrom_iff (h : route.HoldsLast arguments values) :
    name ∈ route.namesMissingFrom (route.placed values) ↔
      ∃ kind, route.parameters.lookup name = some kind ∧ ¬LastMatchable arguments name kind := by
  have hplaced : (route.placed values).lookup name = none ↔
      ¬∃ value spelled, values.lookup name = some value ∧ route.place name value = .ok spelled := by
    rw [Option.eq_none_iff_forall_ne_some]
    simp only [ne_eq, lookup_placed_iff h.names_nodup, not_exists]
    exact forall_comm
  rw [namesMissingFrom, List.mem_filter, ← Named.isSome_lookup_iff, Option.isSome_iff_exists,
    Option.isNone_iff_eq_none, hplaced]
  constructor
  · rintro ⟨⟨kind, hkind⟩, hnot⟩
    rw [h.exists_place_iff hkind] at hnot
    exact ⟨kind, hkind, hnot⟩
  · rintro ⟨kind, hkind, hnot⟩
    rw [← h.exists_place_iff hkind] at hnot
    exact ⟨⟨kind, hkind⟩, hnot⟩

/-- What arguments give to the parameters of a route that they complete is built into a path, and
there is nothing to complain of. -/
theorem HoldsLast.exists_build (h : route.HoldsLast arguments values)
    (hcomplete : ∀ name kind, route.parameters.lookup name = some kind →
      LastMatchable arguments name kind) :
    ∃ path, route.build values = ⟨[], .ok path⟩ := by
  have hmissing : route.namesMissingFrom (route.placed values) = [] := by
    rw [List.eq_nil_iff_forall_not_mem]
    intro name hmem
    obtain ⟨kind, hkind, hnot⟩ := h.mem_namesMissingFrom_iff.mp hmem
    exact hnot (hcomplete name kind hkind)
  have hcomplaints : route.complaints values = [] := by
    apply complaints_eq_nil
    intro name value hmem
    have hvalue := (Named.lookup_eq_some_iff_mem h.names_nodup).mpr hmem
    obtain ⟨kind, -, -, hkind, -⟩ := (h.lookup_iff name value).mp hvalue
    obtain ⟨other, spelled, hother, hspelled⟩ :=
      (h.exists_place_iff hkind).mpr (hcomplete name kind hkind)
    rw [hvalue] at hother
    cases hother
    exact ⟨spelled, hspelled⟩
  refine ⟨route.template.fill (route.placed values), ?_⟩
  rw [build, hcomplaints, hmissing]

theorem HoldsLast.isCompletedBy_of_result (h : route.HoldsLast arguments values)
    (hall : ∀ argument ∈ arguments, ∀ message, ¬Refused route argument message)
    (hresult : (route.build values).result = .ok path) : route.IsCompletedBy arguments := by
  refine isCompletedBy_iff.mpr ⟨hall, fun name kind hkind => ?_⟩
  by_contra hnot
  have hmem := h.mem_namesMissingFrom_iff.mpr ⟨kind, hkind, hnot⟩
  rcases route.build_cases values with ⟨hnone, -, -⟩ | ⟨-, herror, -⟩
  · rw [hnone] at hmem
    cases hmem
  · rw [herror] at hresult
    cases hresult

end Route

/-! ## Asking for a URL -/

namespace ActionContext

open Argument

variable {context : ActionContext} {file name path message : String} {route : Route}
variable {arguments : List String} {values : Named Value}

/-- What is written of loading a table that loads. -/
def opening (context : ActionContext) (loading : Loading) : List Event :=
  (LogRecord.atLeast context.options.logLevel
    (loading.records ++ [loading.registry.freezeRecord])).map .record

/-- Why there is no URL, with the notes that come before: no route has the name, an argument is
refused, or there are parameters whose last text cannot stand in a path, or that have none. -/
inductive LacksUrl (log : List Registration) (name : String) (arguments : List String) :
    (notes : List String) → (message : String) → Prop
  | unknown (h : name ∉ log.map (·.name)) :
    LacksUrl log name arguments [] ("Unknown route '" ++ name ++ "'")
  | refused {registration : Registration} {before : List String} {message : String}
    (hmem : registration ∈ log) (hname : registration.name = name)
    (h : FirstRefused registration.route arguments before message) :
    LacksUrl log name arguments (notesOn registration.route before) message
  | incomplete {registration : Registration} {missing : List String}
    (hmem : registration ∈ log) (hname : registration.name = name)
    (hall : ∀ argument ∈ arguments, ∀ message, ¬Refused registration.route argument message)
    (hne : missing ≠ [])
    (h : ∀ key, key ∈ missing ↔ ∃ kind, registration.route.parameters.lookup key = some kind ∧
      ¬LastMatchable arguments key kind) :
    LacksUrl log name arguments (notesOn registration.route arguments)
      (Fault.parametersMissing registration.route.name missing).text

/-- The line about the template of a route, in verbose output. -/
def templateLines (context : ActionContext) (route : Route) : List String :=
  if context.options.isVerbose then
    [Style.apply { colour := some .cyan } ("  " ++ route.template.raw)]
  else []

/-- Writes the URL of a named route with values, or complains of what they leave out. -/
def writeUrl (context : ActionContext) (resolver : Resolver) (name : String) (route : Route)
    (withHost : Bool) (values : Named Value) : Transcript Unit :=
  match (route.build values).result with
  | .error fault => .refuse (crossed ++ fault.text)
  | .ok _ => do
    context.ifVerbose (.info ("  " ++ route.template.raw))
    let reversal := resolver.reverse name values withHost
    context.log reversal.records
    match reversal.result with
    | .ok url => .line url
    | .error fault => .stop (.failed (.fault fault))

theorem writeUrl_of_build {resolver : Resolver}
    (hfind : resolver.registry.findByName? name = some route)
    (hbuild : route.build values = ⟨[], .ok path⟩) (context : ActionContext) (withHost : Bool) :
    context.writeUrl resolver name route withHost values =
      ⟨(context.templateLines route ++
        [Resolver.appendPath (resolver.urlPrefix withHost) path]).map .output, .ok ()⟩ := by
  unfold writeUrl
  rw [hbuild, Resolver.reverse_of_build hfind hbuild]
  unfold ifVerbose templateLines
  cases context.options.isVerbose <;> rfl

theorem writeUrl_of_error {fault : Fault} (hresult : (route.build values).result = .error fault)
    (context : ActionContext) (resolver : Resolver) (name : String) (withHost : Bool) :
    context.writeUrl resolver name route withHost values =
      ⟨[.error (complaintOf fault.text)], .error (.exit 1)⟩ := by
  unfold writeUrl
  rw [hresult]
  rfl

variable (hload : (Registry.empty.loadFile context.files file).failure = none)
include hload

/-- Without a route of the name there is nothing to build. -/
theorem buildUrl_of_unknown (withHost : Bool)
    (hname : name ∉ (Registry.empty.loadFile context.files file).registered.map (·.name)) :
    context.buildUrl file name arguments withHost =
      ⟨context.opening (Registry.empty.loadFile context.files file) ++
        [.error (complaintOf ("Unknown route '" ++ name ++ "'"))], .error (.exit 1)⟩ := by
  have hlog := (Registry.represents_empty.loadFile context.files file).freeze
  unfold buildUrl
  rw [buildResolver_of_loadFile hload, Transcript.bind_of_ok rfl]
  dsimp only
  rw [hlog.findByName?_eq_none hname]
  simp only [complaintOf, ← String.append_assoc]
  rfl

/-- With a route of the name, arguments are read and the URL is written. -/
theorem buildUrl_of_mem (withHost : Bool) {registration : Registration}
    (hmem : registration ∈ (Registry.empty.loadFile context.files file).registered) :
    let loading := Registry.empty.loadFile context.files file
    let writing := readValues registration.route [] arguments >>=
      context.writeUrl ⟨loading.registry.freeze, context.settings⟩ registration.name
        registration.route withHost
    context.buildUrl file registration.name arguments withHost =
      ⟨context.opening loading ++ writing.events, writing.result⟩ := by
  intro loading writing
  have hlog := (Registry.represents_empty.loadFile context.files file).freeze
  unfold buildUrl
  rw [buildResolver_of_loadFile hload, Transcript.bind_of_ok rfl]
  dsimp only
  rw [hlog.findByName?_name hmem]
  rfl

/-- Arguments that complete the route come to its URL. -/
theorem buildUrl_of_completed (withHost : Bool) {registration : Registration}
    (hmem : registration ∈ (Registry.empty.loadFile context.files file).registered)
    (hcompleted : registration.route.IsCompletedBy arguments) :
    let loading := Registry.empty.loadFile context.files file
    let resolver : Resolver := ⟨loading.registry.freeze, context.settings⟩
    ∃ values path, registration.route.HoldsLast arguments values ∧
      registration.route.build values = ⟨[], .ok path⟩ ∧
      (registration.route.generate values context.settings.strictGeneration).on [] =
        (.ok path, []) ∧
      (resolver.reverseEach registration.name values withHost).on [] =
        (.ok (Resolver.appendPath (resolver.urlPrefix withHost) path), []) ∧
      context.buildUrl file registration.name arguments withHost =
        ⟨context.opening loading ++ (notesOn registration.route arguments ++
          context.templateLines registration.route ++
          [Resolver.appendPath (resolver.urlPrefix withHost) path]).map .output, .ok ()⟩ := by
  intro loading resolver
  obtain ⟨hall, hcomplete⟩ := Route.isCompletedBy_iff.mp hcompleted
  have hlog := (Registry.represents_empty.loadFile context.files file).freeze
  have hfind : resolver.registry.findByName? registration.name = some registration.route :=
    hlog.findByName?_name hmem
  rw [buildUrl_of_mem hload withHost hmem]
  have hread := readsTo_readValues (Route.holdsLast_nil registration.route) arguments
  generalize readValues registration.route [] arguments = transcript at hread
  cases hread with
  | @values values _ hvalues =>
    obtain ⟨path, hbuild⟩ := Route.HoldsLast.exists_build hvalues hcomplete
    refine ⟨values, path, hvalues, hbuild, Route.on_generate_of_build hbuild _, ?_, ?_⟩
    · rw [Resolver.on_reverseEach, Resolver.reverse_of_build hfind hbuild]
      rfl
    · rw [Transcript.bind_of_ok rfl, writeUrl_of_build hfind hbuild]
      simp [loading, resolver]
  | refused h =>
    obtain ⟨argument, after, rfl, -, hrefused⟩ := h
    exact absurd hrefused (hall argument (by simp) _)

/-- Arguments that do not complete a route of the name come to one complaint. -/
theorem buildUrl_of_not_completed (withHost : Bool)
    (hnot : ∀ registration ∈ (Registry.empty.loadFile context.files file).registered,
      registration.name = name → ¬registration.route.IsCompletedBy arguments) :
    let loading := Registry.empty.loadFile context.files file
    ∃ notes message, LacksUrl loading.registered name arguments notes message ∧
      context.buildUrl file name arguments withHost =
        ⟨context.opening loading ++ notes.map .output ++ [.error (complaintOf message)],
          .error (.exit 1)⟩ := by
  intro loading
  by_cases hname : name ∈ loading.registered.map (·.name)
  · obtain ⟨registration, hmem, rfl⟩ := List.mem_map.mp hname
    rw [buildUrl_of_mem hload withHost hmem]
    have hread := readsTo_readValues (Route.holdsLast_nil registration.route) arguments
    generalize readValues registration.route [] arguments = transcript at hread
    cases hread with
    | @values values hall hvalues =>
      rw [List.nil_append] at hvalues
      rcases registration.route.build_cases values with
        ⟨-, hresult, -⟩ | ⟨hmissing, hresult, -⟩
      · exact absurd (hvalues.isCompletedBy_of_result hall hresult) (hnot registration hmem rfl)
      · refine ⟨_, _, .incomplete hmem rfl hall hmissing fun key =>
          hvalues.mem_namesMissingFrom_iff, ?_⟩
        rw [Transcript.bind_of_ok rfl, writeUrl_of_error hresult]
        simp [loading]
    | refused h =>
      refine ⟨_, _, .refused hmem rfl h, ?_⟩
      rw [Transcript.bind_of_error rfl]
      simp [loading]
  · refine ⟨[], _, .unknown hname, ?_⟩
    rw [buildUrl_of_unknown hload withHost hname]
    simp [loading]

omit hload

/-- A URL is written exactly if the arguments complete a route of the name. It has the path that is
built of the values that are given last, behind what every URL begins with; building this path again
to find the URL comes to the path, without a record, and there is no fault to recover from. Otherwise
the exit code is one, after the notes on ignored names and one complaint. -/
theorem buildUrl_never_degrades (context : ActionContext) (file name : String)
    (arguments : List String) (withHost : Bool)
    (hload : (Registry.empty.loadFile context.files file).failure = none) :
    let loading := Registry.empty.loadFile context.files file
    let resolver : Resolver := ⟨loading.registry.freeze, context.settings⟩
    let command := context.buildUrl file name arguments withHost
    (command.exitCode = 0 ↔ ∃ registration ∈ loading.registered, registration.name = name ∧
      registration.route.IsCompletedBy arguments) ∧
    (∀ registration ∈ loading.registered, registration.name = name →
      registration.route.IsCompletedBy arguments →
      ∃ values path, registration.route.HoldsLast arguments values ∧
        registration.route.build values = ⟨[], .ok path⟩ ∧
        (registration.route.generate values context.settings.strictGeneration).on [] =
          (.ok path, []) ∧
        (resolver.reverseEach name values withHost).on [] =
          (.ok (Resolver.appendPath (resolver.urlPrefix withHost) path), []) ∧
        command = ⟨context.opening loading ++ (notesOn registration.route arguments ++
          context.templateLines registration.route ++
          [Resolver.appendPath (resolver.urlPrefix withHost) path]).map .output, .ok ()⟩) ∧
    (command.exitCode ≠ 0 →
      ∃ notes message, LacksUrl loading.registered name arguments notes message ∧
        command = ⟨context.opening loading ++ notes.map .output ++ [.error (complaintOf message)],
          .error (.exit 1)⟩) := by
  intro loading resolver command
  have hwrites (registration : Registration) (hmem : registration ∈ loading.registered)
      (hname : registration.name = name) (hcompleted : registration.route.IsCompletedBy arguments) :=
    hname ▸ buildUrl_of_completed hload withHost hmem hcompleted
  have hlacks (h : ¬∃ registration ∈ loading.registered, registration.name = name ∧
      registration.route.IsCompletedBy arguments) :
      ∃ notes message, LacksUrl loading.registered name arguments notes message ∧
        command = ⟨context.opening loading ++ notes.map .output ++ [.error (complaintOf message)],
          .error (.exit 1)⟩ :=
    buildUrl_of_not_completed hload withHost fun registration hmem hname hcompleted =>
      h ⟨registration, hmem, hname, hcompleted⟩
  have hcode : (∃ registration ∈ loading.registered, registration.name = name ∧
      registration.route.IsCompletedBy arguments) → command.exitCode = 0 := by
    rintro ⟨registration, hmem, hname, hcompleted⟩
    obtain ⟨_, _, -, -, -, -, hcommand⟩ := hwrites registration hmem hname hcompleted
    simp only [command]
    rw [hcommand]
    rfl
  refine ⟨⟨fun hzero => ?_, hcode⟩, hwrites, fun hne => hlacks (mt hcode hne)⟩
  by_contra hnone
  obtain ⟨_, _, -, hcommand⟩ := hlacks hnone
  rw [hcommand] at hzero
  cases hzero

/-- The last number counts, and a name that is no parameter is noted. A number with a sign leaves the
parameter without a text for its place. -/
theorem buildUrl_never_degrades_page :
    let registered := (Registry.empty.loadFile numbering.files "t").registered
    let command := numbering.buildUrl "t" "page" ["n=-1", "x=2", "n=7"] false
    (Registry.empty.loadFile numbering.files "t").failure = none ∧
      command.outputs = [ignoring "x", "/b/7"] ∧
      (∃ registration ∈ registered, registration.name = "page" ∧
        registration.route.IsCompletedBy ["n=-1", "x=2", "n=7"]) ∧
      ∃ notes message, LacksUrl registered "page" ["n=7", "n=-1"] notes message := by
  intro registered command
  have hload : (Registry.empty.loadFile numbering.files "t").failure = none := by decide +kernel
  have houtputs : command.outputs = [ignoring "x", "/b/7"] := by decide +kernel
  have hcode : command.exitCode = 0 := by decide +kernel
  have hfails : (numbering.buildUrl "t" "page" ["n=7", "n=-1"] false).exitCode ≠ 0 := by
    decide +kernel
  obtain ⟨hiff, -, -⟩ :=
    buildUrl_never_degrades numbering "t" "page" ["n=-1", "x=2", "n=7"] false hload
  obtain ⟨-, -, hlacks⟩ := buildUrl_never_degrades numbering "t" "page" ["n=7", "n=-1"] false hload
  obtain ⟨notes, message, hlack, -⟩ := hlacks hfails
  exact ⟨hload, houtputs, hiff.mp hcode, notes, message, hlack⟩

end ActionContext
end TypedRoutes
