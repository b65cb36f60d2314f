import TypedRoutes.Proofs.Routing.Loading

/-!
# The prefix that is loaded

Loading registers the entries of a table one after the other and ends with the first that fails: it
is malformed, or its registration is refused in the registry that those before it lead to. What they
lead to stays. So the entries of a table that loads can be loaded in two parts.
-/
namespace TypedRoutes

/-! ## Malformed entries -/

namespace RouteTable

/-- Why a mapping has no text under a key. -/
inductive LacksText (entries : Entries) (key : String) : (reason : String) → Prop
  | missing (h : entries.get? key = none) : LacksText entries key "required key is missing"
  | noText {value : Value} (h : entries.get? key = some value) (htext : ∀ s, value ≠ .text s) :
    LacksText entries key "expected a string"

/-- Why a value is no entry, and in which part: it is no mapping, or the first of its parts that is
not as it has to be. -/
inductive Malformed : (value : Value) → (part reason : String) → Prop
  | noMapping {value : Value} (h : ∀ entries, value ≠ .mapping entries) :
    Malformed value "" "expected a mapping"
  | name {entries : Entries} {reason : String} (h : LacksText entries "name" reason) :
    Malformed (.mapping entries) ".name" reason
  | template {entries : Entries} {name reason : String}
    (hname : entries.get? "name" = some (.text name)) (h : LacksText entries "template" reason) :
    Malformed (.mapping entries) ".template" reason
  | methods {entries : Entries} {name template : String} {methods : Value}
    (hname : entries.get? "name" = some (.text name))
    (htemplate : entries.get? "template" = some (.text template))
    (hmethods : entries.get? "methods" = some methods) (h : areMethods methods = false) :
    Malformed (.mapping entries) ".methods" "expected a method string or a list of methods"

variable {index : Nat} {value : Value} {entries : Entries} {key : String} {fault : Fault}

theorem requiredText_eq_error_iff : requiredText index entries key = .error fault ↔
    ∃ reason, LacksText entries key reason ∧
      fault = .configInvalid (placeOf index ("." ++ key)) reason := by
  constructor
  · intro h
    unfold requiredText at h
    split at h
    next hnone =>
      cases h
      exact ⟨_, .missing hnone, rfl⟩
    · cases h
    next value htext hsome =>
      cases h
      exact ⟨_, .noText hsome htext, rfl⟩
  · rintro ⟨reason, hlacks, rfl⟩
    unfold requiredText
    cases hlacks with
    | missing h => rw [h]
    | noText h htext =>
      rw [h]
      split
      next hvalue => cases hvalue
      next s hvalue => exact absurd (Option.some.inj hvalue) (htext s)
      · rfl

theorem Entry.ofValue_eq_error_iff : Entry.ofValue index value = .error fault ↔
    ∃ part reason, Malformed value part reason ∧
      fault = .configInvalid (placeOf index part) reason := by
  constructor
  · intro h
    unfold Entry.ofValue at h
    split at h
    next entries =>
      cases hname : requiredText index entries "name" with
      | error _ =>
        rw [hname] at h
        cases h
        obtain ⟨reason, hlacks, rfl⟩ := requiredText_eq_error_iff.mp hname
        exact ⟨_, reason, .name hlacks, rfl⟩
      | ok name =>
        cases htemplate : requiredText index entries "template" with
        | error _ =>
          rw [hname, htemplate] at h
          cases h
          obtain ⟨reason, hlacks, rfl⟩ := requiredText_eq_error_iff.mp htemplate
          exact ⟨_, reason, .template (requiredText_eq_ok_iff.mp hname) hlacks, rfl⟩
        | ok template =>
          rw [hname, htemplate] at h
          dsimp only [bind, Except.bind] at h
          split at h
          · cases h
          next hshape =>
            cases h
            -- Without methods the entry would be for GET, which is a text.
            cases hmethods : Entries.get? entries "methods" with
            | none => exact absurd (by rw [hmethods]; rfl) hshape
            | some methods =>
              rw [hmethods, Option.getD_some, Bool.not_eq_true] at hshape
              exact ⟨_, _, .methods (requiredText_eq_ok_iff.mp hname)
                (requiredText_eq_ok_iff.mp htemplate) hmethods hshape, rfl⟩
    next hmapping =>
      cases h
      exact ⟨_, _, .noMapping hmapping, rfl⟩
  · rintro ⟨part, reason, hmalformed, rfl⟩
    unfold Entry.ofValue
    cases hmalformed with
    | noMapping h =>
      split
      next entries => exact absurd rfl (h entries)
      · rfl
    | name h =>
      dsimp only
      rw [requiredText_eq_error_iff.mpr ⟨reason, h, rfl⟩]
      rfl
    | template hname h =>
      dsimp only
      rw [requiredText_eq_ok_iff.mpr hname, requiredText_eq_error_iff.mpr ⟨reason, h, rfl⟩]
      rfl
    | methods hname htemplate hmethods h =>
      dsimp only
      rw [requiredText_eq_ok_iff.mpr hname, requiredText_eq_ok_iff.mpr htemplate, hmethods,
        Option.getD_some]
      dsimp only [bind, Except.bind]
      rw [h]
      rfl

end RouteTable

/-! ## Entries one after the other -/

namespace Registry

/-- How an entry fails at an index of a table: it is malformed, or its registration is refused. -/
inductive FailsOn (registry : Registry) (index : Nat) (value : Value) : Failure → Prop
  | malformed {part reason : String} (h : RouteTable.Malformed value part reason) :
    FailsOn registry index value (.fault (.configInvalid (RouteTable.placeOf index part) reason))
  | refused {entry : RouteTable.Entry} {failure : Failure} (hentry : entry.IsGivenBy value)
    (h : registry.register entry.methods entry.template entry.endpoint entry.name =
      .error failure) :
    FailsOn registry index value failure

/-- Whether entries are registered one after the other, from one registry to another. -/
inductive Registers :
    (registry : Registry) → List Value → (last : Registry) → List Registration → Prop
  | nil {registry : Registry} : Registers registry [] registry []
  | cons {registry next last : Registry} {value : Value} {rest : List Value}
    {entry : RouteTable.Entry} {registration : Registration} {others : List Registration}
    (hentry : entry.IsGivenBy value)
    (h : registry.register entry.methods entry.template entry.endpoint entry.name =
      .ok (next, registration))
    (hrest : Registers next rest last others) :
    Registers registry (value :: rest) last (registration :: others)

variable {registry next last : Registry} {index : Nat} {value : Value} {values : List Value}
variable {registered : List Registration} {failure : Failure}

theorem registerEntry_eq_error_iff :
    registry.registerEntry index value = .error failure ↔ registry.FailsOn index value failure := by
  constructor
  · intro h
    unfold registerEntry at h
    split at h
    next fault hfault =>
      cases h
      obtain ⟨part, reason, hmalformed, rfl⟩ := RouteTable.Entry.ofValue_eq_error_iff.mp hfault
      exact .malformed hmalformed
    next entry hentry => exact .refused (RouteTable.Entry.ofValue_eq_ok_iff.mp hentry) h
  · intro h
    unfold registerEntry
    cases h with
    | malformed hmalformed =>
      rw [RouteTable.Entry.ofValue_eq_error_iff.mpr ⟨_, _, hmalformed, rfl⟩]
    | refused hentry h =>
      rw [RouteTable.Entry.ofValue_eq_ok_iff.mpr hentry]
      exact h

/-- Loading goes on behind the entries that are registered. -/
theorem loadEntries_of_registers (h : registry.Registers values next registered) (index : Nat)
    (after : List Value) :
    registry.loadEntries index (values ++ after) =
      let more := next.loadEntries (index + values.length) after
      { more with registered := registered ++ more.registered } := by
  induction h generalizing index with
  | nil => rfl
  | @cons registry next last value rest entry registration others hentry hregister _ ih =>
    have hvalue : registry.registerEntry index value = .ok (next, registration) :=
      registerEntry_eq_ok_iff.mpr ⟨entry, hentry, hregister⟩
    have hplace : index + (value :: rest).length = index + 1 + rest.length := by
      rw [List.length_cons]
      omega
    simp only [List.cons_append, loadEntries, hvalue, ih, hplace]

theorem loadEntries_eq_of_registers (h : registry.Registers values last registered)
    (index : Nat) : registry.loadEntries index values = ⟨last, registered, none⟩ := by
  have happend := loadEntries_of_registers h index []
  simpa [loadEntries] using happend

theorem loadEntries_eq_of_failsOn {before after : List Value}
    (h : registry.Registers before last registered)
    (hfails : last.FailsOn (index + before.length) value failure) :
    registry.loadEntries index (before ++ value :: after) =
      ⟨last, registered, some failure⟩ := by
  rw [loadEntries_of_registers h, loadEntries, registerEntry_eq_error_iff.mpr hfails]
  simp

/-- Entries are all registered, or those before the first that fails. -/
theorem registers_or_failsOn (registry : Registry) (index : Nat) (values : List Value) :
    (∃ last registered, registry.Registers values last registered) ∨
      ∃ before value after last registered failure, values = before ++ value :: after ∧
        registry.Registers before last registered ∧
        last.FailsOn (index + before.length) value failure := by
  induction values generalizing registry index with
  | nil => exact .inl ⟨registry, [], .nil⟩
  | cons value rest ih =>
    cases hvalue : registry.registerEntry index value with
    | error failure =>
      exact .inr ⟨[], value, rest, registry, [], failure, rfl, .nil,
        registerEntry_eq_error_iff.mp hvalue⟩
    | ok pair =>
      obtain ⟨next, registration⟩ := pair
      obtain ⟨entry, hentry, hregister⟩ := registerEntry_eq_ok_iff.mp hvalue
      rcases ih next (index + 1) with
        ⟨last, others, hothers⟩ | ⟨before, bad, after, last, others, failure, rfl, hbefore, hbad⟩
      · exact .inl ⟨last, registration :: others, .cons hentry hregister hothers⟩
      · refine .inr ⟨value :: before, bad, after, last, registration :: others, failure, rfl,
          .cons hentry hregister hbefore, ?_⟩
        rw [List.length_cons, Nat.add_comm before.length, ← Nat.add_assoc]
        exact hbad

theorem loadEntries_eq_ok_iff : registry.loadEntries index values = ⟨last, registered, none⟩ ↔
    registry.Registers values last registered := by
  refine ⟨fun h => ?_, fun h => loadEntries_eq_of_registers h index⟩
  rcases registers_or_failsOn registry index values with
    ⟨last', registered', hall⟩ | ⟨before, value, after, last', registered', failure, rfl, hbefore,
      hfails⟩
  · rw [loadEntries_eq_of_registers hall] at h
    cases h
    exact hall
  · rw [loadEntries_eq_of_failsOn hbefore hfails] at h
    cases h

theorem loadEntries_eq_error_iff :
    registry.loadEntries index values = ⟨last, registered, some failure⟩ ↔
      ∃ before value after, values = before ++ value :: after ∧
        registry.Registers before last registered ∧
        last.FailsOn (index + before.length) value failure := by
  constructor
  · intro h
    rcases registers_or_failsOn registry index values with
      ⟨last', registered', hall⟩ | ⟨before, value, after, last', registered', failure', rfl,
        hbefore, hfails⟩
    · rw [loadEntries_eq_of_registers hall] at h
      cases h
    · rw [loadEntries_eq_of_failsOn hbefore hfails] at h
      cases h
      exact ⟨before, value, after, rfl, hbefore, hfails⟩
  · rintro ⟨before, value, after, rfl, hbefore, hfails⟩
    exact loadEntries_eq_of_failsOn hbefore hfails

theorem registers_append_iff {first second : List Value} :
    registry.Registers (first ++ second) last registered ↔
      ∃ next one two, registry.Registers first next one ∧ next.Registers second last two ∧
        registered = one ++ two := by
  induction first generalizing registry registered with
  | nil =>
    constructor
    · intro h
      exact ⟨registry, [], registered, .nil, h, rfl⟩
    · rintro ⟨_, _, _, hfirst, hsecond, rfl⟩
      cases hfirst
      exact hsecond
  | cons value rest ih =>
    constructor
    · intro h
      cases h with
      | cons hentry hregister hrest =>
        obtain ⟨next, one, two, hone, htwo, rfl⟩ := ih.mp hrest
        exact ⟨next, _ :: one, two, .cons hentry hregister hone, htwo, rfl⟩
    · rintro ⟨next, _, two, hfirst, hsecond, rfl⟩
      cases hfirst with
      | cons hentry hregister hrest =>
        exact .cons hentry hregister (ih.mpr ⟨next, _, two, hrest, hsecond, rfl⟩)

end Registry

/-! ## Loading step by step -/

namespace Loading

/-- What loading comes to, and the registry that it leaves. -/
def outcome (loading : Loading) : Except Failure (List Route) × Registry :=
  (loading.result, loading.registry)

variable {loading : Loading} {routes : List Route} {last : Registry} {failure : Failure}

theorem outcome_eq_ok_iff : loading.outcome = (.ok routes, last) ↔
    ∃ registered, loading = ⟨last, registered, none⟩ ∧
      routes = registered.map Registration.route := by
  obtain ⟨registry, registered, _ | _⟩ := loading
  · simp only [outcome, result, Loading.routes, Prod.mk.injEq, Except.ok.injEq, mk.injEq, and_true]
    constructor
    · rintro ⟨rfl, rfl⟩
      exact ⟨registered, ⟨rfl, rfl⟩, rfl⟩
    · rintro ⟨_, ⟨rfl, rfl⟩, rfl⟩
      exact ⟨rfl, rfl⟩
  · simp [outcome, result]

theorem outcome_eq_error_iff : loading.outcome = (.error failure, last) ↔
    ∃ registered, loading = ⟨last, registered, some failure⟩ := by
  obtain ⟨registry, registered, _ | _⟩ := loading
  · simp [outcome, result]
  · simp [outcome, result, and_comm]

end Loading

namespace Registry

namespace Operation

theorem on_registerEntry (registry : Registry) (index : Nat) (value : Value) :
    (registerEntry index value).on registry =
      match registry.registerEntry index value with
      | .ok (next, registration) => (.ok registration, next)
      | .error failure => (.error failure, registry) := by
  unfold registerEntry Registry.registerEntry
  rw [on_bind, on_require]
  cases RouteTable.Entry.ofValue index value with
  | error fault => rfl
  | ok entry =>
    dsimp only [Except.mapError]
    exact on_register registry _ _ _ _

/-- Step by step loading comes to the same, and a failure leaves what was written before it. -/
theorem on_loadEntries (registry : Registry) (index : Nat) (values : List Value) :
    (loadEntries index values).on registry = (registry.loadEntries index values).outcome := by
  induction values generalizing registry index with
  | nil => rfl
  | cons value rest ih =>
    rw [loadEntries, Registry.loadEntries, on_bind, on_registerEntry]
    cases registry.registerEntry index value with
    | error failure => rfl
    | ok pair =>
      obtain ⟨next, registration⟩ := pair
      dsimp only
      rw [on_bind, ih]
      obtain ⟨last, registered, _ | _⟩ := next.loadEntries (index + 1) rest <;> rfl

theorem on_load (registry : Registry) (table : Value) :
    (load table).on registry = (registry.load table).outcome := by
  unfold load Registry.load
  rw [on_bind, on_require]
  cases RouteTable.entriesOf table with
  | error fault => rfl
  | ok values => exact on_loadEntries registry 0 values

end Operation

/-! ## Tables -/

variable {registry : Registry} {table : Entries} {values : List Value}

theorem load_of_list (h : table.get? "routes" = some (.list values)) :
    registry.load (.mapping table) = registry.loadEntries 0 values := by
  simp [load, RouteTable.entriesOf, h]

theorem outcome_load_eq_ok_iff (h : table.get? "routes" = some (.list values))
    {routes : List Route} {last : Registry} :
    (registry.load (.mapping table)).outcome = (.ok routes, last) ↔
      ∃ registered, registry.Registers values last registered ∧
        routes = registered.map Registration.route := by
  rw [load_of_list h, Loading.outcome_eq_ok_iff]
  simp only [loadEntries_eq_ok_iff]

theorem outcome_load_eq_error_iff (h : table.get? "routes" = some (.list values))
    {failure : Failure} {last : Registry} :
    (registry.load (.mapping table)).outcome = (.error failure, last) ↔
      ∃ before value after registered, values = before ++ value :: after ∧
        registry.Registers before last registered ∧
        last.FailsOn before.length value failure := by
  rw [load_of_list h, Loading.outcome_eq_error_iff]
  simp only [loadEntries_eq_error_iff, Nat.zero_add]
  constructor
  · rintro ⟨registered, before, value, after, hvalues, hbefore, hfails⟩
    exact ⟨before, value, after, registered, hvalues, hbefore, hfails⟩
  · rintro ⟨before, value, after, registered, hvalues, hbefore, hfails⟩
    exact ⟨registered, before, value, after, hvalues, hbefore, hfails⟩

/-- The entries of a table load if they load in two parts, and they come to the same. -/
theorem outcome_load_append_eq_ok_iff {front back : Entries} {first second : List Value}
    (h : table.get? "routes" = some (.list (first ++ second)))
    (hfront : front.get? "routes" = some (.list first))
    (hback : back.get? "routes" = some (.list second)) {routes : List Route} {last : Registry} :
    (registry.load (.mapping table)).outcome = (.ok routes, last) ↔
      ∃ next one two, (registry.load (.mapping front)).outcome = (.ok one, next) ∧
        (next.load (.mapping back)).outcome = (.ok two, last) ∧ routes = one ++ two := by
  simp only [outcome_load_eq_ok_iff h, outcome_load_eq_ok_iff hfront, outcome_load_eq_ok_iff hback]
  constructor
  · rintro ⟨registered, hregisters, rfl⟩
    obtain ⟨next, one, two, hone, htwo, rfl⟩ := registers_append_iff.mp hregisters
    exact ⟨next, _, _, ⟨one, hone, rfl⟩, ⟨two, htwo, rfl⟩, List.map_append⟩
  · rintro ⟨next, _, _, ⟨one, hone, rfl⟩, ⟨two, htwo, rfl⟩, rfl⟩
    exact ⟨one ++ two, registers_append_iff.mpr ⟨next, one, two, hone, htwo, rfl⟩,
      List.map_append.symm⟩

/-- In any registry, loading a list of entries registers all of them and returns their routes in
order, or it registers those before the first entry that fails and fails as that one does. It comes
to this step by step, and the entries of a table that loads can be loaded in two parts. -/
theorem load_registers_in_order (registry : Registry) (table : Entries) (values : List Value)
    (h : table.get? "routes" = some (.list values)) :
    (∀ routes last, (registry.load (.mapping table)).outcome = (.ok routes, last) ↔
      ∃ registered, registry.Registers values last registered ∧
        routes = registered.map Registration.route) ∧
    (∀ failure last, (registry.load (.mapping table)).outcome = (.error failure, last) ↔
      ∃ before value after registered, values = before ++ value :: after ∧
        registry.Registers before last registered ∧
        last.FailsOn before.length value failure) ∧
    (Operation.load (.mapping table)).on registry = (registry.load (.mapping table)).outcome ∧
    ∀ (first second : List Value) (front back : Entries), values = first ++ second →
      front.get? "routes" = some (.list first) → back.get? "routes" = some (.list second) →
      ∀ routes last, (registry.load (.mapping table)).outcome = (.ok routes, last) ↔
        ∃ next one two, (registry.load (.mapping front)).outcome = (.ok one, next) ∧
          (next.load (.mapping back)).outcome = (.ok two, last) ∧ routes = one ++ two := by
  refine ⟨fun _ _ => outcome_load_eq_ok_iff h, fun _ _ => outcome_load_eq_error_iff h,
    Operation.on_load registry _, ?_⟩
  rintro first second front back rfl hfront hback routes last
  exact outcome_load_append_eq_ok_iff h hfront hback

/-- A name that is given once more ends loading behind the two entries that are registered, and the
number behind it is not reached. -/
theorem load_registers_in_order_home :
    let entry (name template : String) : Value :=
      .mapping [(.text "name", .text name), (.text "template", .text template)]
    let values := [entry "home" "/", entry "users" "/users", entry "home" "/home", .integer 7]
    let table : Entries := [(.text "routes", .list values)]
    let failure : Failure := .fault (.nameTaken "home" ["GET"])
    table.get? "routes" = some (.list values) ∧
      ∃ before value after registered, values = before ++ value :: after ∧
        empty.Registers before (empty.load (.mapping table)).registry registered ∧
        (empty.load (.mapping table)).registry.FailsOn before.length value failure ∧
        (empty.load (.mapping table)).registry.names = ["home", "users"] := by
  intro entry values table failure
  have htable : table.get? "routes" = some (.list values) := rfl
  have hfailure : (empty.load (.mapping table)).failure = some failure := by decide +kernel
  have hnames : (empty.load (.mapping table)).registry.names = ["home", "users"] := by
    decide +kernel
  have houtcome : (empty.load (.mapping table)).outcome =
      (.error failure, (empty.load (.mapping table)).registry) := by
    rw [Loading.outcome, Loading.result, hfailure]
  obtain ⟨before, value, after, registered, hvalues, hbefore, hfails⟩ :=
    ((load_registers_in_order empty table values htable).2.1 _ _).mp houtcome
  exact ⟨htable, before, value, after, registered, hvalues, hbefore, hfails, hnames⟩

end Registry
end TypedRoutes
