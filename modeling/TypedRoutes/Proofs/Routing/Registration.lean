import TypedRoutes.Proofs.Attempt
import TypedRoutes.Proofs.Number.Numeral
import TypedRoutes.Proofs.Routing.History
import TypedRoutes.Routing.Operation

/-!
# Refused registrations

A registration goes through if the registry is open, the name is new, the methods are supported and
the template can be read. Otherwise the first of these checks that fails decides the refusal, and
the registry stays as it is. A frozen registry stays as it is for good.
-/
namespace TypedRoutes

/-! ## Methods -/

namespace Method

variable {item value : Value} {method : Method} {methods : List Method} {failure : Failure}

/-- Whether an item is a text that names a method, up to the blanks around it and letter case. -/
def Names (item : Value) (method : Method) : Prop :=
  ∃ s, item = .text s ∧ Text.upper (Text.strip s) = method.token

/-- Whether a value names some methods and nothing else, in the order in which they first occur. -/
def Lists (value : Value) (methods : List Method) : Prop :=
  ∃ items named, itemsOf? value = some items ∧ List.Forall₂ Names items named ∧ named ≠ [] ∧
    methods = named.eraseDups

/-- How an item that names no method is refused. An item that is no text is told by its own text,
unless it holds a number that is too long to be shown. -/
inductive RefusesItem : Value → Failure → Prop
  | unsupported {s : String} (h : Text.upper (Text.strip s) ∉ tokens) :
    RefusesItem (.text s) (.fault (.methodInvalid (Text.upper (Text.strip s)) tokens))
  | noText {item : Value} (htext : ∀ s, item ≠ .text s) (hshow : item.isShowable = true) :
    RefusesItem item (.fault (.methodInvalid item.plain tokens))
  | tooLong {item : Value} (htext : ∀ s, item ≠ .text s) (hshow : item.isShowable = false) :
    RefusesItem item .outOfRange

/-- How a value that does not name methods is refused: by its shape, by its first item that names
none, or because it has no items. -/
inductive Refuses (value : Value) : Failure → Prop
  | shape (h : itemsOf? value = none) : Refuses value .wrongShape
  | item {before after : List Value} {item : Value} {failure : Failure}
    (h : itemsOf? value = some (before ++ item :: after))
    (hbefore : ∀ other ∈ before, ∃ method, Names other method) (hitem : RefusesItem item failure) :
    Refuses value failure
  | empty (h : itemsOf? value = some []) : Refuses value (.fault (.methodInvalid "" tokens))

theorem ofToken?_eq_none_iff {token : String} : ofToken? token = none ↔ token ∉ tokens := by
  simp only [ofToken?, tokens, List.find?_eq_none, beq_iff_eq, List.mem_map, not_exists, not_and]

theorem names_text_iff {s : String} :
    Names (.text s) method ↔ ofToken? (Text.upper (Text.strip s)) = some method := by
  rw [Names, ofToken?_eq_some_iff]
  simp only [Value.text.injEq, exists_eq_left']
  exact eq_comm

theorem ofItem_eq_ok_iff : ofItem item = .ok method ↔ Names item method := by
  unfold ofItem
  split
  next s =>
    rw [names_text_iff]
    dsimp only
    split
    next other hother => simp [hother]
    next hnone => simp [hnone]
  next htext =>
    have hnames : ¬Names item method := by
      rintro ⟨s, rfl, -⟩
      exact htext s rfl
    split_ifs <;> simp [hnames]

theorem ofItem_eq_error_iff : ofItem item = .error failure ↔ RefusesItem item failure := by
  constructor
  · intro h
    unfold ofItem at h
    split at h
    next s =>
      dsimp only at h
      split at h
      · cases h
      next hnone =>
        cases h
        exact .unsupported (ofToken?_eq_none_iff.mp hnone)
    next htext =>
      split_ifs at h with hshow
      · cases h
        exact .noText htext hshow
      · cases h
        exact .tooLong htext (by simpa using hshow)
  · intro h
    cases h with
    | unsupported htoken => simp [ofItem, ofToken?_eq_none_iff.mpr htoken]
    | noText htext hshow =>
      unfold ofItem
      split
      next s => exact absurd rfl (htext s)
      · rw [if_pos hshow]
    | tooLong htext hshow =>
      unfold ofItem
      split
      next s => exact absurd rfl (htext s)
      · rw [hshow]
        rfl

theorem mapM_ofItem_eq_ok_iff {items : List Value} :
    items.mapM ofItem = .ok methods ↔ List.Forall₂ Names items methods := by
  simp only [mapM_eq_ok_iff, ofItem_eq_ok_iff]

theorem ofValue_eq_ok_iff : ofValue value = .ok methods ↔ Lists value methods := by
  constructor
  · intro h
    unfold ofValue at h
    split at h
    · cases h
    next items hitems =>
      split at h
      · cases h
      · cases h
      next named hne hnamed =>
        cases h
        exact ⟨items, named, hitems, mapM_ofItem_eq_ok_iff.mp hnamed, hne, rfl⟩
  · rintro ⟨items, named, hitems, hnamed, hne, rfl⟩
    obtain ⟨first, rest, rfl⟩ := List.exists_cons_of_ne_nil hne
    simp [ofValue, hitems, mapM_ofItem_eq_ok_iff.mpr hnamed]

theorem ofValue_eq_error_iff : ofValue value = .error failure ↔ Refuses value failure := by
  constructor
  · intro h
    unfold ofValue at h
    split at h
    next hitems =>
      cases h
      exact .shape hitems
    next items hitems =>
      split at h
      next hrefused =>
        cases h
        obtain ⟨before, item, after, rfl, hbefore, hitem⟩ := mapM_eq_error_iff.mp hrefused
        simp only [ofItem_eq_ok_iff] at hbefore
        exact .item hitems hbefore (ofItem_eq_error_iff.mp hitem)
      next hnamed =>
        cases h
        cases mapM_ofItem_eq_ok_iff.mp hnamed
        exact .empty hitems
      · cases h
  · intro h
    cases h with
    | shape hitems => simp [ofValue, hitems]
    | @item before after item _ hitems hbefore hitem =>
      simp only [← ofItem_eq_ok_iff] at hbefore
      have hrefused : (before ++ item :: after).mapM ofItem = .error failure :=
        mapM_eq_error_iff.mpr ⟨_, _, _, rfl, hbefore, ofItem_eq_error_iff.mpr hitem⟩
      simp only [ofValue, hitems, hrefused]
    | empty hitems => simp [ofValue, hitems, pure, Except.pure]

end Method

/-! ## Registrations step by step -/

namespace Registry

namespace Operation

variable {α β : Type}

theorem on_bind (x : Operation α) (f : α → Operation β) (registry : Registry) :
    (x >>= f).on registry = match x.on registry with
      | (.ok a, next) => (f a).on next
      | (.error failure, next) => (.error failure, next) := by
  unfold on
  rw [run_bind]
  rcases StateT.run (ExceptT.run x) registry with ⟨_ | _, _⟩ <;> rfl

theorem on_require (result : Except Failure α) (registry : Registry) :
    (require result).on registry = (result, registry) :=
  rfl

theorem on_forM_enterAt (route : Route) (methods : List Method) (registry : Registry) :
    (methods.forM (enterAt route)).on registry =
      (.ok (), { registry with
        byMethod := methods.foldl (MethodTable.enter route) registry.byMethod }) := by
  induction methods generalizing registry with
  | nil => rfl
  | cons method methods ih => exact ih _

/-- Step by step a registration comes to the same, and a refusal has written nothing. -/
theorem on_register (registry : Registry) (methods : Value) (source : String) (endpoint : Value)
    (name : String) :
    (register methods source endpoint name).on registry =
      match registry.register methods source endpoint name with
      | .ok (next, registration) => (.ok registration, next)
      | .error failure => (.error failure, registry) := by
  have hget : on get registry = (.ok registry, registry) := rfl
  unfold register Registry.register check
  rw [on_bind, hget]
  dsimp only
  by_cases hfrozen : registry.isFrozen = true
  · rw [if_pos hfrozen, if_pos hfrozen]
    rfl
  rw [if_neg hfrozen, if_neg hfrozen]
  by_cases htaken : registry.contains name = true
  · rw [if_pos htaken, if_pos htaken]
    rfl
  rw [if_neg htaken, if_neg htaken, on_bind, on_require]
  cases Method.ofValue methods with
  | error failure => rfl
  | ok named =>
    dsimp only
    rw [on_bind, on_require]
    cases Route.ofSource source endpoint (some name) with
    | error diagnostic => rfl
    | ok route =>
      dsimp only [Except.mapError]
      rw [on_bind, on_forM_enterAt]
      rfl

end Operation

variable {registry : Registry} {methods : Value} {source : String} {endpoint : Value}
variable {name : String} {failure : Failure}

/-- How a registration is refused: by the first check that fails. -/
inductive FirstRefusal (registry : Registry) (methods : Value) (source name : String) :
    Failure → Prop
  | frozen (hfrozen : registry.isFrozen = true) :
    FirstRefusal registry methods source name (.fault (.registryFrozen name))
  | taken (hopen : registry.isFrozen = false) (htaken : registry.contains name = true) :
    FirstRefusal registry methods source name
      (.fault (.nameTaken name ((registry.methodsFor name).map Method.token)))
  | methods {failure : Failure} (hopen : registry.isFrozen = false)
    (hnew : registry.contains name = false) (hmethods : Method.Refuses methods failure) :
    FirstRefusal registry methods source name failure
  | template {named : List Method} {diagnostic : Diagnostic} (hopen : registry.isFrozen = false)
    (hnew : registry.contains name = false) (hmethods : Method.Lists methods named)
    (htemplate : Template.parse source = .error diagnostic) :
    FirstRefusal registry methods source name (.fault (.templateRejected diagnostic))

theorem register_eq_error_iff :
    registry.register methods source endpoint name = .error failure ↔
      registry.FirstRefusal methods source name failure := by
  rw [register, Except.map_eq_error_iff]
  unfold check
  constructor
  · intro h
    split_ifs at h with hfrozen htaken
    · cases h
      exact .frozen hfrozen
    · cases h
      exact .taken (by simpa using hfrozen) htaken
    · rw [Bool.not_eq_true] at hfrozen htaken
      split at h
      next hmethods =>
        cases h
        exact .methods hfrozen htaken (Method.ofValue_eq_error_iff.mp hmethods)
      next hmethods =>
        split at h
        next htemplate =>
          cases h
          exact .template hfrozen htaken (Method.ofValue_eq_ok_iff.mp hmethods)
            (Except.map_eq_error_iff.mp htemplate)
        · cases h
  · rintro (hfrozen | ⟨hopen, htaken⟩ | ⟨hopen, hnew, hmethods⟩ |
      ⟨hopen, hnew, hmethods, htemplate⟩)
    · simp [hfrozen]
    · simp [hopen, htaken]
    · simp [hopen, hnew, Method.ofValue_eq_error_iff.mpr hmethods]
    · have hroute : Route.ofSource source endpoint (some name) = .error _ :=
        Except.map_eq_error_iff.mpr htemplate
      simp [hopen, hnew, Method.ofValue_eq_ok_iff.mpr hmethods, hroute]

theorem register_of_isFrozen (h : registry.isFrozen = true) :
    registry.register methods source endpoint name = .error (.fault (.registryFrozen name)) :=
  register_eq_error_iff.mpr (.frozen h)

theorem exists_register_eq_ok_iff :
    (∃ next registration,
      registry.register methods source endpoint name = .ok (next, registration)) ↔
      registry.isFrozen = false ∧ registry.contains name = false ∧
        (∃ named, Method.Lists methods named) ∧ ∃ t, Template.parse source = .ok t := by
  constructor
  · rintro ⟨next, registration, h⟩
    have hopen : registry.isFrozen = false := by
      rw [← Bool.not_eq_true]
      intro hfrozen
      rw [register_of_isFrozen hfrozen] at h
      cases h
    obtain ⟨_, hcheck, -⟩ := Except.map_eq_ok_iff.mp h
    obtain ⟨hnew, -, hmethods, hsource⟩ := of_check hcheck
    obtain ⟨t, htemplate, -⟩ := Except.map_eq_ok_iff.mp hsource
    exact ⟨hopen, hnew, ⟨_, Method.ofValue_eq_ok_iff.mp hmethods⟩, t, htemplate⟩
  · rintro ⟨hopen, hnew, ⟨named, hmethods⟩, t, htemplate⟩
    have hroute : Route.ofSource source endpoint (some name) = .ok ⟨name, t, endpoint⟩ :=
      Except.map_eq_ok_iff.mpr ⟨t, htemplate, rfl⟩
    refine ⟨_, ⟨⟨name, t, endpoint⟩, named⟩, Except.map_eq_ok_iff.mpr ⟨_, ?_, rfl⟩⟩
    simp [check, hopen, hnew, Method.ofValue_eq_ok_iff.mpr hmethods, hroute]

/-! ## Frozen registries -/

theorem loadEntries_of_isFrozen (h : registry.isFrozen = true) (index : Nat)
    (values : List Value) :
    (registry.loadEntries index values).registry = registry ∧
      (registry.loadEntries index values).registered = [] := by
  cases values with
  | nil => exact ⟨rfl, rfl⟩
  | cons value rest =>
    have hrefused : ∃ failure, registry.registerEntry index value = .error failure := by
      unfold registerEntry
      split
      · exact ⟨_, rfl⟩
      · exact ⟨_, register_of_isFrozen h⟩
    obtain ⟨failure, hfailure⟩ := hrefused
    simp [loadEntries, hfailure]

theorem load_of_isFrozen (h : registry.isFrozen = true) (table : Value) :
    (registry.load table).registry = registry ∧ (registry.load table).registered = [] := by
  unfold load
  split
  · exact ⟨rfl, rfl⟩
  · exact loadEntries_of_isFrozen h 0 _

theorem loadFile_of_read {tree : FileTree} {table : Entries}
    (hread : RouteTable.read tree name = .ok table) (registry : Registry) :
    registry.loadFile tree name = registry.load (.mapping table) := by
  unfold loadFile
  rw [hread]

theorem loadFile_of_isFrozen (h : registry.isFrozen = true) (tree : FileTree) (name : String) :
    (registry.loadFile tree name).registry = registry ∧
      (registry.loadFile tree name).registered = [] := by
  unfold loadFile
  split
  · exact ⟨rfl, rfl⟩
  · exact load_of_isFrozen h _

end Registry

namespace History

variable {history : History}

theorem afterLoading_eq_self {loading : Loading} (hregistry : loading.registry = history.registry)
    (hregistered : loading.registered = []) : history.afterLoading loading = history := by
  rw [afterLoading, hregistry, hregistered, List.append_nil]

/-- No call changes a frozen registry. -/
theorem perform_of_isFrozen (h : history.registry.isFrozen = true) (call : Call) :
    history.perform call = history := by
  cases call with
  | register methods source endpoint name => simp [perform, Registry.register_of_isFrozen h]
  | load table =>
    obtain ⟨hregistry, hregistered⟩ := Registry.load_of_isFrozen h table
    exact afterLoading_eq_self hregistry hregistered
  | loadFile tree name =>
    obtain ⟨hregistry, hregistered⟩ := Registry.loadFile_of_isFrozen h tree name
    exact afterLoading_eq_self hregistry hregistered
  | freeze => rw [perform, Registry.freeze, ← h]

theorem foldl_perform_of_isFrozen (h : history.registry.isFrozen = true) (calls : List Call) :
    calls.foldl perform history = history := by
  induction calls with
  | nil => rfl
  | cons call calls ih => rw [List.foldl_cons, perform_of_isFrozen h, ih]

theorem run_append_freeze (before after : List Call) :
    run (before ++ .freeze :: after) = ⟨(run before).registry.freeze, (run before).log⟩ := by
  rw [run_append, List.foldl_cons]
  exact foldl_perform_of_isFrozen rfl after

end History

namespace Registry

/-- In every state that is reached a registration is refused exactly if a check fails, by the first
one that does, and then nothing has been written. Once a registry is frozen, no call changes it. -/
theorem register_run (calls : List History.Call) (methods : Value) (source : String)
    (endpoint : Value) (name : String) :
    let registry := (History.run calls).registry
    ((∃ next registration,
        registry.register methods source endpoint name = .ok (next, registration)) ↔
      registry.isFrozen = false ∧ registry.contains name = false ∧
        (∃ named, Method.Lists methods named) ∧ ∃ t, Template.parse source = .ok t) ∧
    (∀ failure, registry.register methods source endpoint name = .error failure ↔
      registry.FirstRefusal methods source name failure) ∧
    (∀ next registration,
      registry.register methods source endpoint name = .ok (next, registration) →
      (Operation.register methods source endpoint name).on registry = (.ok registration, next)) ∧
    (∀ failure, registry.FirstRefusal methods source name failure →
      (Operation.register methods source endpoint name).on registry = (.error failure, registry)) ∧
    ∀ later, History.run (calls ++ .freeze :: later) =
      ⟨registry.freeze, (History.run calls).log⟩ := by
  intro registry
  refine ⟨exists_register_eq_ok_iff, fun failure => register_eq_error_iff, ?_, ?_,
    History.run_append_freeze calls⟩
  · intro next registration hregister
    rw [Operation.on_register, hregister]
  · intro failure hrefusal
    rw [Operation.on_register, register_eq_error_iff.mpr hrefusal]

/-- A method that is not supported is refused in the middle of a list, before the template is read,
and the methods in front of it are not written. -/
theorem register_run_brew :
    let calls : List History.Call := [.register (.text "GET") "/" .null "home"]
    let registry := (History.run calls).registry
    let methods : Value := .list [.text " post", .text "brew", .text "GET"]
    let refusal : Failure := .fault (.methodInvalid "BREW" Method.tokens)
    let steps := Operation.register methods "/\x7bi:id" .null "pot"
    registry.FirstRefusal methods "/\x7bi:id" "pot" refusal ∧
      steps.on registry = (.error refusal, registry) := by
  intro calls registry methods refusal steps
  have hpost : ∀ other ∈ [Value.text " post"], ∃ method, Method.Names other method := by
    intro other hother
    rw [List.mem_singleton.mp hother]
    exact ⟨.post, " post", rfl, by decide⟩
  have hbrew : Method.RefusesItem (.text "brew") refusal := .unsupported (by decide)
  have hmethods : Method.Refuses methods refusal :=
    @Method.Refuses.item _ [.text " post"] [.text "GET"] _ _ rfl hpost hbrew
  have hrefusal : registry.FirstRefusal methods "/\x7bi:id" "pot" refusal :=
    .methods rfl rfl hmethods
  exact ⟨hrefusal, (register_run calls methods _ .null _).2.2.2.1 refusal hrefusal⟩

theorem isShowable_long_number : (Value.integer (10 ^ Number.numeralLimit)).isShowable = false := by
  have hdigits : Number.numeralLimit < Number.digitCount (10 ^ Number.numeralLimit) :=
    Number.lt_digitCount_of_pow_le (by decide) le_rfl
  have habs (k : ℕ) : (10 ^ k : ℤ).natAbs = 10 ^ k := by simp [Int.natAbs_pow]
  simp only [Value.isShowable, Scalar.isShowable, Number.intText?, habs]
  rw [if_neg hdigits.not_ge]
  rfl

/-- A number among the methods that is too long to be shown is refused without a fault. -/
theorem register_long_number :
    empty.register (.list [.text "GET", .integer (10 ^ Number.numeralLimit)]) "/" .null "home" =
      .error .outOfRange ∧ ∀ cause, Failure.outOfRange ≠ .fault cause := by
  have hget : ∀ other ∈ [Value.text "GET"], ∃ method, Method.Names other method := by
    intro other hother
    rw [List.mem_singleton.mp hother]
    exact ⟨.get, "GET", rfl, by decide⟩
  have hnumber : Method.RefusesItem (.integer (10 ^ Number.numeralLimit)) .outOfRange :=
    .tooLong (fun _ => Value.noConfusion) isShowable_long_number
  have hmethods : Method.Refuses (.list [.text "GET", .integer (10 ^ Number.numeralLimit)])
      .outOfRange :=
    @Method.Refuses.item _ [.text "GET"] [] _ _ rfl hget hnumber
  exact ⟨register_eq_error_iff.mpr (.methods rfl rfl hmethods), fun _ => Failure.noConfusion⟩

end Registry
end TypedRoutes
