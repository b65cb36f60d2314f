import TypedRoutes.Proofs.Document.Keys
import TypedRoutes.Proofs.Routing.Registration

/-!
# Loading entry by entry

What an entry of a table comes to depends on the registry and not on its place, and a refused entry
leaves no trace. So a table can be tried entry by entry: those that are accepted load on their own,
and each of the others is refused behind those accepted before it.
-/
namespace TypedRoutes

namespace RouteTable

/-! ## Tables in files -/

theorem holds_readDocument {P : Value → Prop} (hP : Document.Invariant P) {path : Pathname}
    {content : String} {document : Value} (h : readDocument path content = .ok document) :
    P document := by
  unfold readDocument at h
  dsimp only at h
  split at h
  · cases h
  · split at h
    · exact (Json.gives_read hP content).of_ok h
    · exact (Yaml.gives_read hP content).of_ok h

/-- What holds of all that is read of documents holds of tables in files. -/
theorem holds_read {P : Value → Prop} (hP : Document.Invariant P) {tree : FileTree} {name : String}
    {entries : Entries} (h : read tree name = .ok entries) : P (.mapping entries) := by
  unfold read at h
  dsimp only at h
  split at h
  · cases h
  · cases h
  · cases h
  · split at h
    · cases h
    next hread =>
      split at h
      · cases h
        exact holds_readDocument hP hread
      · split at h
        · cases h
        · cases h
          exact hP.empty

/-! ## Entries at other places -/

variable {index : Nat} {value : Value} {entry : Entry} {entries : Entries} {key text : String}

theorem requiredText_eq_ok_iff :
    requiredText index entries key = .ok text ↔ entries.get? key = some (.text text) := by
  unfold requiredText
  split <;> simp_all

/-- Whether a value gives an entry. One that gives no methods is for GET, and one that gives no
endpoint has none. -/
def Entry.IsGivenBy (entry : Entry) (value : Value) : Prop :=
  ∃ entries : Entries, value = .mapping entries ∧
    entries.get? "name" = some (.text entry.name) ∧
    entries.get? "template" = some (.text entry.template) ∧
    (entries.get? "methods").getD (.text "GET") = entry.methods ∧
    areMethods entry.methods = true ∧ (entries.get? "endpoint").getD .null = entry.endpoint

theorem Entry.ofValue_eq_ok_iff : Entry.ofValue index value = .ok entry ↔
    entry.IsGivenBy value := by
  constructor
  · intro h
    unfold Entry.ofValue at h
    split at h
    next entries =>
      cases hname : requiredText index entries "name" with
      | error fault =>
        rw [hname] at h
        cases h
      | ok name =>
        cases htemplate : requiredText index entries "template" with
        | error fault =>
          rw [hname, htemplate] at h
          cases h
        | ok template =>
          rw [hname, htemplate] at h
          dsimp only [bind, Except.bind] at h
          split at h
          next hmethods =>
            cases h
            exact ⟨entries, rfl, requiredText_eq_ok_iff.mp hname,
              requiredText_eq_ok_iff.mp htemplate, rfl, hmethods, rfl⟩
          · cases h
    · cases h
  · rintro ⟨entries, rfl, hname, htemplate, hmethods, hshape, hendpoint⟩
    unfold Entry.ofValue
    dsimp only
    rw [requiredText_eq_ok_iff.mpr hname, requiredText_eq_ok_iff.mpr htemplate, hmethods, hendpoint]
    dsimp only [bind, Except.bind]
    rw [if_pos hshape]
    rfl

end RouteTable

namespace Registry

variable {registry next : Registry} {registration : Registration} {index other : Nat}
variable {value : Value} {values : List Value} {failure : Failure}

/-- The place of an entry only shows in the fault that refuses it. -/
theorem registerEntry_eq_ok_iff :
    registry.registerEntry index value = .ok (next, registration) ↔
      ∃ entry : RouteTable.Entry, entry.IsGivenBy value ∧
        registry.register entry.methods entry.template entry.endpoint entry.name =
          .ok (next, registration) := by
  simp only [← @RouteTable.Entry.ofValue_eq_ok_iff index]
  unfold registerEntry
  split
  next hentry => simp [hentry]
  next hentry => simp [hentry]

theorem registerEntry_eq_ok_of_place
    (h : registry.registerEntry index value = .ok (next, registration)) (other : Nat) :
    registry.registerEntry other value = .ok (next, registration) := by
  obtain ⟨entry, hentry, hregister⟩ := registerEntry_eq_ok_iff.mp h
  exact registerEntry_eq_ok_iff.mpr ⟨entry, hentry, hregister⟩

theorem exists_registerEntry_eq_error (h : registry.registerEntry index value = .error failure)
    (other : Nat) : ∃ failure, registry.registerEntry other value = .error failure := by
  cases hother : registry.registerEntry other value with
  | error failure => exact ⟨failure, rfl⟩
  | ok pair =>
    rw [registerEntry_eq_ok_of_place hother index] at h
    cases h

/-- Wherever entries stand, loading them leads to the same registry and fails or not. -/
theorem loadEntries_of_place (registry : Registry) (values : List Value) (index other : Nat) :
    (registry.loadEntries index values).registry = (registry.loadEntries other values).registry ∧
      ((registry.loadEntries index values).failure = none ↔
        (registry.loadEntries other values).failure = none) := by
  induction values generalizing registry index other with
  | nil => exact ⟨rfl, Iff.rfl⟩
  | cons value rest ih =>
    cases hentry : registry.registerEntry index value with
    | error failure =>
      obtain ⟨failure', hother⟩ := exists_registerEntry_eq_error hentry other
      simp [loadEntries, hentry, hother]
    | ok pair =>
      obtain ⟨next, registration⟩ := pair
      have hother := registerEntry_eq_ok_of_place hentry other
      simpa [loadEntries, hentry, hother] using ih next (index + 1) (other + 1)

/-! ## Trying every entry -/

/-- Tries entries one by one, passing over those that are refused. Each comes with its failure. -/
def tryEach (registry : Registry) : List Value → List (Value × Option Failure)
  | [] => []
  | value :: rest =>
    match registry.registerEntry 0 value with
    | .ok (next, _) => (value, none) :: tryEach next rest
    | .error failure => (value, some failure) :: tryEach registry rest

/-- The entries that nothing is held against. -/
def accepted {α : Type} (tried : List (Value × Option α)) : List Value :=
  (tried.filter (·.2.isNone)).map (·.1)

theorem map_fst_tryEach (registry : Registry) (values : List Value) :
    (registry.tryEach values).map (·.1) = values := by
  induction values generalizing registry with
  | nil => rfl
  | cons value rest ih =>
    rw [tryEach]
    split <;> rw [List.map_cons, ih]

/-- Passing over the refused entries, the others load. -/
theorem failure_loadEntries_accepted (registry : Registry) (values : List Value) (index : Nat) :
    (registry.loadEntries index (accepted (registry.tryEach values))).failure = none := by
  induction values generalizing registry index with
  | nil => rfl
  | cons value rest ih =>
    cases hentry : registry.registerEntry 0 value with
    | error failure => simpa [tryEach, hentry, accepted] using ih registry index
    | ok pair =>
      obtain ⟨next, registration⟩ := pair
      have hindex := registerEntry_eq_ok_of_place hentry index
      simpa [tryEach, hentry, accepted, loadEntries, hindex] using ih next (index + 1)

theorem tryEach_take (registry : Registry) (values : List Value) (n : Nat) :
    registry.tryEach (values.take n) = (registry.tryEach values).take n := by
  induction values generalizing registry n with
  | nil => simp [tryEach]
  | cons value rest ih =>
    cases n with
    | zero => rfl
    | succ n =>
      rw [List.take_succ_cons, tryEach, tryEach]
      split <;> rw [List.take_succ_cons, ih]

/-- So do the accepted ones among the first that are tried. -/
theorem failure_loadEntries_of_tryEach {before after : List (Value × Option Failure)}
    (h : registry.tryEach values = before ++ after) (index : Nat) :
    (registry.loadEntries index (accepted before)).failure = none := by
  have hbefore : before = registry.tryEach (values.take before.length) := by
    rw [tryEach_take, h, List.take_left]
  rw [hbefore]
  exact failure_loadEntries_accepted registry _ index

/-- A refused entry is refused behind the entries accepted before it. -/
theorem registerEntry_of_tryEach {before after : List (Value × Option Failure)}
    (h : registry.tryEach values = before ++ (value, some failure) :: after) :
    (registry.loadEntries 0 (accepted before)).registry.registerEntry 0 value =
      .error failure := by
  induction values generalizing registry before with
  | nil => simp [tryEach] at h
  | cons first rest ih =>
    cases hentry : registry.registerEntry 0 first with
    | error failure' =>
      rw [tryEach, hentry] at h
      rcases List.cons_eq_append_iff.mp h with ⟨rfl, hhead⟩ | ⟨others, rfl, hrest⟩
      · cases hhead
        exact hentry
      · have hothers : accepted ((first, some failure') :: others) = accepted others := by
          simp [accepted]
        rw [hothers]
        exact ih hrest
    | ok pair =>
      obtain ⟨next, registration⟩ := pair
      rw [tryEach, hentry] at h
      rcases List.cons_eq_append_iff.mp h with ⟨rfl, hhead⟩ | ⟨others, rfl, hrest⟩
      · cases hhead
      · have hplace := (loadEntries_of_place next (accepted others) 1 0).1
        have hloaded : (registry.loadEntries 0 (accepted ((first, none) :: others))).registry =
            (next.loadEntries 1 (accepted others)).registry := by
          simp [accepted, loadEntries, hentry]
        rw [hloaded, hplace]
        exact ih hrest

theorem failure_loadEntries_eq_none_iff (index : Nat) :
    (registry.loadEntries index values).failure = none ↔
      ∀ tried ∈ registry.tryEach values, tried.2 = none := by
  induction values generalizing registry index with
  | nil => simp [loadEntries, tryEach]
  | cons value rest ih =>
    cases hentry : registry.registerEntry 0 value with
    | error failure =>
      obtain ⟨failure', hindex⟩ := exists_registerEntry_eq_error hentry index
      simp [loadEntries, tryEach, hentry, hindex]
    | ok pair =>
      obtain ⟨next, registration⟩ := pair
      have hindex := registerEntry_eq_ok_of_place hentry index
      simpa [loadEntries, tryEach, hentry, hindex] using ih (index + 1)

/-! ## Failures of entries -/

/-- The methods of an entry are refused by a fault, or because a number among them cannot be
shown. -/
theorem exists_fault_or_of_refuses {methods : Value} (hshape : RouteTable.areMethods methods = true)
    (h : Method.Refuses methods failure) :
    (∃ fault, failure = .fault fault) ∨ failure = .outOfRange ∧ methods.isShowable = false := by
  cases h with
  | shape hitems => cases methods <;> simp_all [RouteTable.areMethods, Method.itemsOf?]
  | @item before after item _ hitems _ hitem =>
    cases hitem with
    | unsupported _ => exact .inl ⟨_, rfl⟩
    | noText _ _ => exact .inl ⟨_, rfl⟩
    | tooLong htext hshow =>
      refine .inr ⟨rfl, ?_⟩
      have hmem : item ∈ before ++ item :: after := by simp
      cases methods with
      | text s =>
        rw [← Option.some.inj hitems, Method.splitBars] at hmem
        obtain ⟨piece, -, hpiece⟩ := List.mem_map.mp hmem
        exact absurd hpiece.symm (htext _)
      | list items =>
        cases hitems
        rw [Bool.eq_false_iff]
        intro hitems
        rw [Value.isShowable_of_mem hmem hitems] at hshow
        cases hshow
      | _ => cases hshape
  | empty _ => exact .inl ⟨_, rfl⟩

/-- An entry is refused by a fault, or because a number in it cannot be shown. -/
theorem exists_fault_or_of_registerEntry
    (h : registry.registerEntry index value = .error failure) :
    (∃ fault, failure = .fault fault) ∨ failure = .outOfRange ∧ value.isShowable = false := by
  unfold registerEntry at h
  split at h
  next fault _ =>
    cases h
    exact .inl ⟨fault, rfl⟩
  next entry hentry =>
    obtain ⟨entries, rfl, -, -, hmethods, hshape, -⟩ := RouteTable.Entry.ofValue_eq_ok_iff.mp hentry
    rcases register_eq_error_iff.mp h with _ | _ | ⟨-, -, hrefuses⟩ | _
    · exact .inl ⟨_, rfl⟩
    · exact .inl ⟨_, rfl⟩
    · rcases exists_fault_or_of_refuses hshape hrefuses with hfault | ⟨hrange, hshow⟩
      · exact .inl hfault
      · refine .inr ⟨hrange, ?_⟩
        rw [Bool.eq_false_iff]
        intro hvalue
        cases hgiven : Entries.get? entries "methods" with
        | none =>
          rw [hgiven] at hmethods
          rw [← hmethods] at hshow
          cases hshow
        | some given =>
          have hpart : Value.get? (.mapping entries) "methods" = some given := hgiven
          rw [hgiven, Option.getD_some] at hmethods
          rw [← hmethods, Value.isShowable_of_get? hpart hvalue] at hshow
          cases hshow
    · exact .inl ⟨_, rfl⟩

end Registry

end TypedRoutes
