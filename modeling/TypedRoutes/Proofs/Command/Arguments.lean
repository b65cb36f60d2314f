import TypedRoutes.Command.Actions
import TypedRoutes.Proofs.Command.Transcript
import TypedRoutes.Proofs.Named
import TypedRoutes.Proofs.Text.Pieces

/-!
# Arguments that give values

An argument gives a text to a name, and of the texts that are given to a parameter the last one
counts. Reading ends at the first argument that gives nothing, or whose text does not fit the
parameter; a name that is no parameter is passed over with a note.
-/
namespace TypedRoutes

/-! ## Single arguments -/

namespace Argument

variable {argument other name key text : String} {arguments : List String} {route : Route}

/-- Whether an argument gives a text to a name: the name is all that stands before its first equals
sign, and the text all behind it. -/
def Gives (argument name text : String) : Prop :=
  argument = name ++ "=" ++ text ∧ '=' ∉ name.toList

theorem gives_iff_cut :
    Gives argument name text ↔ Text.cut '=' argument.toList = some (name.toList, text.toList) := by
  rw [Text.cut_eq_some_iff, Gives, ← String.toList_inj]
  simp

theorem Gives.unique (h : Gives argument name text) (hother : Gives argument key other) :
    name = key ∧ text = other := by
  rw [gives_iff_cut] at h hother
  rw [h, Option.some.injEq, Prod.mk.injEq, String.toList_inj, String.toList_inj] at hother
  exact hother

theorem Gives.not_gives (h : Gives argument name text) (hne : key ≠ name) (other : String) :
    ¬Gives argument key other := fun hother => hne (hother.unique h).1

theorem exists_gives_iff : (∃ name text, Gives argument name text) ↔ '=' ∈ argument.toList := by
  constructor
  · rintro ⟨name, text, rfl, -⟩
    simp
  · intro hmem
    obtain ⟨key, rest, hargument, hkey⟩ := List.eq_append_cons_of_mem hmem
    refine ⟨String.ofList key, String.ofList rest, gives_iff_cut.mpr ?_⟩
    rw [String.toList_ofList, String.toList_ofList]
    exact Text.cut_eq_some_iff.mpr ⟨hargument, hkey⟩

/-- Whether a text is the last that arguments give to a name. -/
def LastGiven (arguments : List String) (name text : String) : Prop :=
  ∃ before argument after, arguments = before ++ argument :: after ∧ Gives argument name text ∧
    ∀ later ∈ after, ∀ other, ¬Gives later name other

theorem not_lastGiven_nil : ¬LastGiven [] name text := by
  rintro ⟨before, argument, after, hnil, -⟩
  simp at hnil

theorem lastGiven_append_iff : LastGiven (arguments ++ [argument]) name text ↔
    Gives argument name text ∨
      LastGiven arguments name text ∧ ∀ other, ¬Gives argument name other := by
  constructor
  · rintro ⟨before, given, after, hsplit, hgiven, hlater⟩
    rcases List.eq_nil_or_concat' after with rfl | ⟨middle, last, rfl⟩
    · obtain ⟨-, hlast⟩ := List.append_inj' hsplit rfl
      cases hlast
      exact .inl hgiven
    · rw [← List.cons_append, ← List.append_assoc] at hsplit
      obtain ⟨rfl, hlast⟩ := List.append_inj' hsplit rfl
      cases hlast
      obtain ⟨hmiddle, hargument⟩ := List.forall_mem_append.mp hlater
      exact .inr ⟨⟨before, given, middle, rfl, hgiven, hmiddle⟩, hargument argument (by simp)⟩
  · rintro (h | ⟨⟨before, given, after, rfl, hgiven, hlater⟩, h⟩)
    · exact ⟨arguments, argument, [], rfl, h, by simp⟩
    · exact ⟨before, given, after ++ [argument], by simp, hgiven,
        List.forall_mem_append.mpr ⟨hlater, by simpa using h⟩⟩

/-- Behind arguments, one that gives a text to the name gives the last. -/
theorem lastGiven_append_of_gives (h : Gives argument name other) :
    LastGiven (arguments ++ [argument]) name text ↔ text = other := by
  rw [lastGiven_append_iff]
  constructor
  · rintro (hgives | ⟨-, hnot⟩)
    · exact (hgives.unique h).2
    · exact absurd h (hnot other)
  · rintro rfl
    exact .inl h

/-- Behind arguments, one that gives nothing to the name changes nothing for it. -/
theorem lastGiven_append_of_not_gives (h : ∀ other, ¬Gives argument name other) :
    LastGiven (arguments ++ [argument]) name text ↔ LastGiven arguments name text := by
  simp [lastGiven_append_iff, h]

/-! ## What an argument comes to -/

/-- Why an argument is refused: it gives nothing, or what it gives to a parameter is no text of its
kind. -/
inductive Refused (route : Route) (argument : String) : (message : String) → Prop
  | unseparated (h : '=' ∉ argument.toList) :
    Refused route argument ("Expected key=value, got '" ++ argument ++ "'")
  | unreadable {name text : String} {kind : Kind} {fault : Fault} (h : Gives argument name text)
    (hkind : route.parameters.lookup name = some kind) (hfault : kind.decode text = .error fault) :
    Refused route argument (name ++ ": " ++ fault.text)

/-- Whether an argument gives a text to a name that is no parameter. -/
def Ignored (route : Route) (argument name : String) : Prop :=
  (∃ text, Gives argument name text) ∧ route.parameters.lookup name = none

/-- Whether an argument sets a parameter to a scalar. -/
def Sets (route : Route) (argument name : String) (scalar : Scalar) : Prop :=
  ∃ text kind, Gives argument name text ∧ route.parameters.lookup name = some kind ∧
    kind.decode text = .ok scalar

/-- An argument is refused, ignored or read. -/
theorem refused_or_ignored_or_sets (route : Route) (argument : String) :
    (∃ message, Refused route argument message) ∨ (∃ name, Ignored route argument name) ∨
      ∃ name scalar, Sets route argument name scalar := by
  by_cases hmem : '=' ∈ argument.toList
  · obtain ⟨name, text, hgives⟩ := exists_gives_iff.mpr hmem
    cases hkind : route.parameters.lookup name with
    | none => exact .inr (.inl ⟨name, ⟨text, hgives⟩, hkind⟩)
    | some kind =>
      cases hdecode : kind.decode text with
      | error fault => exact .inl ⟨_, .unreadable hgives hkind hdecode⟩
      | ok scalar => exact .inr (.inr ⟨name, scalar, text, kind, hgives, hkind, hdecode⟩)
  · exact .inl ⟨_, .unseparated hmem⟩

theorem not_refused_iff : (∀ message, ¬Refused route argument message) ↔
    '=' ∈ argument.toList ∧ ∀ name text kind, Gives argument name text →
      route.parameters.lookup name = some kind → ∃ scalar, kind.decode text = .ok scalar := by
  constructor
  · intro h
    refine ⟨not_imp_comm.mp .unseparated (h _), fun name text kind hgives hkind => ?_⟩
    cases hdecode : kind.decode text with
    | ok scalar => exact ⟨scalar, rfl⟩
    | error fault => exact absurd (.unreadable hgives hkind hdecode) (h _)
  · rintro ⟨hmem, hreadable⟩ message (hnot | ⟨hgives, hkind, hfault⟩)
    · exact hnot hmem
    · obtain ⟨scalar, hscalar⟩ := hreadable _ _ _ hgives hkind
      rw [hfault] at hscalar
      cases hscalar

/-- A text that can be read by the kind of its parameter, if it has one, is not refused. -/
theorem Gives.not_refused (h : Gives argument name text) (hreadable : ∀ kind,
    route.parameters.lookup name = some kind → ∃ scalar, kind.decode text = .ok scalar)
    (message : String) : ¬Refused route argument message := by
  refine not_refused_iff.mpr ⟨exists_gives_iff.mp ⟨name, text, h⟩, ?_⟩ message
  intro key other kind hother hkind
  obtain ⟨rfl, rfl⟩ := h.unique hother
  exact hreadable kind hkind

theorem Ignored.not_refused (h : Ignored route argument name) (message : String) :
    ¬Refused route argument message := by
  obtain ⟨⟨text, hgives⟩, hnone⟩ := h
  exact hgives.not_refused (by simp [hnone]) message

theorem Sets.not_refused {scalar : Scalar} (h : Sets route argument name scalar)
    (message : String) : ¬Refused route argument message := by
  obtain ⟨text, kind, hgives, hkind, hdecode⟩ := h
  exact hgives.not_refused (by simp [hkind, hdecode]) message

/-- Whether some arguments are those before the first that is refused, with its message. -/
def FirstRefused (route : Route) (arguments before : List String) (message : String) : Prop :=
  ∃ argument after, arguments = before ++ argument :: after ∧
    (∀ other ∈ before, ∀ text, ¬Refused route other text) ∧ Refused route argument message

theorem FirstRefused.cons {before : List String} {message : String}
    (h : FirstRefused route arguments before message)
    (hargument : ∀ text, ¬Refused route argument text) :
    FirstRefused route (argument :: arguments) (argument :: before) message := by
  obtain ⟨refused, after, rfl, hbefore, hrefused⟩ := h
  exact ⟨refused, after, rfl, List.forall_mem_cons.mpr ⟨hargument, hbefore⟩, hrefused⟩

/-- The name that an argument gives a text to, if it is no parameter. -/
def ignoredName? (route : Route) (argument : String) : Option String :=
  (Text.cut '=' argument.toList).bind fun (key, _) =>
    if route.parameters.lookup (String.ofList key) = none then some (String.ofList key) else none

theorem ignoredName?_eq_some_iff :
    ignoredName? route argument = some name ↔ Ignored route argument name := by
  simp only [ignoredName?, Option.bind_eq_some_iff, Ignored, gives_iff_cut]
  constructor
  · rintro ⟨⟨key, text⟩, hcut, hname⟩
    split_ifs at hname with hnone
    cases hname
    refine ⟨⟨String.ofList text, ?_⟩, hnone⟩
    rw [String.toList_ofList, String.toList_ofList, hcut]
  · rintro ⟨⟨text, hcut⟩, hnone⟩
    refine ⟨_, hcut, ?_⟩
    rw [String.ofList_toList, if_pos hnone]

theorem ignoredName?_of_sets {scalar : Scalar} (h : Sets route argument name scalar) :
    ignoredName? route argument = none := by
  obtain ⟨text, kind, hgives, hkind, -⟩ := h
  cases hignored : ignoredName? route argument with
  | none => rfl
  | some key =>
    obtain ⟨⟨other, hother⟩, hnone⟩ := ignoredName?_eq_some_iff.mp hignored
    rw [← (hgives.unique hother).1, hkind] at hnone
    cases hnone

end Argument

/-! ## Reading arguments -/

namespace Route

open Argument

variable {route : Route} {arguments : List String} {argument name : String} {scalar : Scalar}
variable {values : Named Value}

/-- Whether values are those that arguments give last: under the name of every parameter that is
given a text, the scalar that is read of the last one, and nothing else. -/
structure HoldsLast (route : Route) (arguments : List String) (values : Named Value) : Prop where
  names_nodup : (Named.names values).Nodup
  lookup_iff (name : String) (value : Value) : values.lookup name = some value ↔
    ∃ kind text scalar, route.parameters.lookup name = some kind ∧
      LastGiven arguments name text ∧ kind.decode text = .ok scalar ∧ value = .ofScalar scalar

theorem holdsLast_nil (route : Route) : route.HoldsLast [] [] where
  names_nodup := .nil
  lookup_iff name value := by simp [not_lastGiven_nil]

/-- A name that is no parameter sets nothing. -/
theorem HoldsLast.ignored (h : route.HoldsLast arguments values)
    (hargument : Ignored route argument name) :
    route.HoldsLast (arguments ++ [argument]) values where
  names_nodup := h.names_nodup
  lookup_iff key value := by
    obtain ⟨⟨text, hgives⟩, hname⟩ := hargument
    rw [h.lookup_iff]
    by_cases hkey : key = name
    · subst hkey
      simp [hname]
    · simp only [lastGiven_append_of_not_gives (hgives.not_gives hkey)]

/-- A parameter that is given a text holds what is read of it from then on. -/
theorem HoldsLast.set (h : route.HoldsLast arguments values)
    (hargument : Sets route argument name scalar) :
    route.HoldsLast (arguments ++ [argument]) (Named.set values name (.ofScalar scalar)) where
  names_nodup := Named.nodup_names_set h.names_nodup
  lookup_iff key value := by
    obtain ⟨text, kind, hgives, hkind, hdecode⟩ := hargument
    rw [Named.lookup_set]
    by_cases hkey : key = name
    · subst hkey
      simp only [if_true, lastGiven_append_of_gives hgives, hkind]
      simp [hdecode, eq_comm]
    · rw [if_neg hkey, h.lookup_iff]
      simp only [lastGiven_append_of_not_gives (hgives.not_gives hkey)]

end Route

namespace ActionContext

open Argument

variable {route : Route} {taken before arguments : List String} {argument message name : String}
variable {scalar : Scalar} {done : Named Value}

/-- The note on a name that is no parameter. -/
def ignoring (name : String) : String :=
  Style.apply { colour := some .yellow } ("  Ignoring unknown parameter '" ++ name ++ "'")

/-- The complaint with a message. -/
def complaintOf (message : String) : String :=
  Style.apply { colour := some .red } (crossed ++ message)

theorem readValues_of_refused (h : Refused route argument message) (done : Named Value)
    (rest : List String) :
    readValues route done (argument :: rest) =
      ⟨[.error (complaintOf message)], .error (.exit 1)⟩ := by
  rw [readValues]
  cases h with
  | unseparated h =>
    rw [Text.cut_eq_none_iff.mpr h]
    simp only [complaintOf, ← String.append_assoc]
    rfl
  | unreadable h hkind hfault =>
    rw [gives_iff_cut.mp h]
    dsimp only
    rw [String.ofList_toList, String.ofList_toList, hkind]
    dsimp only
    rw [hfault]
    simp only [complaintOf, ← String.append_assoc]
    rfl

/-- The notes on the names among arguments that are no parameters, in order. -/
def notesOn (route : Route) (arguments : List String) : List String :=
  (arguments.filterMap (ignoredName? route)).map ignoring

theorem notesOn_append (route : Route) (arguments others : List String) :
    notesOn route (arguments ++ others) = notesOn route arguments ++ notesOn route others := by
  simp [notesOn]

theorem readValues_of_ignored (h : Ignored route argument name) (done : Named Value)
    (rest : List String) :
    readValues route done (argument :: rest) =
      ⟨(notesOn route [argument]).map .output ++ (readValues route done rest).events,
        (readValues route done rest).result⟩ := by
  have hnote : notesOn route [argument] = [ignoring name] := by
    rw [notesOn, List.filterMap_cons_some (ignoredName?_eq_some_iff.mpr h)]
    rfl
  obtain ⟨⟨text, hgives⟩, hname⟩ := h
  rw [hnote, readValues, gives_iff_cut.mp hgives]
  dsimp only
  rw [String.ofList_toList, hname]
  rfl

theorem readValues_of_sets (h : Sets route argument name scalar) (done : Named Value)
    (rest : List String) :
    readValues route done (argument :: rest) =
      ⟨(notesOn route [argument]).map .output ++
          (readValues route (done.set name (.ofScalar scalar)) rest).events,
        (readValues route (done.set name (.ofScalar scalar)) rest).result⟩ := by
  have hnote : notesOn route [argument] = [] := by
    rw [notesOn, List.filterMap_cons_none (ignoredName?_of_sets h)]
    rfl
  obtain ⟨text, kind, hgives, hkind, hdecode⟩ := h
  rw [hnote, readValues, gives_iff_cut.mp hgives]
  dsimp only
  rw [String.ofList_toList, String.ofList_toList, hkind]
  dsimp only
  rw [hdecode]
  rfl

/-- What reading further arguments comes to behind those that were taken: the values that are given
last by all of them if none is refused, and otherwise a complaint of the first that is. -/
inductive ReadsTo (route : Route) (taken arguments : List String) :
    Transcript (Named Value) → Prop
  | values {values : Named Value}
    (hall : ∀ argument ∈ arguments, ∀ message, ¬Refused route argument message)
    (hvalues : route.HoldsLast (taken ++ arguments) values) :
    ReadsTo route taken arguments ⟨(notesOn route arguments).map .output, .ok values⟩
  | refused {before : List String} {message : String}
    (h : FirstRefused route arguments before message) :
    ReadsTo route taken arguments
      ⟨(notesOn route before).map .output ++ [.error (complaintOf message)], .error (.exit 1)⟩

theorem ReadsTo.cons {transcript : Transcript (Named Value)}
    (h : ReadsTo route (taken ++ [argument]) arguments transcript)
    (hargument : ∀ message, ¬Refused route argument message) :
    ReadsTo route taken (argument :: arguments)
      ⟨(notesOn route [argument]).map .output ++ transcript.events, transcript.result⟩ := by
  have hnotes (later : List String) : (notesOn route (argument :: later)).map Event.output =
      (notesOn route [argument]).map .output ++ (notesOn route later).map .output := by
    rw [← List.map_append, ← notesOn_append]
    rfl
  cases h with
  | values hall hvalues =>
    dsimp only
    rw [← hnotes]
    exact .values (List.forall_mem_cons.mpr ⟨hargument, hall⟩) (by rwa [List.append_cons])
  | refused h =>
    dsimp only
    rw [← List.append_assoc, ← hnotes]
    exact .refused (h.cons hargument)

theorem readsTo_readValues (hdone : route.HoldsLast taken done) (arguments : List String) :
    ReadsTo route taken arguments (readValues route done arguments) := by
  -- Each argument that is read or ignored joins those that were taken, whose values are done.
  induction arguments generalizing taken done with
  | nil => exact .values (by simp) (by rwa [List.append_nil])
  | cons argument rest ih =>
    rcases refused_or_ignored_or_sets route argument with
      ⟨message, hrefused⟩ | ⟨name, hignored⟩ | ⟨name, scalar, hsets⟩
    · have hfirst : FirstRefused route (argument :: rest) [] message :=
        ⟨argument, rest, rfl, by simp, hrefused⟩
      rw [readValues_of_refused hrefused]
      exact .refused hfirst
    · rw [readValues_of_ignored hignored]
      exact (ih (hdone.ignored hignored)).cons hignored.not_refused
    · rw [readValues_of_sets hsets]
      exact (ih (hdone.set hsets)).cons hsets.not_refused

end ActionContext
end TypedRoutes
