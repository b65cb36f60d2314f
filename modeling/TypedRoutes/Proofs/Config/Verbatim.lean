import TypedRoutes.Config.Schema
import TypedRoutes.Proofs.Config.Assignment
import TypedRoutes.Proofs.Document.Json
import TypedRoutes.Proofs.Number.Standard

/-!
# Texts that arrive as they are

The value of a variable is guessed from its text, and the guess is undone where the setting is a
text. A numeral comes back in standard form, whatever its form was; a word for a truth value and a
JSON container do not come back at all. Every other text arrives as it is.
-/
namespace TypedRoutes

/-- What a setting that is a text comes to when it is given by the text of a variable. -/
def Value.received (s : String) : Except Failure Value :=
  (guess s).bind FieldType.text.recover

/-- The numerals that a number is written with: an integer within the limit, or a floating-point
value that has a point. -/
inductive IsStandardNumeral : String → Prop
  | integer {n : ℤ} {cs : List Char} (h : Number.intText? n = some cs) :
    IsStandardNumeral (String.ofList cs)
  | float {x : Binary64} (h : '.' ∈ x.text) : IsStandardNumeral (String.ofList x.text)

/-- Whether a text begins like a list or a mapping of JSON. -/
def OpensContainer (s : String) : Prop :=
  s.toList.head? = some '[' ∨ s.toList.head? = some '\x7b'

instance : DecidablePred OpensContainer :=
  fun s => inferInstanceAs
    (Decidable (s.toList.head? = some '[' ∨ s.toList.head? = some '\x7b'))

/-- Whether a text is no word for a truth value, no JSON container, and no numeral in a form of its
own. What JSON only breaks off at its limits is no plain text either. -/
structure IsVerbatim (s : String) : Prop where
  not_word : Text.lower s ∉ ["true", "yes", "false", "no"]
  standard : (numeral? s.toList).isSome = true → IsStandardNumeral s
  not_container : OpensContainer s → ∃ format, Json.read s = .error (.malformed format)

variable {s t : String} {value : Value}

/-- A text that looks like nothing else arrives as it is. -/
theorem isVerbatim_of_plain (hword : Text.lower s ∉ ["true", "yes", "false", "no"])
    (hnumeral : (numeral? s.toList).isSome = false) (hopen : ¬OpensContainer s) :
    IsVerbatim s where
  not_word := hword
  standard hsome := by simp [hsome] at hnumeral
  not_container h := absurd h hopen

/-! ## Words -/

theorem truthWord?_eq_none_iff :
    truthWord? s = none ↔ Text.lower s ∉ ["true", "yes", "false", "no"] := by
  simp [truthWord?, List.lookup_eq_none_iff]

/-- No word for a truth value begins with a mark. -/
theorem truthWord?_of_mark {c : Char} {rest : List Char} (h : s.toList = c :: rest)
    (hc : Text.IsMark c) : truthWord? s = none := by
  rw [truthWord?_eq_none_iff]
  intro hword
  have hhead := Text.lower_cons_mark h hc
  have hletter : ∀ word ∈ ["true", "yes", "false", "no"], word.toList.head? ≠ some c := by
    intro word hmem hword
    simp only [List.mem_cons, List.not_mem_nil, or_false] at hmem
    rcases hmem with rfl | rfl | rfl | rfl <;> cases hword <;> revert hc <;> decide
  exact hletter _ hword hhead

/-! ## Numerals -/

/-- Whether a text begins with a mark, as numerals do. -/
def BeginsWithMark (s : String) : Prop :=
  ∃ c rest, s.toList = c :: rest ∧ Text.IsMark c

theorem BeginsWithMark.not_open (h : BeginsWithMark s) : ¬OpensContainer s := by
  obtain ⟨c, rest, hs, hc⟩ := h
  rw [OpensContainer, hs]
  rintro (hopen | hopen) <;> cases hopen <;> revert hc <;> decide

theorem BeginsWithMark.truthWord? (h : BeginsWithMark s) : truthWord? s = none := by
  obtain ⟨c, rest, hs, hc⟩ := h
  exact truthWord?_of_mark hs hc

theorem isFinite_of_point {x : Binary64} (h : '.' ∈ x.text) : x.isFinite = true := by
  cases x with
  | nan _ =>
    change '.' ∈ "nan".toList at h
    exact absurd h (by decide)
  | infinite negative => cases negative <;> exact absurd h (by decide)
  | finite => rfl

theorem IsStandardNumeral.beginsWithMark (h : IsStandardNumeral s) : BeginsWithMark s := by
  cases h with
  | @integer n cs htext =>
    obtain ⟨c, rest, hcs, hc⟩ := Number.exists_mark_intText n
    exact ⟨c, rest, by rw [String.toList_ofList, Number.intText?_eq_some htext, hcs], hc⟩
  | @float x hpoint =>
    obtain ⟨c, rest, hx, hc⟩ := Binary64.exists_mark_text (isFinite_of_point hpoint)
    exact ⟨c, rest, by rw [String.toList_ofList, hx], hc⟩

/-- A standard numeral is taken for a number that is written with it. -/
theorem IsStandardNumeral.exists_numeral? (h : IsStandardNumeral s) :
    ∃ value, numeral? s.toList = some value ∧ FieldType.recoverText value = .ok (.text s) := by
  cases h with
  | @integer n cs htext =>
    have hpoint : '.' ∉ cs := by
      rw [Number.intText?_eq_some htext]
      exact Number.point_not_mem_intText n
    refine ⟨.integer n, ?_, ?_⟩
    · rw [String.toList_ofList, numeral?, if_neg (by simpa using hpoint),
        Number.readLooseInt_intText? htext]
    · rw [FieldType.recoverText, htext]
  | @float x hpoint =>
    refine ⟨.float x, ?_, rfl⟩
    rw [String.toList_ofList, numeral?, if_pos (by simpa using hpoint),
      Binary64.readLooseFloat?_text (isFinite_of_point hpoint)]
    rfl

theorem IsStandardNumeral.isVerbatim (h : IsStandardNumeral s) : IsVerbatim s where
  not_word := truthWord?_eq_none_iff.mp h.beginsWithMark.truthWord?
  standard := fun _ => h
  not_container := fun hopen => absurd hopen h.beginsWithMark.not_open

/-- The text of a floating-point value arrives as it is. -/
theorem isVerbatim_text (x : Binary64) : IsVerbatim (String.ofList x.text) := by
  by_cases hpoint : '.' ∈ x.text
  · exact (IsStandardNumeral.float hpoint).isVerbatim
  cases hx : x.isFinite with
  | false =>
    cases x with
    | nan _ =>
      change IsVerbatim (String.ofList "nan".toList)
      exact isVerbatim_of_plain (by decide +kernel) (by decide +kernel) (by decide +kernel)
    | infinite negative =>
      cases negative <;>
        exact isVerbatim_of_plain (by decide +kernel) (by decide +kernel) (by decide +kernel)
    | finite => cases hx
  | true =>
    obtain ⟨c, rest, hcs, hc⟩ := Binary64.exists_mark_text hx
    have hbegins : BeginsWithMark (String.ofList x.text) :=
      ⟨c, rest, by rw [String.toList_ofList, hcs], hc⟩
    have hword := truthWord?_eq_none_iff.mp hbegins.truthWord?
    refine isVerbatim_of_plain hword ?_ hbegins.not_open
    rw [String.toList_ofList, numeral?, if_neg (by simpa using hpoint),
      Binary64.readLooseInt_text hx hpoint]
    rfl

theorem slash_not_mem_of_numeral? (h : numeral? s.toList = some value) : '/' ∉ s.toList := by
  intro hslash
  have hforeign : Number.IsForeign '/' := ⟨by decide, by decide⟩
  unfold numeral? at h
  rw [Number.readLooseInt_of_foreign hforeign hslash (by decide) (by decide),
    Number.readLooseFloat?_of_foreign hforeign hslash (by decide) (by decide)] at h
  split_ifs at h
  cases h

/-- The number of a numeral can be written, with a text that arrives as it is and has no slash. -/
theorem exists_recoverText_of_numeral? (h : numeral? s.toList = some value) :
    ∃ t, FieldType.recoverText value = .ok (.text t) ∧ IsVerbatim t ∧ '/' ∉ t.toList := by
  unfold numeral? at h
  split_ifs at h
  · obtain ⟨x, -, rfl⟩ := Option.map_eq_some_iff.mp h
    refine ⟨String.ofList x.text, rfl, isVerbatim_text x, ?_⟩
    rw [String.toList_ofList]
    exact x.slash_not_mem_text
  · split at h
    next n hn =>
      cases h
      obtain ⟨text, htext⟩ := Number.exists_intText?_of_readLooseInt hn
      refine ⟨String.ofList text, by rw [FieldType.recoverText, htext],
        (IsStandardNumeral.integer htext).isVerbatim, ?_⟩
      rw [String.toList_ofList, Number.intText?_eq_some htext]
      exact fun hslash => (Number.isNumeric_of_mem_intText hslash).ne_slash rfl
    · cases h

/-! ## Containers -/

theorem containerOrText_of_malformed
    (h : OpensContainer s → ∃ format, Json.read s = .error (.malformed format)) :
    containerOrText s = .ok (.text s) := by
  unfold containerOrText
  split_ifs with hopen
  · obtain ⟨format, hread⟩ := h (by simpa [OpensContainer] using hopen)
    rw [hread]
  · rfl

/-- A text is kept, or JSON reads it as a container or breaks off at its limits. -/
theorem containerOrText_cases (s : String) :
    containerOrText s = .ok (.text s) ∧
        (OpensContainer s → ∃ format, Json.read s = .error (.malformed format)) ∨
      containerOrText s = Json.read s ∧
        ((∃ value, Json.read s = .ok value ∧ value.isKey = false) ∨
          ∃ failure, Json.read s = .error failure) := by
  by_cases hopen : OpensContainer s
  · unfold containerOrText
    rw [if_pos (by simpa [OpensContainer] using hopen)]
    cases hread : Json.read s with
    | ok value => exact .inr ⟨rfl, .inl ⟨value, rfl, Json.isKey_of_read hopen hread⟩⟩
    | error failure =>
      cases failure with
      | malformed format => exact .inl ⟨rfl, fun _ => ⟨format, rfl⟩⟩
      | _ => exact .inr ⟨rfl, .inr ⟨_, rfl⟩⟩
  · have hmalformed : OpensContainer s → ∃ format, Json.read s = .error (.malformed format) :=
      fun h => absurd h hopen
    exact .inl ⟨containerOrText_of_malformed hmalformed, hmalformed⟩

/-! ## What arrives -/

/-- The ways in which a text comes to a setting that is a text: as it is, in the form in which its
number is written, as a value of another type, or not at all. -/
inductive Arrives (s : String) : Except Failure Value → Prop
  | verbatim (h : IsVerbatim s) : Arrives s (.ok (.text s))
  | restated {t : String} (hne : t ≠ s) (h : IsVerbatim t) (hs : '/' ∉ s.toList)
    (ht : '/' ∉ t.toList) : Arrives s (.ok (.text t))
  | refused {value : Value} (h : FieldType.text.accepts value = false) : Arrives s (.ok value)
  | failed {failure : Failure} (h : Value.guess s = .error failure) : Arrives s (.error failure)

namespace Value

theorem received_of_truthWord? {b : Bool} (h : truthWord? s = some b) :
    received s = .ok (.boolean b) := by
  rw [received, guess_of_truthWord? h]
  rfl

theorem received_of_numeral? (hword : truthWord? s = none)
    (h : numeral? s.toList = some value) : received s = FieldType.recoverText value := by
  rw [received, guess, hword, h]
  rfl

theorem guess_of_numeral?_eq_none (hword : truthWord? s = none)
    (h : numeral? s.toList = none) : guess s = containerOrText s := by
  rw [guess, hword, h]

theorem received_of_isVerbatim (h : IsVerbatim s) : received s = .ok (.text s) := by
  have hword := truthWord?_eq_none_iff.mpr h.not_word
  cases hnumeral : numeral? s.toList with
  | some value =>
    obtain ⟨other, hother, htext⟩ := (h.standard (by rw [hnumeral]; rfl)).exists_numeral?
    rw [received_of_numeral? hword hother, htext]
  | none =>
    rw [received, guess_of_numeral?_eq_none hword hnumeral,
      containerOrText_of_malformed h.not_container]
    rfl

theorem exists_guess_of_isVerbatim (h : IsVerbatim s) : ∃ value, guess s = .ok value := by
  have hreceived := received_of_isVerbatim h
  rw [received] at hreceived
  cases hguess : guess s with
  | ok value => exact ⟨value, rfl⟩
  | error failure =>
    rw [hguess] at hreceived
    cases hreceived

/-- Every text comes to a setting in one of the ways. -/
theorem arrives (s : String) : Arrives s (received s) := by
  cases hword : truthWord? s with
  | some b =>
    rw [received_of_truthWord? hword]
    exact .refused rfl
  | none =>
    cases hnumeral : numeral? s.toList with
    | some value =>
      obtain ⟨t, htext, ht, hslash⟩ := exists_recoverText_of_numeral? hnumeral
      rw [received_of_numeral? hword hnumeral, htext]
      by_cases hs : t = s
      · subst hs
        exact .verbatim ht
      · exact .restated hs ht (slash_not_mem_of_numeral? hnumeral) hslash
    | none =>
      have hguess := guess_of_numeral?_eq_none hword hnumeral
      rcases containerOrText_cases s with
        ⟨htext, hmalformed⟩ | ⟨hcontainer, ⟨value, hread, hvalue⟩ | ⟨failure, hread⟩⟩
      · rw [received, hguess, htext]
        exact .verbatim ⟨truthWord?_eq_none_iff.mp hword, by simp [hnumeral], hmalformed⟩
      · have haccepts : FieldType.text.accepts value = false := by
          cases value <;> first | rfl | cases hvalue
        have hreceived : received s = .ok value := by
          rw [received, hguess, hcontainer, hread]
          cases value <;> first | rfl | cases hvalue
        rw [hreceived]
        exact .refused haccepts
      · rw [received, hguess, hcontainer, hread]
        exact .failed (by rw [hguess, hcontainer, hread])

/-- A text arrives as it is exactly if it is no word for a truth value, no JSON container and no
numeral in a form of its own. -/
theorem received_eq_self_iff : received s = .ok (.text s) ↔ IsVerbatim s := by
  constructor
  · intro h
    have harrives := arrives s
    rw [h] at harrives
    cases harrives with
    | verbatim hs => exact hs
    | restated hne => exact absurd rfl hne
    | refused haccepts => cases haccepts
  · exact received_of_isVerbatim

/-- What has arrived as a text arrives as it is from then on. -/
theorem isVerbatim_of_received (h : received s = .ok (.text t)) : IsVerbatim t := by
  have harrives := arrives s
  rw [h] at harrives
  cases harrives with
  | verbatim hs => exact hs
  | restated _ ht => exact ht
  | refused haccepts => cases haccepts

end Value
end TypedRoutes
