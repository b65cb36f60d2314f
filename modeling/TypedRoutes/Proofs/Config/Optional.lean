import TypedRoutes.Proofs.Config.Section

/-!
# Fields that may be null

A field that may be null is read like the field without this allowance, as long as something else
than null is given. The one exception is a text for which a number was guessed: it is recovered only
where the type of the field is text itself.
-/
namespace TypedRoutes

/-- Results that are the same, or differ in the words in which a setting is refused. -/
inductive SameOutcome (name : String) {α : Type} :
    Except Failure α → Except Failure α → Prop
  | same (result : Except Failure α) : SameOutcome name result result
  | refused (reason other : String) :
    SameOutcome name (.error (.fault (.settingInvalid name reason)))
      (.error (.fault (.settingInvalid name other)))

namespace SameOutcome

variable {name : String} {α β : Type} {x y : Except Failure α}

theorem bind (h : SameOutcome name x y) (next : α → Except Failure β) :
    SameOutcome name (x >>= next) (y >>= next) := by
  cases h with
  | same => exact .same _
  | refused reason other => exact .refused reason other

theorem bind_right (x : Except Failure α) {next other : α → Except Failure β}
    (h : ∀ a, SameOutcome name (next a) (other a)) :
    SameOutcome name (x >>= next) (x >>= other) := by
  cases x with
  | error failure => exact .same _
  | ok a => exact h a

end SameOutcome

/-- The numbers that a text may be taken for. -/
def Value.isNumber : Value → Bool
  | integer _ | float _ => true
  | _ => false

/-- The same field, except that it may also be null; `label` names its type. -/
def Field.orNull (field : Field) (label : String) : Field :=
  { field with type := .optional field.type label }

namespace FieldType

variable {type : FieldType} {label : String} {value : Value}

theorem accepts_optional (h : value ≠ .null) :
    (optional type label).accepts value = type.accepts value := by
  cases value with
  | null => exact absurd rfl h
  | _ => rfl

/-- Nothing but a number is recovered as a text, and nothing at all as a number. -/
theorem recover_eq_self (htype : type = .text ∨ type = .integer ∨ type = .float)
    (h : ¬(type = .text ∧ value.isNumber = true)) : type.recover value = .ok value := by
  rcases htype with rfl | rfl | rfl
  · cases value with
    | integer n => exact absurd ⟨rfl, rfl⟩ h
    | float x => exact absurd ⟨rfl, rfl⟩ h
    | _ => rfl
  · rfl
  · rfl

theorem text_accepts_of_recoverText {recovered : Value} (hnumber : value.isNumber = true)
    (h : recoverText value = .ok recovered) : text.accepts recovered = true := by
  cases value with
  | integer n =>
    simp only [recoverText] at h
    split at h <;> cases h
    rfl
  | float x =>
    cases h
    rfl
  | _ => cases hnumber

theorem text_not_accepts (hnumber : value.isNumber = true) : text.accepts value = false := by
  cases value with
  | integer n => rfl
  | float x => rfl
  | _ => cases hnumber

end FieldType

namespace Schema

variable {field : Field} {entries : Entries} {value : Value}

/-! ## One field -/

/-- What a field that is refused a value ends with. -/
def refusal (field : Field) (value : Value) : Failure :=
  .fault (.settingInvalid field.name ("expected " ++ field.type.name ++ ", got " ++ value.typeName))

theorem fieldValue_of_recover {recovered : Value} (hgiven : entries.get? field.name = some value)
    (hrecover : field.type.recover value = .ok recovered) :
    fieldValue entries field =
      if field.type.accepts recovered then .ok recovered else .error (refusal field recovered) := by
  simp only [fieldValue, readField, hgiven, hrecover]
  rfl

theorem fieldValue_orNull (label : String) (hgiven : entries.get? field.name = some value)
    (hnull : value ≠ .null) :
    fieldValue entries (field.orNull label) =
      if field.type.accepts value then .ok value
      else .error (refusal (field.orNull label) value) := by
  rw [← FieldType.accepts_optional hnull]
  exact fieldValue_of_recover hgiven rfl

theorem sameOutcome_fieldValue (label : String)
    (htype : field.type = .text ∨ field.type = .integer ∨ field.type = .float)
    (hgiven : entries.get? field.name = some value) (hnull : value ≠ .null)
    (h : ¬(field.type = .text ∧ value.isNumber = true)) :
    SameOutcome field.name (fieldValue entries field) (fieldValue entries (field.orNull label)) := by
  rw [fieldValue_of_recover hgiven (FieldType.recover_eq_self htype h),
    fieldValue_orNull label hgiven hnull]
  split_ifs
  · exact .same _
  · exact .refused _ _

theorem fieldValue_number (htype : field.type = .text)
    (hgiven : entries.get? field.name = some value) (hnumber : value.isNumber = true) :
    fieldValue entries field = FieldType.recoverText value := by
  have hrecover : field.type.recover value = FieldType.recoverText value := by rw [htype]; rfl
  cases htext : FieldType.recoverText value with
  | ok recovered =>
    rw [fieldValue_of_recover hgiven (hrecover.trans htext), htype,
      FieldType.text_accepts_of_recoverText hnumber htext, if_pos rfl]
  | error failure => simp only [fieldValue, readField, hgiven, hrecover, htext]

theorem fieldValue_orNull_number (label : String) (htype : field.type = .text)
    (hgiven : entries.get? field.name = some value) (hnumber : value.isNumber = true) :
    fieldValue entries (field.orNull label) = .error (refusal (field.orNull label) value) := by
  have hnull : value ≠ .null := by
    rintro rfl
    cases hnumber
  rw [fieldValue_orNull label hgiven hnull, htype, FieldType.text_not_accepts hnumber,
    if_neg Bool.false_ne_true]

/-! ## A section with the field -/

theorem checkKey_orNull (title label : String) (before after : List Field) (field : Field) :
    checkKey ⟨title, before ++ field.orNull label :: after⟩ =
      checkKey ⟨title, before ++ field :: after⟩ := by
  funext key
  simp only [checkKey, isKnown, List.any_append, List.any_cons]
  rfl

/-- The entry of a field among the values of a section. -/
def fieldEntry (entries : Entries) (field : Field) : Except Failure (String × Value) :=
  (fieldValue entries field).map fun value => (field.name, value)

/-- A section is read up to a field, then the field, then what is behind it. -/
theorem read_split (title : String) (before : List Field) (field : Field) (after : List Field)
    (entries : Entries) :
    (Schema.mk title (before ++ field :: after)).read (.mapping entries) =
      entries.keys.forM (checkKey ⟨title, before ++ field :: after⟩) >>= fun _ =>
        before.mapM (fieldEntry entries) >>= fun front =>
          fieldValue entries field >>= fun value =>
            after.mapM (fieldEntry entries) >>= fun back =>
              .ok (front ++ (field.name, value) :: back) := by
  rw [read_mapping]
  refine congrArg _ (funext fun _ => ?_)
  change (before ++ field :: after).mapM (fieldEntry entries) = _
  rw [List.mapM_append]
  refine congrArg _ (funext fun front => ?_)
  rw [List.mapM_cons, fieldEntry]
  cases fieldValue entries field with
  | error failure => rfl
  | ok value => cases after.mapM (fieldEntry entries) <;> rfl

/-- A field that may be null is read from everything else like the field without this allowance,
alone and within its section. Only a number for a text is refused where the field without the
allowance has the text of the number. -/
theorem read_orNull (title label : String) (before after : List Field)
    (htype : field.type = .text ∨ field.type = .integer ∨ field.type = .float)
    (hgiven : entries.get? field.name = some value) (hnull : value ≠ .null) :
    let plain : Schema := ⟨title, before ++ field :: after⟩
    let optional : Schema := ⟨title, before ++ field.orNull label :: after⟩
    (¬(field.type = .text ∧ value.isNumber = true) →
      SameOutcome field.name (fieldValue entries field) (fieldValue entries (field.orNull label)) ∧
      SameOutcome field.name (plain.read (.mapping entries)) (optional.read (.mapping entries))) ∧
    (field.type = .text ∧ value.isNumber = true →
      fieldValue entries field = FieldType.recoverText value ∧
      fieldValue entries (field.orNull label) = .error (refusal (field.orNull label) value) ∧
      (∀ values, optional.read (.mapping entries) ≠ .ok values) ∧
      ∀ values, plain.read (.mapping entries) = .ok values →
        optional.read (.mapping entries) = .error (refusal (field.orNull label) value)) := by
  intro plain optional
  have hplain := read_split title before field after entries
  have hoptional := read_split title before (field.orNull label) after entries
  rw [checkKey_orNull] at hoptional
  constructor
  · intro h
    have hfield := sameOutcome_fieldValue label htype hgiven hnull h
    refine ⟨hfield, ?_⟩
    rw [hplain, hoptional]
    exact .bind_right _ fun _ => .bind_right _ fun _ => hfield.bind _
  · rintro ⟨htext, hnumber⟩
    have hrefused := fieldValue_orNull_number label htext hgiven hnumber
    rw [hrefused] at hoptional
    refine ⟨fieldValue_number htext hgiven hnumber, hrefused, ?_, ?_⟩
    · intro values hvalues
      obtain ⟨_, -, hbehind⟩ := Except.bind_eq_ok_iff.mp (hoptional.symm.trans hvalues)
      obtain ⟨_, -, hfield⟩ := Except.bind_eq_ok_iff.mp hbehind
      cases hfield
    · intro values hvalues
      obtain ⟨_, hkeys, hbehind⟩ := Except.bind_eq_ok_iff.mp (hplain.symm.trans hvalues)
      obtain ⟨_, hbefore, -⟩ := Except.bind_eq_ok_iff.mp hbehind
      rw [hoptional, hkeys]
      change before.mapM (fieldEntry entries) >>= (fun _ => Except.error _) = _
      rw [hbefore]
      rfl

def labelField : Field :=
  ⟨"label", .text, some (.text "x")⟩

def countField : Field :=
  ⟨"count", .integer, none⟩

/-- A number that is recovered as a text or refused, and a text that is refused as a number either
way. -/
theorem read_orNull_label :
    let entries : Entries := [(.text "label", .integer 404), (.text "count", .text "many")]
    (labelField.type = .text ∧ entries.get? labelField.name = some (.integer 404) ∧
      fieldValue entries labelField = FieldType.recoverText (.integer 404) ∧
      ∀ values,
        (Schema.mk "Sample" [labelField.orNull "Optional"]).read (.mapping entries) ≠ .ok values) ∧
    (countField.type = .integer ∧ entries.get? countField.name = some (.text "many") ∧
      SameOutcome countField.name
        ((Schema.mk "Sample" [countField]).read (.mapping entries))
        ((Schema.mk "Sample" [countField.orNull "Optional"]).read (.mapping entries))) := by
  intro entries
  have hlabel : entries.get? labelField.name = some (.integer 404) := by rfl
  have hcount : entries.get? countField.name = some (.text "many") := by rfl
  have hnumber : labelField.type = .text ∧ (Value.integer 404).isNumber = true := ⟨rfl, rfl⟩
  have hother : ¬(countField.type = .text ∧ (Value.text "many").isNumber = true) := by decide
  obtain ⟨hvalue, -, hrefused, -⟩ :=
    (read_orNull "Sample" "Optional" [] [] (.inl rfl) hlabel nofun).2 hnumber
  have hsame := (read_orNull "Sample" "Optional" [] [] (.inr (.inl rfl)) hcount nofun).1 hother
  exact ⟨⟨rfl, hlabel, hvalue, hrefused⟩, rfl, hcount, hsame.2⟩

/-- A number that was guessed for a text comes back as the text, unless the text may be null. -/
theorem read_guessed_label :
    Value.guess "404" = .ok (.integer 404) ∧
      (Schema.mk "Sample" [labelField]).read (.mapping [(.text "label", .integer 404)]) =
        .ok [("label", .text "404")] ∧
      (Schema.mk "Sample" [labelField.orNull "Optional"]).read
          (.mapping [(.text "label", .integer 404)]) =
        .error (.fault (.settingInvalid "label" "expected Optional, got int")) :=
  ⟨rfl, rfl, rfl⟩

end Schema
end TypedRoutes
