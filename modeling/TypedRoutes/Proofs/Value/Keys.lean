import TypedRoutes.Value.Basic

/-!
# Equality of keys

Keys are the same by a rule for each kind of value: numbers by the integer that they are, handlers by
what they are, all else by what it holds. So keys that are the same as a third are the same as each
other, and every key is the same as itself. A list or a mapping, which cannot be a key, is not.
-/
namespace TypedRoutes

namespace Binary64

variable {x y z : Binary64}

theorem numericEq_finite_iff {negative other : Bool} {code next : Nat} {bound : code < finiteCount}
    {bound' : next < finiteCount} :
    (finite negative code bound).numericEq (finite other next bound') = true ↔
      code = next ∧ (negative = other ∨ code = 0) := by
  simp [numericEq]

theorem numericEq_symm (h : x.numericEq y = true) : y.numericEq x = true := by
  cases x <;> cases y <;> try cases h
  case infinite.infinite =>
    rw [numericEq, beq_iff_eq] at h ⊢
    exact h.symm
  case finite.finite =>
    rw [numericEq_finite_iff] at h ⊢
    obtain ⟨rfl, hsign⟩ := h
    exact ⟨rfl, hsign.imp_left Eq.symm⟩

theorem numericEq_trans (h : x.numericEq y = true) (h' : y.numericEq z = true) :
    x.numericEq z = true := by
  cases x <;> cases y <;> try cases h
  case infinite.infinite =>
    rw [numericEq, beq_iff_eq] at h
    rw [h]
    exact h'
  case finite.finite =>
    cases z <;> try cases h'
    rw [numericEq_finite_iff] at h h' ⊢
    obtain ⟨rfl, hsign⟩ := h
    obtain ⟨rfl, hsign'⟩ := h'
    exact ⟨rfl, hsign.elim (fun heq => heq ▸ hsign') .inr⟩

theorem numericEq_self (h : ∀ payload, x ≠ .nan payload) : x.numericEq x = true := by
  cases x with
  | nan payload => exact absurd rfl (h payload)
  | infinite negative => exact beq_self_eq_true negative
  | finite negative code bound => exact numericEq_finite_iff.mpr ⟨rfl, .inl rfl⟩

end Binary64

namespace Scalar

variable {s t u : Scalar}

theorem sameValue_symm (h : s.sameValue t = true) : t.sameValue s = true := by
  cases s <;> cases t <;> try cases h
  case float.float => exact Binary64.numericEq_symm h
  all_goals
    rw [sameValue, beq_iff_eq] at h ⊢
    exact h.symm

theorem sameValue_trans (h : s.sameValue t = true) (h' : t.sameValue u = true) :
    s.sameValue u = true := by
  cases s <;> cases t <;> try cases h
  case float.float =>
    cases u <;> try cases h'
    exact Binary64.numericEq_trans h h'
  all_goals
    rw [sameValue, beq_iff_eq] at h
    rw [h]
    exact h'

theorem sameValue_self {kind : Kind} (h : kind.accepts s = true) : s.sameValue s = true := by
  cases s with
  | float x =>
    refine Binary64.numericEq_self ?_
    rintro payload rfl
    cases kind <;> cases h
  | _ => exact beq_self_eq_true _

end Scalar

namespace TypedValue

variable {a b c : TypedValue}

theorem sameValue_iff :
    a.sameValue b = true ↔ a.kind = b.kind ∧ a.value.sameValue b.value = true := by
  rw [sameValue, Bool.and_eq_true, beq_iff_eq]

theorem sameValue_symm (h : a.sameValue b = true) : b.sameValue a = true := by
  rw [sameValue_iff] at h ⊢
  exact ⟨h.1.symm, Scalar.sameValue_symm h.2⟩

theorem sameValue_trans (h : a.sameValue b = true) (h' : b.sameValue c = true) :
    a.sameValue c = true := by
  rw [sameValue_iff] at h h' ⊢
  exact ⟨h.1.trans h'.1, Scalar.sameValue_trans h.2 h'.2⟩

theorem sameValue_self (a : TypedValue) : a.sameValue a = true :=
  sameValue_iff.mpr ⟨rfl, Scalar.sameValue_self a.accepted⟩

end TypedValue

namespace Value

variable {a b c : Value}

/-- Keys that are the same, with one rule for each kind of value. -/
inductive SameKey : Value → Value → Prop
  | number {a b : Value} {n : Int} (ha : a.toInt? = some n) (hb : b.toInt? = some n) : SameKey a b
  | null : SameKey null null
  | noNumber (payload : Nat) : SameKey (float (.nan payload)) (float (.nan payload))
  | float {x y : Binary64} (hx : x.toInt? = none) (hy : y.toInt? = none)
    (h : x.numericEq y = true) : SameKey (float x) (float y)
  | text (s : String) : SameKey (text s) (text s)
  | typed {x y : TypedValue} (h : x.sameValue y = true) : SameKey (typed x) (typed y)
  | handler (identity : Nat) (name other : String) :
    SameKey (handler identity name) (handler identity other)

theorem sameKey_of_toInt? {m n : Int} (ha : a.toInt? = some m) (hb : b.toInt? = some n) :
    a.sameKey b = true ↔ m = n := by
  unfold sameKey
  rw [ha, hb]
  exact beq_iff_eq

theorem sameKey_float {x y : Binary64} (hx : x.toInt? = none) (hy : y.toInt? = none)
    (h : x.numericEq y = true) : (float x).sameKey (float y) = true := by
  unfold sameKey
  rw [toInt?, toInt?, hx, hy]
  cases x with
  | nan payload => cases h
  | infinite | finite => exact h

theorem sameKey_iff : a.sameKey b = true ↔ a.SameKey b := by
  constructor
  · intro h
    unfold sameKey at h
    split at h
    next m n ha hb =>
      obtain rfl := beq_iff_eq.mp h
      exact .number ha hb
    next ha hb =>
      split at h
      · exact .null
      · obtain rfl := beq_iff_eq.mp h
        exact .noNumber _
      · exact .float ha hb h
      · obtain rfl := beq_iff_eq.mp h
        exact .text _
      · exact .typed h
      · obtain rfl := beq_iff_eq.mp h
        exact .handler _ _ _
      · cases h
    · cases h
  · intro h
    cases h with
    | number ha hb => exact (sameKey_of_toInt? ha hb).mpr rfl
    | null => rfl
    | noNumber payload => exact beq_self_eq_true payload
    | float hx hy h => exact sameKey_float hx hy h
    | text s => exact beq_self_eq_true s
    | typed h => exact h
    | handler identity name other => exact beq_self_eq_true identity

theorem SameKey.symm (h : a.SameKey b) : b.SameKey a := by
  cases h with
  | number ha hb => exact .number hb ha
  | null => exact .null
  | noNumber payload => exact .noNumber payload
  | float hx hy h => exact .float hy hx (Binary64.numericEq_symm h)
  | text s => exact .text s
  | typed h => exact .typed (TypedValue.sameValue_symm h)
  | handler identity name other => exact .handler identity other name

theorem SameKey.toInt?_eq (h : a.SameKey b) : a.toInt? = b.toInt? := by
  cases h with
  | number ha hb => rw [ha, hb]
  | float hx hy => rw [toInt?, toInt?, hx, hy]
  | _ => rfl

theorem SameKey.trans (h : a.SameKey b) (h' : b.SameKey c) : a.SameKey c := by
  cases h with
  | number ha hb => exact .number ha (h'.toInt?_eq ▸ hb)
  | null => exact h'
  | noNumber payload => exact h'
  | text s => exact h'
  | float hx hy h =>
    cases h' with
    | number hb hc => cases hy.symm.trans hb
    | noNumber payload => exact .float hx hy h
    | float _ hz h' => exact .float hx hz (Binary64.numericEq_trans h h')
  | typed h =>
    cases h' with
    | number hb hc => cases hb
    | typed h' => exact .typed (TypedValue.sameValue_trans h h')
  | handler identity name other =>
    cases h' with
    | number hb hc => cases hb
    | handler _ _ last => exact .handler identity name last

theorem sameKey_comm (a b : Value) : a.sameKey b = b.sameKey a := by
  rw [Bool.eq_iff_iff, sameKey_iff, sameKey_iff]
  exact ⟨SameKey.symm, SameKey.symm⟩

/-- Of two keys that are the same, another key is the same as both or as neither. -/
theorem sameKey_congr_right (h : a.sameKey b = true) (c : Value) : c.sameKey a = c.sameKey b := by
  rw [sameKey_iff] at h
  rw [Bool.eq_iff_iff, sameKey_iff, sameKey_iff]
  exact ⟨fun hca => hca.trans h, fun hcb => hcb.trans h.symm⟩

theorem sameKey_self (h : a.isKey = true) : a.sameKey a = true := by
  rw [sameKey_iff]
  cases a with
  | null => exact .null
  | boolean b => exact .number rfl rfl
  | integer n => exact .number rfl rfl
  | float x =>
    cases hx : x.toInt? with
    | some n => exact .number hx hx
    | none =>
      cases x with
      | nan payload => exact .noNumber payload
      | infinite | finite => exact .float hx hx (Binary64.numericEq_self nofun)
  | text s => exact .text s
  | typed value => exact .typed value.sameValue_self
  | handler identity name => exact .handler identity name name
  | list | mapping => cases h

end Value
end TypedRoutes
