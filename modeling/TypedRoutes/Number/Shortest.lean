import TypedRoutes.Number.Binary64

/-!
# Shortest decimals

Every magnitude has a shortest decimal that reads back as it. For one digit, two digits and so on,
the two neighbours of the exact value on that decimal grid are tried; the first grid with a hit
wins, and of two hits the nearer one, a tie going to the even coefficient.
-/
namespace TypedRoutes

/-- The number `coefficient · 10 ^ exponent`. -/
structure Decimal where
  coefficient : Nat
  exponent : Int
deriving DecidableEq

namespace Decimal

/-- The same number with as small a coefficient as possible. -/
def normalize (d : Decimal) : Decimal :=
  if d.coefficient = 0 then ⟨0, 0⟩
  else if d.coefficient % 10 = 0 then normalize ⟨d.coefficient / 10, d.exponent + 1⟩
  else d
termination_by d.coefficient
decreasing_by omega

/-- The exponent of the first digit. -/
def leadingExponent (d : Decimal) : Int :=
  Number.digitCount d.coefficient + d.exponent - 1

end Decimal

namespace Binary64

/-- A magnitude in units of 10⁻¹¹⁰⁰, of which it is a whole multiple. -/
def expansion (code : Nat) : Nat :=
  units code * Nat.pow 2 26 * Nat.pow 5 1100

/-- Whether a decimal reads back as the magnitude with the given code. -/
def readsBack (code : Nat) (d : Decimal) : Bool :=
  match ofDecimal false d.coefficient d.exponent with
  | finite _ code' _ => code' == code
  | _ => false

/-- The best decimal with a multiple of `10 ^ dropped` as its expansion that reads back as the
magnitude with the given code and expansion, if there is one. -/
def onGrid? (code exact dropped : Nat) : Option Decimal :=
  let step := Nat.pow 10 dropped
  let exponent : Int := dropped - 1100
  let below : Decimal := ⟨exact / step, exponent⟩
  let above : Decimal := ⟨exact / step + 1, exponent⟩
  let error := 2 * (exact % step)
  match readsBack code below, readsBack code above with
  | true, true =>
    if error < step || (error == step && below.coefficient % 2 == 0) then some below
    else some above
  | true, false => some below
  | false, true => some above
  | false, false => none

/-- The shortest decimal that reads back as a magnitude. Seventeen digits are always enough; the
exact decimal only makes the search total. -/
def shortest (code : Nat) : Decimal :=
  if code = 0 then ⟨0, 0⟩
  else
    let exact := expansion code
    let length := Number.digitCount exact
    match (List.range 17).findSome? fun i => onGrid? code exact (length - (i + 1)) with
    | some d => d.normalize
    | none => ⟨exact, -1100⟩

end Binary64
end TypedRoutes
