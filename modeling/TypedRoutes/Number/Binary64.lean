import TypedRoutes.Number.Natural

/-!
# Binary floating point of 64 bits

The values of the format are kept by their place in the order of magnitudes: the finite magnitudes
are numbered from zero upward, and every number is a whole multiple of the least positive one, the
unit 2⁻¹⁰⁷⁴. Reading a decimal rounds its exact value to the nearest magnitude, a tie going to the
even code.
-/
namespace TypedRoutes

/-- The number of magnitudes from one power of two up to the next. -/
def Binary64.octave : Nat := Nat.pow 2 52

/-- The number of finite magnitudes. -/
def Binary64.finiteCount : Nat := 2047 * octave

/-- The number of units in one. -/
def Binary64.unitsInOne : Nat := Nat.pow 2 1074

/-- A sign with the code of a finite magnitude, an infinity, or no number at all; the payload tells
one such value from another. -/
inductive Binary64 where
  | nan (payload : Nat)
  | infinite (negative : Bool)
  | finite (negative : Bool) (code : Nat) (bound : code < Binary64.finiteCount)
deriving DecidableEq

namespace Binary64

def isFinite : Binary64 → Bool
  | finite .. => true
  | _ => false

/-- The value with the given code; the codes past the last finite magnitude are infinite. -/
def ofCode (negative : Bool) (code : Nat) : Binary64 :=
  if h : code < finiteCount then finite negative code h else infinite negative

def zero (negative : Bool) : Binary64 :=
  finite negative 0 (by decide)

/-- A magnitude in units of 2⁻¹⁰⁷⁴. -/
def units (code : Nat) : Nat :=
  if code < 2 * octave then code
  else (code % octave + octave) * Nat.pow 2 (code / octave - 1)

/-- The whole number nearest to a quotient, a tie going to the even one. -/
def roundHalfEven (num den : Nat) : Nat :=
  let q := num / den
  let r := num % den
  if den < 2 * r || (2 * r == den && q % 2 == 1) then q + 1 else q

/-- The code of the magnitude nearest to `num / den` units. -/
def nearestCode (num den : Nat) : Nat :=
  let shift := Nat.log2 (num / den) - 52
  shift * octave + roundHalfEven num (den * Nat.pow 2 shift)

/-- The value nearest to `coefficient · 10 ^ exponent`. Exponents that leave the range of the
format are decided by the number of digits alone. -/
def ofDecimal (negative : Bool) (coefficient : Nat) (exponent : Int) : Binary64 :=
  if coefficient = 0 then zero negative
  else
    let places := Number.digitCount coefficient + exponent
    if 310 < places then infinite negative
    else if places < -330 then zero negative
    else
      let scaled := coefficient * unitsInOne
      if 0 ≤ exponent then ofCode negative (nearestCode (scaled * Nat.pow 10 exponent.toNat) 1)
      else ofCode negative (nearestCode scaled (Nat.pow 10 (-exponent).toNat))

/-- The value nearest to a natural number, if that is within the finite range. -/
def ofNat? (n : Nat) : Option Binary64 :=
  if h : nearestCode (n * unitsInOne) 1 < finiteCount then some (finite false _ h) else none

/-! ## Arithmetic -/

def isNegative : Binary64 → Bool
  | nan _ => false
  | infinite negative => negative
  | finite negative _ _ => negative

def negate : Binary64 → Binary64
  | nan payload => nan payload
  | infinite negative => infinite !negative
  | finite negative code bound => finite (!negative) code bound

/-- A finite value in units of 2⁻¹⁰⁷⁴. -/
def signedUnits (negative : Bool) (code : Nat) : Int :=
  Number.withSign negative (units code)

/-- The sum, rounded to the nearest value. A sum of zero is negative only if both parts are. -/
def add : Binary64 → Binary64 → Binary64
  | finite n a _, finite m b _ =>
    let sum := signedUnits n a + signedUnits m b
    if sum = 0 then zero (n && m) else ofCode (sum < 0) (nearestCode sum.natAbs 1)
  | infinite n, infinite m => if n = m then infinite n else nan 0
  | nan payload, _ | _, nan payload => nan payload
  | infinite n, finite .. | finite .., infinite n => infinite n

/-- The product, rounded to the nearest value. -/
def mul (x y : Binary64) : Binary64 :=
  let negative := x.isNegative != y.isNegative
  match x, y with
  | finite _ a _, finite _ b _ => ofCode negative (nearestCode (units a * units b) unitsInOne)
  | nan payload, _ | _, nan payload => nan payload
  | infinite _, finite _ code _ | finite _ code _, infinite _ =>
    if code = 0 then nan 0 else infinite negative
  | infinite _, infinite _ => infinite negative

/-! ## Comparison -/

/-- The integer that a value is, if it is one. -/
def toInt? : Binary64 → Option Int
  | finite negative code _ =>
    if units code % unitsInOne = 0 then
      some (Number.withSign negative (units code / unitsInOne))
    else none
  | _ => none

/-- Numeric equality: the two zeros are equal, and what is no number differs from everything. -/
def numericEq : Binary64 → Binary64 → Bool
  | finite n c _, finite n' c' _ => c == c' && (n == n' || c == 0)
  | infinite n, infinite n' => n == n'
  | _, _ => false

def isZero : Binary64 → Bool
  | finite _ code _ => code == 0
  | _ => false

end Binary64
end TypedRoutes
