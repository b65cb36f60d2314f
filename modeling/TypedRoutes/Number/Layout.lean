import TypedRoutes.Number.Shortest

/-!
# The text of a floating-point value

A value is shown by the digits of its shortest decimal. Positional notation always has a point;
scientific notation has a point only where there is a digit to follow it.
-/
namespace TypedRoutes

/-- The decisions of a floating-point notation: the leading exponents that are written
positionally, and the least number of digits of a written exponent. -/
structure FloatLayout where
  positionalFrom : Int
  positionalBelow : Int
  exponentDigits : Nat

namespace FloatLayout

/-- Values from 10⁻⁴ up to 10¹⁶ are written positionally, and exponents with two digits. -/
def standard : FloatLayout := ⟨-4, 16, 2⟩

def isPositional (layout : FloatLayout) (d : Decimal) : Bool :=
  d.coefficient == 0 ||
    (layout.positionalFrom ≤ d.leadingExponent && d.leadingExponent < layout.positionalBelow)

end FloatLayout

namespace Decimal

def zeros (n : Nat) : List Char :=
  List.replicate n '0'

/-- Positional notation, without a point where there is no fraction. -/
def positional (d : Decimal) : List Char :=
  let ds := Number.digits d.coefficient
  if 0 ≤ d.exponent then
    if d.coefficient = 0 then ds else ds ++ zeros d.exponent.toNat
  else
    let fraction := (-d.exponent).toNat
    if fraction < ds.length then
      ds.take (ds.length - fraction) ++ '.' :: ds.drop (ds.length - fraction)
    else '0' :: '.' :: zeros (fraction - ds.length) ++ ds

/-- Positional notation with a fraction, if only a zero. -/
def positionalWithPoint (d : Decimal) : List Char :=
  if 0 ≤ d.exponent then d.positional ++ ['.', '0'] else d.positional

/-- Scientific notation with an exponent of at least `width` digits. -/
def scientific (width : Nat) (d : Decimal) : List Char :=
  let e := d.leadingExponent
  let exponent := Number.digits e.natAbs
  let mantissa :=
    match Number.digits d.coefficient with
    | c :: [] => [c]
    | c :: cs => c :: '.' :: cs
    | [] => []
  mantissa ++ 'e' :: (if e < 0 then '-' else '+') :: zeros (width - exponent.length) ++ exponent

end Decimal

namespace Binary64

def signed (negative : Bool) (cs : List Char) : List Char :=
  if negative then '-' :: cs else cs

/-- The text of a value in a layout. -/
def render (layout : FloatLayout) : Binary64 → List Char
  | nan _ => "nan".toList
  | infinite negative => signed negative "inf".toList
  | finite negative code _ =>
    let d := shortest code
    signed negative <|
      if layout.isPositional d then d.positionalWithPoint
      else d.scientific layout.exponentDigits

/-- The text of a value in the standard layout. -/
def text (x : Binary64) : List Char :=
  x.render .standard

/-- The text of a value without an exponent. A fraction of zero is written only where the standard
layout writes it. -/
def plainText : Binary64 → List Char
  | finite negative code _ =>
    let d := shortest code
    signed negative <|
      if FloatLayout.standard.isPositional d then d.positionalWithPoint else d.positional
  | x => x.text

end Binary64
end TypedRoutes
