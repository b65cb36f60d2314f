import TypedRoutes.Text.Digit

/-!
# Decimal numerals

Naturals and integers as decimal numerals. A numeral is written with the ASCII digits and read with
the digits of any script. Numerals of more than `numeralLimit` digits are neither read nor written.
-/
namespace TypedRoutes
namespace Number

/-- The greatest number of digits, leading zeros counted, of a numeral. -/
def numeralLimit : Nat := 4300

/-- The decimal digits of a natural number. -/
def digits (n : Nat) : List Char :=
  Nat.toDigits 10 n

def digitCount (n : Nat) : Nat :=
  (digits n).length

/-- The number that a sequence of digits denotes. -/
def ofDigits (cs : List Char) : Nat :=
  cs.foldl (fun n c => 10 * n + (Text.digitValue? c).getD 0) 0

/-- A minus or plus sign in front, as whether it is a minus, and what follows it. -/
def splitSign : List Char → Bool × List Char
  | [] => (false, [])
  | c :: cs => if c = '-' then (true, cs) else if c = '+' then (false, cs) else (false, c :: cs)

def withSign (negative : Bool) (n : Nat) : Int :=
  if negative then -n else n

/-- What a text is when it is read as an integer. -/
inductive Reading where
  | notNumeral
  | tooLong
  | value (n : Int)
deriving DecidableEq

/-- Reads an optional sign and at least one digit. -/
def readInt (cs : List Char) : Reading :=
  let (negative, body) := splitSign cs
  if body.isEmpty || !body.all Text.isDigit then .notNumeral
  else if body.length ≤ numeralLimit then .value (withSign negative (ofDigits body))
  else .tooLong

/-- The numeral of an integer, whatever its length. -/
def intText (n : Int) : List Char :=
  if n < 0 then '-' :: digits n.natAbs else digits n.natAbs

/-- The numeral of an integer, if it is within the limit. -/
def intText? (n : Int) : Option (List Char) :=
  if digitCount n.natAbs ≤ numeralLimit then some (intText n) else none

theorem intText?_eq_some {n : Int} {cs : List Char} (h : intText? n = some cs) :
    cs = intText n := by
  simp only [intText?, Option.ite_none_right_eq_some, Option.some.injEq] at h
  exact h.2.symm

end Number
end TypedRoutes
