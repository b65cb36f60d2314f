import TypedRoutes.Text.Hex
import TypedRoutes.Text.Utf8

/-!
# Percent escapes

A text is written with the unreserved characters of URLs alone: every other character becomes the
escapes of its UTF-8 octets. Reading takes every escape for its octet and leaves a percent sign
without two hexadecimal digits as it is. A character beyond ASCII stands for itself and ends the
octets before it.
-/
namespace TypedRoutes
namespace Percent

/-- ASCII letters and digits. -/
def isAlphanumeric (c : Char) : Bool :=
  let n := c.toNat
  (0x30 ≤ n && n ≤ 0x39) || (0x41 ≤ n && n ≤ 0x5A) || (0x61 ≤ n && n ≤ 0x7A)

/-- The characters that never need an escape. -/
def isUnreserved (c : Char) : Bool :=
  isAlphanumeric c || c == '.' || c == '_' || c == '~' || c == '-'

def escapeOctet (b : Nat) : List Char :=
  ['%', Text.largeHexDigit (b / 16), Text.largeHexDigit (b % 16)]

def encodeChar (c : Char) : List Char :=
  if isUnreserved c then [c] else (Utf8.encodeChar c).flatMap escapeOctet

def encode (cs : List Char) : List Char :=
  cs.flatMap encodeChar

/-- What a text with escapes is made of: octets, and characters beyond ASCII. -/
inductive Item where
  | octet (b : Nat)
  | character (c : Char)

def Item.ofChar (c : Char) : Item :=
  if c.toNat < 0x80 then .octet c.toNat else .character c

def items : List Char → List Item
  | [] => []
  | c :: a :: b :: rest =>
    if c = '%' then
      match Text.hexValue? a, Text.hexValue? b with
      | some x, some y => .octet (16 * x + y) :: items rest
      | _, _ => .ofChar c :: items (a :: b :: rest)
    else .ofChar c :: items (a :: b :: rest)
  | c :: rest => .ofChar c :: items rest

def decodeItems (state : Option Utf8.Pending) : List Item → List Char
  | [] => Utf8.flush state
  | .octet b :: rest => (Utf8.step state b).1 ++ decodeItems (Utf8.step state b).2 rest
  | .character c :: rest => Utf8.flush state ++ c :: decodeItems none rest

def decode (cs : List Char) : List Char :=
  decodeItems none (items cs)

end Percent
end TypedRoutes
