import TypedRoutes.Value.Display

/-!
# Values as JSON text

JSON text in ASCII: every other character is escaped by its UTF-16 units. A layout with an indent
puts every item on a line of its own.
-/
namespace TypedRoutes
namespace Json

def escapeUnit (n : Nat) : List Char :=
  '\\' :: 'u' :: Text.hexDigits 4 n

def escapeChar (c : Char) : List Char :=
  let n := c.toNat
  if c = '"' || c = '\\' then ['\\', c]
  else if c = '\n' then ['\\', 'n']
  else if c = '\r' then ['\\', 'r']
  else if c = '\t' then ['\\', 't']
  else if n = 0x8 then ['\\', 'b']
  else if n = 0xC then ['\\', 'f']
  else if 0x20 ≤ n && n ≤ 0x7E then [c]
  else if n < 0x10000 then escapeUnit n
  else escapeUnit (0xD800 + (n - 0x10000) / 0x400) ++ escapeUnit (0xDC00 + (n - 0x10000) % 0x400)

def quoted (s : String) : String :=
  String.ofList ('"' :: s.toList.flatMap escapeChar ++ ['"'])

/-- What stands between the items of a container at a depth: a blank, or a line break and the
indent. -/
def separator (indent : Option Int) (depth : Nat) : String :=
  match indent with
  | none => ", "
  | some width => ",\n" ++ String.ofList (List.replicate (width.toNat * depth) ' ')

/-- What stands between a bracket and the items at a depth. -/
def margin (indent : Option Int) (depth : Nat) : String :=
  match indent with
  | none => ""
  | some width => "\n" ++ String.ofList (List.replicate (width.toNat * depth) ' ')

/-- The text of a floating-point value, or the word for one that has no numeral. -/
def floatText : Binary64 → String
  | .nan _ => "NaN"
  | .infinite negative => if negative then "-Infinity" else "Infinity"
  | x => String.ofList x.text

mutual

/-- The JSON text of a value. A value that JSON has no form for is given by its text. -/
def write (indent : Option Int) (depth : Nat) : Value → String
  | .null => "null"
  | .boolean b => if b then "true" else "false"
  | .list [] => "[]"
  | .list (item :: rest) =>
    "[" ++ margin indent (depth + 1) ++ writeItems indent (depth + 1) (item :: rest) ++
      margin indent depth ++ "]"
  | .mapping [] => "\x7b\x7d"
  | .mapping (entry :: rest) =>
    "\x7b" ++ margin indent (depth + 1) ++ writeEntries indent (depth + 1) (entry :: rest) ++
      margin indent depth ++ "\x7d"
  | .integer n => Scalar.display (.integer n)
  | .float x => floatText x
  | .text s => quoted s
  | .typed value => quoted value.display
  | .handler _ name => quoted name

def writeItems (indent : Option Int) (depth : Nat) : List Value → String
  | [] => ""
  | item :: rest =>
    write indent depth item ++ (if rest.isEmpty then "" else separator indent depth) ++
      writeItems indent depth rest

def writeEntries (indent : Option Int) (depth : Nat) : List (Value × Value) → String
  | [] => ""
  | (key, value) :: rest =>
    quoted key.plain ++ ": " ++ write indent depth value ++
      (if rest.isEmpty then "" else separator indent depth) ++ writeEntries indent depth rest

end

/-- The JSON text of a value, in one line or with an indent. -/
def ofValue (indent : Option Int) (value : Value) : String :=
  write indent 0 value

end Json
end TypedRoutes
