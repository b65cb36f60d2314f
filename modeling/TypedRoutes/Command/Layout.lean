import TypedRoutes.Command.Transcript
import TypedRoutes.Number.Reading

/-!
# The layout of output

Sections with a ruled line, aligned pairs of a key and a value, and tables with aligned columns.
-/
namespace TypedRoutes
namespace Layout

def check : String := "\u2713"

def cross : String := "\u2717"

def arrow : String := "\u2192"

def blanks (count : Nat) : String :=
  String.ofList (List.replicate count ' ')

def rule (count : Nat) : String :=
  String.ofList (List.replicate count (Char.ofNat 0x2500))

def padTo (width : Nat) (text : String) : String :=
  text ++ blanks (width - text.length)

def withoutEndBlanks (text : String) : String :=
  String.ofList (Text.trimEnd Text.isBlank text.toList)

/-- The width of lines: the number of columns if one is given, between 40 and 120. -/
def width (columns : Option String) : Nat :=
  let given := match columns.map fun text => Number.readLooseInt text.toList with
    | some (.value n) => if 0 < n then n.toNat else 80
    | _ => 80
  max 40 (min given 120)

/-- The header of a section, filled up to a width. -/
def sectionHeader (width : Nat) (title : String) : Transcript Unit :=
  let dashes := max 4 (width - title.length - 6)
  .styled { colour := some .cyan, bold := true } (rule 2 ++ " " ++ title ++ " " ++ rule dashes)

/-- A key and a value, the values being aligned. -/
def pair (key value : String) : Transcript Unit :=
  .line (blanks 2 ++ Style.apply { colour := some .white } (key ++ ":") ++
    blanks (max 1 (19 - key.length)) ++ Style.apply { colour := some .cyan } value)

/-- The widths of columns, each two more than its longest cell. -/
def columnWidths (headers : List String) (rows : List (List String)) : List Nat :=
  headers.zipIdx.map fun (header, i) =>
    (rows.map fun row => ((row[i]?).getD "").length).foldl max header.length + 2

def alignedRow (widths : List Nat) (row : List String) : String :=
  withoutEndBlanks (String.join ((widths.zip row).map fun (width, cell) => padTo width cell))

/-- A table with a header and a rule below it. -/
def table (headers : List String) (rows : List (List String)) : Transcript Unit := do
  let widths := columnWidths headers rows
  .line (blanks 2 ++
    Style.apply { colour := some .cyan, bold := true } (alignedRow widths headers))
  .line (blanks 2 ++ Style.apply { dim := true } (String.join (widths.map rule)))
  rows.forM fun row => .line (blanks 2 ++ alignedRow widths row)

end Layout
end TypedRoutes
