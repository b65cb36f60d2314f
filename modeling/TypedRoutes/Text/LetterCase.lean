import TypedRoutes.Text.CaseTable
import TypedRoutes.Text.SigmaContext

/-!
# Letter case

Three maps: the simple lower-case form of a character, and the full lower- and upper-case forms of
a text, where a character may become several. Two characters are the same up to case when they
have the same fold; the fold joins to each simple lower-case form the few letters that share an
upper-case form with it, such as the long s and the final sigma.
-/
namespace TypedRoutes
namespace Text

def CaseRange.holds (range : CaseRange) (c : Char) : Bool :=
  range.first ≤ c.toNat && c.toNat ≤ range.last && (c.toNat - range.first) % range.step == 0

/-- Moves a character by the offset of the first range that holds it. -/
def moveCase (ranges : List CaseRange) (c : Char) : Char :=
  match ranges.find? fun range => range.holds c with
  | some range => Char.ofNat (c.toNat + range.offset).toNat
  | none => c

/-- The simple lower-case form. -/
def simpleLower (c : Char) : Char :=
  moveCase lowerRanges c

def capitalSigma : Char := Char.ofNat 0x3A3

def smallSigma : Char := Char.ofNat 0x3C3

def finalSigma : Char := Char.ofNat 0x3C2

/-- A word goes on in `cs` when its first character that is not case-ignorable has case. -/
def wordContinues (cs : List Char) : Bool :=
  match cs.dropWhile isCaseIgnorable with
  | c :: _ => isCased c
  | [] => false

/-- The lower-case form of `c` between the reversed text `before` and the text `after`. A capital
sigma that ends a word becomes a final sigma, and the dotted capital I keeps its dot. -/
def lowerAt (before : List Char) (c : Char) (after : List Char) : List Char :=
  if c = capitalSigma then
    if wordContinues before && !wordContinues after then [finalSigma] else [smallSigma]
  else if c = Char.ofNat 0x130 then ['i', Char.ofNat 0x307]
  else [simpleLower c]

def lowerFrom (before : List Char) : List Char → List Char
  | [] => []
  | c :: after => lowerAt before c after ++ lowerFrom (c :: before) after

/-- The lower-case form of a text. -/
def lower (s : String) : String :=
  String.ofList (lowerFrom [] s.toList)

def upperChar (c : Char) : List Char :=
  match upperExpansions.find? fun entry => entry.1 == c.toNat with
  | some entry => entry.2.map Char.ofNat
  | none => [moveCase upperRanges c]

/-- The upper-case form of a text. -/
def upper (s : String) : String :=
  String.ofList (s.toList.flatMap upperChar)

/-- The lower-case letters that are equal up to case although their simple lower-case forms
differ, each class led by its representative. -/
def caseClasses : List (List Nat) :=
  [[0x69, 0x131], [0x73, 0x17F], [0xB5, 0x3BC], [0x345, 0x3B9, 0x1FBE], [0x390, 0x1FD3],
   [0x3B0, 0x1FE3], [0x3B2, 0x3D0], [0x3B5, 0x3F5], [0x3B8, 0x3D1], [0x3BA, 0x3F0],
   [0x3C0, 0x3D6], [0x3C1, 0x3F1], [0x3C2, 0x3C3], [0x3C6, 0x3D5], [0x432, 0x1C80],
   [0x434, 0x1C81], [0x43E, 0x1C82], [0x441, 0x1C83], [0x442, 0x1C84, 0x1C85],
   [0x44A, 0x1C86], [0x463, 0x1C87], [0x1C88, 0xA64B], [0x1E61, 0x1E9B], [0xFB05, 0xFB06]]

/-- The representative of the characters that equal `c` up to case. -/
def fold (c : Char) : Char :=
  let l := simpleLower c
  match caseClasses.find? fun members => members.contains l.toNat with
  | some (leader :: _) => Char.ofNat leader
  | _ => l

def sameUpToCase (c d : Char) : Bool :=
  fold c == fold d

/-- Character-wise equality up to case. -/
def sameText : List Char → List Char → Bool
  | [], [] => true
  | c :: cs, d :: ds => sameUpToCase c d && sameText cs ds
  | _, _ => false

theorem sameText_iff {cs ds : List Char} : sameText cs ds = true ↔ cs.map fold = ds.map fold := by
  induction cs generalizing ds with
  | nil => cases ds <;> simp [sameText]
  | cons c cs ih =>
    cases ds with
    | nil => simp [sameText]
    | cons d ds => simp [sameText, sameUpToCase, ih]

theorem sameText_refl (cs : List Char) : sameText cs cs = true :=
  sameText_iff.2 rfl

end Text
end TypedRoutes
