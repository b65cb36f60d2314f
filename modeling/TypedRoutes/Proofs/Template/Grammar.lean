import Mathlib.Data.List.Induction
import TypedRoutes.Proofs.Template.Reading

/-!
# The grammar of templates

A source is grammatical if each of its pieces is a literal or a placeholder and no two placeholders
share a name. Exactly the grammatical sources are read; of any other one the leftmost piece that
does not go with those before it decides the diagnostic.
-/
namespace TypedRoutes

namespace Text

/-- The position behind pieces that each end with a slash. -/
def offset : List (List Char) → Nat
  | [] => 0
  | p :: ps => p.length + 1 + offset ps

theorem offset_append_singleton (ps : List (List Char)) (p : List Char) :
    offset (ps ++ [p]) = offset ps + p.length + 1 := by
  induction ps with
  | nil => simp [offset]
  | cons q ps ih =>
    rw [List.cons_append, offset, offset, ih]
    omega

end Text

theorem Percent.isAlphanumeric_iff {c : Char} :
    isAlphanumeric c = true ↔
      'A' ≤ c ∧ c ≤ 'Z' ∨ 'a' ≤ c ∧ c ≤ 'z' ∨ '0' ≤ c ∧ c ≤ '9' := by
  simp [isAlphanumeric, Char.le_def, UInt32.le_iff_toNat_le]
  omega

namespace Segment

variable {raw : String} {piece code name : List Char} {before done : List (List Char)}

/-! ## The grammar -/

def IsLiteral (piece : List Char) : Prop :=
  '\x7b' ∉ piece ∧ '\x7d' ∉ piece

/-- A piece in braces with a colon between a code and a name, whatever these two are. -/
structure HasForm (piece code name : List Char) : Prop where
  eq : piece = '\x7b' :: code ++ ':' :: name ++ ['\x7d']
  code_plain : '\x7b' ∉ code ∧ '\x7d' ∉ code ∧ ':' ∉ code
  name_plain : '\x7b' ∉ name ∧ '\x7d' ∉ name

def IsCode (code : List Char) : Prop :=
  code = ['b'] ∨ code = ['f'] ∨ code = ['i'] ∨ code = ['s']

def IsName (name : List Char) : Prop :=
  name ≠ [] ∧ ∀ c ∈ name, 'A' ≤ c ∧ c ≤ 'Z' ∨ 'a' ≤ c ∧ c ≤ 'z' ∨ '0' ≤ c ∧ c ≤ '9'

/-- A piece that declares a name. -/
def IsPlaceholder (piece name : List Char) : Prop :=
  IsName name ∧ ∃ code, IsCode code ∧ piece = '\x7b' :: code ++ ':' :: name ++ ['\x7d']

/-- Whether pieces make up a template. -/
structure Grammatical (ps : List (List Char)) : Prop where
  pieces : ∀ piece ∈ ps, IsLiteral piece ∨ ∃ name, IsPlaceholder piece name
  names : ps.Pairwise fun piece other =>
    ∀ name, IsPlaceholder piece name → ¬IsPlaceholder other name

/-- A diagnostic that points at a piece behind others. -/
def diagnosticAt (raw : String) (before : List (List Char)) (piece : List Char)
    (complaint : Complaint) (reason : String) (suggestions : List String) : Diagnostic :=
  ⟨complaint, raw, reason, some (Span.ofLength (Text.offset before) piece.length), suggestions⟩

/-- How a piece breaks the grammar, given those before it, and the diagnostic for this. -/
inductive Violates (raw : String) (before : List (List Char)) (piece : List Char) :
    Diagnostic → Prop
  | malformed (hbrace : ¬IsLiteral piece) (hform : ∀ code name, ¬HasForm piece code name) :
    Violates raw before piece (diagnosticAt raw before piece .form
      ("Malformed placeholder '" ++ String.ofList piece ++ "'")
      ["Placeholders fill a whole segment: \x7b<type>:<name>\x7d", "<type> is one of b, f, i, s"])
  | unknownKind {code name : List Char} (hform : HasForm piece code name) (hcode : ¬IsCode code) :
    Violates raw before piece (diagnosticAt raw before piece .form
      ("Unknown parameter type '" ++ String.ofList code ++ "'")
      ["b (boolean)", "f (float)", "i (integer)", "s (string)"])
  | invalidName {code name : List Char} (hform : HasForm piece code name) (hcode : IsCode code)
    (hname : ¬IsName name) :
    Violates raw before piece (diagnosticAt raw before piece .form
      ("Invalid parameter name '" ++ String.ofList name ++ "'")
      ["Parameter names use letters and digits only: [A-Za-z0-9]+"])
  | duplicateName {front back : List (List Char)} {other name : List Char}
    (hpiece : IsPlaceholder piece name) (hother : IsPlaceholder other name)
    (hbefore : before = front ++ other :: back) :
    Violates raw before piece (diagnosticAt raw before piece .meaning
      ("Duplicate parameter name '" ++ String.ofList name ++ "'")
      ["Rename one of the '" ++ String.ofList name ++ "' placeholders (first declared at column " ++
        toString (Text.offset front + 1) ++ ")"])

/-! ## The form of a placeholder -/

theorem beforeClosing?_eq_some_iff {cs : List Char} :
    beforeClosing? cs = some name ↔ cs = name ++ ['\x7d'] := by
  constructor
  · exact eq_of_beforeClosing?
  · rintro rfl
    simp [beforeClosing?]

theorem any_isBrace_eq_false_iff {cs : List Char} : cs.any isBrace = false ↔ IsLiteral cs := by
  simp only [IsLiteral, List.any_eq_false, isBrace, Bool.or_eq_true, beq_iff_eq, not_or]
  grind

/-- A piece has the form of a placeholder if it is taken for one. -/
theorem placeholder?_eq_some_iff :
    placeholder? piece = some (code, name) ↔ HasForm piece code name := by
  constructor
  · intro h
    have heq := eq_of_placeholder? h
    cases piece with
    | nil => cases h
    | cons c inner =>
      simp only [placeholder?] at h
      split_ifs at h
      split at h
      · cases h
      next rest hcut =>
        split at h
        · cases h
        next hname =>
          split_ifs at h with hbraces
          cases h
          rw [Bool.or_eq_true, not_or, Bool.not_eq_true, Bool.not_eq_true,
            any_isBrace_eq_false_iff, any_isBrace_eq_false_iff] at hbraces
          obtain ⟨hcode, hname⟩ := hbraces
          exact ⟨heq, ⟨hcode.1, hcode.2, (Text.cut_eq_some_iff.mp hcut).2⟩, hname⟩
  · rintro ⟨rfl, ⟨hopen, hclose, hcolon⟩, hname⟩
    have hcut : Text.cut ':' (code ++ ':' :: (name ++ ['\x7d'])) = some (code, name ++ ['\x7d']) :=
      Text.cut_eq_some_iff.mpr ⟨rfl, hcolon⟩
    have hcode : code.any isBrace = false := any_isBrace_eq_false_iff.mpr ⟨hopen, hclose⟩
    have hplain : name.any isBrace = false := any_isBrace_eq_false_iff.mpr hname
    simp [placeholder?, hcut, beforeClosing?_eq_some_iff.mpr rfl, hcode, hplain]

theorem placeholder?_eq_none_iff :
    placeholder? piece = none ↔ ∀ code name, ¬HasForm piece code name := by
  simp only [← placeholder?_eq_some_iff]
  constructor
  · intro h code name
    simp [h]
  · intro h
    exact Option.eq_none_iff_forall_ne_some.mpr fun (code, name) => h code name

theorem isCode_iff : IsCode code ↔ ∃ kind, Kind.ofCode? code = some kind := by
  simp only [Kind.ofCode?_eq_some_iff]
  constructor
  · rintro (rfl | rfl | rfl | rfl)
    exacts [⟨.boolean, rfl⟩, ⟨.float, rfl⟩, ⟨.integer, rfl⟩, ⟨.text, rfl⟩]
  · rintro ⟨kind, rfl⟩
    cases kind <;> simp [IsCode, Kind.code]

theorem isName_iff : IsName name ↔ (name.isEmpty || !name.all Percent.isAlphanumeric) = false := by
  simp [IsName, ← Percent.isAlphanumeric_iff]

/-! ## One piece -/

theorem isPlaceholder_iff :
    IsPlaceholder piece name ↔ ∃ code, HasForm piece code name ∧ IsCode code ∧ IsName name := by
  constructor
  · rintro ⟨hname, code, hcode, heq⟩
    have hbrace : ∀ c ∈ name, c ≠ '\x7b' ∧ c ≠ '\x7d' := by
      intro c hc
      constructor <;> rintro rfl <;> exact absurd (hname.2 _ hc) (by decide)
    refine ⟨code, ⟨heq, ?_, ?_⟩, hcode, hname⟩
    · rcases hcode with rfl | rfl | rfl | rfl <;> decide
    · exact ⟨fun hopen => (hbrace _ hopen).1 rfl, fun hclose => (hbrace _ hclose).2 rfl⟩
  · rintro ⟨code, hform, hcode, hname⟩
    exact ⟨hname, code, hcode, hform.eq⟩

theorem IsLiteral.not_hasForm (h : IsLiteral piece) : ¬HasForm piece code name := by
  intro hform
  rw [hform.eq] at h
  exact h.1 (by simp)

theorem IsLiteral.not_isPlaceholder (h : IsLiteral piece) : ¬IsPlaceholder piece name := by
  intro hpiece
  obtain ⟨_, hform, -, -⟩ := isPlaceholder_iff.mp hpiece
  exact h.not_hasForm hform

theorem IsPlaceholder.name_unique {other : List Char} (h : IsPlaceholder piece name)
    (h' : IsPlaceholder piece other) : name = other := by
  obtain ⟨_, hform, -, -⟩ := isPlaceholder_iff.mp h
  obtain ⟨_, hform', -, -⟩ := isPlaceholder_iff.mp h'
  have hread := placeholder?_eq_some_iff.mpr hform
  rw [placeholder?_eq_some_iff.mpr hform'] at hread
  exact congrArg Prod.snd (Option.some.inj hread.symm)

theorem ofPiece_of_isLiteral (h : IsLiteral piece) :
    ofPiece piece = .ok (.literal (String.ofList piece)) := by
  have hnone : placeholder? piece = none :=
    placeholder?_eq_none_iff.mpr fun _ _ hform => h.not_hasForm hform
  simp [ofPiece, hnone, any_isBrace_eq_false_iff.mpr h]

theorem exists_ofPiece_of_isPlaceholder (h : IsPlaceholder piece name) :
    ∃ kind, ofPiece piece = .ok (.parameter kind (String.ofList name)) := by
  obtain ⟨code, hform, hcode, hname⟩ := isPlaceholder_iff.mp h
  obtain ⟨kind, hkind⟩ := isCode_iff.mp hcode
  refine ⟨kind, ?_⟩
  simp only [ofPiece, placeholder?_eq_some_iff.mpr hform, hkind, isName_iff.mp hname]
  rfl

theorem isLiteral_of_ofPiece {text : String} (h : ofPiece piece = .ok (.literal text)) :
    IsLiteral piece := by
  unfold ofPiece at h
  split at h
  · split_ifs at h with hbrace
    exact any_isBrace_eq_false_iff.mp (by simpa using hbrace)
  · split at h
    · cases h
    · split_ifs at h
      cases h

theorem isPlaceholder_of_ofPiece {kind : Kind} {declared : String}
    (h : ofPiece piece = .ok (.parameter kind declared)) :
    IsPlaceholder piece declared.toList := by
  unfold ofPiece at h
  split at h
  · split_ifs at h
    cases h
  next code chars hplace =>
    split at h
    · cases h
    next hkind =>
      split_ifs at h with hname
      cases h
      rw [String.toList_ofList]
      exact isPlaceholder_iff.mpr ⟨code, placeholder?_eq_some_iff.mp hplace,
        isCode_iff.mpr ⟨_, hkind⟩, isName_iff.mpr (by simpa using hname)⟩

/-! ## A piece behind others -/

/-- Whether `seen` has the names that the pieces in `done` declare, each with the column of the
piece that declares it. -/
def Recorded (done : List (List Char)) (seen : List (String × Int)) : Prop :=
  ∀ name column, seen.lookup (String.ofList name) = some column ↔
    ∃ front other, (∃ back, done = front ++ other :: back) ∧
      IsPlaceholder other name ∧ column = Text.offset front + 1

theorem append_singleton_eq_iff {front : List (List Char)} {other : List Char} :
    (∃ back, done ++ [piece] = front ++ other :: back) ↔
      (∃ back, done = front ++ other :: back) ∨ (front = done ∧ other = piece) := by
  constructor
  · rintro ⟨back, h⟩
    rcases List.eq_nil_or_concat back with rfl | ⟨back, last, rfl⟩
    · obtain ⟨rfl, hlast⟩ := List.append_inj' h rfl
      exact .inr ⟨rfl, (List.singleton_inj.mp hlast).symm⟩
    · have hlast : done ++ [piece] = (front ++ other :: back) ++ [last] := by simpa using h
      exact .inl ⟨back, (List.append_inj' hlast rfl).1⟩
  · rintro (⟨back, rfl⟩ | ⟨rfl, rfl⟩)
    · exact ⟨back ++ [piece], by simp⟩
    · exact ⟨[], rfl⟩

theorem recorded_nil : Recorded [] [] := by
  simp [Recorded]

theorem Recorded.append_literal {seen : List (String × Int)} (h : Recorded done seen)
    (hpiece : IsLiteral piece) : Recorded (done ++ [piece]) seen := by
  intro name column
  rw [h name column]
  simp only [append_singleton_eq_iff]
  constructor
  · rintro ⟨front, other, hdone, hother⟩
    exact ⟨front, other, .inl hdone, hother⟩
  · rintro ⟨front, other, hdone | ⟨rfl, rfl⟩, hother, hcolumn⟩
    · exact ⟨front, other, hdone, hother, hcolumn⟩
    · exact absurd hother hpiece.not_isPlaceholder

theorem Recorded.append_placeholder {seen : List (String × Int)} (h : Recorded done seen)
    (hpiece : IsPlaceholder piece name) (hnew : ∀ other ∈ done, ¬IsPlaceholder other name) :
    Recorded (done ++ [piece]) ((String.ofList name, (Text.offset done : Int) + 1) :: seen) := by
  intro other column
  simp only [append_singleton_eq_iff]
  by_cases hsame : other = name
  · subst hsame
    rw [List.lookup_cons_self, Option.some_inj]
    constructor
    · rintro rfl
      exact ⟨done, piece, .inr ⟨rfl, rfl⟩, hpiece, rfl⟩
    · rintro ⟨front, declaring, ⟨back, rfl⟩ | ⟨rfl, rfl⟩, hother, hcolumn⟩
      · exact absurd hother (hnew declaring (by simp))
      · exact hcolumn.symm
  · have hne : (String.ofList other == String.ofList name) = false := by
      simpa [String.ofList_inj] using hsame
    rw [List.lookup_cons, hne, h other column]
    constructor
    · rintro ⟨front, declaring, hdone, hother⟩
      exact ⟨front, declaring, .inl hdone, hother⟩
    · rintro ⟨front, declaring, hdone | ⟨rfl, rfl⟩, hother, hcolumn⟩
      · exact ⟨front, declaring, hdone, hother, hcolumn⟩
      · exact absurd (hother.name_unique hpiece) hsame

theorem grammatical_append_singleton_iff :
    Grammatical (done ++ [piece]) ↔ Grammatical done ∧
      (IsLiteral piece ∨ ∃ name, IsPlaceholder piece name) ∧
        ∀ other ∈ done, ∀ name, IsPlaceholder other name → ¬IsPlaceholder piece name := by
  constructor
  · rintro ⟨hpieces, hnames⟩
    rw [List.pairwise_append] at hnames
    exact ⟨⟨fun other hother => hpieces other (by simp [hother]), hnames.1⟩,
      hpieces piece (by simp), fun other hother => hnames.2.2 other hother piece (by simp)⟩
  · rintro ⟨hdone, hpiece, hnames⟩
    constructor
    · intro other hother
      rcases List.mem_append.mp hother with hother | hother
      · exact hdone.pieces other hother
      · rwa [List.mem_singleton.mp hother]
    · rw [List.pairwise_append]
      refine ⟨hdone.names, List.pairwise_singleton _ _, ?_⟩
      intro other hother last hlast
      rw [List.mem_singleton.mp hlast]
      exact hnames other hother

/-- A piece behind those of a template goes with them or breaks the grammar. -/
theorem Grammatical.append_or_violates (raw : String) (h : Grammatical done) (piece : List Char) :
    Grammatical (done ++ [piece]) ∨ ∃ d, Violates raw done piece d := by
  by_cases hliteral : IsLiteral piece
  · exact .inl (grammatical_append_singleton_iff.mpr
      ⟨h, .inl hliteral, fun _ _ _ _ => hliteral.not_isPlaceholder⟩)
  by_cases hform : ∃ code name, HasForm piece code name
  · obtain ⟨code, name, hform⟩ := hform
    by_cases hcode : IsCode code
    · by_cases hname : IsName name
      · have hpiece : IsPlaceholder piece name := isPlaceholder_iff.mpr ⟨code, hform, hcode, hname⟩
        by_cases hnew : ∃ other ∈ done, IsPlaceholder other name
        · obtain ⟨other, hmem, hother⟩ := hnew
          obtain ⟨front, back, hdone⟩ := List.append_of_mem hmem
          exact .inr ⟨_, .duplicateName hpiece hother hdone⟩
        · refine .inl (grammatical_append_singleton_iff.mpr ⟨h, .inr ⟨name, hpiece⟩, ?_⟩)
          intro other hmem found hother hfound
          rw [hfound.name_unique hpiece] at hother
          exact hnew ⟨other, hmem, hother⟩
      · exact .inr ⟨_, .invalidName hform hcode hname⟩
    · exact .inr ⟨_, .unknownKind hform hcode⟩
  · simp only [not_exists] at hform
    exact .inr ⟨_, .malformed hliteral hform⟩

/-! ## All pieces -/

variable {seen : List (String × Int)}

/-- One step on a piece that goes with those before it. -/
theorem ofPieces_cons_of_grammatical (hseen : Recorded done seen)
    (h : Grammatical (done ++ [piece])) :
    ∃ first seen', Recorded (done ++ [piece]) seen' ∧
      ∀ rest, ofPieces (Text.offset done) seen (piece :: rest) =
        (ofPieces (Text.offset (done ++ [piece])) seen' rest).map (first :: ·) := by
  obtain ⟨-, hpiece, hnames⟩ := grammatical_append_singleton_iff.mp h
  rw [Text.offset_append_singleton]
  rcases hpiece with hliteral | ⟨name, hpiece⟩
  · refine ⟨(.literal (String.ofList piece), Span.ofLength (Text.offset done) piece.length), seen,
      hseen.append_literal hliteral, fun rest => ?_⟩
    rw [ofPieces, ofPiece_of_isLiteral hliteral]
  · have hnew : ∀ other ∈ done, ¬IsPlaceholder other name :=
      fun other hother hdeclared => hnames other hother name hdeclared hpiece
    have hlookup : seen.lookup (String.ofList name) = none := by
      rw [Option.eq_none_iff_forall_ne_some]
      intro column hcolumn
      obtain ⟨front, other, ⟨back, rfl⟩, hother, -⟩ := (hseen name column).mp hcolumn
      exact hnew other (by simp) hother
    obtain ⟨kind, hread⟩ := exists_ofPiece_of_isPlaceholder hpiece
    refine ⟨(.parameter kind (String.ofList name), Span.ofLength (Text.offset done) piece.length),
      _, hseen.append_placeholder hpiece hnew, fun rest => ?_⟩
    simp only [ofPieces, hread, hlookup]
    rfl

/-- One step on a piece that breaks the grammar. -/
theorem ofPieces_cons_of_violates {d : Diagnostic} (hseen : Recorded done seen)
    (h : Violates raw done piece d) (rest : List (List Char)) :
    ∃ flaw span, ofPieces (Text.offset done) seen (piece :: rest) = .error (flaw, span) ∧
      d = flaw.diagnostic raw span := by
  have refused {flaw : Flaw} (hflaw : ofPiece piece = .error flaw) :
      ofPieces (Text.offset done) seen (piece :: rest) =
        .error (flaw, Span.ofLength (Text.offset done) piece.length) := by
    rw [ofPieces, hflaw]
  cases h with
  | malformed hbrace hform =>
    have hany : piece.any isBrace = true := by
      rwa [← any_isBrace_eq_false_iff, Bool.not_eq_false] at hbrace
    refine ⟨.malformed (String.ofList piece), _, refused ?_, rfl⟩
    simp [ofPiece, placeholder?_eq_none_iff.mpr hform, hany]
  | @unknownKind code name hform hcode =>
    have hnone : Kind.ofCode? code = none := by
      rwa [isCode_iff, not_exists, ← Option.eq_none_iff_forall_ne_some] at hcode
    refine ⟨.unknownKind (String.ofList code), _, refused ?_, rfl⟩
    simp [ofPiece, placeholder?_eq_some_iff.mpr hform, hnone]
  | @invalidName code name hform hcode hname =>
    obtain ⟨kind, hkind⟩ := isCode_iff.mp hcode
    rw [isName_iff, Bool.not_eq_false] at hname
    refine ⟨.invalidName (String.ofList name), _, refused ?_, rfl⟩
    simp only [ofPiece, placeholder?_eq_some_iff.mpr hform, hkind, hname]
    rfl
  | @duplicateName front back other name hpiece hother hbefore =>
    obtain ⟨kind, hread⟩ := exists_ofPiece_of_isPlaceholder hpiece
    have hlookup : seen.lookup (String.ofList name) = some ((Text.offset front : Int) + 1) :=
      (hseen _ _).mpr ⟨front, other, ⟨back, hbefore⟩, hother, rfl⟩
    refine ⟨.duplicateName (String.ofList name) (Text.offset front + 1),
      Span.ofLength (Text.offset done) piece.length, ?_, ?_⟩
    · simp only [ofPieces, hread, hlookup]
    · have hcolumn : toString ((Text.offset front : Int) + 1) = toString (Text.offset front + 1) :=
        rfl
      rw [diagnosticAt, ← hcolumn]
      rfl

theorem Grammatical.of_append {ps : List (List Char)} (h : Grammatical (done ++ ps)) :
    Grammatical done where
  pieces piece hpiece := h.pieces piece (by simp [hpiece])
  names := (List.pairwise_append.mp h.names).1

theorem exists_ofPieces_of_grammatical {ps : List (List Char)} (hseen : Recorded done seen)
    (h : Grammatical (done ++ ps)) :
    ∃ placed, ofPieces (Text.offset done) seen ps = .ok placed := by
  induction ps generalizing done seen with
  | nil => exact ⟨[], rfl⟩
  | cons piece rest ih =>
    rw [List.append_cons] at h
    obtain ⟨first, seen', hseen', hstep⟩ := ofPieces_cons_of_grammatical hseen h.of_append
    obtain ⟨placed, hrest⟩ := ih hseen' h
    exact ⟨first :: placed, by rw [hstep, hrest]; rfl⟩

theorem ofPieces_of_violates {d : Diagnostic} (hseen : Recorded done seen)
    (hbefore : Grammatical (done ++ before)) (h : Violates raw (done ++ before) piece d)
    (after : List (List Char)) :
    ∃ flaw span, ofPieces (Text.offset done) seen (before ++ piece :: after) = .error (flaw, span) ∧
      d = flaw.diagnostic raw span := by
  -- Each piece before passes by one step, and what is recorded then includes it.
  induction before generalizing done seen with
  | nil =>
    rw [List.append_nil] at h
    exact ofPieces_cons_of_violates hseen h after
  | cons first before ih =>
    rw [List.append_cons] at hbefore h
    obtain ⟨segment, seen', hseen', hstep⟩ := ofPieces_cons_of_grammatical hseen hbefore.of_append
    obtain ⟨flaw, span, hrest, hd⟩ := ih hseen' hbefore h
    exact ⟨flaw, span, by rw [List.cons_append, hstep, hrest]; rfl, hd⟩

/-- Pieces that make up no template have a leftmost one that breaks the grammar. -/
theorem grammatical_or_violates (raw : String) (ps : List (List Char)) :
    Grammatical ps ∨ ∃ before piece after d,
      ps = before ++ piece :: after ∧ Grammatical before ∧ Violates raw before piece d := by
  induction ps using List.reverseRecOn with
  | nil => exact .inl ⟨by simp, .nil⟩
  | append_singleton ps last ih =>
    rcases ih with h | ⟨before, piece, after, d, rfl, hbefore, hpiece⟩
    · rcases h.append_or_violates raw last with hlast | ⟨d, hlast⟩
      · exact .inl hlast
      · exact .inr ⟨ps, last, [], d, rfl, h, hlast⟩
    · exact .inr ⟨before, piece, after ++ [last], d, by simp, hbefore, hpiece⟩

end Segment

namespace Template

variable {raw : String}

theorem parse_eq_ok_of_ofPieces {placed : List (Segment × Span)}
    (h : Segment.ofPieces 0 [] (sourcePieces raw) = .ok placed) :
    parse raw = .ok ⟨placed.map Prod.fst, (splitFinalSlash raw.toList).2⟩ := by
  rw [sourcePieces] at h
  simp only [parse, read, h]
  rfl

theorem parse_eq_error_of_ofPieces {flaw : Flaw} {span : Span}
    (h : Segment.ofPieces 0 [] (sourcePieces raw) = .error (flaw, span)) :
    parse raw = .error (flaw.diagnostic raw span) := by
  rw [sourcePieces] at h
  simp only [parse, read, h]
  rfl

/-- Exactly the grammatical sources are read, and the leftmost piece that breaks the grammar decides
the diagnostic of any other one. -/
theorem parse_iff_grammatical (raw : String) :
    ((∃ t, parse raw = .ok t) ↔ Segment.Grammatical (sourcePieces raw)) ∧
      ∀ d, parse raw = .error d ↔ ∃ before piece after,
        sourcePieces raw = before ++ piece :: after ∧ Segment.Grammatical before ∧
          Segment.Violates raw before piece d := by
  have hok : Segment.Grammatical (sourcePieces raw) → ∃ t, parse raw = .ok t := by
    intro h
    obtain ⟨placed, hplaced⟩ := Segment.exists_ofPieces_of_grammatical Segment.recorded_nil h
    exact ⟨_, parse_eq_ok_of_ofPieces hplaced⟩
  have herror : ∀ before piece after d, sourcePieces raw = before ++ piece :: after →
      Segment.Grammatical before → Segment.Violates raw before piece d → parse raw = .error d := by
    intro before piece after d heq hbefore hpiece
    obtain ⟨flaw, span, hrefused, rfl⟩ :=
      Segment.ofPieces_of_violates Segment.recorded_nil hbefore hpiece after
    exact parse_eq_error_of_ofPieces (heq ▸ hrefused)
  refine ⟨⟨?_, hok⟩, fun d => ⟨?_, ?_⟩⟩
  · rintro ⟨t, ht⟩
    rcases Segment.grammatical_or_violates raw (sourcePieces raw) with
      h | ⟨before, piece, after, d, heq, hbefore, hpiece⟩
    · exact h
    · cases ht.symm.trans (herror before piece after d heq hbefore hpiece)
  · intro hd
    rcases Segment.grammatical_or_violates raw (sourcePieces raw) with
      h | ⟨before, piece, after, d', heq, hbefore, hpiece⟩
    · obtain ⟨t, ht⟩ := hok h
      cases ht.symm.trans hd
    · cases hd.symm.trans (herror before piece after d' heq hbefore hpiece)
      exact ⟨before, piece, after, heq, hbefore, hpiece⟩
  · rintro ⟨before, piece, after, heq, hbefore, hpiece⟩
    exact herror before piece after d heq hbefore hpiece

end Template
end TypedRoutes
