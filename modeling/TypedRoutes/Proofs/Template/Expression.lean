import TypedRoutes.Proofs.Parameter.Language
import TypedRoutes.Proofs.Template.Matching
import TypedRoutes.Proofs.Text.LetterCase

/-!
# Matching by regular expressions

The expression of a template is written as its pattern and has one group for each placeholder. It
matches exactly the paths whose pieces go with the segments one by one, in one way only, and the
groups take the pieces of their placeholders.
-/
namespace TypedRoutes

open Pattern

/-! ## Pieces of segments -/

namespace Segment

/-- Whether a piece goes with a segment. -/
def Accepts : Segment → List Char → Prop
  | literal text, piece => Text.sameText text.toList piece = true
  | parameter kind _, piece => kind.matchesText piece = true

/-- The piece of a placeholder under its name. -/
def own? : Segment → List Char → Option (String × String)
  | literal _, _ => none
  | parameter _ name, piece => some (name, String.ofList piece)

/-- The pieces of the placeholders under their names. -/
def ownTexts (segments : List Segment) (pieces : List (List Char)) : Captures :=
  (segments.zip pieces).filterMap fun (segment, piece) => segment.own? piece

variable {segment : Segment} {segments : List Segment} {piece : List Char}
variable {pieces : List (List Char)} {captures : Captures}

theorem ownTexts_cons :
    ownTexts (segment :: segments) (piece :: pieces) =
      (segment.own? piece).toList ++ ownTexts segments pieces := by
  cases segment <;> simp [ownTexts, own?]

theorem ownTexts_singleton : ownTexts [segment] [piece] = (segment.own? piece).toList := by
  rw [ownTexts_cons, show ownTexts [] [] = [] from rfl, List.append_nil]

theorem capture?_eq_some_iff :
    segment.capture? piece = some captures ↔
      segment.Accepts piece ∧ captures = (segment.own? piece).toList := by
  cases segment <;>
    simp only [capture?, Accepts, own?, Option.ite_none_right_eq_some, Option.some_inj,
      Option.toList, @eq_comm _ captures]

theorem captureAll?_eq_some_iff :
    captureAll? segments pieces = some captures ↔
      List.Forall₂ Accepts segments pieces ∧ captures = ownTexts segments pieces := by
  induction segments generalizing pieces captures with
  | nil =>
    cases pieces with
    | nil => simp only [captureAll?, ownTexts, List.Forall₂.nil, true_and, Option.some_inj,
        List.zip_nil_left, List.filterMap_nil, @eq_comm _ captures]
    | cons _ _ => simp [captureAll?]
  | cons segment segments ih =>
    constructor
    · intro h
      obtain ⟨piece, rest, own, others, rfl, hown, hothers, rfl⟩ := captureAll?_cons_eq_some h
      obtain ⟨haccepts, rfl⟩ := capture?_eq_some_iff.mp hown
      obtain ⟨hrest, rfl⟩ := ih.mp hothers
      exact ⟨.cons haccepts hrest, ownTexts_cons.symm⟩
    · rintro ⟨haccepts | ⟨hpiece, hrest⟩, rfl⟩
      rw [ownTexts_cons]
      exact captureAll?_cons (capture?_eq_some_iff.mpr ⟨hpiece, rfl⟩) (ih.mpr ⟨hrest, rfl⟩)

theorem names_ownTexts (h : List.Forall₂ Accepts segments pieces) :
    Named.names (ownTexts segments pieces) = Named.names (segments.filterMap parameter?) := by
  induction h with
  | nil => rfl
  | @cons segment piece segments pieces _ _ ih =>
    rw [ownTexts_cons]
    cases segment with
    | literal text => exact ih
    | parameter kind name => exact congrArg (name :: ·) ih

end Segment

/-! ## Expressions -/

namespace Pattern.Expression

variable {a b : Expression} {cs ds : List Char} {gs : List (Option (List Char))}

theorem length_of_matches (h : a.Matches cs gs) : gs.length = a.groupCount := by
  induction h with
  | empty => rfl
  | character _ => rfl
  | sequence _ _ iha ihb => rw [List.length_append, iha, ihb, groupCount]
  | absent => exact List.length_replicate
  | present _ ih => exact ih
  | group _ => rfl

theorem matches_character_iff {c : Char} :
    (character c).Matches cs gs ↔ ∃ d, Text.sameUpToCase c d = true ∧ cs = [d] ∧ gs = [] := by
  constructor
  · intro h
    cases h with
    | character h => exact ⟨_, h, rfl, rfl⟩
  · rintro ⟨d, h, rfl, rfl⟩
    exact .character h

theorem matches_slash_iff : (character '/').Matches cs gs ↔ cs = ['/'] ∧ gs = [] := by
  have hslash : Text.IsMark '/' := by decide
  simp [matches_character_iff, Text.sameUpToCase_mark_iff hslash]

theorem matches_sequence_iff :
    (sequence a b).Matches cs gs ↔
      ∃ x gx y gy, a.Matches x gx ∧ b.Matches y gy ∧ cs = x ++ y ∧ gs = gx ++ gy := by
  constructor
  · intro h
    cases h with
    | sequence ha hb => exact ⟨_, _, _, _, ha, hb, rfl, rfl⟩
  · rintro ⟨x, gx, y, gy, ha, hb, rfl, rfl⟩
    exact .sequence ha hb

theorem matches_group_iff {fragment : Fragment} :
    (group fragment).Matches cs gs ↔ cs ∈ fragment.language ∧ gs = [some cs] := by
  constructor
  · intro h
    cases h with
    | group h => exact ⟨h, rfl⟩
  · rintro ⟨h, rfl⟩
    exact .group h

/-- A slash that may be missing. -/
theorem matches_optional_slash_iff :
    (optional (character '/')).Matches cs gs ↔ (cs = [] ∨ cs = ['/']) ∧ gs = [] := by
  constructor
  · intro h
    cases h with
    | absent => exact ⟨.inl rfl, rfl⟩
    | present h =>
      obtain ⟨rfl, rfl⟩ := matches_slash_iff.mp h
      exact ⟨.inr rfl, rfl⟩
  · rintro ⟨rfl | rfl, rfl⟩
    · exact .absent
    · exact .present (matches_slash_iff.mpr ⟨rfl, rfl⟩)

theorem matches_word_iff :
    (word cs).Matches ds gs ↔ Text.sameText cs ds = true ∧ gs = [] := by
  induction cs generalizing ds gs with
  | nil =>
    constructor
    · rintro ⟨⟩
      exact ⟨rfl, rfl⟩
    · rintro ⟨h, rfl⟩
      cases ds with
      | nil => exact .empty
      | cons _ _ => cases h
  | cons c cs ih =>
    have hword : word (c :: cs) = sequence (character c) (word cs) := rfl
    rw [hword, matches_sequence_iff]
    constructor
    · rintro ⟨_, _, rest, _, hc, hrest, rfl, rfl⟩
      obtain ⟨d, hd, rfl, rfl⟩ := matches_character_iff.mp hc
      obtain ⟨hsame, rfl⟩ := ih.mp hrest
      exact ⟨Bool.and_eq_true_iff.mpr ⟨hd, hsame⟩, rfl⟩
    · rintro ⟨h, rfl⟩
      cases ds with
      | nil => cases h
      | cons d ds =>
        obtain ⟨hd, hsame⟩ := Bool.and_eq_true_iff.mp h
        exact ⟨[d], [], ds, [], .character hd, ih.mpr ⟨hsame, rfl⟩, rfl, rfl⟩

theorem joined_cons {as : List Expression} (hne : as ≠ []) :
    joined (a :: as) = sequence a (sequence (character '/') (joined as)) := by
  cases as with
  | nil => exact absurd rfl hne
  | cons _ _ => rfl

theorem matches_joined_cons_iff {as : List Expression} (hne : as ≠ []) :
    (joined (a :: as)).Matches cs gs ↔
      ∃ x gx y gy, a.Matches x gx ∧ (joined as).Matches y gy ∧ cs = x ++ '/' :: y ∧
        gs = gx ++ gy := by
  rw [joined_cons hne, matches_sequence_iff]
  constructor
  · rintro ⟨x, gx, _, _, ha, hrest, rfl, rfl⟩
    obtain ⟨_, _, y, gy, hslash, has, rfl, rfl⟩ := matches_sequence_iff.mp hrest
    obtain ⟨rfl, rfl⟩ := matches_slash_iff.mp hslash
    exact ⟨x, gx, y, gy, ha, has, rfl, rfl⟩
  · rintro ⟨x, gx, y, gy, ha, has, rfl, rfl⟩
    exact ⟨x, gx, _, _, ha, .sequence (matches_slash_iff.mpr ⟨rfl, rfl⟩) has, rfl, rfl⟩

end Pattern.Expression

/-- What the groups of an expression take if they take what is captured. -/
def Captures.groups (captures : Captures) : List (Option (List Char)) :=
  captures.map fun (_, text) => some text.toList

namespace Segment

open Expression

variable {segment : Segment} {segments : List Segment} {cs : List Char}
variable {pieces : List (List Char)} {gs : List (Option (List Char))}

theorem matches_expression_iff :
    segment.expression.Matches cs gs ↔
      segment.Accepts cs ∧ gs = Captures.groups (segment.own? cs).toList := by
  cases segment with
  | literal text => exact matches_word_iff
  | parameter kind name =>
    simp only [expression, matches_group_iff, Kind.mem_language_iff, Accepts, own?, Captures.groups]
    simp

/-- What segments with slashes between them match. -/
theorem matches_joined_iff (hne : segments ≠ []) :
    (joined (segments.map expression)).Matches cs gs ↔
      ∃ pieces, List.Forall₂ Accepts segments pieces ∧ cs = Text.joinPieces pieces ∧
        gs = (ownTexts segments pieces).groups := by
  induction segments generalizing cs gs with
  | nil => exact absurd rfl hne
  | cons segment segments ih =>
    by_cases hlast : segments = []
    · subst hlast
      rw [List.map_singleton, joined, matches_expression_iff]
      constructor
      · rintro ⟨hpiece, rfl⟩
        exact ⟨[cs], .cons hpiece .nil, Text.joinPieces_singleton.symm, by rw [ownTexts_singleton]⟩
      · rintro ⟨_, ⟨⟩ | ⟨hpiece, ⟨⟩⟩, rfl, rfl⟩
        rw [Text.joinPieces_singleton, ownTexts_singleton]
        exact ⟨hpiece, rfl⟩
    · rw [List.map_cons, matches_joined_cons_iff (by simpa using hlast)]
      constructor
      · rintro ⟨piece, _, _, _, hpiece, hrest, rfl, rfl⟩
        obtain ⟨haccepts, rfl⟩ := matches_expression_iff.mp hpiece
        obtain ⟨pieces, hpieces, rfl, rfl⟩ := (ih hlast).mp hrest
        have hpne : pieces ≠ [] := by
          rintro rfl
          exact hlast (List.forall₂_nil_right_iff.mp hpieces)
        refine ⟨piece :: pieces, .cons haccepts hpieces, (Text.joinPieces_cons hpne).symm, ?_⟩
        rw [ownTexts_cons, Captures.groups, Captures.groups, Captures.groups, List.map_append]
      · rintro ⟨_, ⟨⟩ | @⟨_, piece, _, pieces, hpiece, hpieces⟩, rfl, rfl⟩
        have hpne : pieces ≠ [] := by
          rintro rfl
          exact hlast (List.forall₂_nil_right_iff.mp hpieces)
        refine ⟨piece, _, _, _, matches_expression_iff.mpr ⟨hpiece, rfl⟩,
          (ih hlast).mpr ⟨pieces, hpieces, rfl, rfl⟩, Text.joinPieces_cons hpne, ?_⟩
        rw [ownTexts_cons, Captures.groups, Captures.groups, Captures.groups, List.map_append]

theorem slash_not_mem_of_accepts
    (hliterals : ∀ text, literal text ∈ segments → '/' ∉ text.toList)
    (h : List.Forall₂ Accepts segments pieces) : ∀ piece ∈ pieces, '/' ∉ piece := by
  induction h with
  | nil => simp
  | @cons segment piece segments pieces hpiece _ ih =>
    have hrest := ih fun text htext => hliterals text (List.mem_cons_of_mem segment htext)
    refine List.forall_mem_cons.mpr ⟨?_, hrest⟩
    cases segment with
    | literal text =>
      rw [← Text.mark_mem_iff_of_sameText (by decide) hpiece]
      exact hliterals text List.mem_cons_self
    | parameter kind name => exact Kind.slash_not_mem_of_matchesText hpiece

end Segment

/-! ## Templates -/

namespace Template

open Expression

variable {raw : String} {t : Template} {path : String} {pieces others : List (List Char)}
variable {groups : List (Option (List Char))} {captures : Captures}

/-- Whether a path has these pieces, apart from an empty one at the end, and each of them goes with
its segment. -/
structure Fits (t : Template) (path : String) (pieces : List (List Char)) : Prop where
  cuts : t.Cuts path pieces
  accepts : List.Forall₂ Segment.Accepts t.segments pieces

theorem Fits.unique (h : t.Fits path pieces) (h' : t.Fits path others) : pieces = others := by
  have hlength : pieces.length = others.length :=
    h.accepts.length_eq.symm.trans h'.accepts.length_eq
  rcases h.cuts with hpath | ⟨-, hpath⟩ <;> rcases h'.cuts with hpath' | ⟨-, hpath'⟩
  · exact hpath.symm.trans hpath'
  · rw [hpath.symm.trans hpath', List.length_append, List.length_singleton] at hlength
    omega
  · rw [hpath'.symm.trans hpath, List.length_append, List.length_singleton] at hlength
    omega
  · exact List.append_cancel_right (hpath.symm.trans hpath')

theorem match?_eq_some_iff :
    t.match? path = some captures ↔
      ∃ pieces, t.Fits path pieces ∧ captures = Segment.ownTexts t.segments pieces := by
  constructor
  · intro h
    obtain ⟨pieces, hcuts, hcaptures⟩ := exists_cuts_of_match? h
    obtain ⟨haccepts, rfl⟩ := Segment.captureAll?_eq_some_iff.mp hcaptures
    exact ⟨pieces, ⟨hcuts, haccepts⟩, rfl⟩
  · rintro ⟨pieces, h, rfl⟩
    exact match?_of_cuts h.cuts (Segment.captureAll?_eq_some_iff.mpr ⟨h.accepts, rfl⟩)

/-- The pieces of a path that segments go with are what its text is joined of. -/
theorem cuts_iff (ht : t.WellFormed) (h : List.Forall₂ Segment.Accepts t.segments pieces) :
    t.Cuts path pieces ↔ path.toList = Text.joinPieces pieces ∨
      t.trailingSlash = true ∧ path.toList = Text.joinPieces pieces ++ ['/'] := by
  have hslash := Segment.slash_not_mem_of_accepts ht.slash_not_mem h
  have hne : pieces ≠ [] := by
    rintro rfl
    exact ht.nonempty (List.forall₂_nil_right_iff.mp h)
  unfold Cuts
  constructor
  · rintro (hpath | ⟨htrailing, hpath⟩)
    · exact .inl (by rw [← hpath, Text.joinPieces_pieces])
    · refine .inr ⟨htrailing, ?_⟩
      rw [Text.joinPieces_append_slash hne, ← hpath, Text.joinPieces_pieces]
  · rintro (hpath | ⟨htrailing, hpath⟩)
    · exact .inl (by rw [hpath, Text.pieces_joinPieces hne hslash])
    · exact .inr ⟨htrailing, by rw [hpath, Text.pieces_joinPieces_append_slash hne hslash]⟩

theorem matches_expression_iff (ht : t.WellFormed) :
    t.expression.Matches path.toList groups ↔
      ∃ pieces, t.Fits path pieces ∧ groups = (Segment.ownTexts t.segments pieces).groups := by
  have hbody {cs : List Char} {gs : List (Option (List Char))} :=
    @Segment.matches_joined_iff t.segments cs gs ht.nonempty
  constructor
  · intro h
    simp only [expression] at h
    split_ifs at h with htrailing
    · obtain ⟨_, _, tail, _, hjoined, htail, hpath, rfl⟩ := matches_sequence_iff.mp h
      obtain ⟨pieces, haccepts, rfl, rfl⟩ := hbody.mp hjoined
      obtain ⟨hend, rfl⟩ := matches_optional_slash_iff.mp htail
      refine ⟨pieces, ⟨(cuts_iff ht haccepts).mpr ?_, haccepts⟩, List.append_nil _⟩
      rcases hend with hnil | hslash
      · exact .inl (by rw [hpath, hnil, List.append_nil])
      · exact .inr ⟨htrailing, by rw [hpath, hslash]⟩
    · obtain ⟨pieces, haccepts, hpath, rfl⟩ := hbody.mp h
      exact ⟨pieces, ⟨(cuts_iff ht haccepts).mpr (.inl hpath), haccepts⟩, rfl⟩
  · rintro ⟨pieces, ⟨hcuts, haccepts⟩, rfl⟩
    have hjoined := hbody.mpr ⟨pieces, haccepts, rfl, rfl⟩
    simp only [expression]
    rcases (cuts_iff ht haccepts).mp hcuts with hpath | ⟨htrailing, hpath⟩
    · split_ifs
      · exact matches_sequence_iff.mpr ⟨_, _, [], [], hjoined,
          matches_optional_slash_iff.mpr ⟨.inl rfl, rfl⟩, by rw [hpath, List.append_nil],
          (List.append_nil _).symm⟩
      · rwa [hpath]
    · rw [if_pos htrailing]
      exact matches_sequence_iff.mpr ⟨_, _, ['/'], [], hjoined,
        matches_optional_slash_iff.mpr ⟨.inr rfl, rfl⟩, hpath, (List.append_nil _).symm⟩

end Template

/-! ## How expressions are written -/

theorem Pattern.Expression.text_word (cs : List Char) : (word cs).text = escape cs := by
  induction cs with
  | nil => rfl
  | cons c cs ih => exact congrArg (escapeChar c ++ ·) ih

theorem Pattern.Expression.groupCount_word (cs : List Char) : (word cs).groupCount = 0 := by
  induction cs with
  | nil => rfl
  | cons c cs ih => exact congrArg (0 + ·) ih

theorem Pattern.Expression.text_joined (as : List Expression) :
    (joined as).text = Text.joinPieces (as.map text) := by
  induction as with
  | nil => rfl
  | cons a as ih =>
    by_cases hlast : as = []
    · subst hlast
      exact Text.joinPieces_singleton.symm
    · rw [joined_cons hlast, List.map_cons, Text.joinPieces_cons (by simpa using hlast), ← ih]
      rfl

theorem Pattern.Expression.groupCount_joined (as : List Expression) :
    (joined as).groupCount = (as.map groupCount).sum := by
  induction as with
  | nil => rfl
  | cons a as ih =>
    by_cases hlast : as = []
    · subst hlast
      rfl
    · rw [joined_cons hlast, List.map_cons, List.sum_cons, ← ih]
      simp [groupCount]

theorem Segment.text_expression (segment : Segment) :
    segment.expression.text = Pattern.ofSegment segment := by
  cases segment with
  | literal text => exact Pattern.Expression.text_word text.toList
  | parameter kind name =>
    exact congrArg (fun cs => "((?-i:".toList ++ cs ++ "))".toList) kind.text_expression

theorem Segment.sum_groupCount (segments : List Segment) :
    ((segments.map expression).map Pattern.Expression.groupCount).sum =
      (segments.filterMap parameter?).length := by
  induction segments with
  | nil => rfl
  | cons segment segments ih =>
    cases segment with
    | literal text =>
      rw [List.filterMap_cons_none rfl, ← ih]
      simp [expression, Pattern.Expression.groupCount_word]
    | parameter kind name =>
      have hsome : (parameter kind name).parameter? = some (name, kind) := rfl
      rw [List.filterMap_cons_some hsome, List.length_cons, ← ih]
      simp [expression, Pattern.Expression.groupCount, Nat.add_comm]

namespace Template

open Expression

variable {raw : String} {t : Template} {path : String} {pieces : List (List Char)}
variable {groups : List (Option (List Char))}

theorem text_expression (t : Template) : String.ofList t.expression.text = t.pattern := by
  have hsegments : (t.segments.map Segment.expression).map Expression.text =
      t.segments.map Pattern.ofSegment := by
    simp [Function.comp_def, Segment.text_expression]
  rw [pattern, ← hsegments, ← Expression.text_joined, expression]
  cases t.trailingSlash with
  | false => simp
  | true => rfl

theorem groupCount_expression (t : Template) :
    t.expression.groupCount = t.parameters.length := by
  rw [parameters, ← Segment.sum_groupCount, ← Expression.groupCount_joined, expression]
  cases t.trailingSlash <;> rfl

theorem groupsByName_ownTexts (h : t.Fits path pieces) :
    t.groupsByName (Segment.ownTexts t.segments pieces).groups =
      (Segment.ownTexts t.segments pieces).map fun (name, text) => (name, some text) := by
  have hnames : Named.names t.parameters = Named.names (Segment.ownTexts t.segments pieces) :=
    (Segment.names_ownTexts h.accepts).symm
  rw [groupsByName, hnames, Named.names, Captures.groups, List.map_map, List.zip_map']
  simp

/-- What holds of a path if a template goes with it segment by segment. -/
structure SegmentWise (t : Template) (path : String) : Prop where
  /-- The expression is written as the pattern and has one group for each placeholder. -/
  text_eq : String.ofList t.expression.text = t.pattern
  groupCount_eq : t.expression.groupCount = t.parameters.length
  length_eq : ∀ groups, t.expression.Matches path.toList groups →
    groups.length = t.parameters.length
  /-- The path is matched if its pieces go with the segments, and they do so in one way. -/
  matches_iff :
    (∃ groups, t.expression.Matches path.toList groups) ↔ ∃ pieces, t.Fits path pieces
  matchesPath_iff : t.matchesPath path = true ↔ ∃ pieces, t.Fits path pieces
  unique : ∀ pieces others, t.Fits path pieces → t.Fits path others → pieces = others
  /-- Every way to match the path gives each name the piece of its placeholder. -/
  groupsByName_eq : ∀ groups pieces, t.expression.Matches path.toList groups →
    t.Fits path pieces → t.groupsByName groups =
      (Segment.ownTexts t.segments pieces).map fun (name, text) => (name, some text)
  /-- The names are the declared ones in order, each of them once. -/
  names_eq : ∀ pieces, t.Fits path pieces →
    Named.names (Segment.ownTexts t.segments pieces) = Named.names t.parameters
  names_nodup : (Named.names t.parameters).Nodup
  /-- Matching and extracting agree. -/
  match?_eq : ∀ pieces, t.Fits path pieces →
    t.match? path = some (Segment.ownTexts t.segments pieces) ∧
      t.extract path = Segment.ownTexts t.segments pieces
  match?_eq_none : (∀ pieces, ¬t.Fits path pieces) → t.match? path = none ∧ t.extract path = []

/-- A template that is read goes with every path segment by segment. -/
theorem segmentWise_of_parse (h : parse raw = .ok t) (path : String) : t.SegmentWise path := by
  have ht := wellFormed_of_parse h
  have hmatch (pieces) (hfits : t.Fits path pieces) :
      t.match? path = some (Segment.ownTexts t.segments pieces) :=
    match?_eq_some_iff.mpr ⟨pieces, hfits, rfl⟩
  have hnone (hfits : ∀ pieces, ¬t.Fits path pieces) : t.match? path = none := by
    rw [Option.eq_none_iff_forall_ne_some]
    intro captures hcaptures
    obtain ⟨pieces, hpieces, -⟩ := match?_eq_some_iff.mp hcaptures
    exact hfits pieces hpieces
  exact
    { text_eq := text_expression t
      groupCount_eq := groupCount_expression t
      length_eq := fun _ hgroups => (length_of_matches hgroups).trans (groupCount_expression t)
      matches_iff := by
        constructor
        · rintro ⟨groups, hgroups⟩
          obtain ⟨pieces, hfits, -⟩ := (matches_expression_iff ht).mp hgroups
          exact ⟨pieces, hfits⟩
        · rintro ⟨pieces, hfits⟩
          exact ⟨_, (matches_expression_iff ht).mpr ⟨pieces, hfits, rfl⟩⟩
      matchesPath_iff := by
        rw [matchesPath, Option.isSome_iff_exists]
        constructor
        · rintro ⟨captures, hcaptures⟩
          obtain ⟨pieces, hfits, -⟩ := match?_eq_some_iff.mp hcaptures
          exact ⟨pieces, hfits⟩
        · rintro ⟨pieces, hfits⟩
          exact ⟨_, hmatch pieces hfits⟩
      unique := fun _ _ hfits hothers => hfits.unique hothers
      groupsByName_eq := by
        intro groups pieces hgroups hfits
        obtain ⟨others, hothers, rfl⟩ := (matches_expression_iff ht).mp hgroups
        rw [hfits.unique hothers, groupsByName_ownTexts hothers]
      names_eq := fun _ hfits => Segment.names_ownTexts hfits.accepts
      names_nodup := ht.names_nodup
      match?_eq := fun pieces hfits =>
        ⟨hmatch pieces hfits, by rw [extract, hmatch pieces hfits, Option.getD_some]⟩
      match?_eq_none := fun hfits => ⟨hnone hfits, by rw [extract, hnone hfits, Option.getD_none]⟩ }

theorem segmentWise_of_parse_users :
    let t : Template := ⟨[.literal "", .literal "Users", .parameter .integer "id"], true⟩
    parse "/Users/\x7bi:id\x7d/" = .ok t ∧ t.SegmentWise "/uSERS/42/" ∧
      t.match? "/uSERS/42/" = some [("id", "42")] := by
  have hparse : parse "/Users/\x7bi:id\x7d/" =
      .ok ⟨[.literal "", .literal "Users", .parameter .integer "id"], true⟩ := by rfl
  exact ⟨hparse, segmentWise_of_parse hparse _, by decide +kernel⟩

end Template

end TypedRoutes
