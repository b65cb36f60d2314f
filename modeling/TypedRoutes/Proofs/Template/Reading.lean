import TypedRoutes.Proofs.Attempt
import TypedRoutes.Proofs.Named
import TypedRoutes.Proofs.Text.Pieces
import TypedRoutes.Template.Parser

/-!
# Templates that are read

A template that is read has the source it is read from. It has at least one segment, no literal of
it contains a slash, and no two of its placeholders share a name.
-/
namespace TypedRoutes

/-- What holds of every template that is read. -/
structure Template.WellFormed (t : Template) : Prop where
  nonempty : t.segments ≠ []
  slash_not_mem : ∀ text, .literal text ∈ t.segments → '/' ∉ text.toList
  names_nodup : (Named.names t.parameters).Nodup

namespace Segment

/-! ## One piece -/

theorem eq_of_beforeClosing? {cs name : List Char} (h : beforeClosing? cs = some name) :
    cs = name ++ ['\x7d'] := by
  unfold beforeClosing? at h
  split_ifs at h with hlast
  rw [← Option.some.inj h, List.dropLast_append_getLast?]
  exact hlast

theorem eq_of_placeholder? {piece code name : List Char}
    (h : placeholder? piece = some (code, name)) :
    piece = '\x7b' :: code ++ ':' :: name ++ ['\x7d'] := by
  cases piece with
  | nil => cases h
  | cons c inner =>
    simp only [placeholder?] at h
    split_ifs at h with hc
    split at h
    · cases h
    next rest hcut =>
      split at h
      · cases h
      next hname =>
        split_ifs at h
        cases h
        rw [hc, Text.eq_of_cut hcut, eq_of_beforeClosing? hname]
        simp

/-- A piece is the source of the segment that it is read as. -/
theorem source_of_ofPiece {piece : List Char} {segment : Segment}
    (h : ofPiece piece = .ok segment) : segment.source = piece := by
  unfold ofPiece at h
  split at h
  · split_ifs at h
    cases h
    exact String.toList_ofList
  next code name hplace =>
    split at h
    · cases h
    next kind hkind =>
      split_ifs at h
      cases h
      rw [eq_of_placeholder? hplace, Kind.ofCode?_eq_some_iff.mp hkind]
      simp [source]

/-! ## All pieces -/

variable {position : Nat} {seen : List (String × Int)} {piece : List Char}
variable {rest ps : List (List Char)} {placed : List (Segment × Span)}

/-- How a piece is read before others: as a literal, or as a placeholder with a name that is new. -/
theorem ofPieces_cons_eq_ok (h : ofPieces position seen (piece :: rest) = .ok placed) :
    (∃ text tail, placed = (.literal text, Span.ofLength position piece.length) :: tail ∧
      ofPiece piece = .ok (.literal text) ∧
      ofPieces (position + piece.length + 1) seen rest = .ok tail) ∨
    (∃ kind name column tail,
      placed = (.parameter kind name, Span.ofLength position piece.length) :: tail ∧
      ofPiece piece = .ok (.parameter kind name) ∧ name ∉ Named.names seen ∧
      ofPieces (position + piece.length + 1) ((name, column) :: seen) rest = .ok tail) := by
  simp only [ofPieces] at h
  split at h
  · cases h
  next text hpiece =>
    obtain ⟨tail, htail, rfl⟩ := Except.map_eq_ok_iff.mp h
    exact .inl ⟨text, tail, rfl, hpiece, htail⟩
  next kind name hpiece =>
    split at h
    · cases h
    next hnew =>
      obtain ⟨tail, htail, rfl⟩ := Except.map_eq_ok_iff.mp h
      exact .inr ⟨kind, name, _, tail, rfl, hpiece, Named.lookup_eq_none_iff.mp hnew, htail⟩

theorem forall₂_of_ofPieces (h : ofPieces position seen ps = .ok placed) :
    List.Forall₂ (fun piece segment => ofPiece piece = .ok segment) ps (placed.map Prod.fst) := by
  induction ps generalizing position seen placed with
  | nil =>
    cases h
    exact .nil
  | cons piece rest ih =>
    rcases ofPieces_cons_eq_ok h with
      ⟨_, _, rfl, hpiece, htail⟩ | ⟨_, _, _, _, rfl, hpiece, -, htail⟩
    · exact .cons hpiece (ih htail)
    · exact .cons hpiece (ih htail)

/-- Pieces are the sources of the segments that they are read as. -/
theorem sources_of_forall₂ {segments : List Segment}
    (h : List.Forall₂ (fun piece segment => ofPiece piece = .ok segment) ps segments) :
    segments.map source = ps := by
  induction h with
  | nil => rfl
  | cons hpiece _ ih => rw [List.map_cons, source_of_ofPiece hpiece, ih]

/-- The names of the placeholders are new and differ from each other. -/
theorem names_of_ofPieces (h : ofPieces position seen ps = .ok placed) :
    (Named.names ((placed.map Prod.fst).filterMap parameter?)).Nodup ∧
      ∀ name ∈ Named.names ((placed.map Prod.fst).filterMap parameter?),
        name ∉ Named.names seen := by
  induction ps generalizing position seen placed with
  | nil =>
    cases h
    exact ⟨.nil, fun name hname => absurd hname List.not_mem_nil⟩
  | cons piece rest ih =>
    rcases ofPieces_cons_eq_ok h with ⟨_, _, rfl, -, htail⟩ | ⟨_, name, _, _, rfl, -, hnew, htail⟩
    · have hrest := ih htail
      exact hrest
    · obtain ⟨hnodup, hfresh⟩ := ih htail
      refine ⟨List.nodup_cons.mpr ⟨?_, hnodup⟩, ?_⟩
      · intro hmem
        exact hfresh name hmem (by simp [Named.names])
      · intro other hother
        rcases List.mem_cons.mp hother with rfl | hother
        · exact hnew
        · have hboth := hfresh other hother
          simp only [Named.names, List.map_cons, List.mem_cons, not_or] at hboth
          exact hboth.2

end Segment

namespace Template

/-- The pieces of a source, without one slash at its end. -/
def sourcePieces (raw : String) : List (List Char) :=
  Text.pieces (splitFinalSlash raw.toList).1

variable {raw : String} {t : Template} {spans : List Span}

/-- The segments that are read from the pieces of a source, with their spans. -/
theorem exists_ofPieces_of_read (h : read raw = .ok (t, spans)) :
    ∃ placed, Segment.ofPieces 0 [] (sourcePieces raw) = .ok placed ∧
      t = ⟨placed.map Prod.fst, (splitFinalSlash raw.toList).2⟩ ∧ spans = placed.map Prod.snd := by
  unfold read at h
  split at h
  next body trailingSlash hsplit =>
    split at h
    next placed hplaced =>
      cases h
      rw [sourcePieces, hsplit]
      exact ⟨placed, hplaced, rfl, rfl⟩
    · cases h

theorem exists_read_of_parse (h : parse raw = .ok t) : ∃ spans, read raw = .ok (t, spans) := by
  obtain ⟨⟨_, spans⟩, hread, rfl⟩ := Except.map_eq_ok_iff.mp h
  exact ⟨spans, hread⟩

theorem exists_ofPieces_of_parse (h : parse raw = .ok t) :
    ∃ placed, Segment.ofPieces 0 [] (sourcePieces raw) = .ok placed ∧
      t = ⟨placed.map Prod.fst, (splitFinalSlash raw.toList).2⟩ := by
  obtain ⟨spans, hread⟩ := exists_read_of_parse h
  obtain ⟨placed, hplaced, ht, -⟩ := exists_ofPieces_of_read hread
  exact ⟨placed, hplaced, ht⟩

theorem forall₂_of_parse (h : parse raw = .ok t) :
    List.Forall₂ (fun piece segment => Segment.ofPiece piece = .ok segment) (sourcePieces raw)
      t.segments := by
  obtain ⟨placed, hplaced, rfl⟩ := exists_ofPieces_of_parse h
  exact Segment.forall₂_of_ofPieces hplaced

theorem sources_of_parse (h : parse raw = .ok t) :
    t.segments.map Segment.source = sourcePieces raw :=
  Segment.sources_of_forall₂ (forall₂_of_parse h)

theorem trailingSlash_of_parse (h : parse raw = .ok t) :
    t.trailingSlash = (splitFinalSlash raw.toList).2 := by
  obtain ⟨placed, -, rfl⟩ := exists_ofPieces_of_parse h
  rfl

theorem splitFinalSlash_append (cs : List Char) :
    (splitFinalSlash cs).1 ++ (if (splitFinalSlash cs).2 then ['/'] else []) = cs := by
  unfold splitFinalSlash
  by_cases h : cs.getLast? = some '/'
  · simpa [h] using List.dropLast_append_getLast? _ h
  · simp [h]

theorem pieces_of_parse (h : parse raw = .ok t) :
    Text.pieces raw.toList =
      t.segments.map Segment.source ++ if t.trailingSlash then [[]] else [] := by
  rw [sources_of_parse h, trailingSlash_of_parse h, sourcePieces]
  nth_rewrite 1 [← splitFinalSlash_append raw.toList]
  cases (splitFinalSlash raw.toList).2 with
  | false => simp
  | true => simpa using Text.pieces_append_slash _

/-- A template has the source that it is read from. -/
theorem raw_of_parse (h : parse raw = .ok t) : t.raw = raw := by
  rw [Template.raw, source, sources_of_parse h, sourcePieces, Text.joinPieces_pieces,
    trailingSlash_of_parse h, splitFinalSlash_append, String.ofList_toList]

theorem wellFormed_of_parse (h : parse raw = .ok t) : t.WellFormed where
  nonempty := by
    have hlength := (forall₂_of_parse h).length_eq
    have hne := Text.pieces_ne_nil (splitFinalSlash raw.toList).1
    intro hnil
    rw [hnil] at hlength
    exact hne (List.eq_nil_of_length_eq_zero hlength)
  slash_not_mem := by
    intro text htext
    have hsource : text.toList ∈ t.segments.map Segment.source :=
      List.mem_map.mpr ⟨_, htext, rfl⟩
    rw [sources_of_parse h] at hsource
    exact Text.slash_not_mem_of_mem_pieces hsource
  names_nodup := by
    obtain ⟨placed, hplaced, rfl⟩ := exists_ofPieces_of_parse h
    exact (Segment.names_of_ofPieces hplaced).1

end Template
end TypedRoutes
