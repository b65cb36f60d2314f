import Mathlib.Data.List.Basic
import Mathlib.Tactic.SplitIfs
import TypedRoutes.Text.Pieces

/-!
# Cutting and joining pieces

Pieces without slashes are recovered from the path that joins them, and a path is recovered from its
pieces.
-/
namespace TypedRoutes
namespace Text

theorem pieces_ne_nil (cs : List Char) : pieces cs ≠ [] :=
  List.splitOn_ne_nil '/' cs

theorem pieces_joinPieces {ps : List (List Char)} (hne : ps ≠ []) (hps : ∀ p ∈ ps, '/' ∉ p) :
    pieces (joinPieces ps) = ps :=
  List.splitOn_intercalate '/' hps hne

theorem joinPieces_pieces (cs : List Char) : joinPieces (pieces cs) = cs :=
  List.intercalate_splitOn '/'

theorem joinPieces_singleton {p : List Char} : joinPieces [p] = p := by
  simp [joinPieces]

theorem joinPieces_cons {p : List Char} {ps : List (List Char)} (h : ps ≠ []) :
    joinPieces (p :: ps) = p ++ '/' :: joinPieces ps := by
  rw [joinPieces, List.intercalate_cons_of_ne_nil h, List.append_assoc]
  rfl

/-- A piece behind others comes with a slash in front of it. -/
theorem joinPieces_concat {ps : List (List Char)} (h : ps ≠ []) (p : List Char) :
    joinPieces (ps ++ [p]) = joinPieces ps ++ '/' :: p := by
  induction ps with
  | nil => exact absurd rfl h
  | cons q ps ih =>
    cases ps with
    | nil => simp [joinPieces]
    | cons r rs =>
      calc
        _ = q ++ '/' :: joinPieces (r :: rs ++ [p]) := joinPieces_cons (by simp)
        _ = q ++ '/' :: (joinPieces (r :: rs) ++ '/' :: p) := by rw [ih (by simp)]
        _ = q ++ '/' :: joinPieces (r :: rs) ++ '/' :: p := by
          rw [List.append_assoc, List.cons_append]
        _ = _ := by rw [joinPieces_cons (List.cons_ne_nil r rs)]

theorem joinPieces_append_slash {ps : List (List Char)} (h : ps ≠ []) :
    joinPieces ps ++ ['/'] = joinPieces (ps ++ [[]]) :=
  (joinPieces_concat h []).symm

/-- A slash at the end leaves one empty piece more. -/
theorem pieces_joinPieces_append_slash {ps : List (List Char)} (hne : ps ≠ [])
    (hps : ∀ p ∈ ps, '/' ∉ p) : pieces (joinPieces ps ++ ['/']) = ps ++ [[]] := by
  rw [joinPieces_append_slash hne]
  apply pieces_joinPieces (by simp)
  intro p hp
  rcases List.mem_append.mp hp with hp | hp
  · exact hps p hp
  · rw [List.mem_singleton.mp hp]
    exact List.not_mem_nil

theorem slash_not_mem_of_mem_pieces {cs p : List Char} (h : p ∈ pieces cs) : '/' ∉ p := by
  induction cs generalizing p with
  | nil =>
    rw [List.mem_singleton.mp (show p ∈ [[]] from h)]
    exact List.not_mem_nil
  | cons c cs ih =>
    rw [pieces, List.splitOn_cons_eq_if_modifyHead] at h
    split_ifs at h with hc
    · rcases List.mem_cons.mp h with rfl | hp
      · exact List.not_mem_nil
      · exact ih hp
    · obtain ⟨q, qs, hq⟩ := List.exists_cons_of_ne_nil (pieces_ne_nil cs)
      rw [← pieces, hq, List.modifyHead_cons] at h
      rcases List.mem_cons.mp h with rfl | hp
      · have hq' := ih (show q ∈ pieces cs by simp [hq])
        have hslash : '/' ≠ c := by
          rintro rfl
          exact hc rfl
        exact List.not_mem_cons_of_ne_of_not_mem hslash hq'
      · exact ih (by simp [hq, hp])

theorem pieces_append_slash (cs : List Char) : pieces (cs ++ ['/']) = pieces cs ++ [[]] := by
  have h := pieces_joinPieces_append_slash (pieces_ne_nil cs)
    fun p hp => slash_not_mem_of_mem_pieces hp
  rwa [joinPieces_pieces] at h

/-- Cutting at a character takes nothing else away. -/
theorem eq_of_cut {sep : Char} {cs code rest : List Char}
    (h : cut sep cs = some (code, rest)) : cs = code ++ sep :: rest := by
  unfold cut at h
  split at h
  next c tail hdrop =>
    cases h
    have hhead : c = sep := by
      have hne := List.head?_dropWhile_not (· != sep) cs
      rw [hdrop] at hne
      simpa using hne
    calc
      cs = cs.takeWhile (· != sep) ++ cs.dropWhile (· != sep) :=
        List.takeWhile_append_dropWhile.symm
      _ = _ := by rw [hdrop, hhead]
  · cases h

/-- A text is cut at the first separator in it. -/
theorem cut_eq_some_iff {sep : Char} {cs code rest : List Char} :
    cut sep cs = some (code, rest) ↔ cs = code ++ sep :: rest ∧ sep ∉ code := by
  constructor
  · intro h
    refine ⟨eq_of_cut h, ?_⟩
    unfold cut at h
    split at h
    · cases h
      intro hmem
      have hne := List.all_eq_true.mp List.all_takeWhile sep hmem
      simp at hne
    · cases h
  · rintro ⟨rfl, hsep⟩
    have hne : ∀ c ∈ code, (c != sep) = true := by
      intro c hc
      simp only [bne_iff_ne]
      rintro rfl
      exact hsep hc
    rw [cut, List.dropWhile_append_of_pos hne, List.takeWhile_append_of_pos hne]
    simp

theorem cut_eq_none_iff {sep : Char} {cs : List Char} : cut sep cs = none ↔ sep ∉ cs := by
  constructor
  · intro h hmem
    obtain ⟨code, rest, rfl, hcode⟩ := List.eq_append_cons_of_mem hmem
    rw [cut_eq_some_iff.mpr ⟨rfl, hcode⟩] at h
    cases h
  · intro hsep
    cases h : cut sep cs with
    | none => rfl
    | some parts =>
      obtain ⟨rfl, -⟩ := cut_eq_some_iff.mp h
      exact absurd (List.mem_append_right _ List.mem_cons_self) hsep

theorem mem_joinPieces {c : Char} {ps : List (List Char)} (h : c ∈ joinPieces ps) :
    c = '/' ∨ ∃ p ∈ ps, c ∈ p := by
  induction ps with
  | nil => cases h
  | cons p ps ih =>
    cases ps with
    | nil => exact .inr ⟨p, List.mem_cons_self, by simpa [joinPieces] using h⟩
    | cons q qs =>
      rw [joinPieces_cons (by simp), List.mem_append, List.mem_cons] at h
      rcases h with hp | hslash | hrest
      · exact .inr ⟨p, List.mem_cons_self, hp⟩
      · exact .inl hslash
      · rcases ih hrest with hslash | ⟨r, hr, hc⟩
        · exact .inl hslash
        · exact .inr ⟨r, List.mem_cons_of_mem p hr, hc⟩

theorem mem_joinPieces_of_mem {c : Char} {p : List Char} {ps : List (List Char)} (hp : p ∈ ps)
    (hc : c ∈ p) : c ∈ joinPieces ps := by
  induction ps with
  | nil => cases hp
  | cons q ps ih =>
    cases ps with
    | nil =>
      rw [List.mem_singleton.mp hp] at hc
      rwa [joinPieces_singleton]
    | cons r rs =>
      rw [joinPieces_cons (List.cons_ne_nil r rs), List.mem_append]
      rcases List.mem_cons.mp hp with rfl | hrest
      · exact .inl hc
      · exact .inr (List.mem_cons_of_mem '/' (ih hrest))

/-! ## Slashes at the ends -/

theorem head?_joinPieces {p : List Char} (hp : p ≠ []) (ps : List (List Char)) :
    (joinPieces (p :: ps)).head? = p.head? := by
  cases ps with
  | nil => simp [joinPieces]
  | cons q qs =>
    obtain ⟨c, cs, rfl⟩ := List.exists_cons_of_ne_nil hp
    rw [joinPieces_cons (by simp), List.cons_append, List.head?_cons, List.head?_cons]

theorem getLast?_joinPieces {p : List Char} {ps : List (List Char)} (h : ps.getLast? = some p)
    (hp : p ≠ []) : (joinPieces ps).getLast? = p.getLast? := by
  induction ps with
  | nil => cases h
  | cons q ps ih =>
    cases ps with
    | nil =>
      cases h
      simp [joinPieces]
    | cons r rs =>
      rw [List.getLast?_cons_cons] at h
      have hne : joinPieces (r :: rs) ≠ [] := by
        intro hnil
        have hlast := ih h
        rw [hnil] at hlast
        exact hp (List.getLast?_eq_none_iff.mp hlast.symm)
      obtain ⟨c, cs, hcs⟩ := List.exists_cons_of_ne_nil hne
      rw [← ih h, joinPieces_cons (by simp), List.getLast?_append_of_ne_nil _ (by simp), hcs,
        List.getLast?_cons_cons]

theorem dropLeadingSlashes_eq_self {cs : List Char} (h : cs.head? ≠ some '/') :
    dropLeadingSlashes cs = cs := by
  cases cs with
  | nil => rfl
  | cons c cs =>
    refine List.dropWhile_cons_of_neg ?_
    simpa [isSlash] using h

theorem head?_dropLeadingSlashes_ne (cs : List Char) :
    (dropLeadingSlashes cs).head? ≠ some '/' := by
  intro h
  have hne := List.head?_dropWhile_not isSlash cs
  rw [← dropLeadingSlashes, h] at hne
  cases hne

theorem dropLeadingSlashes_append {cs ds : List Char} (h : ds.head? ≠ some '/') :
    dropLeadingSlashes (cs ++ ds) = dropLeadingSlashes cs ++ ds := by
  have hds : ds.dropWhile isSlash = ds := dropLeadingSlashes_eq_self h
  simp only [dropLeadingSlashes, List.dropWhile_append, hds]
  split_ifs with hempty
  · rw [List.isEmpty_iff.mp hempty, List.nil_append]
  · rfl

theorem dropTrailingSlashes_eq_self {cs : List Char} (h : cs.getLast? ≠ some '/') :
    dropTrailingSlashes cs = cs := by
  have hreverse : cs.reverse.dropWhile isSlash = cs.reverse :=
    dropLeadingSlashes_eq_self (by rwa [List.head?_reverse])
  rw [dropTrailingSlashes, trimEnd, hreverse, List.reverse_reverse]

/-- Slashes around a text that has none at its ends are trimmed, and nothing else. -/
theorem trimBoth_slashes {cs : List Char} (hfirst : cs.head? ≠ some '/')
    (hlast : cs.getLast? ≠ some '/') (slash : Bool) :
    trimBoth isSlash ('/' :: cs ++ (if slash then ['/'] else [])) = cs := by
  cases cs with
  | nil => cases slash <;> rfl
  | cons c cs =>
    calc
      _ = dropTrailingSlashes (dropLeadingSlashes (c :: cs ++ if slash then ['/'] else [])) := rfl
      _ = dropTrailingSlashes (c :: cs ++ if slash then ['/'] else []) := by
        rw [dropLeadingSlashes_eq_self (by simpa using hfirst)]
      _ = dropTrailingSlashes (c :: cs) := by
        cases slash with
        | false => simp
        | true => exact dropTrailingSlashes_append_slash (c :: cs)
      _ = c :: cs := dropTrailingSlashes_eq_self hlast

/-! ## Empty pieces at the ends -/

theorem pieces_cons_slash (cs : List Char) : pieces ('/' :: cs) = [] :: pieces cs := by
  simp [pieces, List.splitOn_cons_eq_if_modifyHead]

theorem eq_nil_of_head?_pieces {cs : List Char} (h : (pieces cs).head? = some [])
    (hslash : cs.head? ≠ some '/') : cs = [] := by
  obtain ⟨ps, hps⟩ := List.head?_eq_some_iff.mp h
  have hjoined := joinPieces_pieces cs
  rw [hps] at hjoined
  cases ps with
  | nil => exact hjoined.symm
  | cons p ps =>
    rw [joinPieces_cons (List.cons_ne_nil p ps)] at hjoined
    rw [← hjoined] at hslash
    exact absurd rfl hslash

theorem eq_nil_of_getLast?_pieces {cs : List Char} (h : (pieces cs).getLast? = some [])
    (hslash : cs.getLast? ≠ some '/') : cs = [] := by
  obtain ⟨ps, hps⟩ := List.getLast?_eq_some_iff.mp h
  have hjoined := joinPieces_pieces cs
  rw [hps] at hjoined
  cases ps with
  | nil => exact hjoined.symm
  | cons p ps =>
    rw [joinPieces_concat (List.cons_ne_nil p ps)] at hjoined
    rw [← hjoined, List.getLast?_concat] at hslash
    exact absurd rfl hslash

end Text
end TypedRoutes
