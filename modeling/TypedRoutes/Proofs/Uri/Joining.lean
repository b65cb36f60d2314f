import Mathlib.Data.List.Chain
import TypedRoutes.Dispatch.Basic
import TypedRoutes.Proofs.Uri.NormalForm

/-!
# Joined paths

A joined path has one slash in front, the segments of its parts, and a slash at the end only where
the last part has one. Slashes at the ends of a part are collapsed; slashes within a part stay as
they are.
-/
namespace TypedRoutes

namespace Text

variable {cs front back : List Char} {ps : List (List Char)}

/-- The pieces of a text that are not empty. -/
def segments (cs : List Char) : List (List Char) :=
  (pieces cs).filter (· != [])

/-- Whether no two slashes follow each other. -/
def SingleSlashes (cs : List Char) : Prop :=
  cs.IsChain fun c d => c = '/' → d ≠ '/'

instance : DecidablePred SingleSlashes :=
  fun cs => inferInstanceAs (Decidable (cs.IsChain fun c d => c = '/' → d ≠ '/'))

/-- Whether two slashes follow each other only where nothing but slashes is on one side of them. -/
def DoublesOnlyAtEnds (cs : List Char) : Prop :=
  ∀ front back, cs = front ++ '/' :: '/' :: back →
    (∀ c ∈ front, c = '/') ∨ ∀ c ∈ back, c = '/'

/-! ## Segments -/

theorem segments_append_slash (cs ds : List Char) :
    segments (cs ++ '/' :: ds) = segments cs ++ segments ds := by
  rw [segments, pieces, List.splitOn_append_cons_self, List.filter_append]
  rfl

theorem segments_slash_cons (cs : List Char) : segments ('/' :: cs) = segments cs :=
  segments_append_slash [] cs

theorem segments_of_slashes (h : ∀ c ∈ front, c = '/') (cs : List Char) :
    segments (front ++ cs) = segments cs := by
  induction front with
  | nil => rfl
  | cons c front ih =>
    obtain ⟨rfl, hfront⟩ := List.forall_mem_cons.mp h
    rw [List.cons_append, segments_slash_cons, ih hfront]

theorem segments_append_slashes (cs : List Char) (h : ∀ c ∈ back, c = '/') :
    segments (cs ++ back) = segments cs := by
  cases back with
  | nil => rw [List.append_nil]
  | cons c back =>
    obtain ⟨rfl, hback⟩ := List.forall_mem_cons.mp h
    have hnothing : segments back = [] := by
      have hslashes := segments_of_slashes hback []
      rwa [List.append_nil] at hslashes
    rw [segments_append_slash, hnothing, List.append_nil]

theorem segments_joinPieces (ps : List (List Char)) :
    segments (joinPieces ps) = ps.flatMap segments := by
  induction ps with
  | nil => rfl
  | cons p ps ih =>
    cases ps with
    | nil => rw [joinPieces_singleton, List.flatMap_singleton]
    | cons q qs =>
      rw [joinPieces_cons (List.cons_ne_nil q qs), segments_append_slash, ih]
      rfl

/-! ## Slashes at the ends -/

/-- What is trimmed from a text is slashes on both sides. -/
theorem exists_trimBoth_slashes (cs : List Char) :
    ∃ lead trail, (∀ c ∈ lead, c = '/') ∧ (∀ c ∈ trail, c = '/') ∧
      cs = lead ++ trimBoth isSlash cs ++ trail := by
  have hslash {ds : List Char} : ∀ c ∈ ds.takeWhile isSlash, c = '/' := by
    intro c hc
    simpa [isSlash] using List.mem_takeWhile_imp hc
  refine ⟨cs.takeWhile isSlash, ((cs.dropWhile isSlash).reverse.takeWhile isSlash).reverse,
    hslash, fun c hc => hslash c (List.mem_reverse.mp hc), ?_⟩
  rw [List.append_assoc, trimBoth, ← List.reverse_append, List.takeWhile_append_dropWhile,
    List.reverse_reverse, List.takeWhile_append_dropWhile]

theorem segments_trimBoth_slashes (cs : List Char) :
    segments (trimBoth isSlash cs) = segments cs := by
  obtain ⟨lead, trail, hlead, htrail, hcs⟩ := exists_trimBoth_slashes cs
  calc
    _ = segments (lead ++ trimBoth isSlash cs) := (segments_of_slashes hlead _).symm
    _ = segments (lead ++ trimBoth isSlash cs ++ trail) := (segments_append_slashes _ htrail).symm
    _ = segments cs := by rw [← hcs]

theorem getLast?_trimBoth_slashes_ne (cs : List Char) :
    (trimBoth isSlash cs).getLast? ≠ some '/' :=
  getLast?_dropTrailingSlashes_ne _

/-! ## Two slashes in a row -/

theorem singleSlashes_iff :
    SingleSlashes cs ↔ ∀ front back, cs ≠ front ++ '/' :: '/' :: back := by
  rw [SingleSlashes, List.isChain_iff_forall_rel_of_append_cons_cons]
  constructor
  · intro h front back heq
    exact h heq rfl rfl
  · rintro h c d front back heq rfl rfl
    exact h front back heq

/-- A text keeps its double slashes when it is trimmed, unless they are at its ends. -/
theorem singleSlashes_trimBoth_iff :
    SingleSlashes (trimBoth isSlash cs) ↔ DoublesOnlyAtEnds cs := by
  rw [singleSlashes_iff]
  constructor
  · intro h front back heq
    obtain ⟨lead, trail, hlead, htrail, hcs⟩ := exists_trimBoth_slashes cs
    rw [hcs, List.append_assoc] at heq
    rcases List.append_eq_append_iff.mp heq with ⟨inner, rfl, hrest⟩ | ⟨extra, rfl, -⟩
    · have hdouble : trimBoth isSlash cs ++ trail = (inner ++ ['/', '/']) ++ back := by
        simpa using hrest
      rcases List.append_eq_append_iff.mp hdouble with ⟨extra, -, rfl⟩ | ⟨rest, htrim, -⟩
      · exact .inr fun c hc => htrail c (List.mem_append_right extra hc)
      · exact absurd (by simpa using htrim) (h inner rest)
    · exact .inl fun c hc => hlead c (List.mem_append_left extra hc)
  · intro h front back heq
    obtain ⟨lead, trail, -, -, hcs⟩ := exists_trimBoth_slashes cs
    have hparts : cs = (lead ++ front) ++ '/' :: '/' :: (back ++ trail) := by
      rw [hcs, heq]
      simp
    rcases h _ _ hparts with hfront | hback
    · apply head?_trimBoth_slashes_ne cs
      rw [heq]
      cases front with
      | nil => rfl
      | cons c front => simp [hfront c (by simp)]
    · apply getLast?_trimBoth_slashes_ne cs
      rw [heq]
      cases back using List.reverseRecOn with
      | nil => simp
      | append_singleton back c =>
        obtain rfl := hback c (by simp)
        rw [← List.cons_append, ← List.cons_append, ← List.append_assoc, List.getLast?_concat]

theorem singleSlashes_append_slash_cons {c : Char} (hc : c ≠ '/') (cs ds : List Char) :
    SingleSlashes (cs ++ '/' :: c :: ds) ↔
      SingleSlashes (cs ++ ['/']) ∧ SingleSlashes (c :: ds) := by
  simp only [SingleSlashes, List.isChain_append_cons_cons]
  simp [hc]

theorem singleSlashes_concat_slash (hlast : cs.getLast? ≠ some '/') :
    SingleSlashes (cs ++ ['/']) ↔ SingleSlashes cs := by
  rw [SingleSlashes, List.isChain_append]
  simp only [SingleSlashes, List.isChain_singleton, true_and, and_iff_left_iff_imp, List.head?_cons]
  rintro - c hc d hd rfl
  exact absurd hc hlast

/-- Pieces without slashes at their ends are joined without double slashes between them. -/
theorem singleSlashes_joinPieces_iff
    (hps : ∀ p ∈ ps, p ≠ [] ∧ p.head? ≠ some '/' ∧ p.getLast? ≠ some '/') :
    SingleSlashes (joinPieces ps) ↔ ∀ p ∈ ps, SingleSlashes p := by
  induction ps with
  | nil => simp [joinPieces, SingleSlashes]
  | cons p ps ih =>
    obtain ⟨⟨-, -, hlast⟩, hrest⟩ := List.forall_mem_cons.mp hps
    cases ps with
    | nil => simp [joinPieces_singleton]
    | cons q qs =>
      obtain ⟨hq, hfirst, -⟩ := hrest q List.mem_cons_self
      have hhead := head?_joinPieces hq qs
      obtain ⟨c, q, rfl⟩ := List.exists_cons_of_ne_nil hq
      obtain ⟨ds, hds⟩ := List.head?_eq_some_iff.mp hhead
      have hc : c ≠ '/' := by simpa using hfirst
      rw [joinPieces_cons (List.cons_ne_nil _ qs), List.forall_mem_cons, ← ih hrest, hds,
        singleSlashes_append_slash_cons hc, singleSlashes_concat_slash hlast]

end Text

namespace Uri

open Text

variable {parts : List String}

/-! ## Joining -/

/-- The parts of a path without the slashes at their ends, as far as anything is left of them. -/
def trimmed (parts : List String) : List (List Char) :=
  (parts.map fun part => trimBoth isSlash part.toList).filter (· != [])

/-- Whether the last part ends with a slash. -/
def EndsOpen (parts : List String) : Prop :=
  ∃ last, parts.getLast? = some last ∧ last.toList.getLast? = some '/'

theorem ends_of_mem_trimmed {p : List Char} (h : p ∈ trimmed parts) :
    p ≠ [] ∧ p.head? ≠ some '/' ∧ p.getLast? ≠ some '/' := by
  obtain ⟨hp, hne⟩ := List.mem_filter.mp h
  obtain ⟨part, -, rfl⟩ := List.mem_map.mp hp
  exact ⟨by simpa using hne, head?_trimBoth_slashes_ne _, getLast?_trimBoth_slashes_ne _⟩

/-- What is joined begins and ends with a character that is no slash, if there is anything. -/
theorem ends_joinPieces_trimmed (hne : trimmed parts ≠ []) :
    joinPieces (trimmed parts) ≠ [] ∧ (joinPieces (trimmed parts)).head? ≠ some '/' ∧
      (joinPieces (trimmed parts)).getLast? ≠ some '/' := by
  obtain ⟨p, ps, hps⟩ := List.exists_cons_of_ne_nil hne
  obtain ⟨hp, hfirst, -⟩ := ends_of_mem_trimmed (hps ▸ List.mem_cons_self : p ∈ trimmed parts)
  have hq := List.getLast?_eq_some_getLast hne
  obtain ⟨hqne, -, hlast⟩ := ends_of_mem_trimmed (List.mem_of_getLast? hq)
  have hhead : (joinPieces (trimmed parts)).head? = p.head? := by
    rw [hps, head?_joinPieces hp]
  refine ⟨?_, hhead ▸ hfirst, getLast?_joinPieces hq hqne ▸ hlast⟩
  intro hnil
  rw [hnil] at hhead
  exact hp (List.head?_eq_none_iff.mp hhead.symm)

theorem joinPieces_trimmed_eq_nil_iff :
    joinPieces (trimmed parts) = [] ↔ trimmed parts = [] := by
  constructor
  · intro hnil
    by_contra hne
    exact (ends_joinPieces_trimmed hne).1 hnil
  · intro hnil
    rw [hnil]
    rfl

/-- A joined path is the root, or it has the trimmed parts and a slash behind them if the last part
ends with one. -/
theorem join_cases (parts : List String) :
    trimmed parts = [] ∧ (join parts).toList = ['/'] ∨
      trimmed parts ≠ [] ∧ ∃ slash : Bool, (slash = true ↔ EndsOpen parts) ∧
        (join parts).toList =
          '/' :: joinPieces (trimmed parts) ++ (if slash then ['/'] else []) := by
  have hjoined (slash : Bool) :
      (if slash && '/' :: joinPieces (trimmed parts) != ['/'] then
          '/' :: joinPieces (trimmed parts) ++ ['/']
        else '/' :: joinPieces (trimmed parts)) =
      if trimmed parts = [] then ['/']
      else '/' :: joinPieces (trimmed parts) ++ (if slash then ['/'] else []) := by
    by_cases hne : trimmed parts = []
    · simp [hne, joinPieces]
    · have hroot := mt joinPieces_trimmed_eq_nil_iff.mp hne
      cases slash <;> simp [hne, hroot]
  have hpath : ∃ slash : Bool, (slash = true ↔ EndsOpen parts) ∧ (join parts).toList =
      if trimmed parts = [] then ['/']
      else '/' :: joinPieces (trimmed parts) ++ (if slash then ['/'] else []) := by
    unfold join
    rw [String.toList_ofList]
    cases hlast : parts.getLast? with
    | none => exact ⟨false, by simp [EndsOpen, hlast], hjoined false⟩
    | some last =>
      exact ⟨endsWithSlash last.toList, by simp [EndsOpen, hlast, endsWithSlash], hjoined _⟩
  obtain ⟨slash, hslash, hpath⟩ := hpath
  by_cases hne : trimmed parts = []
  · exact .inl ⟨hne, hpath.trans (if_pos hne)⟩
  · exact .inr ⟨hne, slash, hslash, hpath.trans (if_neg hne)⟩

theorem head?_join (parts : List String) : (join parts).toList.head? = some '/' := by
  rcases join_cases parts with ⟨-, hpath⟩ | ⟨-, slash, -, hpath⟩
  · rw [hpath, List.head?_cons]
  · rw [hpath, List.cons_append, List.head?_cons]

theorem segments_trimmed (parts : List String) :
    (trimmed parts).flatMap segments = parts.flatMap fun part => segments part.toList := by
  have hkept (ps : List (List Char)) :
      (ps.filter (· != [])).flatMap segments = ps.flatMap segments := by
    induction ps with
    | nil => rfl
    | cons p ps ih =>
      cases p with
      | nil => exact ih
      | cons c cs => exact congrArg (segments (c :: cs) ++ ·) ih
  rw [trimmed, hkept, List.flatMap_map]
  simp only [segments_trimBoth_slashes]

theorem segments_join (parts : List String) :
    segments (join parts).toList = parts.flatMap fun part => segments part.toList := by
  rw [← segments_trimmed]
  rcases join_cases parts with ⟨hnil, hpath⟩ | ⟨-, slash, -, hpath⟩
  · rw [hpath, hnil]
    rfl
  · have hslash : ∀ c ∈ (if slash then ['/'] else []), c = '/' := by cases slash <;> simp
    rw [hpath, segments_append_slashes _ hslash, segments_slash_cons, segments_joinPieces]

theorem getLast?_join_eq_slash_iff (parts : List String) :
    (join parts).toList.getLast? = some '/' ↔ (join parts).toList = ['/'] ∨ EndsOpen parts := by
  rcases join_cases parts with ⟨-, hpath⟩ | ⟨hne, slash, hslash, hpath⟩
  · rw [hpath]
    exact ⟨fun _ => .inl rfl, fun _ => rfl⟩
  · obtain ⟨hjoined, -, hlast⟩ := ends_joinPieces_trimmed hne
    obtain ⟨c, cs, hcs⟩ := List.exists_cons_of_ne_nil hjoined
    rw [hcs] at hlast hpath
    rw [hpath, ← hslash]
    cases slash with
    | true => exact ⟨fun _ => .inr rfl, fun _ => by rw [if_pos rfl, List.getLast?_concat]⟩
    | false => simp [hlast]

/-- Two slashes follow each other in a joined path if they do within a part. -/
theorem singleSlashes_join_iff (parts : List String) :
    SingleSlashes (join parts).toList ↔ ∀ part ∈ parts, DoublesOnlyAtEnds part.toList := by
  have hends : SingleSlashes (join parts).toList ↔ SingleSlashes (joinPieces (trimmed parts)) := by
    rcases join_cases parts with ⟨hnil, hpath⟩ | ⟨hne, slash, -, hpath⟩
    · rw [hpath, hnil]
      decide
    · obtain ⟨hjoined, hfirst, hlast⟩ := ends_joinPieces_trimmed hne
      obtain ⟨c, cs, hcs⟩ := List.exists_cons_of_ne_nil hjoined
      rw [hcs] at hfirst hlast hpath ⊢
      have hc : c ≠ '/' := by simpa using hfirst
      have hfront : SingleSlashes ('/' :: c :: cs) ↔ SingleSlashes (c :: cs) := by
        simp [SingleSlashes, hc]
      rw [hpath]
      cases slash with
      | true =>
        rw [if_pos rfl, singleSlashes_concat_slash (by rwa [List.getLast?_cons_cons]), hfront]
      | false => rw [if_neg (by decide), List.append_nil, hfront]
  rw [hends, singleSlashes_joinPieces_iff fun p hp => ends_of_mem_trimmed hp]
  constructor
  · intro h part hpart
    rw [← singleSlashes_trimBoth_iff]
    by_cases hnil : trimBoth isSlash part.toList = []
    · rw [hnil]
      exact .nil
    · exact h _ (List.mem_filter.mpr ⟨List.mem_map.mpr ⟨part, hpart, rfl⟩, by simpa using hnil⟩)
  · intro h p hp
    obtain ⟨part, hpart, rfl⟩ := List.mem_map.mp (List.mem_filter.mp hp).1
    exact singleSlashes_trimBoth_iff.mpr (h part hpart)

/-- A joined path begins with a slash, has the segments of its parts in order, and ends with a slash
if it is the root or its last part ends with one. Two slashes follow each other in it if there are
two within a part that has something else on both sides of them, and so it is with the URLs of
static files. -/
theorem join_collapses (parts : List String) :
    (join parts).toList.head? = some '/' ∧
    segments (join parts).toList = parts.flatMap (fun part => segments part.toList) ∧
    ((join parts).toList.getLast? = some '/' ↔ (join parts).toList = ['/'] ∨ EndsOpen parts) ∧
    (SingleSlashes (join parts).toList ↔ ∀ part ∈ parts, DoublesOnlyAtEnds part.toList) ∧
    ∀ (dispatcher : Dispatcher) (file : String),
      SingleSlashes (dispatcher.staticUrl file).toList ↔
        DoublesOnlyAtEnds dispatcher.settings.baseUri.toList ∧
        DoublesOnlyAtEnds dispatcher.settings.staticDirectoryUri.toList ∧
        DoublesOnlyAtEnds file.toList := by
  refine ⟨head?_join parts, segments_join parts, getLast?_join_eq_slash_iff parts,
    singleSlashes_join_iff parts, fun dispatcher file => ?_⟩
  rw [Dispatcher.staticUrl, singleSlashes_join_iff]
  simp

/-- Slashes within a part are not collapsed. -/
theorem join_doubled :
    join ["a//b"] = "/a//b" ∧ ¬SingleSlashes (join ["a//b"]).toList := by
  decide +kernel

end Uri
end TypedRoutes
