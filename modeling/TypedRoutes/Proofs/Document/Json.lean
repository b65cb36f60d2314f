import Mathlib.Tactic.SplitIfs
import TypedRoutes.Document.Json
import TypedRoutes.Proofs.Document.Reading

/-!
# What is read of JSON

The readers of texts and numbers come first, then values by the fuel that they are read with.
-/
namespace TypedRoutes
namespace Json

open Document

variable {P : Value → Prop} {cs : List Char}

theorem gives_malformed {α : Type} {P : α → Prop} : Gives P malformed :=
  .error rfl

/-! ## Texts and numbers -/

theorem gives_readChars (done : List Char) (pending : Option Nat) (cs : List Char) :
    Gives (fun _ => True) (readChars done pending cs) := by
  fun_induction readChars done pending cs with
  | case1 => exact .ok trivial
  | case2 _ _ _ _ _ _ _ _ _ ih => exact ih
  | case3 => exact gives_malformed
  | case4 _ _ _ _ _ _ _ ih => exact ih
  | case5 => exact gives_malformed
  | case6 => exact gives_malformed
  | case7 _ _ _ _ _ _ _ _ ih => exact ih
  | case8 => exact gives_malformed

theorem gives_readText (cs : List Char) : Gives (fun _ => True) (readText cs) :=
  (gives_readChars [] none cs).map fun _ _ => trivial

theorem gives_integerOf (hP : Invariant P) (cs : List Char) : Gives P (integerOf cs) := by
  unfold integerOf
  split
  · exact .ok (hP.integer _)
  · exact .error rfl
  · exact gives_malformed

theorem gives_floatOf (hP : Invariant P) (cs : List Char) : Gives P (floatOf cs) := by
  unfold floatOf
  split
  · exact .ok (hP.float _)
  · exact gives_malformed

theorem gives_readNumber (hP : Invariant P) (cs : List Char) :
    Gives (fun found => P found.1) (readNumber cs) := by
  unfold readNumber
  dsimp only
  split_ifs
  · exact gives_malformed
  · exact (gives_integerOf hP _).map fun _ hvalue => hvalue
  · exact (gives_floatOf hP _).map fun _ hvalue => hvalue

theorem holds_of_mem_words (hP : Invariant P) : ∀ word ∈ words, P word.2 := by
  simp [words, hP.null, hP.boolean, hP.float]

theorem gives_readAtom (hP : Invariant P) (cs : List Char) :
    Gives (fun found => P found.1) (readAtom cs) := by
  unfold readAtom
  dsimp only
  split
  next found hfound =>
    obtain ⟨word, hmem, hword⟩ := List.exists_of_findSome?_eq_some hfound
    obtain ⟨after, -, rfl⟩ := Option.map_eq_some_iff.mp hword
    exact .ok (holds_of_mem_words hP word hmem)
  · exact gives_readNumber hP cs

/-! ## Values -/

/-- What is read with some fuel has a property, if what has been read so far has it. -/
structure ReadsAll (P : Value → Prop) (fuel : Nat) : Prop where
  value : ∀ depth cs, Gives (fun found => P found.1) (readValue fuel depth cs)
  items : ∀ depth done cs, (∀ item ∈ done, P item) →
    Gives (fun found => P found.1) (readItems fuel depth done cs)
  entries : ∀ depth done cs, P (.mapping done) →
    Gives (fun found => P found.1) (readEntries fuel depth done cs)

variable {fuel : Nat}

theorem ReadsAll.value_succ (hP : Invariant P) (ih : ReadsAll P fuel) (depth : Nat)
    (cs : List Char) : Gives (fun found => P found.1) (readValue (fuel + 1) depth cs) := by
  rw [readValue.eq_def]
  dsimp only
  split
  · exact (gives_readText _).map fun _ _ => hP.text _
  · apply gives_deeper
    intro depth
    split
    · exact .ok (hP.list [] (by simp))
    · exact ih.items depth [] _ (by simp)
  · apply gives_deeper
    intro depth
    split
    · exact .ok hP.empty
    · exact ih.entries depth [] _ hP.empty
  · exact gives_readAtom hP _

theorem ReadsAll.items_succ (hP : Invariant P) (ih : ReadsAll P fuel) (depth : Nat)
    (done : List Value) (cs : List Char) (hdone : ∀ item ∈ done, P item) :
    Gives (fun found => P found.1) (readItems (fuel + 1) depth done cs) := by
  rw [readItems.eq_def]
  dsimp only
  split
  next hfailure => exact (ih.value depth cs).of_error hfailure
  next item rest hitem =>
    have hitems : ∀ other ∈ item :: done, P other :=
      List.forall_mem_cons.mpr ⟨(ih.value depth cs).of_ok hitem, hdone⟩
    split
    · refine .ok (hP.list _ ?_)
      intro other hother
      exact hitems other (List.mem_reverse.mp hother)
    · exact ih.items depth _ _ hitems
    · exact gives_malformed

theorem ReadsAll.entries_succ (hP : Invariant P) (ih : ReadsAll P fuel) (depth : Nat)
    (done : Entries) (cs : List Char) (hdone : P (.mapping done)) :
    Gives (fun found => P found.1) (readEntries (fuel + 1) depth done cs) := by
  rw [readEntries.eq_def]
  dsimp only
  split
  · split
    next hfailure => exact (gives_readText _).of_error hfailure
    next name _ _ =>
      split
      · split
        next hfailure => exact (ih.value depth _).of_error hfailure
        next value _ hvalue =>
          have hentries := hP.insert done (.text name) value hdone (hP.text name) rfl
            ((ih.value depth _).of_ok hvalue)
          split
          · exact .ok hentries
          · exact ih.entries depth _ _ hentries
          · exact gives_malformed
      · exact gives_malformed
  · exact gives_malformed

theorem readsAll (hP : Invariant P) (fuel : Nat) : ReadsAll P fuel := by
  induction fuel with
  | zero => exact ⟨fun _ _ => .error rfl, fun _ _ _ _ => .error rfl, fun _ _ _ _ => .error rfl⟩
  | succ fuel ih => exact ⟨ih.value_succ hP, ih.items_succ hP, ih.entries_succ hP⟩

theorem gives_readWithin (hP : Invariant P) (depth : Nat) (s : String) :
    Gives P (readWithin depth s) := by
  unfold readWithin
  dsimp only
  split
  · exact gives_malformed
  · have hread := (readsAll hP (2 * s.toList.length + 2)).value depth (skipSpace s.toList)
    split
    next hfailure => exact hread.of_error hfailure
    next hfound =>
      split
      · exact .ok (hread.of_ok hfound)
      · exact gives_malformed

theorem gives_read (hP : Invariant P) (s : String) : Gives P (read s) :=
  gives_readWithin hP _ s

/-! ## Containers -/

variable {depth : Nat} {found : Value × List Char}

theorem isKey_of_readItems {done : List Value}
    (h : readItems fuel depth done cs = .ok found) : found.1.isKey = false := by
  induction fuel generalizing done cs with
  | zero => cases h
  | succ fuel ih =>
    rw [readItems.eq_def] at h
    dsimp only at h
    split at h
    · cases h
    · split at h
      · cases h
        rfl
      · exact ih h
      · cases h

theorem isKey_of_readEntries {done : Entries}
    (h : readEntries fuel depth done cs = .ok found) : found.1.isKey = false := by
  induction fuel generalizing done cs with
  | zero => cases h
  | succ fuel ih =>
    rw [readEntries.eq_def] at h
    dsimp only at h
    split at h
    · split at h
      · cases h
      · split at h
        · split at h
          · cases h
          · split at h
            · cases h
              rfl
            · exact ih h
            · cases h
        · cases h
    · cases h

theorem isKey_of_deeper {inside : Nat → Except Failure (Value × List Char)}
    (hinside : ∀ depth, inside depth = .ok found → found.1.isKey = false)
    (h : Nesting.deeper depth inside = .ok found) : found.1.isKey = false := by
  cases depth with
  | zero => cases h
  | succ depth => exact hinside depth h

/-- What begins with an opening bracket or brace is a list or a mapping. -/
theorem isKey_of_readValue (hopen : cs.head? = some '[' ∨ cs.head? = some '\x7b')
    (h : readValue fuel depth cs = .ok found) : found.1.isKey = false := by
  cases fuel with
  | zero => cases h
  | succ fuel =>
    rw [readValue.eq_def] at h
    dsimp only at h
    split at h
    · simp at hopen
    · refine isKey_of_deeper (fun depth hdepth => ?_) h
      split at hdepth
      · cases hdepth
        rfl
      · exact isKey_of_readItems hdepth
    · refine isKey_of_deeper (fun depth hdepth => ?_) h
      split at hdepth
      · cases hdepth
        rfl
      · exact isKey_of_readEntries hdepth
    next hlist hmapping =>
      obtain ⟨c, rest, rfl⟩ : ∃ c rest, cs = c :: rest := by
        cases cs with
        | nil => simp at hopen
        | cons c rest => exact ⟨c, rest, rfl⟩
      rcases hopen with hopen | hopen
      · cases hopen
        exact absurd rfl (hlist rest)
      · cases hopen
        exact absurd rfl (hmapping rest)

theorem isKey_of_read {s : String} {value : Value}
    (hopen : s.toList.head? = some '[' ∨ s.toList.head? = some '\x7b')
    (h : read s = .ok value) : value.isKey = false := by
  have hspace : skipSpace s.toList = s.toList := by
    cases hlist : s.toList with
    | nil => rfl
    | cons c rest =>
      rw [hlist] at hopen
      refine List.dropWhile_cons_of_neg ?_
      rcases hopen with hopen | hopen <;> cases hopen <;> decide
  rw [read, readWithin, hspace] at h
  split at h
  · cases h
  · split at h
    · cases h
    next found rest hfound =>
      split at h
      · cases h
        exact isKey_of_readValue hopen hfound
      · cases h

end Json
end TypedRoutes
