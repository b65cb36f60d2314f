import TypedRoutes.Document.Yaml.Node
import TypedRoutes.Proofs.Document.Tokens

/-!
# Nodes of documents

Reading a node of sound tokens leaves sound tokens, or fails as documents do: where the tokens break
off, with the failure that stands there. This goes by the fuel, for all readers at once.
-/
namespace TypedRoutes
namespace Yaml
namespace Node

open Document

/-- Whether all tokens are sound. -/
def AreSound (tokens : List Token) : Prop :=
  ∀ token ∈ tokens, token.IsSound

variable {α : Type} {token : Token} {tokens rest : List Token}

theorem AreSound.tail (h : AreSound (token :: rest)) : AreSound rest :=
  (List.forall_mem_cons.mp h).2

theorem AreSound.gives_unexpected {P : α → Prop} (h : AreSound tokens) :
    Gives P (unexpected tokens) := by
  unfold unexpected
  split
  next failure _ => exact .error (h (.broken failure) List.mem_cons_self failure rfl)
  · exact gives_malformed

theorem AreSound.beforeItem? (h : AreSound tokens) {isFirst : Bool} {closing : Token}
    (hitem : Node.beforeItem? isFirst closing tokens = some rest) : AreSound rest := by
  unfold Node.beforeItem? at hitem
  split at hitem
  · cases hitem
    exact h
  · split_ifs at hitem
    · cases hitem
      exact h
    · cases hitem
      exact h.tail
  · cases hitem

/-- Whether sound tokens are left behind what has been read. -/
def LeavesSound (found : α × List Token) : Prop :=
  AreSound found.2

theorem gives_map {β : Type} {result : Except Failure (α × List Token)}
    (h : Gives LeavesSound result) (f : α → β) :
    Gives LeavesSound (result.map fun (x, rest) => (f x, rest)) :=
  h.map fun _ hrest => hrest

/-- Every reader leaves sound tokens of sound ones, with some fuel. -/
structure ReadsSound (fuel : Nat) : Prop where
  read : ∀ depth inBlock tokens, AreSound tokens →
    Gives LeavesSound (read fuel depth inBlock tokens)
  readOr : ∀ depth inBlock enders tokens, AreSound tokens →
    Gives LeavesSound (readOr fuel depth inBlock enders tokens)
  inEntry : ∀ depth tokens, AreSound tokens → Gives LeavesSound (readInEntry fuel depth tokens)
  items : ∀ depth tokens, AreSound tokens → Gives LeavesSound (readItems fuel depth tokens)
  looseItems : ∀ depth tokens, AreSound tokens →
    Gives LeavesSound (readLooseItems fuel depth tokens)
  entries : ∀ depth tokens, AreSound tokens → Gives LeavesSound (readEntries fuel depth tokens)
  pair : ∀ depth closing tokens, AreSound tokens →
    Gives LeavesSound (readPair fuel depth closing tokens)
  flowItems : ∀ depth isFirst tokens, AreSound tokens →
    Gives LeavesSound (readFlowItems fuel depth isFirst tokens)
  flowEntries : ∀ depth isFirst tokens, AreSound tokens →
    Gives LeavesSound (readFlowEntries fuel depth isFirst tokens)

namespace ReadsSound

variable {fuel : Nat}

theorem zero : ReadsSound 0 where
  read := fun _ _ _ _ => by
    rw [Node.read.eq_def]
    exact gives_malformed
  readOr := fun _ _ _ _ _ => by
    rw [Node.readOr.eq_def]
    exact gives_malformed
  inEntry := fun _ _ _ => by
    rw [readInEntry.eq_def]
    exact gives_malformed
  items := fun _ _ _ => by
    rw [readItems.eq_def]
    exact gives_malformed
  looseItems := fun _ _ _ => by
    rw [readLooseItems.eq_def]
    exact gives_malformed
  entries := fun _ _ _ => by
    rw [readEntries.eq_def]
    exact gives_malformed
  pair := fun _ _ _ _ => by
    rw [readPair.eq_def]
    exact gives_malformed
  flowItems := fun _ _ _ _ => by
    rw [readFlowItems.eq_def]
    exact gives_malformed
  flowEntries := fun _ _ _ _ => by
    rw [readFlowEntries.eq_def]
    exact gives_malformed

theorem read_succ (ih : ReadsSound fuel) (depth : Nat) (inBlock : Bool) (h : AreSound tokens) :
    Gives LeavesSound (Node.read (fuel + 1) depth inBlock tokens) := by
  rw [Node.read.eq_def]
  dsimp only
  split
  · exact .ok h.tail
  · exact gives_deeper (fun _ => gives_map (ih.flowItems _ _ _ h.tail) _) _
  · exact gives_deeper (fun _ => gives_map (ih.flowEntries _ _ _ h.tail) _) _
  · exact gives_ite (gives_deeper (fun _ => gives_map (ih.items _ _ h.tail) _) _) gives_malformed
  · exact gives_ite (gives_deeper (fun _ => gives_map (ih.entries _ _ h.tail) _) _) gives_malformed
  · exact gives_ite (gives_map (ih.read _ _ _ h.tail) _) (.ok h.tail)
  · exact .ok h.tail
  · exact h.gives_unexpected

theorem readOr_succ (ih : ReadsSound fuel) (depth : Nat) (inBlock : Bool) (enders : List Token)
    (h : AreSound tokens) :
    Gives LeavesSound (Node.readOr (fuel + 1) depth inBlock enders tokens) := by
  rw [Node.readOr.eq_def]
  exact gives_ite (.ok h) (ih.read depth inBlock tokens h)

theorem inEntry_succ (ih : ReadsSound fuel) (depth : Nat) (h : AreSound tokens) :
    Gives LeavesSound (readInEntry (fuel + 1) depth tokens) := by
  rw [readInEntry.eq_def]
  refine gives_ite (.ok h) (gives_ite ?_ ?_)
  · exact gives_deeper (fun _ => gives_map (ih.looseItems _ _ h) _) _
  · split
    next name _ =>
      exact gives_deeper
        (fun _ => gives_map (ih.looseItems _ _ h.tail) fun items => anchored name (sequence items)) _
    · exact ih.read depth true tokens h

theorem items_succ (ih : ReadsSound fuel) (depth : Nat) (h : AreSound tokens) :
    Gives LeavesSound (readItems (fuel + 1) depth tokens) := by
  rw [readItems.eq_def]
  dsimp only
  split
  · exact .ok h.tail
  · have hitem := ih.readOr depth true [.entry, .blockEnd] _ h.tail
    split
    next hfailure => exact hitem.of_error hfailure
    next hfound => exact gives_map (ih.items depth _ (hitem.of_ok hfound)) _
  · exact h.gives_unexpected

theorem looseItems_succ (ih : ReadsSound fuel) (depth : Nat) (h : AreSound tokens) :
    Gives LeavesSound (readLooseItems (fuel + 1) depth tokens) := by
  rw [readLooseItems.eq_def]
  dsimp only
  split
  · have hitem := ih.readOr depth true [.entry, .key, .value, .blockEnd] _ h.tail
    split
    next hfailure => exact hitem.of_error hfailure
    next hfound => exact gives_map (ih.looseItems depth _ (hitem.of_ok hfound)) _
  · exact .ok h

theorem entries_succ (ih : ReadsSound fuel) (depth : Nat) (h : AreSound tokens) :
    Gives LeavesSound (readEntries (fuel + 1) depth tokens) := by
  rw [readEntries.eq_def]
  dsimp only
  split
  · exact .ok h.tail
  · have hkey := ih.inEntry depth _ h.tail
    split
    next hfailure => exact hkey.of_error hfailure
    next key afterKey hfound =>
      have hafter : AreSound afterKey := hkey.of_ok hfound
      -- The value stands behind a token of its own, or is left out.
      split
      next hfailure =>
        split at hfailure
        · exact (ih.inEntry depth _ hafter.tail).of_error hfailure
        · cases hfailure
      next hvalue =>
        refine gives_map (ih.entries depth _ ?_) _
        split at hvalue
        · exact (ih.inEntry depth _ hafter.tail).of_ok hvalue
        · cases hvalue
          exact hafter
  · exact h.gives_unexpected

theorem pair_succ (ih : ReadsSound fuel) (depth : Nat) (closing : Token) (h : AreSound tokens) :
    Gives LeavesSound (readPair (fuel + 1) depth closing tokens) := by
  rw [readPair.eq_def]
  dsimp only
  have hkey := ih.readOr depth false [.value, .flowEntry, closing] tokens h
  split
  next hfailure => exact hkey.of_error hfailure
  next hfound =>
    have hafter := hkey.of_ok hfound
    split
    · exact gives_map (ih.readOr depth false _ _ (AreSound.tail hafter)) _
    · exact .ok hafter

theorem flowItems_succ (ih : ReadsSound fuel) (depth : Nat) (isFirst : Bool) (h : AreSound tokens) :
    Gives LeavesSound (readFlowItems (fuel + 1) depth isFirst tokens) := by
  rw [readFlowItems.eq_def]
  dsimp only
  split
  · exact h.gives_unexpected
  next hitem => exact .ok (h.beforeItem? hitem).tail
  next hitem =>
    have hpair := gives_deeper
      (fun depth => ih.pair depth .flowSequenceEnd _ (h.beforeItem? hitem).tail) depth
    split
    next hfailure => exact hpair.of_error hfailure
    next hfound => exact gives_map (ih.flowItems depth false _ (hpair.of_ok hfound)) _
  next hitem =>
    have hread := ih.read depth false _ (h.beforeItem? hitem)
    split
    next hfailure => exact hread.of_error hfailure
    next hfound => exact gives_map (ih.flowItems depth false _ (hread.of_ok hfound)) _

theorem flowEntries_succ (ih : ReadsSound fuel) (depth : Nat) (isFirst : Bool)
    (h : AreSound tokens) :
    Gives LeavesSound (readFlowEntries (fuel + 1) depth isFirst tokens) := by
  rw [readFlowEntries.eq_def]
  dsimp only
  split
  · exact h.gives_unexpected
  next hitem => exact .ok (h.beforeItem? hitem).tail
  next hitem =>
    have hpair := ih.pair depth .flowMappingEnd _ (h.beforeItem? hitem).tail
    split
    next hfailure => exact hpair.of_error hfailure
    next hfound => exact gives_map (ih.flowEntries depth false _ (hpair.of_ok hfound)) _
  next hitem =>
    have hread := ih.read depth false _ (h.beforeItem? hitem)
    split
    next hfailure => exact hread.of_error hfailure
    next hfound => exact gives_map (ih.flowEntries depth false _ (hread.of_ok hfound)) _

theorem succ (ih : ReadsSound fuel) : ReadsSound (fuel + 1) where
  read := fun depth inBlock _ h => ih.read_succ depth inBlock h
  readOr := fun depth inBlock enders _ h => ih.readOr_succ depth inBlock enders h
  inEntry := fun depth _ h => ih.inEntry_succ depth h
  items := fun depth _ h => ih.items_succ depth h
  looseItems := fun depth _ h => ih.looseItems_succ depth h
  entries := fun depth _ h => ih.entries_succ depth h
  pair := fun depth closing _ h => ih.pair_succ depth closing h
  flowItems := fun depth isFirst _ h => ih.flowItems_succ depth isFirst h
  flowEntries := fun depth isFirst _ h => ih.flowEntries_succ depth isFirst h

end ReadsSound

theorem readsSound (fuel : Nat) : ReadsSound fuel := by
  induction fuel with
  | zero => exact .zero
  | succ fuel ih => exact ih.succ

theorem gives_ofTokens? (h : AreSound tokens) : Gives (fun _ => True) (ofTokens? tokens) := by
  unfold ofTokens?
  dsimp only
  split
  · exact .ok trivial
  · exact .ok trivial
  -- The content stands behind the mark at the start of a document, if there is one.
  · split
    next hfailure =>
      split at hfailure
      · exact ((readsSound _).readOr _ _ _ _ h.tail).of_error hfailure
      · exact ((readsSound _).read _ _ _ h).of_error hfailure
    next rest hcontent =>
      have hrest : AreSound rest := by
        split at hcontent
        · exact ((readsSound _).readOr _ _ _ _ h.tail).of_ok hcontent
        · exact ((readsSound _).read _ _ _ h).of_ok hcontent
      split
      · exact .ok trivial
      · apply AreSound.gives_unexpected
        intro token htoken
        exact hrest token ((List.dropWhile_sublist _).subset htoken)

end Node
end Yaml
end TypedRoutes
