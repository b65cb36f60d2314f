import TypedRoutes.Document.Yaml
import TypedRoutes.Proofs.Document.Nodes

/-!
# What is read of YAML

A node is resolved to a node whose scalars have values with the property or failures of documents,
and what a merge key brings in are entries of such nodes. The value of a resolved node is put
together from the attempts at its parts.
-/
namespace TypedRoutes
namespace Yaml

open Document

variable {P : Value → Prop} {α β : Type}

/-! ## Plain scalars -/

theorem gives_fitting (found : Option α) : Gives (fun _ => True) (fitting found) := by
  cases found with
  | none => exact .error rfl
  | some x => exact .ok trivial

theorem gives_addSixtieths (power : Nat) (total : Binary64) (parts : List Binary64) :
    Gives (fun _ => True) (addSixtieths power total parts) := by
  induction parts generalizing power total with
  | nil => exact .ok trivial
  | cons part rest ih =>
    rw [addSixtieths]
    exact (gives_fitting _).bind fun _ _ => ih _ _

theorem gives_of_float? {cs : List Char} {x : Except Failure Binary64} (h : float? cs = some x) :
    Gives (fun _ => True) x := by
  unfold float? at h
  dsimp only at h
  split at h
  · cases h
    exact .ok trivial
  · split at h
    · cases h
      exact .ok trivial
    · split at h
      · obtain ⟨_, -, rfl⟩ := Option.map_eq_some_iff.mp h
        exact .ok trivial
      · obtain ⟨parts, -, rfl⟩ := Option.map_eq_some_iff.mp h
        exact (gives_addSixtieths _ _ _).map fun _ _ => trivial

/-- A plain scalar can be a key. -/
theorem gives_plainValue (hP : Invariant P) (cs : List Char) :
    Gives (fun value => P value ∧ value.isKey = true) (plainValue cs) := by
  unfold plainValue
  refine gives_ite (.ok ⟨hP.null, rfl⟩) ?_
  refine gives_ite (.ok ⟨hP.boolean true, rfl⟩) ?_
  refine gives_ite (.ok ⟨hP.boolean false, rfl⟩) ?_
  refine gives_ite gives_malformed ?_
  dsimp only
  split
  · split
    · exact .ok ⟨hP.integer _, rfl⟩
    · exact .error rfl
  · split
    next hfloat => exact (gives_of_float? hfloat).map fun x _ => ⟨hP.float x, rfl⟩
    · exact .ok ⟨hP.text _, rfl⟩

/-! ## Resolved nodes -/

namespace Resolved

mutual

/-- Whether the scalars of a resolved node have values with a property that can be keys, or fail as
documents do. -/
def ScalarsGive (P : Value → Prop) : Resolved → Prop
  | scalar value => Gives (fun found => P found ∧ found.isKey = true) value
  | sequence items => ItemsGive P items
  | mapping _ entries => EntriesGive P entries
  | unmergeable => True

def ItemsGive (P : Value → Prop) : List Resolved → Prop
  | [] => True
  | item :: rest => item.ScalarsGive P ∧ ItemsGive P rest

def EntriesGive (P : Value → Prop) : List (Resolved × Resolved) → Prop
  | [] => True
  | (key, node) :: rest => key.ScalarsGive P ∧ node.ScalarsGive P ∧ EntriesGive P rest

end

theorem itemsGive_iff {items : List Resolved} :
    ItemsGive P items ↔ ∀ item ∈ items, item.ScalarsGive P := by
  induction items with
  | nil => simp [ItemsGive]
  | cons item rest ih => simp [ItemsGive, ih]

theorem entriesGive_iff {entries : List (Resolved × Resolved)} :
    EntriesGive P entries ↔ ∀ entry ∈ entries, entry.1.ScalarsGive P ∧ entry.2.ScalarsGive P := by
  induction entries with
  | nil => simp [EntriesGive]
  | cons entry rest ih =>
    obtain ⟨key, node⟩ := entry
    simp [EntriesGive, ih, and_assoc]

theorem scalarsGive_text (hP : Invariant P) (s : String) :
    (scalar (.ok (.text s))).ScalarsGive P := by
  rw [ScalarsGive]
  exact .ok ⟨hP.text s, rfl⟩

theorem scalarsGive_ofKey (hP : Invariant P) {resolved : Resolved} (h : resolved.ScalarsGive P)
    (key : Node) : (ofKey key resolved).ScalarsGive P := by
  unfold ofKey
  split
  · split
    · exact scalarsGive_text hP _
    · exact h
  · exact h

theorem exists_of_mem_mapM {f : α → Option β} {xs : List α} {ys : List β} {y : β}
    (h : xs.mapM f = some ys) (hy : y ∈ ys) : ∃ x ∈ xs, f x = some y := by
  induction xs generalizing ys with
  | nil =>
    cases h
    cases hy
  | cons x xs ih =>
    rw [List.mapM_cons] at h
    obtain ⟨first, hfirst, hrest⟩ := Option.bind_eq_some_iff.mp h
    obtain ⟨more, hmore, heq⟩ := Option.bind_eq_some_iff.mp hrest
    cases heq
    rcases List.mem_cons.mp hy with rfl | hmem
    · exact ⟨x, List.mem_cons_self, hfirst⟩
    · obtain ⟨other, hother, heq⟩ := ih hmore hmem
      exact ⟨other, List.mem_cons_of_mem x hother, heq⟩

/-- What a merge key brings in are entries of the mappings that it names. -/
theorem entriesGive_broughtIn {resolved : Resolved} {entries : List (Resolved × Resolved)}
    (h : resolved.ScalarsGive P) (hentries : resolved.broughtIn? = some entries) :
    EntriesGive P entries := by
  unfold broughtIn? at hentries
  split at hentries
  · cases hentries
    rwa [ScalarsGive] at h
  next items =>
    obtain ⟨all, hall, rfl⟩ := Option.map_eq_some_iff.mp hentries
    rw [ScalarsGive, itemsGive_iff] at h
    rw [entriesGive_iff]
    intro entry hentry
    obtain ⟨merged, hmerged, hmem⟩ := List.mem_flatten.mp hentry
    obtain ⟨item, hitem, heq⟩ := exists_of_mem_mapM hall (List.mem_reverse.mp hmerged)
    have hgives := h item hitem
    unfold mergedEntries? at heq
    split at heq
    · cases heq
      rw [ScalarsGive, entriesGive_iff] at hgives
      exact hgives entry hmem
    · cases heq
  · cases hentries

mutual

theorem scalarsGive_ofNode (hP : Invariant P) : ∀ node, (ofNode node).ScalarsGive P
  | .scalar isPlain text => by
    rw [ofNode, ScalarsGive]
    exact gives_ite (gives_plainValue hP text) (.ok ⟨hP.text _, rfl⟩)
  | .sequence items => by
    rw [ofNode, ScalarsGive]
    exact itemsGive_ofItems hP items
  | .mapping _ entries => by
    rw [ofNode]
    split
    next merged own heq =>
      obtain ⟨hmerged, hown⟩ := entriesGive_ofEntries hP entries heq
      rw [ScalarsGive, entriesGive_iff]
      intro entry hentry
      rcases List.mem_append.mp hentry with hmem | hmem
      · exact entriesGive_iff.mp hmerged entry hmem
      · exact entriesGive_iff.mp hown entry hmem
    · rw [ScalarsGive]
      trivial
  | .anchored _ _ => by
    rw [ofNode, ScalarsGive]
    exact gives_malformed
  | .reference _ => by
    rw [ofNode, ScalarsGive]
    exact gives_malformed

theorem itemsGive_ofItems (hP : Invariant P) : ∀ items, ItemsGive P (ofItems items)
  | [] => by
    rw [ofItems, ItemsGive]
    trivial
  | item :: rest => by
    rw [ofItems, ItemsGive]
    exact ⟨scalarsGive_ofNode hP item, itemsGive_ofItems hP rest⟩

theorem entriesGive_ofEntries (hP : Invariant P) : ∀ entries {merged own},
    ofEntries entries = some (merged, own) → EntriesGive P merged ∧ EntriesGive P own
  | [], _, _, h => by
    rw [ofEntries] at h
    cases h
    rw [EntriesGive]
    exact ⟨trivial, trivial⟩
  | (key, node) :: rest, _, _, h => by
    rw [ofEntries] at h
    split at h
    · cases h
    next merged own hrest =>
      obtain ⟨hmerged, hown⟩ := entriesGive_ofEntries hP rest hrest
      have hnode := scalarsGive_ofNode hP node
      split at h
      · obtain ⟨entries, hentries, heq⟩ := Option.map_eq_some_iff.mp h
        cases heq
        have hbrought := entriesGive_broughtIn hnode hentries
        rw [entriesGive_iff] at hbrought hmerged ⊢
        exact ⟨fun entry hentry => (List.mem_append.mp hentry).elim (hbrought entry)
          (hmerged entry), hown⟩
      · cases h
        rw [EntriesGive]
        exact ⟨hmerged, scalarsGive_ofKey hP (scalarsGive_ofNode hP key) key, hnode, hown⟩

end

/-! ## Attempts -/

/-- Whether an attempt gives something with a property, or fails as documents do. -/
def AttemptGives (P : α → Prop) (attempt : Attempt α) : Prop :=
  Gives P (attempt.mapError Prod.snd)

theorem attemptGives_ok {P : α → Prop} {x : α} (h : P x) : AttemptGives P (.ok x) :=
  Gives.ok h

theorem attemptGives_map {P : α → Prop} {Q : β → Prop} {attempt : Attempt α} {f : α → β}
    (h : AttemptGives P attempt) (hf : ∀ x, P x → Q (f x)) : AttemptGives Q (attempt.map f) := by
  cases attempt with
  | ok x => exact Gives.map h hf
  | error failure => exact Gives.of_error h rfl

theorem attemptGives_both {P : α → Prop} {Q : β → Prop} {first : Attempt α} {second : Attempt β}
    (hfirst : AttemptGives P first) (hsecond : AttemptGives Q second) :
    AttemptGives (fun x => P x.1 ∧ Q x.2) (both first second) := by
  unfold both
  split
  · exact attemptGives_ok ⟨Gives.of_ok hfirst rfl, Gives.of_ok hsecond rfl⟩
  · exact Gives.of_error hfirst rfl
  · exact Gives.of_error hsecond rfl
  · split
    · exact Gives.of_error hfirst rfl
    · exact Gives.of_error hsecond rfl

theorem attemptGives_inside {P : α → Prop} {attempt : Attempt α} (h : AttemptGives P attempt) :
    AttemptGives P (inside attempt) := by
  cases attempt with
  | ok x => exact h
  | error failure => exact h

theorem attemptGives_scalar {value : Except Failure Value} (h : Gives P value) :
    AttemptGives P (value.mapError fun failure => (0, failure)) := by
  cases value with
  | ok x => exact h
  | error failure => exact h

/-- Of the keys only scalars are attempted. -/
theorem attemptGives_key : ∀ key : Resolved, key.ScalarsGive P →
    AttemptGives (fun found => P found ∧ found.isKey = true) (match key with
      | scalar value => value.mapError fun failure => (0, failure)
      | _ => unusable) := by
  intro key h
  split
  · rw [ScalarsGive] at h
    exact attemptGives_scalar h
  · exact gives_malformed

mutual

theorem gives_attempt (hP : Invariant P) : ∀ resolved, ScalarsGive P resolved →
    AttemptGives P resolved.attempt
  | .scalar value, h => by
    rw [ScalarsGive] at h
    rw [attempt]
    exact attemptGives_scalar (h.imp fun _ hvalue => hvalue.1)
  | .sequence items, h => by
    rw [ScalarsGive] at h
    rw [attempt]
    exact attemptGives_inside (attemptGives_map (gives_attemptItems hP items h) hP.list)
  | .mapping _ entries, h => by
    rw [ScalarsGive] at h
    rw [attempt]
    apply attemptGives_inside
    exact attemptGives_map (gives_attemptEntries hP entries h) fun _ hentries => hP.mapping hentries
  | .unmergeable, _ => by
    rw [attempt]
    exact attemptGives_inside gives_malformed

theorem gives_attemptItems (hP : Invariant P) : ∀ items, ItemsGive P items →
    AttemptGives (fun values => ∀ value ∈ values, P value) (attemptItems items)
  | [], _ => by
    rw [attemptItems]
    exact attemptGives_ok nofun
  | item :: rest, h => by
    rw [ItemsGive] at h
    rw [attemptItems]
    apply attemptGives_map
      (attemptGives_both (gives_attempt hP item h.1) (gives_attemptItems hP rest h.2))
    intro _ hvalues
    exact List.forall_mem_cons.mpr hvalues

theorem gives_attemptEntries (hP : Invariant P) : ∀ entries, EntriesGive P entries →
    AttemptGives (fun values => ∀ entry ∈ values, (P entry.1 ∧ entry.1.isKey = true) ∧ P entry.2)
      (attemptEntries entries)
  | [], _ => by
    rw [attemptEntries]
    exact attemptGives_ok nofun
  | (key, node) :: rest, h => by
    rw [EntriesGive] at h
    have hfirst := attemptGives_both (attemptGives_key key h.1) (gives_attempt hP node h.2.1)
    unfold attemptEntries
    apply attemptGives_map (attemptGives_both hfirst (gives_attemptEntries hP rest h.2.2))
    intro _ hentries
    exact List.forall_mem_cons.mpr hentries

end

end Resolved

theorem gives_value (hP : Invariant P) (node : Node) : Gives P node.value :=
  Resolved.gives_attempt hP _ (Resolved.scalarsGive_ofNode hP node)

theorem gives_read (hP : Invariant P) (s : String) : Gives P (read s) := by
  have hnode := Node.gives_ofTokens? (Token.isSound_ofText (readablePart s.toList).1
    (readablePart s.toList).2)
  unfold read tokens
  split
  next hfailure => exact hnode.of_error hfailure
  · exact .ok hP.null
  · exact gives_value hP _

end Yaml
end TypedRoutes
