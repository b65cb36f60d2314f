import TypedRoutes.Document.Yaml
import TypedRoutes.Proofs.Attempt

/-!
# Documents as graphs

Once the references of a node have been followed, neither a name nor a reference is left in it, and
a node without any is left as it is. So following them once more changes nothing. The mappings of a
document have numbers from the first free one on, so those that a store holds already stay as they
are when the document is added.
-/
namespace TypedRoutes
namespace Yaml
namespace Node

mutual

/-- Whether a node has no name and refers to none, neither itself nor one in it. -/
def IsNameless : Node → Prop
  | scalar .. => True
  | sequence items => ItemsNameless items
  | mapping _ entries => EntriesNameless entries
  | anchored .. | reference _ => False

def ItemsNameless : List Node → Prop
  | [] => True
  | item :: rest => item.IsNameless ∧ ItemsNameless rest

def EntriesNameless : List (Node × Node) → Prop
  | [] => True
  | (key, node) :: rest => key.IsNameless ∧ node.IsNameless ∧ EntriesNameless rest

end

/-- Whether all nodes that names stand for are without names. -/
def AnchorsNameless (anchors : Anchors) : Prop :=
  ∀ name node, anchors.lookup name = some (some node) → node.IsNameless

theorem anchorsNameless_nil : AnchorsNameless [] :=
  nofun

theorem AnchorsNameless.cons {anchors : Anchors} (h : AnchorsNameless anchors) {found : Option Node}
    (hfound : ∀ node, found = some node → node.IsNameless) (name : List Char) :
    AnchorsNameless ((name, found) :: anchors) := by
  intro other node hnode
  rw [List.lookup_cons] at hnode
  split at hnode
  · exact hfound node (Option.some.inj hnode)
  · exact h other node hnode

mutual

/-- A node that has been followed has no name left, nor have the nodes that names stand for then. -/
theorem isNameless_of_follow : ∀ (node : Node) {next : Node} {anchors last : Anchors},
    AnchorsNameless anchors → node.follow anchors = .ok (next, last) →
      next.IsNameless ∧ AnchorsNameless last
  | scalar isPlain text, _, _, _, hanchors, h => by
    rw [follow] at h
    cases h
    exact ⟨trivial, hanchors⟩
  | sequence items, _, _, _, hanchors, h => by
    rw [follow] at h
    obtain ⟨⟨found, reached⟩, hfound, heq⟩ := Except.map_eq_ok_iff.mp h
    cases heq
    rw [IsNameless]
    exact itemsNameless_of_follow items hanchors hfound
  | mapping place entries, _, _, _, hanchors, h => by
    rw [follow] at h
    obtain ⟨⟨found, reached⟩, hfound, heq⟩ := Except.map_eq_ok_iff.mp h
    cases heq
    rw [IsNameless]
    exact entriesNameless_of_follow entries hanchors hfound
  | anchored name node, _, anchors, _, hanchors, h => by
    rw [follow] at h
    split at h
    · cases h
    · obtain ⟨⟨found, reached⟩, hfound, heq⟩ := Except.map_eq_ok_iff.mp h
      cases heq
      -- Within the node its name stands for nothing yet.
      have hpending : AnchorsNameless ((name, none) :: anchors) := hanchors.cons (by simp) name
      obtain ⟨hnode, hreached⟩ := isNameless_of_follow node hpending hfound
      refine ⟨hnode, hreached.cons ?_ name⟩
      rintro _ ⟨⟩
      exact hnode
  | reference name, _, _, _, hanchors, h => by
    rw [follow] at h
    split at h
    next hname =>
      cases h
      exact ⟨hanchors name _ hname, hanchors⟩
    · cases h
    · cases h

theorem itemsNameless_of_follow : ∀ (items : List Node) {next : List Node} {anchors last : Anchors},
    AnchorsNameless anchors → followItems items anchors = .ok (next, last) →
      ItemsNameless next ∧ AnchorsNameless last
  | [], _, _, _, hanchors, h => by
    rw [followItems] at h
    cases h
    rw [ItemsNameless]
    exact ⟨trivial, hanchors⟩
  | item :: rest, _, _, _, hanchors, h => by
    rw [followItems] at h
    split at h
    · cases h
    next hitem =>
      obtain ⟨⟨found, reached⟩, hfound, heq⟩ := Except.map_eq_ok_iff.mp h
      cases heq
      obtain ⟨hfirst, hbetween⟩ := isNameless_of_follow item hanchors hitem
      obtain ⟨hothers, hreached⟩ := itemsNameless_of_follow rest hbetween hfound
      rw [ItemsNameless]
      exact ⟨⟨hfirst, hothers⟩, hreached⟩

theorem entriesNameless_of_follow : ∀ (entries : List (Node × Node)) {next : List (Node × Node)}
    {anchors last : Anchors}, AnchorsNameless anchors →
      followEntries entries anchors = .ok (next, last) →
        EntriesNameless next ∧ AnchorsNameless last
  | [], _, _, _, hanchors, h => by
    rw [followEntries] at h
    cases h
    rw [EntriesNameless]
    exact ⟨trivial, hanchors⟩
  | (key, node) :: rest, _, _, _, hanchors, h => by
    rw [followEntries] at h
    split at h
    · cases h
    next hkey =>
      split at h
      · cases h
      next hnode =>
        obtain ⟨⟨found, reached⟩, hfound, heq⟩ := Except.map_eq_ok_iff.mp h
        cases heq
        obtain ⟨hfirst, hbehind⟩ := isNameless_of_follow key hanchors hkey
        obtain ⟨hsecond, hbetween⟩ := isNameless_of_follow node hbehind hnode
        obtain ⟨hothers, hreached⟩ := entriesNameless_of_follow rest hbetween hfound
        rw [EntriesNameless]
        exact ⟨⟨hfirst, hsecond, hothers⟩, hreached⟩

end

mutual

/-- A node without names is left as it is. -/
theorem follow_of_isNameless : ∀ (node : Node) (anchors : Anchors), node.IsNameless →
    node.follow anchors = .ok (node, anchors)
  | scalar .., anchors, _ => by rw [follow]
  | sequence items, anchors, h => by
    rw [IsNameless] at h
    rw [follow, followItems_of_itemsNameless items anchors h]
    rfl
  | mapping place entries, anchors, h => by
    rw [IsNameless] at h
    rw [follow, followEntries_of_entriesNameless entries anchors h]
    rfl

theorem followItems_of_itemsNameless : ∀ (items : List Node) (anchors : Anchors),
    ItemsNameless items → followItems items anchors = .ok (items, anchors)
  | [], anchors, _ => by rw [followItems]
  | item :: rest, anchors, h => by
    rw [ItemsNameless] at h
    rw [followItems, follow_of_isNameless item anchors h.1]
    dsimp only
    rw [followItems_of_itemsNameless rest anchors h.2]
    rfl

theorem followEntries_of_entriesNameless : ∀ (entries : List (Node × Node)) (anchors : Anchors),
    EntriesNameless entries → followEntries entries anchors = .ok (entries, anchors)
  | [], anchors, _ => by rw [followEntries]
  | (key, node) :: rest, anchors, h => by
    rw [EntriesNameless] at h
    rw [followEntries, follow_of_isNameless key anchors h.1]
    dsimp only
    rw [follow_of_isNameless node anchors h.2.1]
    dsimp only
    rw [followEntries_of_entriesNameless rest anchors h.2.2]
    rfl

end

/-- The references of a document are all followed, so that following them again changes nothing. -/
theorem follow_follow {node next : Node} {anchors : Anchors}
    (h : node.follow [] = .ok (next, anchors)) (others : Anchors) :
    next.follow others = .ok (next, others) :=
  follow_of_isNameless next others (isNameless_of_follow node anchorsNameless_nil h).1

end Node

namespace Resolved

variable {first : Nat}

mutual

/-- A mapping of a node begins at some place behind the first number. -/
theorem le_of_mem_graph : ∀ (node : Resolved) {graph : Graph}, node.graph first = .ok graph →
    ∀ entry ∈ graph.mappings, first ≤ entry.1
  | scalar value, _, h => by
    rw [graph] at h
    obtain ⟨found, -, rfl⟩ := Except.map_eq_ok_iff.mp h
    nofun
  | sequence items, _, h => by
    rw [graph] at h
    obtain ⟨⟨found, mappings⟩, hfound, rfl⟩ := Except.map_eq_ok_iff.mp h
    exact le_of_mem_graphItems items hfound
  | mapping place entries, _, h => by
    rw [graph] at h
    obtain ⟨⟨found, mappings⟩, hfound, rfl⟩ := Except.map_eq_ok_iff.mp h
    exact List.forall_mem_cons.mpr
      ⟨Nat.le_add_right first place, le_of_mem_graphEntries entries hfound⟩
  | unmergeable, _, h => by
    rw [graph] at h
    cases h

theorem le_of_mem_graphItems : ∀ (items : List Resolved) {found : List Held}
    {mappings : List (Nat × Entries Held)}, graphItems first items = .ok (found, mappings) →
      ∀ entry ∈ mappings, first ≤ entry.1
  | [], _, _, h => by
    rw [graphItems] at h
    cases h
    nofun
  | item :: rest, _, _, h => by
    rw [graphItems] at h
    split at h
    · cases h
    next hitem =>
      obtain ⟨⟨found, others⟩, hfound, heq⟩ := Except.map_eq_ok_iff.mp h
      cases heq
      exact List.forall_mem_append.mpr
        ⟨le_of_mem_graph item hitem, le_of_mem_graphItems rest hfound⟩

theorem le_of_mem_graphEntries : ∀ (entries : List (Resolved × Resolved))
    {found : List (Value × Held)} {mappings : List (Nat × Entries Held)},
      graphEntries first entries = .ok (found, mappings) → ∀ entry ∈ mappings, first ≤ entry.1
  | [], _, _, h => by
    rw [graphEntries] at h
    cases h
    nofun
  | (key, node) :: rest, _, _, h => by
    unfold graphEntries at h
    split at h
    next hnil => cases hnil
    next hentries =>
      cases hentries
      split at h
      · cases h
      next hnode =>
        obtain ⟨⟨found, others⟩, hfound, heq⟩ := Except.map_eq_ok_iff.mp h
        cases heq
        exact List.forall_mem_append.mpr
          ⟨le_of_mem_graph node hnode, le_of_mem_graphEntries rest hfound⟩
    · cases h

end

end Resolved

/-- The mappings of a document have numbers from the first free one on. -/
theorem le_of_mem_readGraph {first : Nat} {content : String} {graph : Graph}
    (h : readGraph first content = .ok graph) : ∀ entry ∈ graph.mappings, first ≤ entry.1 := by
  unfold readGraph at h
  split at h
  · split at h
    · cases h
    · cases h
      nofun
    next node _ =>
      unfold Node.graph at h
      split at h
      · cases h
      next followed _ _ =>
        cases hvalue : followed.value with
        | error failure =>
          rw [hvalue] at h
          cases h
        | ok value =>
          rw [hvalue] at h
          exact Resolved.le_of_mem_graph _ h
  · obtain ⟨value, -, rfl⟩ := Except.map_eq_ok_iff.mp h
    nofun

end Yaml

namespace Store

theorem entries_add_of_ne {number other : Nat} (h : number ≠ other) (store : Store)
    (entries : Entries Held) : (store.add other entries).entries number = store.entries number :=
  if_neg h

theorem entries_foldl_add_of_lt {first number : Nat} {mappings : List (Nat × Entries Held)}
    (h : ∀ entry ∈ mappings, first ≤ entry.1) (hnumber : number < first) (store : Store) :
    (mappings.foldl (fun store entry => store.add entry.1 entry.2) store).entries number =
      store.entries number := by
  induction mappings generalizing store with
  | nil => rfl
  | cons entry rest ih =>
    obtain ⟨hentry, hrest⟩ := List.forall_mem_cons.mp h
    rw [List.foldl_cons, ih hrest]
    exact entries_add_of_ne (by omega) store entry.2

/-- What a store holds stays as it is when the mappings of a document are added to it. -/
theorem entries_add_readGraph {store : Store} {content : String} {graph : Yaml.Graph}
    (h : Yaml.readGraph store.size content = .ok graph) {number : Nat}
    (hnumber : number < store.size) :
    (graph.mappings.foldl (fun store entry => store.add entry.1 entry.2) store).entries number =
      store.entries number :=
  entries_foldl_add_of_lt (Yaml.le_of_mem_readGraph h) hnumber store

end Store
end TypedRoutes
