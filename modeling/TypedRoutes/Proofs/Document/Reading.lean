import TypedRoutes.Document.Nesting

/-!
# Readers of documents

What reads a document gives a value, or fails because the text is malformed or goes beyond the limits
of the reader; it has no other way to end. A property that every scalar has, and that lists and
mappings have if what they hold has it, is a property of all values that are read.
-/
namespace TypedRoutes

/-- The failures of documents: malformed text, numbers out of range, and nesting too deep. -/
def Failure.isOfDocument : Failure → Bool
  | malformed _ | outOfRange | tooLarge | tooDeep => true
  | _ => false

namespace Document

variable {α β : Type} {P : α → Prop} {Q : β → Prop} {result : Except Failure α}

/-- Whether something with a property is read, or reading fails as documents do. -/
inductive Gives (P : α → Prop) : Except Failure α → Prop
  | ok {x : α} (h : P x) : Gives P (.ok x)
  | error {failure : Failure} (h : failure.isOfDocument = true) : Gives P (.error failure)

theorem Gives.of_ok {x : α} (h : Gives P result) (hresult : result = .ok x) : P x := by
  subst hresult
  cases h with
  | ok hx => exact hx

theorem Gives.isOfDocument {failure : Failure} (h : Gives P result)
    (hresult : result = .error failure) : failure.isOfDocument = true := by
  subst hresult
  cases h with
  | error hfailure => exact hfailure

theorem Gives.of_error {failure : Failure} (h : Gives P result)
    (hresult : result = .error failure) : Gives Q (.error failure) :=
  .error (h.isOfDocument hresult)

theorem Gives.imp {Q : α → Prop} (h : Gives P result) (himp : ∀ x, P x → Q x) : Gives Q result := by
  cases h with
  | ok hx => exact .ok (himp _ hx)
  | error hfailure => exact .error hfailure

theorem Gives.map {f : α → β} (h : Gives P result) (hf : ∀ x, P x → Q (f x)) :
    Gives Q (result.map f) := by
  cases h with
  | ok hx => exact .ok (hf _ hx)
  | error hfailure => exact .error hfailure

theorem Gives.bind {next : α → Except Failure β} (h : Gives P result)
    (hnext : ∀ x, P x → Gives Q (next x)) : Gives Q (result.bind next) := by
  cases h with
  | ok hx => exact hnext _ hx
  | error hfailure => exact .error hfailure

theorem gives_ite {c : Prop} [Decidable c] {yes no : Except Failure α} (hyes : Gives P yes)
    (hno : Gives P no) : Gives P (if c then yes else no) := by
  split
  · exact hyes
  · exact hno

theorem gives_mapM {f : β → Except Failure α} {xs : List β} (h : ∀ x ∈ xs, Gives P (f x)) :
    Gives (fun ys => ∀ y ∈ ys, P y) (xs.mapM f) := by
  induction xs with
  | nil => exact .ok nofun
  | cons x xs ih =>
    obtain ⟨hx, hxs⟩ := List.forall_mem_cons.mp h
    rw [List.mapM_cons]
    exact hx.bind fun _ hy => (ih hxs).bind fun _ hys => .ok (List.forall_mem_cons.mpr ⟨hy, hys⟩)

theorem gives_deeper {inside : Nat → Except Failure α} (h : ∀ depth, Gives P (inside depth))
    (depth : Nat) : Gives P (Nesting.deeper depth inside) := by
  cases depth with
  | zero => exact .error rfl
  | succ depth => exact h depth

/-- A property that scalars have, and that passes from what a collection holds to the collection.
No collection is the key of an entry. -/
structure Invariant (P : Value → Prop) : Prop where
  null : P .null
  boolean : ∀ b, P (.boolean b)
  integer : ∀ n, P (.integer n)
  float : ∀ x, P (.float x)
  text : ∀ s, P (.text s)
  list : ∀ items : List Value, (∀ item ∈ items, P item) → P (.list items)
  empty : P (.mapping [])
  insert : ∀ (entries : Entries) (key value : Value), P (.mapping entries) → P key →
    key.isKey = true → P value → P (.mapping (entries.insert key value))

/-- A mapping that is made by inserting entries. -/
theorem Invariant.mapping {P : Value → Prop} (hP : Invariant P) {entries : List (Value × Value)}
    (h : ∀ entry ∈ entries, (P entry.1 ∧ entry.1.isKey = true) ∧ P entry.2) :
    P (.mapping (Entries.ofList entries)) := by
  have hfold (done : Entries) (hdone : P (.mapping done)) :
      P (.mapping (entries.foldl (fun done entry => Entries.insert done entry.1 entry.2) done)) := by
    induction entries generalizing done with
    | nil => exact hdone
    | cons entry rest ih =>
      obtain ⟨⟨⟨hkey, hisKey⟩, hvalue⟩, hrest⟩ := List.forall_mem_cons.mp h
      exact ih hrest _ (hP.insert done entry.1 entry.2 hdone hkey hisKey hvalue)
  exact hfold [] hP.empty

end Document
end TypedRoutes
