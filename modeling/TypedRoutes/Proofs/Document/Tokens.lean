import Mathlib.Data.List.Basic
import Mathlib.Tactic.SplitIfs
import TypedRoutes.Document.Yaml.Token
import TypedRoutes.Proofs.Document.Reading

/-!
# Tokens of documents

Where a text cannot be cut into tokens, the token that says so holds a failure of documents. Every
step of the lexer keeps this of the tokens so far.
-/
namespace TypedRoutes
namespace Yaml

open Document

theorem gives_malformed {α : Type} {P : α → Prop} : Gives P malformed :=
  .error rfl

/-! ## Quoted scalars -/

theorem gives_quotedBreaks (fuel : Nat) (here : Cursor) :
    Gives (fun _ => True) (quotedBreaks fuel here) := by
  induction fuel generalizing here with
  | zero => exact gives_malformed
  | succ fuel ih =>
    rw [quotedBreaks]
    split
    · exact gives_malformed
    · dsimp only
      split
      · split
        · exact (ih _).map fun _ _ => trivial
        · exact .ok trivial
      · exact .ok trivial

theorem gives_quotedGap (here : Cursor) : Gives (fun _ => True) (quotedGap here) := by
  unfold quotedGap
  dsimp only
  split
  · split
    · exact (gives_quotedBreaks _ _).map fun _ _ => trivial
    · exact .ok trivial
  · exact gives_malformed

theorem gives_readEscape (here : Cursor) : Gives (fun _ => True) (readEscape here) := by
  unfold readEscape
  split
  · exact gives_malformed
  · split
    · exact .ok trivial
    · split
      · split_ifs
        · exact gives_malformed
        · exact .error rfl
        · exact .error rfl
        · exact .ok trivial
      · exact gives_malformed
    · split
      · exact gives_quotedBreaks _ _
      · exact gives_malformed

theorem gives_readQuoted (double : Bool) (fuel : Nat) (here : Cursor) :
    Gives (fun _ => True) (readQuoted double fuel here) := by
  induction fuel generalizing here with
  | zero => exact gives_malformed
  | succ fuel ih =>
    rw [readQuoted]
    dsimp only
    split
    · exact gives_malformed
    · have hmore (after : Cursor) (f : List Char × Cursor → List Char × Cursor) :
          Gives (fun _ => True) ((readQuoted double fuel after).map f) :=
        (ih after).map fun _ _ => trivial
      refine gives_ite (gives_ite (hmore _ _) (.ok trivial)) ?_
      refine gives_ite ((gives_readEscape _).bind fun _ _ => hmore _ _) ?_
      exact gives_ite ((gives_quotedGap _).bind fun _ _ => hmore _ _) (hmore _ _)

/-! ## Sound tokens -/

/-- Whether a token holds no failure but one of documents. -/
def Token.IsSound (token : Token) : Prop :=
  ∀ failure, token = .broken failure → failure.isOfDocument = true

namespace Lexer

/-- Whether all tokens so far are sound. -/
def IsSound (lexer : Lexer) : Prop :=
  ∀ token ∈ lexer.tokens, token.IsSound

variable {lexer : Lexer} {token : Token}

theorem IsSound.emit (h : lexer.IsSound) (htoken : token.IsSound) : (lexer.emit token).IsSound :=
  List.forall_mem_cons.mpr ⟨htoken, h⟩

theorem IsSound.insertAfter (h : lexer.IsSound) (htoken : token.IsSound) (count : Nat) :
    (lexer.insertAfter count token).IsSound := by
  intro other hother
  rcases List.mem_append.mp hother with hother | hother
  · exact h other (List.mem_of_mem_take hother)
  · rcases List.mem_cons.mp hother with rfl | hother
    · exact htoken
    · exact h other (List.mem_of_mem_drop hother)

theorem tokens_skipLayout (lexer : Lexer) (inComment : Bool) (cs : List Char) :
    (lexer.skipLayout inComment cs).tokens = lexer.tokens := by
  induction cs generalizing lexer inComment with
  | nil => rfl
  | cons c rest ih =>
    rw [Lexer.skipLayout]
    dsimp only
    split_ifs
    · exact ih _ _
    · exact ih _ _
    · exact ih _ _
    · rfl

theorem IsSound.popIndents (h : lexer.IsSound) (isOpen : Nat → Bool) (indents : List Nat) :
    (lexer.popIndents isOpen indents).IsSound := by
  induction indents generalizing lexer with
  | nil => exact h
  | cons indent rest ih =>
    rw [Lexer.popIndents]
    split
    · exact h
    · exact ih (h.emit nofun)

theorem IsSound.unwind (h : lexer.IsSound) (column : Nat) : (lexer.unwind column).IsSound := by
  unfold Lexer.unwind
  split
  · exact h
  · exact h.popIndents _ _

theorem IsSound.unwindAll (h : lexer.IsSound) : lexer.unwindAll.IsSound := by
  unfold Lexer.unwindAll
  split
  · exact h
  · exact h.popIndents _ _

theorem IsSound.openBlock (h : lexer.IsSound) (htoken : token.IsSound) :
    (lexer.openBlock token).IsSound := by
  unfold Lexer.openBlock
  split
  · exact h.emit htoken
  · exact h

/-! ## Possible keys -/

theorem gives_keepFresh (lexer : Lexer) (key : Option PossibleKey) :
    Gives (fun _ => True) (lexer.keepFresh key) := by
  unfold keepFresh
  split
  · exact .ok trivial
  · exact gives_ite (gives_ite gives_malformed (.ok trivial)) (.ok trivial)

theorem IsSound.gives_dropStaleKeys (h : lexer.IsSound) : Gives IsSound lexer.dropStaleKeys :=
  (gives_keepFresh lexer lexer.key).bind fun _ _ =>
    (gives_mapM fun key _ => gives_keepFresh lexer key).bind fun _ _ => .ok h

theorem IsSound.gives_dropKey (h : lexer.IsSound) : Gives IsSound lexer.dropKey := by
  unfold dropKey
  split
  · split
    · exact gives_malformed
    · exact .ok h
  · exact .ok h

theorem IsSound.gives_noteKey (h : lexer.IsSound) : Gives IsSound lexer.noteKey := by
  unfold noteKey
  split
  · exact h.gives_dropKey.map fun _ hdropped => hdropped
  · exact .ok h

/-! ## One token -/

theorem IsSound.gives_documentMark (h : lexer.IsSound) (htoken : token.IsSound) :
    Gives IsSound (lexer.documentMark token) :=
  h.unwindAll.gives_dropKey.map fun _ hdropped => hdropped.emit htoken

theorem IsSound.gives_openFlow (h : lexer.IsSound) (htoken : token.IsSound) :
    Gives IsSound (lexer.openFlow token) :=
  h.gives_noteKey.map fun _ hnoted => hnoted.emit htoken

theorem IsSound.gives_closeFlow (h : lexer.IsSound) (htoken : token.IsSound) :
    Gives IsSound (lexer.closeFlow token) := by
  unfold closeFlow
  split
  next hfailure => exact h.gives_dropKey.of_error hfailure
  next hdropped =>
    split
    · exact gives_malformed
    · exact .ok ((h.gives_dropKey.of_ok hdropped).emit htoken)

theorem IsSound.gives_flowEntry (h : lexer.IsSound) : Gives IsSound lexer.flowEntry :=
  h.gives_dropKey.map fun _ hdropped => hdropped.emit nofun

theorem IsSound.gives_blockEntry (h : lexer.IsSound) : Gives IsSound lexer.blockEntry := by
  unfold blockEntry
  split
  · exact gives_malformed
  · dsimp only
    apply Gives.map (P := IsSound)
    · apply IsSound.gives_dropKey
      split
      · exact h
      · exact h.openBlock nofun
    · intro _ hdropped
      exact hdropped.emit nofun

theorem IsSound.gives_explicit (h : lexer.IsSound) (htoken : token.IsSound) :
    Gives IsSound (lexer.explicit token) := by
  unfold explicit
  split
  · exact gives_malformed
  · dsimp only
    apply Gives.map (P := IsSound)
    · apply IsSound.gives_dropKey
      split
      · exact h
      · exact h.openBlock nofun
    · intro _ hdropped
      exact hdropped.emit htoken

theorem IsSound.gives_value (h : lexer.IsSound) : Gives IsSound lexer.value := by
  unfold Lexer.value
  split
  · exact h.gives_explicit nofun
  next key _ =>
    have hkey : (lexer.insertAfter key.tokensBefore .key).IsSound := h.insertAfter (by nofun) _
    dsimp only
    refine .ok (IsSound.emit ?_ (by nofun))
    split
    · exact hkey.insertAfter (by nofun) _
    · exact hkey

theorem IsSound.gives_quotedScalar (h : lexer.IsSound) (double : Bool) :
    Gives IsSound (lexer.quotedScalar double) :=
  h.gives_noteKey.bind fun _ hnoted =>
    (gives_readQuoted _ _ _).bind fun _ _ => .ok (hnoted.emit nofun)

theorem IsSound.gives_plainScalar (h : lexer.IsSound) : Gives IsSound lexer.plainScalar :=
  h.gives_noteKey.map fun _ hnoted => hnoted.emit nofun

theorem IsSound.gives_nodeName (h : lexer.IsSound) {token : List Char → Token}
    (htoken : ∀ name, (token name).IsSound) : Gives IsSound (lexer.nodeName token) :=
  h.gives_noteKey.bind fun _ hnoted => gives_ite gives_malformed (.ok (hnoted.emit (htoken _)))

theorem IsSound.gives_token (h : lexer.IsSound) (c : Char) (rest : List Char) :
    Gives IsSound (lexer.token c rest) := by
  unfold Lexer.token
  refine gives_ite gives_malformed ?_
  refine gives_ite (h.gives_documentMark nofun) ?_
  refine gives_ite (h.gives_documentMark nofun) ?_
  refine gives_ite (h.gives_openFlow nofun) ?_
  refine gives_ite (h.gives_openFlow nofun) ?_
  refine gives_ite (h.gives_closeFlow nofun) ?_
  refine gives_ite (h.gives_closeFlow nofun) ?_
  refine gives_ite h.gives_flowEntry ?_
  refine gives_ite h.gives_blockEntry ?_
  refine gives_ite (h.gives_explicit nofun) ?_
  refine gives_ite h.gives_value ?_
  refine gives_ite (h.gives_nodeName nofun) ?_
  refine gives_ite (h.gives_nodeName nofun) ?_
  refine gives_ite (h.gives_quotedScalar false) ?_
  refine gives_ite (h.gives_quotedScalar true) ?_
  exact gives_ite h.gives_plainScalar gives_malformed

/-! ## All tokens -/

theorem IsSound.gives_next? (h : lexer.IsSound) :
    Gives (fun next => ∀ lexer, next = some lexer → lexer.IsSound) lexer.next? := by
  have hskipped : (lexer.skipLayout false lexer.here.rest).IsSound := by
    rwa [IsSound, tokens_skipLayout]
  have hfresh := hskipped.gives_dropStaleKeys
  unfold next?
  split
  next hfailure => exact hfresh.of_error hfailure
  next kept hkept =>
    dsimp only
    split
    · exact .ok nofun
    · apply (((hfresh.of_ok hkept).unwind _).gives_token _ _).map
      intro next hnext other heq
      cases heq
      exact hnext

theorem IsSound.failed (h : lexer.IsSound) {failure : Failure}
    (hfailure : failure.isOfDocument = true) :
    ∀ token ∈ lexer.failed failure, token.IsSound := by
  intro token htoken
  rcases List.mem_append.mp htoken with htoken | htoken
  · exact h token (List.mem_reverse.mp (List.mem_of_mem_take htoken))
  · cases List.mem_singleton.mp htoken
    rintro _ ⟨rfl⟩
    exact hfailure

theorem IsSound.finish (h : lexer.IsSound) : ∀ token ∈ lexer.finish, token.IsSound := by
  unfold Lexer.finish
  split
  next hdropped =>
    intro token htoken
    exact h.unwindAll.gives_dropKey.of_ok hdropped token (List.mem_reverse.mp htoken)
  next hfailure => exact h.failed (h.unwindAll.gives_dropKey.isOfDocument hfailure)

theorem IsSound.run (h : lexer.IsSound) (isWhole : Bool) (fuel : Nat) :
    ∀ token ∈ lexer.run isWhole fuel, token.IsSound := by
  induction fuel generalizing lexer with
  | zero => exact h.finish
  | succ fuel ih =>
    rw [Lexer.run]
    split
    next hfailure => exact h.failed (h.gives_next?.isOfDocument hfailure)
    · split
      · exact h.finish
      · exact h.failed rfl
    next hnext =>
      split
      · exact ih (h.gives_next?.of_ok hnext _ rfl)
      · exact h.failed rfl

end Lexer

theorem Token.isSound_ofText (isWhole : Bool) (cs : List Char) :
    ∀ token ∈ Token.ofText isWhole cs, token.IsSound := by
  apply Lexer.IsSound.run
  nofun

end Yaml
end TypedRoutes
