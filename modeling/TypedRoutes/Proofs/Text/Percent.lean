import Mathlib.Tactic.IntervalCases
import TypedRoutes.Parameter.Form
import TypedRoutes.Proofs.Text.Utf8

/-!
# Percent escapes read back

A text is read back from its escaped form, and the escaped form holds nothing but unreserved
characters and escapes. Reading gives an empty text only for an empty one.
-/
namespace TypedRoutes

/-! ## Hexadecimal digits -/

namespace Text

theorem hexValue?_largeHexDigit {n : ℕ} (h : n < 16) : hexValue? (largeHexDigit n) = some n := by
  interval_cases n <;> rfl

theorem isHexDigit_largeHexDigit {n : ℕ} (h : n < 16) : isHexDigit (largeHexDigit n) = true := by
  rw [isHexDigit, hexValue?_largeHexDigit h]
  rfl

end Text

namespace Percent

/-! ## Items of a text -/

theorem isUnreserved_percent : isUnreserved '%' = false := by decide

theorem ne_percent_of_isUnreserved {c : Char} (h : isUnreserved c = true) : c ≠ '%' := by
  rintro rfl
  rw [isUnreserved_percent] at h
  cases h

/-- The unreserved characters are ASCII. -/
theorem toNat_lt_of_isUnreserved {c : Char} (h : isUnreserved c = true) : c.toNat < 0x80 := by
  simp only [isUnreserved, isAlphanumeric, Bool.or_eq_true, Bool.and_eq_true, decide_eq_true_eq,
    beq_iff_eq] at h
  rcases h with (((h | rfl) | rfl) | rfl) | rfl
  · omega
  all_goals decide

theorem items_cons {c : Char} (h : c ≠ '%') (cs : List Char) :
    items (c :: cs) = .ofChar c :: items cs := by
  match cs with
  | [] => rfl
  | [_] => rfl
  | _ :: _ :: _ => rw [items, if_neg h]

theorem items_escapeOctet {b : ℕ} (h : b < 256) (cs : List Char) :
    items (escapeOctet b ++ cs) = .octet b :: items cs := by
  simp only [escapeOctet, List.cons_append, List.nil_append, items, if_pos,
    Text.hexValue?_largeHexDigit (show b / 16 < 16 by omega),
    Text.hexValue?_largeHexDigit (show b % 16 < 16 by omega)]
  rw [show 16 * (b / 16) + b % 16 = b by omega]

theorem items_flatMap_escapeOctet {bs : List ℕ} (h : ∀ b ∈ bs, b < 256) (cs : List Char) :
    items (bs.flatMap escapeOctet ++ cs) = bs.map .octet ++ items cs := by
  induction bs with
  | nil => rfl
  | cons b bs ih =>
    rw [List.flatMap_cons, List.append_assoc, items_escapeOctet (h b List.mem_cons_self),
      ih fun d hd => h d (List.mem_cons_of_mem b hd)]
    rfl

/-- However a character is written, its items are its octets. -/
theorem items_encodeChar (c : Char) (cs : List Char) :
    items (encodeChar c ++ cs) = (Utf8.encodeChar c).map .octet ++ items cs := by
  unfold encodeChar
  split_ifs with h
  · have hascii := toNat_lt_of_isUnreserved h
    rw [List.singleton_append, items_cons (ne_percent_of_isUnreserved h)]
    simp [Item.ofChar, Utf8.encodeChar, hascii]
  · exact items_flatMap_escapeOctet (fun _ => Utf8.lt_of_mem_encodeChar) cs

/-! ## Reading -/

theorem decodeItems_octets (state : Option Utf8.Pending) (bs : List ℕ) (rest : List Item) :
    decodeItems state (bs.map .octet ++ rest) =
      (Utf8.run state bs).1 ++ decodeItems (Utf8.run state bs).2 rest := by
  induction bs generalizing state with
  | nil => rfl
  | cons b bs ih => simp [decodeItems, Utf8.run, ih]

/-- A text is read back from its escaped form. -/
theorem decode_encode (cs : List Char) : decode (encode cs) = cs := by
  unfold decode encode
  induction cs with
  | nil => rfl
  | cons c cs ih =>
    rw [List.flatMap_cons, items_encodeChar, decodeItems_octets, Utf8.run_encodeChar, ih]
    rfl

theorem step_ne_nil_or_isSome (state : Option Utf8.Pending) (b : ℕ) :
    (Utf8.step state b).1 ≠ [] ∨ (Utf8.step state b).2.isSome = true := by
  have hstart : (Utf8.start b).1 ≠ [] ∨ (Utf8.start b).2.isSome = true := by
    unfold Utf8.start
    split_ifs <;> simp
  unfold Utf8.step
  split
  · exact hstart
  · dsimp only
    split_ifs <;> simp

/-- What is pending is always told in the end. -/
theorem decodeItems_ne_nil {state : Option Utf8.Pending} {rest : List Item}
    (h : state.isSome = true ∨ rest ≠ []) : decodeItems state rest ≠ [] := by
  induction rest generalizing state with
  | nil =>
    have hstate : state.isSome = true := h.resolve_right (not_not_intro rfl)
    simp [decodeItems, Utf8.flush, hstate]
  | cons item rest ih =>
    cases item with
    | octet b =>
      rcases step_ne_nil_or_isSome state b with hstep | hstep
      · simp [decodeItems, hstep]
      · simp [decodeItems, ih (.inl hstep)]
    | character c => simp [decodeItems]

theorem items_ne_nil {cs : List Char} (h : cs ≠ []) : items cs ≠ [] := by
  obtain ⟨c, cs, rfl⟩ := List.exists_cons_of_ne_nil h
  match cs with
  | [] => simp [items]
  | [_] => simp [items]
  | a :: b :: _ =>
    rw [items]
    split_ifs
    · split <;> simp
    · simp

theorem decode_ne_nil {cs : List Char} (h : cs ≠ []) : decode cs ≠ [] :=
  decodeItems_ne_nil (.inr (items_ne_nil h))

/-! ## The form of escaped texts -/

theorem isUrlText_cons {c : Char} (h : isUnreserved c = true) (cs : List Char) :
    isUrlText (c :: cs) = isUrlText cs := by
  match cs with
  | [] => simp [isUrlText, h]
  | [_] => simp [isUrlText, h]
  | _ :: _ :: _ => rw [isUrlText, if_neg (ne_percent_of_isUnreserved h), h, Bool.true_and]

theorem isUrlText_escapeOctet {b : ℕ} (h : b < 256) (cs : List Char) :
    isUrlText (escapeOctet b ++ cs) = isUrlText cs := by
  simp [escapeOctet, isUrlText, Text.isHexDigit_largeHexDigit (show b / 16 < 16 by omega),
    Text.isHexDigit_largeHexDigit (show b % 16 < 16 by omega)]

theorem isUrlText_flatMap_escapeOctet {bs : List ℕ} (h : ∀ b ∈ bs, b < 256) (cs : List Char) :
    isUrlText (bs.flatMap escapeOctet ++ cs) = isUrlText cs := by
  induction bs with
  | nil => rfl
  | cons b bs ih =>
    rw [List.flatMap_cons, List.append_assoc, isUrlText_escapeOctet (h b List.mem_cons_self),
      ih fun d hd => h d (List.mem_cons_of_mem b hd)]

theorem isUrlText_encode (cs : List Char) : isUrlText (encode cs) = true := by
  induction cs with
  | nil => rfl
  | cons c cs ih =>
    rw [encode, List.flatMap_cons, ← encode, encodeChar]
    split_ifs with h
    · rwa [List.singleton_append, isUrlText_cons h]
    · rwa [isUrlText_flatMap_escapeOctet fun _ => Utf8.lt_of_mem_encodeChar]

theorem encode_eq_nil_iff {cs : List Char} : encode cs = [] ↔ cs = [] := by
  constructor
  · intro h
    rw [← decode_encode cs, h]
    rfl
  · rintro rfl
    rfl

end Percent
end TypedRoutes
