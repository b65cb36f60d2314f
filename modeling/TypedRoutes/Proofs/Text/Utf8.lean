import Mathlib.Tactic.IntervalCases
import TypedRoutes.Text.Utf8

/-!
# UTF-8 reads back

The octets of a character are read as that character, whatever it is. The lead octet fixes the
range of the octet behind it, and the ranges leave out just what no character is written with.
-/
namespace TypedRoutes
namespace Utf8

/-- What is read of octets in a state, and the state behind them. -/
def run (state : Option Pending) : List Nat → List Char × Option Pending
  | [] => ([], state)
  | b :: bs =>
    let next := step state b
    let rest := run next.2 bs
    (next.1 ++ rest.1, rest.2)

theorem run_cons {state next : Option Pending} {b : Nat} {cs : List Char}
    (h : step state b = (cs, next)) (bs : List Nat) :
    run state (b :: bs) = (cs ++ (run next bs).1, (run next bs).2) := by
  simp [run, h]

/-! ## Lead octets -/

theorem step_one {n : Nat} (h : n < 0x80) : step none n = ([Char.ofNat n], none) :=
  if_pos h

theorem step_two {a : Nat} (hlow : 2 ≤ a) (hhigh : a < 32) :
    step none (0xC0 + a) = ([], some ⟨a, 1, 0x80, 0xBF⟩) := by
  interval_cases a <;> rfl

theorem step_three {a : Nat} (h : a < 16) :
    step none (0xE0 + a) =
      ([], some ⟨a, 2, if a = 0 then 0xA0 else 0x80, if a = 13 then 0x9F else 0xBF⟩) := by
  interval_cases a <;> rfl

theorem step_four {a : Nat} (h : a < 5) :
    step none (0xF0 + a) =
      ([], some ⟨a, 3, if a = 0 then 0x90 else 0x80, if a = 4 then 0x8F else 0xBF⟩) := by
  interval_cases a <;> rfl

/-! ## Further octets -/

theorem step_within {bits low high b : Nat} (missing : Nat) (hlow : low ≤ 0x80 + b)
    (hhigh : 0x80 + b ≤ high) :
    step (some ⟨bits, missing + 2, low, high⟩) (0x80 + b) =
      ([], some ⟨bits * 64 + b, missing + 1, 0x80, 0xBF⟩) := by
  simp [step, hlow, hhigh]

theorem step_last {bits low high b : Nat} (hlow : low ≤ 0x80 + b) (hhigh : 0x80 + b ≤ high) :
    step (some ⟨bits, 1, low, high⟩) (0x80 + b) = ([Char.ofNat (bits * 64 + b)], none) := by
  simp [step, hlow, hhigh]

/-! ## Sequences -/

theorem run_two {a b : Nat} (hlow : 2 ≤ a) (hhigh : a < 32) (hb : b < 64) :
    run none [0xC0 + a, 0x80 + b] = ([Char.ofNat (a * 64 + b)], none) := by
  rw [run_cons (step_two hlow hhigh), run_cons (step_last (by omega) (by omega))]
  rfl

theorem run_three {a b c : Nat} (ha : a < 16) (hb : b < 64) (hc : c < 64) (hlow : a = 0 → 32 ≤ b)
    (hhigh : a = 13 → b < 32) :
    run none [0xE0 + a, 0x80 + b, 0x80 + c] = ([Char.ofNat ((a * 64 + b) * 64 + c)], none) := by
  have hsecond : step (some ⟨a, 2, if a = 0 then 0xA0 else 0x80, if a = 13 then 0x9F else 0xBF⟩)
      (0x80 + b) = _ :=
    step_within 0 (by split_ifs <;> omega) (by split_ifs <;> omega)
  rw [run_cons (step_three ha), run_cons hsecond, run_cons (step_last (by omega) (by omega))]
  rfl

theorem run_four {a b c d : Nat} (ha : a < 5) (hb : b < 64) (hc : c < 64) (hd : d < 64)
    (hlow : a = 0 → 16 ≤ b) (hhigh : a = 4 → b < 16) :
    run none [0xF0 + a, 0x80 + b, 0x80 + c, 0x80 + d] =
      ([Char.ofNat (((a * 64 + b) * 64 + c) * 64 + d)], none) := by
  have hsecond : step (some ⟨a, 3, if a = 0 then 0x90 else 0x80, if a = 4 then 0x8F else 0xBF⟩)
      (0x80 + b) = _ :=
    step_within 1 (by split_ifs <;> omega) (by split_ifs <;> omega)
  rw [run_cons (step_four ha), run_cons hsecond, run_cons (step_within 0 (by omega) (by omega)),
    run_cons (step_last (by omega) (by omega))]
  rfl

/-- A character is no surrogate and within the range of Unicode. -/
theorem toNat_valid (c : Char) : c.toNat < 0xD800 ∨ 0xDFFF < c.toNat ∧ c.toNat < 0x110000 :=
  c.valid

/-- The octets of a character are read as the character, and nothing is left pending. -/
theorem run_encodeChar (c : Char) : run none (encodeChar c) = ([c], none) := by
  have hvalid := toNat_valid c
  have hc := Char.ofNat_toNat c
  unfold encodeChar
  generalize c.toNat = n at hvalid hc
  dsimp only
  split_ifs
  · rw [run_cons (step_one ‹_›), hc]
    rfl
  · rw [run_two (by omega) (by omega) (by omega), show n / 64 * 64 + n % 64 = n by omega, hc]
  · rw [run_three (by omega) (by omega) (by omega) (by omega) (by omega),
      show (n / 4096 * 64 + n / 64 % 64) * 64 + n % 64 = n by omega, hc]
  · rw [run_four (by omega) (by omega) (by omega) (by omega) (by omega) (by omega),
      show ((n / 262144 * 64 + n / 4096 % 64) * 64 + n / 64 % 64) * 64 + n % 64 = n by omega, hc]

theorem lt_of_mem_encodeChar {c : Char} {b : Nat} (h : b ∈ encodeChar c) : b < 256 := by
  have hvalid := toNat_valid c
  unfold encodeChar at h
  dsimp only at h
  split_ifs at h <;> simp only [List.mem_cons, List.not_mem_nil, or_false] at h <;> omega

end Utf8
end TypedRoutes
