import Mathlib.Tactic.Common
import Mathlib.Data.Nat.Bitwise

/-!
# Bitmaps of a sliding window

A bitmap is a natural number; bit `d` stands for the item at distance `d` behind a moving origin.
When the origin moves on by `s`, the bitmap is shifted by `s` and cropped to the window size, or
wiped when `s` leaves the whole window behind, and bit `0` is set for the new origin (`slide`). An
item inside the window is recorded by setting its bit (`mark`).
-/

namespace Bitmap

/-- The number of bits up to the highest one set. -/
def bits (n : Nat) : Nat := if n = 0 then 0 else n.log2 + 1

/-- Bit `i` set, the others kept. -/
def setBit (n i : Nat) : Nat := n ||| 1 <<< i

/-- A mask with its `w` low bits set has `w` bits. -/
@[simp] theorem bits_mask (w : Nat) : bits (2 ^ w - 1) = w := by
  unfold bits
  cases w with
  | zero => rfl
  | succ w =>
    have hpos : 0 < 2 ^ w := Nat.two_pow_pos w
    have hne : 2 ^ (w + 1) - 1 ≠ 0 := by rw [Nat.pow_succ]; omega
    have hlog : (2 ^ (w + 1) - 1).log2 = w := by
      rw [Nat.log2_eq_iff hne, Nat.pow_succ]
      omega
    rw [if_neg hne, hlog]

@[simp] theorem testBit_setBit (n i j : Nat) :
    (setBit n i).testBit j = (n.testBit j || decide (j = i)) := by
  unfold setBit
  rw [Nat.testBit_or, Nat.one_shiftLeft, Nat.testBit_two_pow]
  simp [eq_comm]

/-- The bitmap after the origin moved on by `s`, in a window of `w` bits. -/
def slide (n w s : Nat) : Nat :=
  setBit (if s < w then n <<< s &&& 2 ^ w - 1 else 0) 0

/-- The bitmap after the item at distance `d` was recorded, if it is inside the window. -/
def mark (n w d : Nat) : Nat := if d < w then setBit n d else n

theorem testBit_slide (n w s d : Nat) :
    (slide n w s).testBit d =
      (decide (d = 0) || (decide (s ≤ d) && decide (d < w) && n.testBit (d - s))) := by
  unfold slide
  rw [testBit_setBit]
  split
  · rw [Nat.testBit_and, Nat.testBit_shiftLeft, Nat.testBit_two_pow_sub_one]
    by_cases h1 : s ≤ d <;> by_cases h2 : d < w <;> simp [h1, h2, Bool.or_comm]
  · by_cases h1 : s ≤ d <;> by_cases h2 : d < w <;> simp [h1, h2]
    omega

theorem testBit_mark (n w d j : Nat) :
    (mark n w d).testBit j = (n.testBit j || (decide (d < w) && decide (j = d))) := by
  unfold mark
  split <;> simp [*]

end Bitmap
