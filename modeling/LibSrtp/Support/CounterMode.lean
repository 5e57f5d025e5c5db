import LibSrtp.Support.Bytes
import Mathlib.Order.CompletePartialOrder
import Mathlib.Data.Set.BooleanAlgebra

/-!
# Counter mode with a counter of 32 bits

The counter blocks of a message are the initial block with 0, 1, 2, ... added to its last four bytes.
The blocks of two messages are disjoint exactly when the initial blocks differ in the other twelve
bytes, or neither message reaches the counter of the other (`disjoint_blocks_iff`).
-/

namespace CounterMode

open Bytes

/-- The part of a block that does not count, and the counter. -/
def base (iv : ByteArr 16) : Bytes := iv.1.take 12

def counter (iv : ByteArr 16) : ℕ := fromBe (iv.1.drop 12)

/-- The block with `k` added to its counter. -/
def counterBlock (iv : ByteArr 16) (k : ℕ) : ByteArr 16 :=
  ⟨base iv ++ toBe 4 ((counter iv + k) % 2 ^ 32), by simp [base, iv.2]⟩

/-- The counter blocks for `n` bytes: sixteen bytes from each. -/
def blocks (iv : ByteArr 16) (n : ℕ) : Set (ByteArr 16) := {c | ∃ i < n, c = counterBlock iv (i / 16)}

/-- How often one counts from the counter of `iv` to that of `iv'`. -/
def ahead (iv iv' : ByteArr 16) : ℕ := (counter iv' + 2 ^ 32 - counter iv) % 2 ^ 32

variable {iv iv' : ByteArr 16} {n n' : ℕ}

theorem counter_lt (iv : ByteArr 16) : counter iv < 2 ^ 32 := by
  have h := fromBe_lt (iv.1.drop 12)
  rwa [List.length_drop, iv.2] at h

/-- A block is its base and its counter. -/
theorem ext (hbase : base iv = base iv') (hcounter : counter iv = counter iv') : iv = iv' := by
  have hdrop : iv.1.drop 12 = iv'.1.drop 12 := by
    have h := congrArg (toBe 4) hcounter
    have hback : ∀ a : ByteArr 16, toBe 4 (counter a) = a.1.drop 12 := by
      intro a
      have h := toBe_fromBe (a.1.drop 12)
      rwa [List.length_drop, a.2] at h
    rwa [hback, hback] at h
  refine Subtype.ext ?_
  rw [← List.take_append_drop 12 iv.1, ← List.take_append_drop 12 iv'.1, hdrop]
  exact congrArg (· ++ _) hbase

theorem counterBlock_inj {k k' : ℕ} : counterBlock iv k = counterBlock iv' k' ↔
    base iv = base iv' ∧ (counter iv + k) % 2 ^ 32 = (counter iv' + k') % 2 ^ 32 := by
  rw [← Subtype.val_inj]
  constructor
  · intro h
    obtain ⟨hbase, hcounter⟩ := List.append_inj h (by simp [base, iv.2, iv'.2])
    exact ⟨hbase, toBe_inj (Nat.mod_lt _ (by decide)) (Nat.mod_lt _ (by decide)) hcounter⟩
  · rintro ⟨hbase, hcounter⟩
    show base iv ++ _ = base iv' ++ _
    rw [hbase, hcounter]

/-- The message with `n` bytes from `iv` stays below the counter of `iv'`, and the other way round,
if there is anything to count. -/
def Apart (iv iv' : ByteArr 16) (n n' : ℕ) : Prop :=
  n = 0 ∨ n' = 0 ∨ n ≤ 16 * ahead iv iv' ∧ n' ≤ 16 * ahead iv' iv

theorem disjoint_blocks_iff (hn : n ≤ 2 ^ 36) (hn' : n' ≤ 2 ^ 36) :
    Disjoint (blocks iv n) (blocks iv' n') ↔ base iv ≠ base iv' ∨ Apart iv iv' n n' := by
  have hc := counter_lt iv
  have hc' := counter_lt iv'
  rw [Set.disjoint_left]
  constructor
  · intro h
    refine or_iff_not_imp_left.mpr fun hbase => ?_
    have hbase := not_not.mp hbase
    unfold Apart
    by_contra hnot
    obtain ⟨h0, h0', hreach⟩ : n ≠ 0 ∧ n' ≠ 0 ∧
        ¬ (n ≤ 16 * ahead iv iv' ∧ n' ≤ 16 * ahead iv' iv) := by tauto
    rcases not_and_or.mp hreach with hlong | hlong
    · -- the first message reaches the first block of the second one
      refine h ⟨16 * ahead iv iv', Nat.not_le.mp hlong, rfl⟩ ⟨0, Nat.pos_of_ne_zero h0', ?_⟩
      refine counterBlock_inj.mpr ⟨hbase, ?_⟩
      rw [Nat.mul_div_cancel_left _ (by decide)]
      unfold ahead
      omega
    · refine h (a := counterBlock iv' (ahead iv' iv)) ⟨0, Nat.pos_of_ne_zero h0, ?_⟩
        ⟨16 * ahead iv' iv, Nat.not_le.mp hlong, ?_⟩
      · refine counterBlock_inj.mpr ⟨hbase.symm, ?_⟩
        unfold ahead
        omega
      · rw [Nat.mul_div_cancel_left _ (by decide)]
  · rintro hcases c ⟨i, hi, rfl⟩ ⟨i', hi', heq⟩
    obtain ⟨hbase, hcounter⟩ := counterBlock_inj.mp heq
    rcases hcases with hne | h0 | h0' | ⟨hle, hle'⟩
    · exact hne hbase
    · omega
    · omega
    · unfold ahead at hle hle'
      omega

/-- Short messages stay apart, if their counters start at multiples of `2 ^ 16`. -/
theorem apart_of_short (hcounter : counter iv ≠ counter iv') (h : counter iv % 2 ^ 16 = 0)
    (h' : counter iv' % 2 ^ 16 = 0) (hn : n ≤ 2 ^ 20) (hn' : n' ≤ 2 ^ 20) : Apart iv iv' n n' := by
  have hc := counter_lt iv
  have hc' := counter_lt iv'
  refine .inr (.inr ?_)
  unfold ahead
  omega

end CounterMode
