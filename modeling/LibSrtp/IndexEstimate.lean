import LibSrtp.Replay
import LibSrtp.Support.Nearest

/-!
# The index estimate

A packet carries the low 16 bits of its index. `estimateIndex` guesses the others.

* `RtpReplayDb.estimate_cases`: where the guess lies;
* `estimateIndex_nearest`: it is the nearest index there is.
-/

namespace LibSrtp

open Exec

/-- Either the estimate has the current ROC, and is at most half a period away or the first index of
all above the current one; or it is less than half a period away. -/
theorem RtpReplayDb.estimate_cases {db : RtpReplayDb} (hroc : db.pendingRoc = none)
    (hc : db.index < 2 ^ 48) (seqNum : UInt16) :
    db.estimate seqNum / 2 ^ 16 = db.index / 2 ^ 16 ∧
        (2 * Nat.dist (db.estimate seqNum) db.index ≤ 2 ^ 16 ∨
          db.estimate seqNum < 2 ^ 16 ∧ db.index ≤ db.estimate seqNum) ∨
      2 * Nat.dist (db.estimate seqNum) db.index < 2 ^ 16 := by
  have hs := seqNum.toNat_lt
  rw [estimate_of_not_pending hroc]
  unfold adjusted guess Nat.dist
  split_ifs <;> omega

/-- Without a pending ROC the estimate is the nearest index with the sequence number; of two at the
same distance, the one with the current ROC. No arithmetic operation on the way overflows. -/
theorem estimateIndex_nearest {db : RtpReplayDb} (hroc : db.pendingRoc = none)
    (hc : db.index < 2 ^ 48) (seqNum : UInt16) :
    ∃ r, db.estimateIndex seqNum = .ok r ∧ r % 2 ^ 16 = seqNum.toNat ∧
      (∀ r', r' % 2 ^ 16 = seqNum.toNat → Nat.dist r db.index ≤ Nat.dist r' db.index) ∧
      ∀ r', r' % 2 ^ 16 = seqNum.toNat → r' ≠ r → Nat.dist r' db.index = Nat.dist r db.index →
        r >>> 16 = db.index >>> 16 := by
  have hmod := RtpReplayDb.estimate_mod db seqNum
  have hcases := RtpReplayDb.estimate_cases hroc hc seqNum
  refine ⟨_, RtpReplayDb.estimateIndex_eq (hc.trans (by decide)) seqNum, hmod, ?_, ?_⟩
  · intro r' hr'
    have hclass := hr'.trans hmod.symm
    rcases hcases with ⟨-, hnear | ⟨hfirst, hle⟩⟩ | hnear
    · exact Nearest.of_near hnear r' hclass
    · exact Nearest.of_first hfirst hle r' hclass
    · exact Nearest.of_near hnear.le r' hclass
  · intro r' hr' hne htie
    rw [Nat.shiftRight_eq_div_pow, Nat.shiftRight_eq_div_pow]
    rcases hcases with ⟨hsame, -⟩ | hnear
    · exact hsame
    · exact absurd (Nearest.eq_of_near hnear (hr'.trans hmod.symm) htie) hne

/-- Just after the ROC went up, a low sequence number is taken for one of the new ROC. -/
theorem estimateIndex_nearest_next_roc :
    ((RtpReplayDb.new 128).added 0x1fff0).estimateIndex 5 = .ok 0x20005 ∧
      Nat.dist 0x20005 0x1fff0 ≤ Nat.dist 0x10005 0x1fff0 := by
  obtain ⟨r, hr, -, hnearest, -⟩ := estimateIndex_nearest
    (RtpReplayDb.added_pendingRoc (.new 128) 0x1fff0) (by decide) 5
  have heq : ((RtpReplayDb.new 128).added 0x1fff0).estimateIndex 5 = .ok 0x20005 := by decide +kernel
  obtain rfl := Except.ok.inj (heq.symm.trans hr)
  exact ⟨heq, hnearest 0x10005 (by decide)⟩

end LibSrtp
