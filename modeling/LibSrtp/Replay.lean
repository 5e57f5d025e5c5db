import LibSrtp.Error
import LibSrtp.Support.Bitmap

/-!
# Replay databases and packet indices

`RtpReplayDb` and `RtcpReplayDb` as the library computes them, every subtraction and addition
checked. The second half gives each method its closed form, on which everything later rests:

* `seenIndex_eq`, `addIndex_eq`, `estimateIndex_eq` for RTP;
* `seenIndex_eq`, `addIndex_eq` for RTCP, in terms of `behind`, the distance from the current
  index back to another one around the circle of `2^31` indices. The two methods classify an index
  with different comparisons, and `addIndex_eq` shows where they part: at distance `2^30`.
-/

namespace LibSrtp

open Exec Bitmap

def maxSeqNumStep : Nat := 0x8000
def rtcpRollback : Nat := 2 ^ 31
def maxRtcpStep : Nat := 2 ^ 30

/-- A window mask: as many low bits set as the window has packets, a `u16`. -/
structure WindowMask where
  bitmap : Nat
  ones : ∃ w : UInt16, bitmap = 2 ^ w.toNat - 1
deriving DecidableEq

namespace WindowMask

/-- `(BigUint::one() << windowSize) - BigUint::one()` -/
def ofSize (windowSize : UInt16) : WindowMask :=
  ⟨1 <<< windowSize.toNat - 1, windowSize, by rw [Nat.one_shiftLeft]⟩

/-- The size of the window. -/
def bits (m : WindowMask) : Nat := Bitmap.bits m.bitmap

@[simp] theorem bits_ofSize (w : UInt16) : (ofSize w).bits = w.toNat := by
  simp [bits, ofSize, Nat.one_shiftLeft]

theorem bits_lt (m : WindowMask) : m.bits < 2 ^ 16 := by
  obtain ⟨m, w, rfl⟩ := m
  simpa [bits] using w.toNat_lt

theorem bitmap_eq (m : WindowMask) : m.bitmap = 2 ^ m.bits - 1 := by
  obtain ⟨m, w, rfl⟩ := m
  simp [bits]

end WindowMask

/-- `RtpReplayDb` -/
structure RtpReplayDb where
  /-- ROC (32 bits) || sequence number (16 bits) -/
  index : Nat
  pendingRoc : Option UInt32
  /-- bit `d` is the index `d` behind the current one -/
  window : Nat
  windowMask : WindowMask
deriving DecidableEq

namespace RtpReplayDb

def new (windowSize : UInt16) : RtpReplayDb := ⟨0, none, 0, .ofSize windowSize⟩

/-- The index, once the ROC of `guessIndex` has been raised or lowered by one when it is too far
from the current index. -/
def adjust (index guessIndex : Nat) : Res Nat := do
  let tooFarBehind ←
    if index > maxSeqNumStep then do
      let low ← sub index maxSeqNumStep
      .ok (decide (guessIndex < low))
    else .ok false
  if tooFarBehind then
    add 64 guessIndex 0x10000
  else do
    let high ← add 64 index maxSeqNumStep
    if guessIndex > high ∧ index ≥ 0x10000 then
      sub guessIndex 0x10000
    else
      .ok guessIndex

/-- The most likely index of a sequence number: with the pending ROC if there is one, else with
the current ROC or one of its neighbours. -/
def estimateIndex (db : RtpReplayDb) (seqNum : UInt16) : Res Nat :=
  match db.pendingRoc with
  | some roc => .ok (roc.toNat <<< 16 ||| seqNum.toNat)
  | none => adjust db.index ((db.index &&& 0x0000FFFFFFFF0000) ||| seqNum.toNat)

def getRoc (db : RtpReplayDb) : UInt32 := UInt32.ofNat (db.index >>> 16)

def setRoc (db : RtpReplayDb) (roc : UInt32) : RtpReplayDb := { db with pendingRoc := some roc }

def addIndex (db : RtpReplayDb) (index : Nat) : Res RtpReplayDb := do
  if index > db.index then do
    let diff ← sub index db.index
    let window := if diff < db.windowMask.bits then db.window <<< diff &&& db.windowMask.bitmap else 0
    .ok { db with window := setBit window 0, index := index, pendingRoc := none }
  else do
    let diff ← sub db.index index
    let window := if diff < db.windowMask.bits then setBit db.window diff else db.window
    .ok { db with window := window, pendingRoc := none }

def seenIndex (db : RtpReplayDb) (index : Nat) : Res Bool := do
  if index > db.index then
    .ok false
  else do
    let diff ← sub db.index index
    if diff ≥ db.windowMask.bits then .ok true else .ok (db.window.testBit diff)

def setWindowSize (db : RtpReplayDb) (size : UInt16) : RtpReplayDb :=
  { db with windowMask := .ofSize size }

end RtpReplayDb

/-- `RtcpReplayDb` -/
structure RtcpReplayDb where
  /-- 31 bits -/
  index : Nat
  window : Nat
  windowMask : WindowMask
deriving DecidableEq

namespace RtcpReplayDb

def new (windowSize : UInt16) : RtcpReplayDb := ⟨0, 0, .ofSize windowSize⟩

def addIndex (db : RtcpReplayDb) (index : Nat) : Res RtcpReplayDb := do
  if index > db.index then do
    let diff ← sub index db.index
    if diff ≥ maxRtcpStep then do
      -- so far in the future that it must be from before a recent rollover
      let back ← sub rtcpRollback diff
      .ok (if back < db.windowMask.bits then { db with window := setBit db.window back } else db)
    else
      let window := if diff < db.windowMask.bits then db.window <<< diff &&& db.windowMask.bitmap else 0
      .ok { db with window := setBit window 0, index := index }
  else do
    let diff ← sub db.index index
    let window := if diff < db.windowMask.bits then setBit db.window diff else db.window
    if diff ≥ maxRtcpStep then do
      -- so far in the past that the index must have rolled over
      let ahead ← sub rtcpRollback diff
      let window := if ahead < db.windowMask.bits then window <<< ahead &&& db.windowMask.bitmap else 0
      .ok { db with window := setBit window 0, index := index }
    else
      .ok { db with window := window }

def seenIndex (db : RtcpReplayDb) (index : Nat) : Res Bool := do
  if index > db.index then do
    let diff ← sub index db.index
    if diff > maxRtcpStep then do
      let back ← sub rtcpRollback diff
      if back ≥ db.windowMask.bits then .ok true else .ok (db.window.testBit back)
    else
      .ok false
  else do
    let diff ← sub db.index index
    if diff ≥ db.windowMask.bits then
      if diff ≥ maxRtcpStep then .ok false else .ok true
    else
      .ok (db.window.testBit diff)

def setWindowSize (db : RtcpReplayDb) (size : UInt16) : RtcpReplayDb :=
  { db with windowMask := .ofSize size }

end RtcpReplayDb

/-! ## RTP: closed forms -/

namespace RtpReplayDb

/-- The window size in force. -/
def windowSize (db : RtpReplayDb) : Nat := db.windowMask.bits

/-- What `seenIndex` answers. -/
def seen (db : RtpReplayDb) (i : Nat) : Bool :=
  decide (i ≤ db.index) &&
    (decide (db.windowSize ≤ db.index - i) || db.window.testBit (db.index - i))

theorem seen_iff {db : RtpReplayDb} {i : Nat} : db.seen i = true ↔
    i ≤ db.index ∧ (db.windowSize ≤ db.index - i ∨ db.window.testBit (db.index - i) = true) := by
  simp [seen]

@[simp] theorem seenIndex_eq (db : RtpReplayDb) (i : Nat) : db.seenIndex i = .ok (db.seen i) := by
  unfold seenIndex seen windowSize
  split
  · next h => simp [Nat.not_le.mpr h]
  · next h =>
    rw [sub_eq (Nat.not_lt.mp h), ok_bind]
    split <;> simp_all

/-- The database `addIndex` leaves behind. -/
def added (db : RtpReplayDb) (i : Nat) : RtpReplayDb where
  index := max db.index i
  pendingRoc := none
  window := if db.index < i then slide db.window db.windowSize (i - db.index)
    else mark db.window db.windowSize (db.index - i)
  windowMask := db.windowMask

@[simp] theorem addIndex_eq (db : RtpReplayDb) (i : Nat) : db.addIndex i = .ok (db.added i) := by
  unfold addIndex added windowSize
  split
  · next h =>
    simp only [sub_eq (Nat.le_of_lt h), ok_bind, max_eq_right (Nat.le_of_lt h), slide,
      ← db.windowMask.bitmap_eq]
  · next h =>
    simp only [sub_eq (Nat.not_lt.mp h), ok_bind, max_eq_left (Nat.not_lt.mp h), mark]

@[simp] theorem added_index (db : RtpReplayDb) (i : Nat) : (db.added i).index = max db.index i := rfl

@[simp] theorem added_pendingRoc (db : RtpReplayDb) (i : Nat) : (db.added i).pendingRoc = none := rfl

@[simp] theorem added_windowSize (db : RtpReplayDb) (i : Nat) :
    (db.added i).windowSize = db.windowSize := rfl

/-- Which bits are set after `addIndex i`: that of `i` if it is inside the window, and those of
the indices that were marked before and are still inside the window. -/
theorem testBit_added (db : RtpReplayDb) (i d : Nat) :
    (db.added i).window.testBit d =
      if db.index < i then decide (d = 0) ||
        (decide (i - db.index ≤ d) && decide (d < db.windowSize) &&
          db.window.testBit (d - (i - db.index)))
      else db.window.testBit d ||
        (decide (db.index - i < db.windowSize) && decide (d = db.index - i)) := by
  unfold added
  split
  · rw [testBit_slide]
  · rw [testBit_mark]

/-- An index that was seen stays seen when another one is added. -/
theorem seen_added_of_seen {db : RtpReplayDb} {i a : Nat} (h : db.seen a) : (db.added i).seen a := by
  rw [seen_iff] at h
  rw [seen_iff, added_index, added_windowSize]
  obtain ⟨hle, h⟩ := h
  refine ⟨Nat.le_trans hle (Nat.le_max_left _ _), ?_⟩
  rw [testBit_added]
  by_cases hi : db.index < i
  · -- the origin moves on: `a` either leaves the window or keeps its bit
    rw [if_pos hi, max_eq_right (Nat.le_of_lt hi)]
    by_cases hw : db.windowSize ≤ i - a
    · exact .inl hw
    · rcases h with h | h
      · omega
      · have hd : i - a - (i - db.index) = db.index - a := by omega
        simp only [hd, h, Bool.and_true, Bool.or_eq_true, decide_eq_true_eq, Bool.and_eq_true]
        omega
  · rw [if_neg hi, max_eq_left (Nat.not_lt.mp hi)]
    rcases h with h | h
    · exact .inl h
    · simp [h]

/-- The index just added is seen. -/
theorem seen_added_self (db : RtpReplayDb) (i : Nat) : (db.added i).seen i := by
  rw [seen_iff, added_index, added_windowSize]
  refine ⟨Nat.le_max_right _ _, ?_⟩
  rw [testBit_added]
  by_cases hi : db.index < i
  · rw [if_pos hi, max_eq_right (Nat.le_of_lt hi), Nat.sub_self]
    simp
  · rw [if_neg hi, max_eq_left (Nat.not_lt.mp hi)]
    by_cases hw : db.windowSize ≤ db.index - i
    · exact .inl hw
    · simp; omega

/-- Nothing else becomes seen than the index added and the indices the window leaves behind. -/
theorem seen_of_seen_added {db : RtpReplayDb} {i a : Nat} (h : (db.added i).seen a) (hne : a ≠ i)
    (hw : max db.index i - a < db.windowSize) : db.seen a := by
  rw [seen_iff, added_index, added_windowSize] at h
  rw [seen_iff]
  obtain ⟨hle, h⟩ := h
  rcases h with h | h
  · omega
  · rw [testBit_added] at h
    by_cases hi : db.index < i
    · rw [if_pos hi, max_eq_right (Nat.le_of_lt hi)] at h
      simp only [Bool.or_eq_true, decide_eq_true_eq, Bool.and_eq_true] at h
      rw [max_eq_right (Nat.le_of_lt hi)] at hle
      rcases h with h | ⟨⟨h1, -⟩, h2⟩
      · omega
      · have hd : i - a - (i - db.index) = db.index - a := by omega
        rw [hd] at h2
        exact ⟨by omega, .inr h2⟩
    · rw [if_neg hi, max_eq_left (Nat.not_lt.mp hi)] at h
      rw [max_eq_left (Nat.not_lt.mp hi)] at hle
      simp only [Bool.or_eq_true, decide_eq_true_eq, Bool.and_eq_true] at h
      rcases h with h | ⟨-, h⟩
      · exact ⟨hle, .inr h⟩
      · omega

/-! ### The index estimate -/

/-- What `adjust` answers. -/
def adjusted (index guess : Nat) : Nat :=
  if guess + 0x8000 < index then guess + 0x10000
  else if index + 0x8000 < guess ∧ 0x10000 ≤ index then guess - 0x10000
  else guess

theorem adjust_eq {index guess : Nat} (hi : index < 2 ^ 63) (hg : guess < 2 ^ 48) :
    adjust index guess = .ok (adjusted index guess) := by
  have hM : maxSeqNumStep = 0x8000 := rfl
  have hhigh : (add 64 index maxSeqNumStep : Res Nat) = .ok (index + maxSeqNumStep) :=
    add_eq (by omega)
  unfold adjust adjusted
  by_cases hc : index > maxSeqNumStep
  · rw [if_pos hc, sub_eq (Nat.le_of_lt hc), ok_bind, ok_bind, hhigh]
    by_cases hb : guess + 0x8000 < index
    · have hlow : guess < index - maxSeqNumStep := by omega
      rw [if_pos hb, decide_eq_true hlow]
      beta_reduce
      rw [if_pos rfl, add_eq (by omega)]
    · have hlow : ¬ guess < index - maxSeqNumStep := by omega
      rw [if_neg hb, decide_eq_false hlow]
      beta_reduce
      rw [if_neg Bool.false_ne_true, ok_bind]
      by_cases ha : index + 0x8000 < guess ∧ 0x10000 ≤ index
      · rw [if_pos ha, if_pos (by omega), sub_eq (by omega)]
      · rw [if_neg ha, if_neg (by omega)]
  · rw [if_neg hc, ok_bind, hhigh]
    beta_reduce
    rw [if_neg Bool.false_ne_true, ok_bind, if_neg (by omega), if_neg (by omega), if_neg (by omega)]

/-- The current ROC, cut to 32 bits, followed by `seqNum`. -/
def guess (index : Nat) (seqNum : UInt16) : Nat := index / 2 ^ 16 % 2 ^ 32 * 2 ^ 16 + seqNum.toNat

theorem guess_lt (index : Nat) (seqNum : UInt16) : guess index seqNum < 2 ^ 48 := by
  have hs := seqNum.toNat_lt
  unfold guess
  omega

/-- What `estimateIndex` answers, below `2^63`. -/
def estimate (db : RtpReplayDb) (seqNum : UInt16) : Nat :=
  match db.pendingRoc with
  | some roc => roc.toNat * 2 ^ 16 + seqNum.toNat
  | none => adjusted db.index (guess db.index seqNum)

theorem shift_or_seq (roc s : Nat) (hs : s < 2 ^ 16) : roc <<< 16 ||| s = roc * 2 ^ 16 + s := by
  rw [← Nat.shiftLeft_add_eq_or_of_lt hs, Nat.shiftLeft_eq]

theorem roc_mask (c : Nat) : c &&& 0x0000FFFFFFFF0000 = (c / 2 ^ 16 % 2 ^ 32) <<< 16 := by
  have hm : 0x0000FFFFFFFF0000 = (2 ^ 32 - 1) <<< 16 := by decide
  apply Nat.eq_of_testBit_eq
  intro j
  rw [hm, Nat.testBit_and, Nat.testBit_shiftLeft, Nat.testBit_shiftLeft,
    Nat.testBit_two_pow_sub_one, Nat.testBit_mod_two_pow, Nat.testBit_div_two_pow]
  by_cases h : 16 ≤ j
  · simp [h, Bool.and_comm]
  · simp [h]

theorem estimateIndex_eq {db : RtpReplayDb} (h : db.index < 2 ^ 63) (seqNum : UInt16) :
    db.estimateIndex seqNum = .ok (db.estimate seqNum) := by
  have hs := seqNum.toNat_lt
  unfold estimateIndex estimate
  cases db.pendingRoc with
  | some roc => exact congrArg Except.ok (shift_or_seq _ _ hs)
  | none =>
    show adjust _ _ = .ok _
    rw [roc_mask, shift_or_seq _ _ hs]
    exact adjust_eq h (guess_lt _ _)

theorem estimate_of_pending {db : RtpReplayDb} {roc : UInt32} (h : db.pendingRoc = some roc)
    (seqNum : UInt16) : db.estimate seqNum = roc.toNat * 2 ^ 16 + seqNum.toNat := by
  unfold estimate; rw [h]

theorem estimate_of_not_pending {db : RtpReplayDb} (h : db.pendingRoc = none)
    (seqNum : UInt16) : db.estimate seqNum = adjusted db.index (guess db.index seqNum) := by
  unfold estimate; rw [h]

theorem estimate_lt (db : RtpReplayDb) (seqNum : UInt16) :
    db.estimate seqNum < 2 ^ 48 + 2 ^ 16 := by
  have hs := seqNum.toNat_lt
  have hg := guess_lt db.index seqNum
  cases h : db.pendingRoc with
  | some roc => have hroc := roc.toNat_lt; rw [estimate_of_pending h]; omega
  | none => rw [estimate_of_not_pending h]; unfold adjusted; split_ifs <;> omega

/-- The estimate always ends in the sequence number. -/
theorem estimate_mod (db : RtpReplayDb) (seqNum : UInt16) :
    db.estimate seqNum % 2 ^ 16 = seqNum.toNat := by
  have hs := seqNum.toNat_lt
  cases h : db.pendingRoc with
  | some roc => rw [estimate_of_pending h]; omega
  | none => rw [estimate_of_not_pending h]; unfold adjusted guess; split_ifs <;> omega

/-- Within half the sequence number space of the current index the estimate is exact. -/
theorem estimate_near {db : RtpReplayDb} {seqNum : UInt16} {i : Nat}
    (hroc : db.pendingRoc = none) (hc : db.index < 2 ^ 48) (hseq : i % 2 ^ 16 = seqNum.toNat)
    (hlo : db.index < i + 2 ^ 15) (hhi : i < db.index + 2 ^ 15) : db.estimate seqNum = i := by
  rw [estimate_of_not_pending hroc]
  unfold adjusted guess
  split_ifs <;> omega

/-- Before anything is accepted the estimate is the sequence number itself. -/
theorem estimate_first {db : RtpReplayDb} (hroc : db.pendingRoc = none) (hc : db.index = 0)
    (seqNum : UInt16) : db.estimate seqNum = seqNum.toNat := by
  rw [estimate_of_not_pending hroc, hc]
  unfold adjusted guess
  split_ifs <;> omega

end RtpReplayDb

/-! ## RTCP: closed forms -/

namespace RtcpReplayDb

/-- The window size in force. -/
def windowSize (db : RtcpReplayDb) : Nat := db.windowMask.bits

/-- How far `i` lies behind `cur` on the circle of `2^31` indices. -/
def behind (cur i : Nat) : Nat := (cur + rtcpRollback - i) % rtcpRollback

theorem behind_of_le {cur i : Nat} (hc : cur < rtcpRollback) (h : i ≤ cur) :
    behind cur i = cur - i := by
  unfold behind rtcpRollback at *; omega

theorem behind_of_lt {cur i : Nat} (hi : i < rtcpRollback) (h : cur < i) :
    behind cur i = rtcpRollback - (i - cur) := by
  unfold behind rtcpRollback at *; omega

/-- What `seenIndex` answers for 31-bit indices. -/
def seen (db : RtcpReplayDb) (i : Nat) : Bool :=
  decide (behind db.index i < maxRtcpStep) &&
    (decide (db.windowSize ≤ behind db.index i) || db.window.testBit (behind db.index i))

theorem seenIndex_eq {db : RtcpReplayDb} {i : Nat} (hc : db.index < rtcpRollback)
    (hi : i < rtcpRollback) : db.seenIndex i = .ok (db.seen i) := by
  have hw := db.windowMask.bits_lt
  have hR : rtcpRollback = 2 ^ 31 := rfl
  have hM : maxRtcpStep = 2 ^ 30 := rfl
  unfold seenIndex seen windowSize
  by_cases h : i > db.index
  · rw [if_pos h, behind_of_lt hi h, sub_eq (Nat.le_of_lt h), ok_bind]
    by_cases hd : i - db.index > maxRtcpStep
    · rw [if_pos hd, sub_eq (by omega), ok_bind, decide_eq_true (by omega), Bool.true_and]
      split <;> simp_all
    · rw [if_neg hd, decide_eq_false (by omega), Bool.false_and]
  · rw [if_neg h, behind_of_le hc (Nat.not_lt.mp h), sub_eq (Nat.not_lt.mp h), ok_bind]
    by_cases hd : db.index - i ≥ db.windowMask.bits
    · rw [if_pos hd, decide_eq_true hd, Bool.true_or, Bool.and_true]
      split
      · rw [decide_eq_false (by omega)]
      · rw [decide_eq_true (by omega)]
    · rw [if_neg hd, decide_eq_true (by omega), decide_eq_false (by omega), Bool.true_and,
        Bool.false_or]

/-- `addIndex` takes `i` for an index of the past. It does so up to distance `2^30` when `i` is
numerically above the current index, but only below distance `2^30` when it is not. -/
def Past (db : RtcpReplayDb) (i : Nat) : Prop :=
  behind db.index i < maxRtcpStep ∨ (behind db.index i = maxRtcpStep ∧ db.index < i)

instance (db : RtcpReplayDb) (i : Nat) : Decidable (db.Past i) :=
  inferInstanceAs (Decidable (_ ∨ _))

/-- The database `addIndex` leaves behind. -/
def added (db : RtcpReplayDb) (i : Nat) : RtcpReplayDb :=
  if db.Past i then
    { db with window := mark db.window db.windowSize (behind db.index i) }
  else
    { db with
      window := slide db.window db.windowSize (rtcpRollback - behind db.index i), index := i }

theorem added_past {db : RtcpReplayDb} {i : Nat} (h : db.Past i) :
    db.added i = { db with window := mark db.window db.windowSize (behind db.index i) } := if_pos h

theorem added_future {db : RtcpReplayDb} {i : Nat} (h : ¬ db.Past i) : db.added i = { db with
    window := slide db.window db.windowSize (rtcpRollback - behind db.index i), index := i } :=
  if_neg h

theorem windowSize_setWindow (db : RtcpReplayDb) (window index : Nat) :
    { db with window := window, index := index }.windowSize = db.windowSize := rfl

-- The new window is generalised first, so that nothing unfolds it.
@[simp] theorem added_windowSize (db : RtcpReplayDb) (i : Nat) :
    (db.added i).windowSize = db.windowSize := by
  by_cases h : db.Past i
  · have hadded := added_past h
    generalize mark db.window db.windowSize (behind db.index i) = window at hadded
    rw [hadded, windowSize_setWindow]
  · have hadded := added_future h
    generalize slide db.window db.windowSize (rtcpRollback - behind db.index i) = window at hadded
    rw [hadded, windowSize_setWindow]

theorem addIndex_eq {db : RtcpReplayDb} {i : Nat} (hc : db.index < rtcpRollback)
    (hi : i < rtcpRollback) : db.addIndex i = .ok (db.added i) := by
  have hw := db.windowMask.bits_lt
  have hR : rtcpRollback = 2 ^ 31 := rfl
  have hM : maxRtcpStep = 2 ^ 30 := rfl
  unfold addIndex
  by_cases h : i > db.index
  · have hd' := behind_of_lt hi h
    rw [if_pos h, sub_eq (Nat.le_of_lt h), ok_bind]
    by_cases hd : i - db.index ≥ maxRtcpStep
    · rw [if_pos hd, sub_eq (by omega), ok_bind, added_past (by unfold Past; omega), hd', mark]
      unfold windowSize
      split <;> rfl
    · have hback : rtcpRollback - (rtcpRollback - (i - db.index)) = i - db.index := by omega
      rw [if_neg hd, added_future (by unfold Past; omega), hd', hback, slide, windowSize,
        ← db.windowMask.bitmap_eq]
  · have hd' := behind_of_le hc (Nat.not_lt.mp h)
    rw [if_neg h, sub_eq (Nat.not_lt.mp h), ok_bind]
    by_cases hd : db.index - i ≥ maxRtcpStep
    · have hwide : ¬ db.index - i < db.windowMask.bits := by omega
      rw [if_pos hd, sub_eq (by omega), ok_bind, added_future (by unfold Past; omega), hd', slide,
        windowSize, ← db.windowMask.bitmap_eq]
      simp only [if_neg hwide]
    · rw [if_neg hd, added_past (by unfold Past; omega), hd', mark, windowSize]

theorem added_index_lt {db : RtcpReplayDb} {i : Nat} (hc : db.index < rtcpRollback)
    (hi : i < rtcpRollback) : (db.added i).index < rtcpRollback := by
  by_cases h : db.Past i
  · rw [added_past h]; exact hc
  · rw [added_future h]; exact hi

end RtcpReplayDb

end LibSrtp
