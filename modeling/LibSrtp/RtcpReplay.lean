import LibSrtp.ReplayWindow
import LibSrtp.StreamRun
import LibSrtp.Vectors

/-!
# SRTCP replay protection

An SRTCP index that a receiver has accepted must not be accepted again right away, and must not
disturb what the receiver knows of the others.

* `rtcp_addition_keeps_others`: what adding an index does to the others;
* `RtcpReplayDb.seen_added_self_iff`: the database reports the index just added, except for one
  exactly half a rollover above the current index;
* `srtcp_not_replayed_iff`: so it is for the packets of a receiver, in every state of its runs;
* `halfwaySrtcp_replayed`: a packet half a rollover ahead is accepted again and again.
-/

namespace LibSrtp

open Exec PacketStream

/-- The index just added is seen, unless it is exactly half a rollover above the current index:
`addIndex` takes it for one of the past, `seenIndex` for one of the future. -/
theorem RtcpReplayDb.seen_added_self_iff {db : RtcpReplayDb} {i : ℕ} (hi : i < rtcpRollback) :
    (db.added i).seen i = true ↔ i ≠ db.index + maxRtcpStep := by
  rcases em (db.Past i) with hpast | hfuture
  · have hsize := db.added_windowSize i
    have hadded := added_past hpast
    unfold seen
    rw [hsize, hadded]
    rcases hpast with hnear | ⟨hhalf, hlt⟩
    · have hne : i ≠ db.index + maxRtcpStep := by
        rintro rfl
        rw [behind_of_lt hi (Nat.lt_add_of_pos_right (Nat.two_pow_pos 30))] at hnear
        simp only [rtcpRollback, maxRtcpStep] at *
        omega
      refine iff_of_true ?_ hne
      rw [decide_eq_true hnear, Bool.true_and, Bitmap.testBit_mark]
      rcases Nat.lt_or_ge (behind db.index i) db.windowSize with hw | hw
      · simp [hw]
      · simp [hw]
    · have heq : i = db.index + maxRtcpStep := by
        rw [behind_of_lt hi hlt] at hhalf
        simp only [rtcpRollback, maxRtcpStep] at *
        omega
      refine iff_of_false ?_ (not_not.mpr heq)
      rw [decide_eq_false (by rw [hhalf]; exact Nat.lt_irrefl _), Bool.false_and]
      exact Bool.false_ne_true
  · have hne : i ≠ db.index + maxRtcpStep := by
      rintro rfl
      refine hfuture (.inr ⟨?_, Nat.lt_add_of_pos_right (Nat.two_pow_pos 30)⟩)
      rw [behind_of_lt hi (Nat.lt_add_of_pos_right (Nat.two_pow_pos 30)), Nat.add_sub_cancel_left]
      rfl
    refine iff_of_true ?_ hne
    have hadded := added_future hfuture
    generalize hw : rtcpRollback - behind db.index i = step at hadded
    have hself : behind i i = 0 := by rw [behind_of_le hi le_rfl, Nat.sub_self]
    have hbit : (Bitmap.slide db.window db.windowSize step).testBit 0 = true := by
      rw [Bitmap.testBit_slide]
      simp
    generalize Bitmap.slide db.window db.windowSize step = window at hadded hbit
    unfold seen
    rw [hadded]
    dsimp only
    rw [hself, hbit, Bool.or_true, Bool.and_true]
    exact decide_eq_true (Nat.two_pow_pos 30)

namespace RtcpReplayDb

variable {db : RtcpReplayDb} {i j : ℕ}

theorem seen_iff : db.seen j = true ↔ behind db.index j < maxRtcpStep ∧
    (db.windowSize ≤ behind db.index j ∨ db.window.testBit (behind db.index j) = true) := by
  simp [seen]

/-- Indices at the same place of the circle are equal. -/
theorem eq_of_behind {cur : ℕ} (hi : i < rtcpRollback) (hj : j < rtcpRollback)
    (hc : cur < rtcpRollback) (h : behind cur j = behind cur i) : j = i := by
  unfold behind at h
  simp only [rtcpRollback] at *
  omega

/-- When the current index moves on to `i`, every other one falls behind by as much. -/
theorem behind_of_future (hc : db.index < rtcpRollback) (hi : i < rtcpRollback)
    (hj : j < rtcpRollback) (hfuture : ¬ db.Past i) :
    ∃ d, d = rtcpRollback - behind db.index i ∧ 0 < d ∧ d ≤ maxRtcpStep ∧
      (behind i j = behind db.index j + d ∨ behind i j + rtcpRollback = behind db.index j + d) := by
  refine ⟨_, rfl, ?_⟩
  unfold Past at hfuture
  unfold behind at *
  simp only [rtcpRollback, maxRtcpStep] at *
  omega

/-- What was seen and is less than half a rollover behind stays seen. -/
theorem seen_added_of_seen (hc : db.index < rtcpRollback) (hi : i < rtcpRollback)
    (hj : j < rtcpRollback) (h : db.seen j = true)
    (hnear : behind (db.added i).index j < maxRtcpStep) : (db.added i).seen j = true := by
  have hsize := db.added_windowSize i
  rw [seen_iff] at h ⊢
  rw [hsize]
  obtain ⟨hbefore, h⟩ := h
  refine ⟨hnear, ?_⟩
  rcases em (db.Past i) with hpast | hfuture
  · rw [added_past hpast] at hnear ⊢
    rcases h with hw | hbit
    · exact .inl hw
    · refine .inr ?_
      rw [Bitmap.testBit_mark, hbit, Bool.true_or]
  · obtain ⟨d, hd, hpos, hle, hmoved⟩ := behind_of_future hc hi hj hfuture
    have hadded := added_future hfuture
    rw [← hd] at hadded
    rw [hadded] at hnear ⊢
    dsimp only at hnear ⊢
    have hmoved : behind i j = behind db.index j + d := by
      simp only [rtcpRollback, maxRtcpStep] at *
      omega
    rw [hmoved]
    rcases Nat.lt_or_ge (behind db.index j + d) db.windowSize with hw | hw
    · -- still inside the window: so it was before, and its bit moves along
      refine .inr ?_
      rw [Bitmap.testBit_slide, Nat.add_sub_cancel]
      rcases h with hw' | hbit
      · omega
      · simp [hw, hbit]
    · exact .inl hw

/-- What becomes seen, other than the index that was added, was left behind by the window. -/
theorem seen_of_seen_added (hc : db.index < rtcpRollback) (hi : i < rtcpRollback)
    (hj : j < rtcpRollback) (hne : j ≠ i) (h : (db.added i).seen j = true)
    (hinside : behind (db.added i).index j < db.windowSize) : db.seen j = true := by
  have hsize := db.added_windowSize i
  rw [seen_iff] at h ⊢
  rw [hsize] at h
  obtain ⟨hnear, hw | hbit⟩ := h
  · omega
  rcases em (db.Past i) with hpast | hfuture
  · rw [added_past hpast] at hnear hbit
    dsimp only at hnear hbit
    refine ⟨hnear, .inr ?_⟩
    rw [Bitmap.testBit_mark, Bool.or_eq_true] at hbit
    rcases hbit with hbit | hnew
    · exact hbit
    · simp only [Bool.and_eq_true, decide_eq_true_eq] at hnew
      exact absurd (eq_of_behind hi hj hc hnew.2) hne
  · obtain ⟨d, hd, hpos, hle, hmoved⟩ := behind_of_future hc hi hj hfuture
    have hadded := added_future hfuture
    rw [← hd] at hadded
    rw [hadded] at hnear hbit
    dsimp only at hnear hbit
    rw [Bitmap.testBit_slide] at hbit
    simp only [Bool.or_eq_true, Bool.and_eq_true, decide_eq_true_eq] at hbit
    rcases hbit with hzero | ⟨⟨hge, -⟩, hbit⟩
    · have hself : behind i i = 0 := by rw [behind_of_le hi le_rfl, Nat.sub_self]
      exact absurd (eq_of_behind hi hj hi (hzero.trans hself.symm)) hne
    · -- its bit was there before the window moved
      have hback : behind i j - d = behind db.index j := by
        have hlt : behind db.index j < rtcpRollback := Nat.mod_lt _ (Nat.two_pow_pos 31)
        omega
      rw [hback] at hbit
      exact ⟨by omega, .inr hbit⟩

/-- After indices of 31 bits the current one has 31 bits, and the window its size. -/
theorem run (hc : db.index < rtcpRollback) {is : List ℕ} (his : ∀ i ∈ is, i < rtcpRollback) :
    ∃ db', is.foldlM addIndex db = .ok db' ∧ db'.index < rtcpRollback ∧
      db'.windowSize = db.windowSize := by
  induction is generalizing db with
  | nil => exact ⟨db, rfl, hc, rfl⟩
  | cons i is ih =>
    obtain ⟨hi, his⟩ := List.forall_mem_cons.mp his
    obtain ⟨db', hrun, hlt, hsize⟩ := ih (added_index_lt hc hi) his
    refine ⟨db', ?_, hlt, hsize.trans (added_windowSize db i)⟩
    rw [List.foldlM_cons, addIndex_eq hc hi, ok_bind]
    exact hrun

end RtcpReplayDb

/-- After any sequence of indices, adding `i` to a database of window size `w` does to another index
`j` only what the window does: if it was seen and is now less than half a rollover behind, it stays
seen; if it was not, it becomes seen only where the window left it behind. -/
theorem rtcp_addition_keeps_others (w : UInt16) {is : List ℕ} (his : ∀ i ∈ is, i < rtcpRollback) :
    ∃ db, is.foldlM RtcpReplayDb.addIndex (.new w) = .ok db ∧
      ∀ i j, i < rtcpRollback → j < rtcpRollback → j ≠ i →
        ∃ db' before after, db.addIndex i = .ok db' ∧ db.seenIndex j = .ok before ∧
          db'.seenIndex j = .ok after ∧
          (before = true → RtcpReplayDb.behind db'.index j < maxRtcpStep → after = true) ∧
          (before = false → ¬ (w.toNat ≤ RtcpReplayDb.behind db'.index j ∧
            RtcpReplayDb.behind db'.index j < maxRtcpStep) → after = false) := by
  have hstart : (RtcpReplayDb.new w).index < rtcpRollback := Nat.two_pow_pos 31
  obtain ⟨db, hrun, hc, hsize⟩ := RtcpReplayDb.run hstart his
  refine ⟨db, hrun, fun i j hi hj hne => ?_⟩
  have hc' := RtcpReplayDb.added_index_lt hc hi
  refine ⟨_, _, _, RtcpReplayDb.addIndex_eq hc hi, RtcpReplayDb.seenIndex_eq hc hj,
    RtcpReplayDb.seenIndex_eq hc' hj, ?_, ?_⟩
  · exact fun hseen hnear => RtcpReplayDb.seen_added_of_seen hc hi hj hseen hnear
  · intro hunseen hout
    refine Bool.eq_false_iff.mpr fun hafter => ?_
    have hnear := (RtcpReplayDb.seen_iff.mp hafter).1
    have hinside : RtcpReplayDb.behind (db.added i).index j < db.windowSize := by
      rw [hsize, RtcpReplayDb.windowSize_new]
      exact Nat.not_le.mp fun hw => hout ⟨hw, hnear⟩
    exact absurd (hunseen.symm.trans (RtcpReplayDb.seen_of_seen_added hc hi hj hne hafter hinside))
      Bool.false_ne_true

/-- An index of the last rollover is seen after one of the next is added. -/
theorem rtcp_addition_keeps_others_rollover :
    ∃ db db', [2 ^ 30 - 1, 2 ^ 31 - 3].foldlM RtcpReplayDb.addIndex (.new 128) = .ok db ∧
      db.addIndex 1 = .ok db' ∧ db'.index = 1 ∧ db'.seenIndex (2 ^ 31 - 3) = .ok true := by
  have his : ∀ i ∈ [2 ^ 30 - 1, 2 ^ 31 - 3], i < rtcpRollback := by decide
  obtain ⟨db, hrun, hothers⟩ := rtcp_addition_keeps_others 128 his
  have hdb : [2 ^ 30 - 1, 2 ^ 31 - 3].foldlM RtcpReplayDb.addIndex (.new 128) =
      .ok ⟨2 ^ 31 - 3, 1, .ofSize 128⟩ := by decide +kernel
  obtain rfl := Except.ok.inj (hdb.symm.trans hrun)
  obtain ⟨db', before, after, hadd, hbefore, hafter, hkeep, -⟩ :=
    hothers 1 (2 ^ 31 - 3) (by decide) (by decide) (by decide)
  have hdb' : RtcpReplayDb.addIndex ⟨2 ^ 31 - 3, 1, .ofSize 128⟩ 1 = .ok ⟨1, 17, .ofSize 128⟩ := by
    decide +kernel
  obtain rfl := Except.ok.inj (hdb'.symm.trans hadd)
  have hseen : RtcpReplayDb.seenIndex ⟨2 ^ 31 - 3, 1, .ofSize 128⟩ (2 ^ 31 - 3) = .ok true := by
    decide +kernel
  obtain rfl := Except.ok.inj (hseen.symm.trans hbefore)
  rw [hkeep rfl (by decide)] at hafter
  exact ⟨_, _, hrun, hadd, rfl, hafter⟩

section Runs

variable [Crates]

/-- A receiver in some state of a run. -/
def RecvStream.Reached (s : RecvStream) : Prop :=
  ∃ ssrc config handler s₀ es, RecvStream.new ssrc config handler = .ok s₀ ∧
    Trace (streamStep (T := RecvStream)) s₀ es s

theorem RecvStream.Reached.inRange {s : RecvStream} (h : s.Reached) : InRange s := by
  obtain ⟨ssrc, config, handler, s₀, es, hnew, ht⟩ := h
  exact ht.invariant (LawfulStream.new_ok hnew).2 fun _ op hs => inRange_step hs op

omit [Crates] in
theorem RecvStream.rtcpPacketIndex_lt {s : RecvStream} {cipher : Bytes} {i : ℕ}
    (h : s.rtcpPacketIndex cipher = .ok i) : i < rtcpRollback := by
  rw [rtcpPacketIndex_eq] at h
  split at h
  · exact absurd h fail_ne_ok
  · obtain rfl := Except.ok.inj h
    exact s.trailerIndex_lt cipher

/-- A packet with an index that was seen is rejected. -/
theorem RecvStream.rtcpUnprotect_of_seen {s : RecvStream} (hs : InRange s) {header : RtcpHeader}
    {cipher : Bytes} {i : ℕ} (hi : s.rtcpPacketIndex cipher = .ok i)
    (hseen : s.rtcpIndex.seen i = true) :
    (s.rtcpUnprotect header cipher).result = fail .invalidPacketIndex := by
  have hlocate : s.rtcpIndexMki cipher = fail .invalidPacketIndex := by
    unfold rtcpIndexMki
    rw [hi, ok_bind, RtcpReplayDb.seenIndex_eq hs.2 (rtcpPacketIndex_lt hi), ok_bind, if_pos hseen]
  unfold rtcpUnprotect
  rw [hlocate]
  rfl

theorem RecvStream.rtcpIndexMki_of_unseen {s : RecvStream} (hs : InRange s) {cipher : Bytes} {i : ℕ}
    {m : Mki} (hi : s.rtcpPacketIndex cipher = .ok i) (hseen : s.rtcpIndex.seen i = false)
    (hm : s.getMki cipher RtcpHeader.len false = .ok m) : s.rtcpIndexMki cipher = .ok (i, m) := by
  unfold rtcpIndexMki
  rw [hi, ok_bind, RtcpReplayDb.seenIndex_eq hs.2 (rtcpPacketIndex_lt hi), ok_bind, hseen, hm]
  rfl

/-- A packet that was accepted, in a state where its index is not seen, is not rejected for it. -/
theorem RecvStream.not_rejected_of_unseen {s : RecvStream} (hs : InRange s) {header : RtcpHeader}
    {cipher : Bytes} (parsed : RtcpHeader.new cipher = .ok header) {i : ℕ} {m : Mki} {t : Transform}
    {l : KeysLifetime} {bytes : Bytes}
    (hlocate : PacketStream.locate s (RecvCall.rtcpUnprotect header cipher parsed) = .ok (i, m))
    (hl : (base s).transforms.lookup m = some (t, l))
    (ha : apply s (RecvCall.rtcpUnprotect header cipher parsed) i t = .ok bytes) :
    (s.rtcpUnprotect header cipher).result ≠ fail .invalidPacketIndex := by
  intro hr
  have hc := LawfulStream.called (RecvCall.rtcpUnprotect header cipher parsed) hs
  change (call s (RecvCall.rtcpUnprotect header cipher parsed)).result = _ at hr
  generalize call s (RecvCall.rtcpUnprotect header cipher parsed) = r at hr hc
  cases hc with
  | rejected hf =>
    rw [hlocate] at hf
    cases hf
  | unknown hi hnone =>
    obtain ⟨rfl, rfl⟩ := Prod.mk.inj (Except.ok.inj (hlocate.symm.trans hi))
    exact absurd (hl.symm.trans hnone) nofun
  | dead => cases hr
  | refused hi hl' _ hf =>
    obtain ⟨rfl, rfl⟩ := Prod.mk.inj (Except.ok.inj (hlocate.symm.trans hi))
    obtain ⟨rfl, rfl⟩ := Prod.mk.inj (Option.some.inj (hl.symm.trans hl'))
    rw [ha] at hf
    cases hf
  | done => cases hr

/-- What a receiver is after it accepted an SRTCP packet. -/
theorem RecvStream.rtcp_accepted {s : RecvStream} (hs : InRange s) {header : RtcpHeader}
    {cipher : Bytes} (parsed : RtcpHeader.new cipher = .ok header) {i : ℕ} {bytes : Bytes}
    (hi : s.rtcpPacketIndex cipher = .ok i) (hr : (s.rtcpUnprotect header cipher).result = .ok bytes) :
    ∃ m t l, PacketStream.locate s (RecvCall.rtcpUnprotect header cipher parsed) = .ok (i, m) ∧
      apply s (RecvCall.rtcpUnprotect header cipher parsed) i t = .ok bytes ∧
      (s.rtcpUnprotect header cipher).state =
        { s with
          rtcpIndex := s.rtcpIndex.added i
          base := { s.base with transforms := s.base.transforms.insert m (t, l) } } := by
  obtain ⟨i', m, t, l, hlocate, hl, -, ha, hstate⟩ :=
    (LawfulStream.called (RecvCall.rtcpUnprotect header cipher parsed) hs).of_ok hr
  obtain ⟨hlen, rfl, -⟩ := rtcp_located hs hlocate
  rw [rtcpPacketIndex_eq, if_neg (Nat.not_lt.mpr hlen)] at hi
  obtain rfl := Except.ok.inj hi
  rw [advance_rtcp] at hstate
  exact ⟨m, t, _, hlocate, ha, hstate⟩

/-- In every state of every run of a receiver: right after an SRTCP packet was accepted, every packet
with its index is rejected for its index, unless the index was exactly half a rollover above the
highest one. The replay database reports an index it has just added under the same condition. -/
theorem srtcp_not_replayed_iff {s : RecvStream} (hs : s.Reached) :
    (∀ header cipher bytes i, RtcpHeader.new cipher = .ok header → s.rtcpPacketIndex cipher = .ok i →
      (s.rtcpUnprotect header cipher).result = .ok bytes →
      ((∀ header' cipher', RtcpHeader.new cipher' = .ok header' →
        (s.rtcpUnprotect header cipher).state.rtcpPacketIndex cipher' = .ok i →
        ((s.rtcpUnprotect header cipher).state.rtcpUnprotect header' cipher').result =
          fail .invalidPacketIndex) ↔ i ≠ s.rtcpIndex.index + maxRtcpStep)) ∧
    ∀ i, i < rtcpRollback → s.rtcpIndex.seenIndex i = .ok false →
      ∃ db, s.rtcpIndex.addIndex i = .ok db ∧
        (db.seenIndex i = .ok true ↔ i ≠ s.rtcpIndex.index + maxRtcpStep) := by
  have hrange := hs.inRange
  constructor
  · intro header cipher bytes i parsed hi hr
    have hlt := RecvStream.rtcpPacketIndex_lt hi
    have hself : (s.rtcpIndex.added i).seen i = true ↔ i ≠ s.rtcpIndex.index + maxRtcpStep :=
      RtcpReplayDb.seen_added_self_iff hlt
    have hnext : InRange (s.rtcpUnprotect header cipher).state :=
      inRange_step hrange (.call (RecvCall.rtcpUnprotect header cipher parsed))
    obtain ⟨m, t, l, hlocate, ha, hstate⟩ := RecvStream.rtcp_accepted hrange parsed hi hr
    rw [hstate] at hnext ⊢
    generalize s.rtcpIndex.added i = db at hself hnext ⊢
    constructor
    · intro hreject hhalf
      have hunseen : db.seen i = false :=
        Bool.eq_false_iff.mpr fun hseen => hself.mp hseen hhalf
      -- the same packet again
      refine RecvStream.not_rejected_of_unseen hnext parsed (i := i) (m := m) (t := t) ?_
        (Finmap.lookup_insert _) ha (hreject header cipher parsed hi)
      obtain ⟨-, -, -, hm⟩ := RecvStream.rtcp_located hrange hlocate
      exact RecvStream.rtcpIndexMki_of_unseen hnext hi hunseen hm
    · intro hne header' cipher' parsed' hi'
      exact RecvStream.rtcpUnprotect_of_seen hnext hi' (hself.mpr hne)
  · intro i hi hseen
    refine ⟨_, RtcpReplayDb.addIndex_eq hrange.2 hi, ?_⟩
    rw [RtcpReplayDb.seenIndex_eq (RtcpReplayDb.added_index_lt hrange.2 hi) hi, Except.ok.injEq]
    exact RtcpReplayDb.seen_added_self_iff hi

end Runs

section Example

open Vectors

attribute [local instance] Vectors.crates

theorem reached_plainReceiver : plainReceiver.Reached :=
  ⟨_, _, _, _, [], recvStream_eq _ _, .nil⟩

/-- The first packet is not accepted twice. -/
theorem srtcp_not_replayed_iff_first :
    ((plainReceiver.rtcpUnprotect ⟨0xcafebabe⟩ (srtcpPacket 0xcafebabe 0)).state.rtcpUnprotect
      ⟨0xcafebabe⟩ (srtcpPacket 0xcafebabe 0)).result = fail .invalidPacketIndex := by
  have hreject := (srtcp_not_replayed_iff reached_plainReceiver).1 ⟨0xcafebabe⟩
    (srtcpPacket 0xcafebabe 0) (rtcpPacket 0xcafebabe) 0 (by decide) (by decide +kernel)
    (by decide +kernel)
  exact hreject.mpr (by decide) _ _ (by decide) (by decide +kernel)

/-- A packet half a rollover above the first index is accepted twice in a row. -/
theorem halfwaySrtcp_replayed : ∃ s, plainReceiver.Reached ∧
    (plainReceiver.rtcpUnprotect ⟨0xcafebabe⟩ (srtcpPacket 0xcafebabe (2 ^ 30))).result =
      .ok (rtcpPacket 0xcafebabe) ∧
    (plainReceiver.rtcpUnprotect ⟨0xcafebabe⟩ (srtcpPacket 0xcafebabe (2 ^ 30))).state = s ∧
    (s.rtcpUnprotect ⟨0xcafebabe⟩ (srtcpPacket 0xcafebabe (2 ^ 30))).result =
      .ok (rtcpPacket 0xcafebabe) :=
  ⟨_, reached_plainReceiver, by decide +kernel, rfl, by decide +kernel⟩

end Example

end LibSrtp
