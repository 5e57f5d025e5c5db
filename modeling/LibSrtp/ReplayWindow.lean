import LibSrtp.Replay
import LibSrtp.Support.SlidingWindow

/-!
# Replay databases as sliding windows

What a replay database is for: it remembers the history of the indices added to it, as far as its
window reaches.

* `RtpReplayDb.Tracks`: the database remembers this history; `Tracks.added` is its step;
* `rtpReplayDb_is_sliding_set`: so it does after any sequence of indices;
* `RtcpReplayDb.Tracks`: the same for RTCP, as long as the history is taken up in steps of less than
  half a rollover.
-/

namespace LibSrtp

open Exec SlidingWindow

namespace RtpReplayDb

/-- The database remembers the history `A`. -/
structure Tracks (db : RtpReplayDb) (A : Finset ℕ) : Prop where
  index : db.index = top A
  marks : Marks db.window db.windowSize A

variable {db : RtpReplayDb} {A : Finset ℕ}

@[simp] theorem windowSize_new (w : UInt16) : (new w).windowSize = w.toNat :=
  WindowMask.bits_ofSize w

theorem tracks_new (w : UInt16) : (new w).Tracks ∅ := ⟨rfl, marks_empty⟩

/-- The database reports exactly what the window has seen of the history. -/
theorem Tracks.seen_iff (h : db.Tracks A) {i : ℕ} :
    db.seen i = true ↔ Seen db.windowSize A i := by
  rw [RtpReplayDb.seen_iff, h.index]
  exact h.marks.seen_iff

/-- Adding an index adds it to the history. -/
theorem Tracks.added (h : db.Tracks A) (i : ℕ) : (db.added i).Tracks (insert i A) := by
  constructor
  · rw [added_index, h.index, top_insert, max_comm]
  · show Marks (if db.index < i then _ else _) db.windowSize _
    rw [h.index]
    split
    · next hi => exact h.marks.slide hi
    · next hi => exact h.marks.mark (Nat.not_lt.mp hi)

/-- The database after a sequence of indices remembers them all. -/
theorem Tracks.run (h : db.Tracks A) (is : List ℕ) :
    ∃ db', is.foldlM addIndex db = .ok db' ∧ db'.Tracks (A ∪ is.toFinset) ∧
      db'.windowSize = db.windowSize := by
  induction is generalizing db A with
  | nil => exact ⟨db, rfl, by simpa using h, rfl⟩
  | cons i is ih =>
    obtain ⟨db', hrun, htracks, hsize⟩ := ih (h.added i)
    refine ⟨db', ?_, ?_, hsize⟩
    · rw [List.foldlM_cons, addIndex_eq, ok_bind]
      exact hrun
    · rwa [List.toFinset_cons, Finset.union_insert, ← Finset.insert_union]

end RtpReplayDb

/-- After any sequence of additions, a database of window size `w` has seen the indices at least
`w` below the highest one, and the added ones. -/
theorem rtpReplayDb_is_sliding_set (w : UInt16) (is : List ℕ) :
    ∃ db, is.foldlM RtpReplayDb.addIndex (.new w) = .ok db ∧
      ∀ i, ∃ seen, db.seenIndex i = .ok seen ∧
        (seen = true ↔ i ≤ top is.toFinset ∧
          (w.toNat ≤ top is.toFinset - i ∨ i ∈ is.toFinset)) := by
  obtain ⟨db, hrun, htracks, hsize⟩ := (RtpReplayDb.tracks_new w).run is
  refine ⟨db, hrun, fun i => ⟨db.seen i, db.seenIndex_eq i, ?_⟩⟩
  rw [htracks.seen_iff, hsize, RtpReplayDb.windowSize_new, Finset.empty_union]
  exact Iff.rfl

/-! ## RTCP

The numbers of SRTCP packets go on beyond `2^31`; what is sent of them are the low 31 bits. -/

namespace RtcpReplayDb

/-- The database remembers the history `A` of numbers, of which it sees the low 31 bits. -/
structure Tracks (db : RtcpReplayDb) (A : Finset ℕ) : Prop where
  index : db.index = top A % rtcpRollback
  marks : Marks db.window db.windowSize A

variable {db : RtcpReplayDb} {A : Finset ℕ} {n : ℕ}

@[simp] theorem windowSize_new (w : UInt16) : (new w).windowSize = w.toNat :=
  WindowMask.bits_ofSize w

theorem tracks_new (w : UInt16) : (new w).Tracks ∅ := ⟨rfl, marks_empty⟩

/-- `n` is less than half a rollover away from the highest number. -/
def Near (A : Finset ℕ) (n : ℕ) : Prop := n < top A + maxRtcpStep ∧ top A < n + maxRtcpStep

instance (A : Finset ℕ) (n : ℕ) : Decidable (Near A n) := inferInstanceAs (Decidable (_ ∧ _))

/-- On the circle a number below the highest one is as far behind as on the line. -/
theorem Tracks.behind_of_le (h : db.Tracks A) (hn : Near A n) (hle : n ≤ top A) :
    behind db.index (n % rtcpRollback) = top A - n := by
  obtain ⟨-, hlo⟩ := hn
  rw [h.index]
  unfold behind
  simp only [rtcpRollback, maxRtcpStep] at *
  omega

/-- A number above the highest one is more than half a rollover behind it. -/
theorem Tracks.behind_of_lt (h : db.Tracks A) (hn : Near A n) (hlt : top A < n) :
    behind db.index (n % rtcpRollback) = rtcpRollback - (n - top A) := by
  obtain ⟨hhi, -⟩ := hn
  rw [h.index]
  unfold behind
  simp only [rtcpRollback, maxRtcpStep] at *
  omega

/-- The database reports exactly what the window has seen of the history. -/
theorem Tracks.seen_iff (h : db.Tracks A) (hn : Near A n) :
    db.seen (n % rtcpRollback) = true ↔ Seen db.windowSize A n := by
  unfold seen
  rcases Nat.lt_or_ge (top A) n with hlt | hle
  · have hfar : ¬ rtcpRollback - (n - top A) < maxRtcpStep := by
      have := hn.1
      simp only [rtcpRollback, maxRtcpStep] at *
      omega
    rw [h.behind_of_lt hn hlt, decide_eq_false hfar, Bool.false_and]
    exact iff_of_false Bool.false_ne_true fun hseen => Nat.not_le.mpr hlt hseen.1
  · have hnear : top A - n < maxRtcpStep := by have := hn.2; omega
    rw [h.behind_of_le hn hle, decide_eq_true hnear, Bool.true_and, Bool.or_eq_true,
      decide_eq_true_iff, ← h.marks.seen_iff]
    exact (and_iff_right hle).symm

/-- Adding the index of a number adds the number to the history. -/
theorem Tracks.added (h : db.Tracks A) (hn : Near A n) :
    (db.added (n % rtcpRollback)).Tracks (insert n A) := by
  rcases Nat.lt_or_ge (top A) n with hlt | hle
  · have hbehind := h.behind_of_lt hn hlt
    have hpast : ¬ db.Past (n % rtcpRollback) := by
      have := hn.1
      unfold Past
      simp only [rtcpRollback, maxRtcpStep] at *
      omega
    have hstep : rtcpRollback - (rtcpRollback - (n - top A)) = n - top A := by
      have := hn.1
      simp only [rtcpRollback, maxRtcpStep] at *
      omega
    rw [added_future hpast, hbehind, hstep]
    refine ⟨?_, h.marks.slide hlt⟩
    rw [top_insert, max_eq_left (Nat.le_of_lt hlt)]
  · have hbehind := h.behind_of_le hn hle
    have hpast : db.Past (n % rtcpRollback) := by
      refine .inl ?_
      rw [hbehind]
      have := hn.2
      omega
    rw [added_past hpast, hbehind]
    refine ⟨?_, h.marks.mark hle⟩
    rw [top_insert, max_eq_right hle]
    exact h.index

end RtcpReplayDb

end LibSrtp
