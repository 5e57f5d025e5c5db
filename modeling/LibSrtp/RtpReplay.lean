import LibSrtp.StreamRun
import LibSrtp.Support.SlidingWindow
import LibSrtp.Vectors

/-!
# SRTP replay protection

An SRTP index that a receiver has accepted must not be accepted again.

* `RtpReplayDb.Knows`: the bitmap is that of the indices that were accepted, and of the window sizes
  they were accepted under, `Knows.run`;
* `Remembers.step_iff`: an operation keeps what the receiver remembers, except for an update to a
  larger window, which must find what it reaches back to;
* `srtp_not_replayed_iff`: so the receiver never forgets exactly when its updates meet this
  condition;
* `widened_window_forgets`: an index accepted before the window was narrowed is accepted again after
  it was widened.
-/

namespace LibSrtp

open Exec PacketStream SlidingWindow

/-- The database knows the indices that were added, as far as no window left them behind. -/
structure RtpReplayDb.Knows (db : RtpReplayDb) (as : List Entry) : Prop where
  index : db.index = highest as
  window : Records db.window as

namespace RtpReplayDb.Knows

variable {db : RtpReplayDb} {as : List Entry} {i : ℕ}

theorem new (size : UInt16) : (RtpReplayDb.new size).Knows [] := ⟨rfl, records_nil⟩

theorem seen_iff (h : db.Knows as) : db.seen i = true ↔
    i ≤ highest as ∧ (db.windowSize ≤ highest as - i ∨ Kept i as) := by
  rw [RtpReplayDb.seen_iff, h.index]
  exact and_congr_right fun hi => or_congr_right (h.window i hi)

/-- An index is added that was not seen. -/
theorem added (h : db.Knows as) (hi : db.seen i = false) :
    (db.added i).Knows (⟨i, db.windowSize⟩ :: as) := by
  have hnot : ¬ (i ≤ highest as ∧ (db.windowSize ≤ highest as - i ∨ Kept i as)) := by
    rw [← h.seen_iff, hi]
    exact Bool.false_ne_true
  constructor
  · rw [added_index, h.index]
    exact max_comm ..
  · unfold RtpReplayDb.added
    dsimp only
    rw [h.index]
    split
    · next hlt => exact h.window.slide (a := ⟨i, db.windowSize⟩) hlt
    · next hle =>
      have hin : highest as - i < db.windowSize := by omega
      exact h.window.mark (a := ⟨i, db.windowSize⟩) (Nat.not_lt.mp hle) hin

/-- Another window size keeps what was seen if it was kept. -/
theorem seen_setWindowSize_iff (h : db.Knows as) (hi : db.seen i = true) (size : UInt16) :
    (db.setWindowSize size).seen i = true ↔
      (db.windowSize ≤ highest as - i → highest as - i < size.toNat → Kept i as) := by
  have hsize : (db.setWindowSize size).windowSize = size.toNat := WindowMask.bits_ofSize size
  have h' : (db.setWindowSize size).Knows as := ⟨h.index, h.window⟩
  obtain ⟨hle, hi⟩ := h.seen_iff.mp hi
  rw [h'.seen_iff, hsize]
  constructor
  · rintro ⟨-, hw | hkept⟩ - hlt
    · exact absurd hlt (Nat.not_lt.mpr hw)
    · exact hkept
  · intro hrecall
    refine ⟨hle, ?_⟩
    rcases Nat.lt_or_ge (highest as - i) size.toNat with hlt | hge
    · exact .inr (hi.elim (hrecall · hlt) id)
    · exact .inl hge

end RtpReplayDb.Knows

section Runs

variable [Crates]

/-- The index of a successful `rtpUnprotect`. -/
def StreamEvent.rtpAccept (e : StreamEvent RecvStream) : Option ℕ :=
  match e.input, e.answer with
  | .call (.rtpUnprotect header _ _), .packet (.ok _) =>
    match e.pre.base.rtpIndex.estimateIndex header.seqNum with
    | .ok i => some i
    | .error _ => none
  | _, _ => none

/-- The indices that were accepted in a run, in order. -/
def rtpAccepted (es : List (StreamEvent RecvStream)) : List ℕ := es.filterMap StreamEvent.rtpAccept

theorem rtpAccepted_append (es : List (StreamEvent RecvStream)) (e : StreamEvent RecvStream) :
    rtpAccepted (es ++ [e]) = rtpAccepted es ++ e.rtpAccept.toList := by
  rw [rtpAccepted, rtpAccepted, List.filterMap_append]
  cases h : e.rtpAccept <;> simp [h]

/-- The index that was accepted, and the size of the window then. -/
def StreamEvent.rtpEntry (e : StreamEvent RecvStream) : Option Entry :=
  e.rtpAccept.map (⟨·, e.pre.base.rtpIndex.windowSize⟩)

/-- What was accepted in a run, the last packet first. -/
def rtpEntries (es : List (StreamEvent RecvStream)) : List Entry :=
  (es.filterMap StreamEvent.rtpEntry).reverse

theorem rtpEntries_append (es : List (StreamEvent RecvStream)) (e : StreamEvent RecvStream) :
    rtpEntries (es ++ [e]) = e.rtpEntry.toList ++ rtpEntries es := by
  rw [rtpEntries, rtpEntries, List.filterMap_append, List.reverse_append]
  cases h : e.rtpEntry <;> simp [h]

theorem mem_rtpAccepted {es : List (StreamEvent RecvStream)} {i : ℕ} :
    i ∈ rtpAccepted es ↔ ∃ a ∈ rtpEntries es, a.number = i := by
  simp only [rtpAccepted, rtpEntries, StreamEvent.rtpEntry, List.mem_filterMap, List.mem_reverse,
    Option.map_eq_some_iff]
  constructor
  · rintro ⟨e, he, hi⟩
    exact ⟨_, ⟨e, he, i, hi, rfl⟩, rfl⟩
  · rintro ⟨_, ⟨e, he, i, hi, rfl⟩, rfl⟩
    exact ⟨e, he, hi⟩

/-- The window size that a successful update sets. -/
def StreamEvent.newWindow (e : StreamEvent RecvStream) : Option UInt16 :=
  match e.input, e.answer with
  | .update config _ _, .unit (.ok ()) => some config.replayWindowSize
  | _, _ => none

/-- Everything accepted is reported as seen. -/
def Remembers (accepted : List ℕ) (s : RecvStream) : Prop :=
  ∀ i ∈ accepted, s.base.rtpIndex.seenIndex i = .ok true

/-- What a step does to the replay database. -/
inductive StreamEvent.Replay (e : StreamEvent RecvStream) : Prop
  | accept (i : ℕ) : e.rtpAccept = some i → e.newWindow = none →
      e.pre.base.rtpIndex.seen i = false →
      e.post.base.rtpIndex = e.pre.base.rtpIndex.added i → e.Replay
  | widen (size : UInt16) : e.rtpAccept = none → e.newWindow = some size →
      e.post.base.rtpIndex = e.pre.base.rtpIndex.setWindowSize size → e.Replay
  | keep (roc : Option UInt32) : e.rtpAccept = none → e.newWindow = none →
      e.post.base.rtpIndex = { e.pre.base.rtpIndex with pendingRoc := roc } → e.Replay

theorem StreamEvent.replay_of_step {s : RecvStream} (hs : InRange s) (op : StreamOp RecvStream) :
    StreamEvent.Replay (.of streamStep s op) := by
  cases op with
  | call c =>
    have hcalled := LawfulStream.called c hs
    cases hr : (call s c).result with
    | error f =>
      refine .keep s.base.rtpIndex.pendingRoc ?_ rfl ?_
      · show StreamEvent.rtpAccept ⟨s, .call c, .packet (call s c).result, _⟩ = none
        rw [hr]
        cases c <;> rfl
      · show (call s c).state.base.rtpIndex = _
        rw [hcalled.state_of_error hr]
        rfl
    | ok bytes =>
      obtain ⟨i, m, t, l, hlocate, -, -, -, hstate⟩ := hcalled.of_ok hr
      cases c with
      | rtpUnprotect header cipher parsed =>
        obtain ⟨rfl, hseen, -⟩ := RecvStream.rtp_located hs hlocate
        have hlim : rtpIndexLimit = 2 ^ 48 + 2 ^ 16 := rfl
        refine .accept _ ?_ rfl hseen ?_
        · show StreamEvent.rtpAccept ⟨s, .call (RecvCall.rtpUnprotect header cipher parsed),
            .packet (call s (RecvCall.rtpUnprotect header cipher parsed)).result, _⟩ = _
          rw [hr]
          unfold StreamEvent.rtpAccept
          dsimp only
          rw [RtpReplayDb.estimateIndex_eq (by have := hs.1; omega)]
        · show (call s (RecvCall.rtpUnprotect header cipher parsed)).state.base.rtpIndex = _
          rw [hstate]
          rfl
      | rtcpUnprotect header cipher parsed =>
        refine .keep s.base.rtpIndex.pendingRoc ?_ rfl ?_
        · show StreamEvent.rtpAccept ⟨s, .call (RecvCall.rtcpUnprotect header cipher parsed),
            .packet (call s (RecvCall.rtcpUnprotect header cipher parsed)).result, _⟩ = none
          rw [hr]
          rfl
        · show (call s (RecvCall.rtcpUnprotect header cipher parsed)).state.base.rtpIndex = _
          rw [hstate, RecvStream.advance_rtcp]
          generalize s.rtcpIndex.added i = db
          rfl
  | update config valid order =>
    have hupdated := LawfulStream.updated s order (StreamConfig.valid_of_validate valid).keys_ne
    show StreamEvent.Replay ⟨s, .update config valid order,
      .unit (StreamInterface.update s config order).result,
      (StreamInterface.update s config order).state⟩
    generalize StreamInterface.update s config order = r at hupdated
    cases hupdated with
    | incompatible => exact .keep s.base.rtpIndex.pendingRoc rfl rfl rfl
    | unbuildable => exact .keep s.base.rtpIndex.pendingRoc rfl rfl rfl
    | torn => exact .keep s.base.rtpIndex.pendingRoc rfl rfl rfl
    | merged => exact .widen _ rfl rfl rfl
  | kill m =>
    refine .keep s.base.rtpIndex.pendingRoc rfl rfl ?_
    show (StreamInterface.killSessionKeys s m).state.base.rtpIndex = _
    cases hl : (base s).transforms.lookup m with
    | none => rw [LawfulStream.killed_none hl]; rfl
    | some entry => rw [LawfulStream.killed_some hl]; rfl
  | direct roc =>
    cases hr : (s.setRoc roc).result with
    | error f =>
      refine .keep s.base.rtpIndex.pendingRoc rfl rfl ?_
      show (s.setRoc roc).state.base.rtpIndex = _
      rw [RecvStream.setRoc_error hr]
      rfl
    | ok u =>
      refine .keep (some roc) rfl rfl ?_
      show (s.setRoc roc).state.base.rtpIndex = _
      rw [(RecvStream.setRoc_ok hr).2]
      rfl

/-- One step keeps what the database knows. -/
theorem RtpReplayDb.Knows.step {es : List (StreamEvent RecvStream)} {e : StreamEvent RecvStream}
    (h : e.pre.base.rtpIndex.Knows (rtpEntries es)) (he : e.Replay) :
    e.post.base.rtpIndex.Knows (rtpEntries (es ++ [e])) := by
  rw [rtpEntries_append, StreamEvent.rtpEntry]
  cases he with
  | accept i haccept _ hseen hpost =>
    rw [haccept, hpost]
    exact h.added hseen
  | widen size haccept _ hpost =>
    rw [haccept, hpost]
    exact ⟨h.index, h.window⟩
  | keep roc haccept _ hpost =>
    rw [haccept, hpost]
    exact ⟨h.index, h.window⟩

theorem RtpReplayDb.Knows.of_new {config : StreamConfig} {ssrc : UInt32}
    {handler : Option KeyLimitHandler} {s : RecvStream}
    (hnew : RecvStream.new ssrc config handler = .ok s) : s.base.rtpIndex.Knows [] := by
  have hbase := (LawfulStream.new_ok (T := RecvStream) hnew).1
  obtain ⟨_, _, _, _, _, heq⟩ := BaseStream.new_ok hbase
  rw [show s.base = _ from heq]
  exact .new _

theorem RtpReplayDb.Knows.run {config : StreamConfig} {ssrc : UInt32}
    {handler : Option KeyLimitHandler} {s₀ s : RecvStream}
    (hnew : RecvStream.new ssrc config handler = .ok s₀) {es : List (StreamEvent RecvStream)}
    (ht : Trace streamStep s₀ es s) : InRange s ∧ s.base.rtpIndex.Knows (rtpEntries es) := by
  refine ht.history_of (P := fun _ => True) (I := fun (es : List (StreamEvent RecvStream)) s =>
    InRange s ∧ s.base.rtpIndex.Knows (rtpEntries es)) (fun _ _ => trivial)
    ⟨(LawfulStream.new_ok hnew).2, .of_new hnew⟩ ?_
  rintro es s op ⟨hrange, hknows⟩ -
  have hstep := hknows.step (e := .of streamStep s op) (StreamEvent.replay_of_step hrange op)
  exact ⟨inRange_step hrange op, hstep⟩

/-- One step keeps what the receiver remembers, unless it is an update that does not recall it. -/
theorem Remembers.step_iff {es : List (StreamEvent RecvStream)} {s : RecvStream}
    (hknows : s.base.rtpIndex.Knows (rtpEntries es)) (h : Remembers (rtpAccepted es) s)
    {e : StreamEvent RecvStream} (hpre : e.pre = s) (he : e.Replay) :
    Remembers (rtpAccepted (es ++ [e])) e.post ↔ ∀ size, e.newWindow = some size →
      Recalls (rtpEntries es) s.base.rtpIndex.windowSize size.toNat := by
  subst hpre
  have hseen : ∀ {i db}, RtpReplayDb.seenIndex db i = .ok true ↔ db.seen i = true := by
    intro i db
    rw [RtpReplayDb.seenIndex_eq, Except.ok.injEq]
  rw [rtpAccepted_append]
  unfold Remembers at h ⊢
  simp only [hseen] at h ⊢
  cases he with
  | accept i haccept hwindow _ hpost =>
    refine iff_of_true (fun j hj => ?_) fun size hsize => ?_
    · rw [hpost]
      rcases List.mem_append.mp hj with hj | hj
      · exact RtpReplayDb.seen_added_of_seen (h j hj)
      · rw [haccept] at hj
        obtain rfl := List.mem_singleton.mp hj
        exact RtpReplayDb.seen_added_self _ _
    · rw [hwindow] at hsize
      cases hsize
  | widen size haccept hwindow hpost =>
    rw [haccept, hwindow, hpost]
    constructor
    · intro hkept size' hsize a ha
      obtain rfl := Option.some.inj hsize
      have hi := mem_rtpAccepted.mpr ⟨a, ha, rfl⟩
      exact (hknows.seen_setWindowSize_iff (h _ hi) size).mp (hkept _ (List.mem_append_left _ hi))
    · intro hrecall i hi
      rw [Option.toList_none, List.append_nil] at hi
      obtain ⟨a, ha, rfl⟩ := mem_rtpAccepted.mp hi
      exact (hknows.seen_setWindowSize_iff (h _ hi) size).mpr (hrecall size rfl a ha)
  | keep roc haccept hwindow hpost =>
    rw [haccept, hwindow, hpost]
    refine iff_of_true (fun i hi => ?_) nofun
    rw [Option.toList_none, List.append_nil] at hi
    exact h i hi

/-- Each update of the run that succeeds, from one window size to another, recalls what was accepted
before it: of the indices that come back into the window, no packet accepted since, a highest one then,
was as far ahead as the window of its time reaches. -/
def UpdatesRecall (es : List (StreamEvent RecvStream)) : Prop :=
  ∀ pre e post, es = pre ++ e :: post → ∀ size, e.newWindow = some size →
    Recalls (rtpEntries pre) e.pre.base.rtpIndex.windowSize size.toNat

/-- Updates that do not enlarge the window have nothing to recall. -/
theorem updatesRecall_of_le {es : List (StreamEvent RecvStream)}
    (h : ∀ e ∈ es, ∀ size, e.newWindow = some size →
      size.toNat ≤ e.pre.base.rtpIndex.windowSize) : UpdatesRecall es := by
  rintro pre e post rfl size hsize a - hle hlt
  have hnarrow := h e (by simp) size hsize
  omega

/-- What a receiver remembers, and that it accepted nothing twice. -/
structure NotReplayed (es : List (StreamEvent RecvStream)) (s : RecvStream) : Prop where
  inRange : InRange s
  knows : s.base.rtpIndex.Knows (rtpEntries es)
  remembers : Remembers (rtpAccepted es) s
  nodup : (rtpAccepted es).Nodup

theorem NotReplayed.step {es : List (StreamEvent RecvStream)} {s : RecvStream} (h : NotReplayed es s)
    (op : StreamOp RecvStream)
    (hrecall : ∀ size, StreamEvent.newWindow (.of streamStep s op) = some size →
      Recalls (rtpEntries es) s.base.rtpIndex.windowSize size.toNat) :
    NotReplayed (es ++ [.of streamStep s op]) (streamStep s op).2 := by
  have hreplay := StreamEvent.replay_of_step h.inRange op
  refine ⟨inRange_step h.inRange op, h.knows.step hreplay,
    (h.remembers.step_iff h.knows rfl hreplay).mpr hrecall, ?_⟩
  · rw [rtpAccepted_append]
    cases hreplay with
    | accept i haccept _ hseen _ =>
      rw [haccept, Option.toList_some, List.nodup_append]
      refine ⟨h.nodup, List.nodup_singleton i, ?_⟩
      rintro a ha b hb rfl
      obtain rfl := List.mem_singleton.mp hb
      have hmem := h.remembers a ha
      rw [RtpReplayDb.seenIndex_eq] at hmem
      exact absurd (hseen.symm.trans (Except.ok.inj hmem)) Bool.false_ne_true
    | widen _ haccept =>
      rw [haccept, Option.toList_none, List.append_nil]
      exact h.nodup
    | keep _ haccept =>
      rw [haccept, Option.toList_none, List.append_nil]
      exact h.nodup

theorem NotReplayed.run {config : StreamConfig} {ssrc : UInt32} {handler : Option KeyLimitHandler}
    {s₀ s : RecvStream} (hnew : RecvStream.new ssrc config handler = .ok s₀)
    {es : List (StreamEvent RecvStream)} (ht : Trace streamStep s₀ es s)
    (hrecall : UpdatesRecall es) : NotReplayed es s := by
  induction ht with
  | nil =>
    exact ⟨(LawfulStream.new_ok hnew).2, .of_new hnew, by simp [Remembers, rtpAccepted],
      List.nodup_nil⟩
  | @snoc es s op _ ih =>
    refine (ih fun pre e post heq => hrecall pre e (post ++ [.of streamStep s op]) ?_).step op
      (hrecall es _ [] rfl)
    rw [heq, List.append_assoc]
    rfl

/-- A receiver accepts no index twice, and reports every index it has accepted as seen in all later
states, exactly when every successful update of the run recalls what was accepted before it. -/
theorem srtp_not_replayed_iff {config : StreamConfig} {ssrc : UInt32}
    {handler : Option KeyLimitHandler} {s₀ s : RecvStream}
    (hnew : RecvStream.new ssrc config handler = .ok s₀) {es : List (StreamEvent RecvStream)}
    (ht : Trace streamStep s₀ es s) :
    ((rtpAccepted es).Nodup ∧ ∀ pre s', pre <+: es → Trace streamStep s₀ pre s' →
      Remembers (rtpAccepted pre) s') ↔ UpdatesRecall es := by
  constructor
  · rintro ⟨-, hremember⟩ pre e post rfl size hsize
    obtain ⟨hpre, he, -⟩ := ht.split rfl
    obtain ⟨hrange, hknows⟩ := RtpReplayDb.Knows.run hnew hpre
    have hbefore := hremember pre e.pre (List.prefix_append _ _) hpre
    have hafter := hremember (pre ++ [e]) e.post ?_ ?_
    · refine (hbefore.step_iff hknows rfl ?_).mp hafter size hsize
      rw [he]
      exact StreamEvent.replay_of_step hrange _
    · rw [List.append_cons pre e post]
      exact List.prefix_append _ _
    · have hsnoc := hpre.snoc e.input
      rw [← he] at hsnoc
      rw [show e.post = (streamStep e.pre e.input).2 from congrArg Event.post he]
      exact hsnoc
  · intro hrecall
    refine ⟨(NotReplayed.run hnew ht hrecall).nodup, fun pre s' ⟨rest, heq⟩ hpre => ?_⟩
    refine (NotReplayed.run hnew hpre
      fun pre' e post heq' => hrecall pre' e (post ++ rest) ?_).remembers
    rw [← heq, heq', List.append_assoc]
    rfl

end Runs

section Example

open Vectors

attribute [local instance] Vectors.crates

/-- The window is narrowed to 8 packets for a while. -/
def narrowed : List (StreamOp RecvStream) :=
  [.call (unprotectCall 1 (by decide)),
    .update ((config [key none .default]).setReplayWindowSize 8) (by decide) [none],
    .call (unprotectCall 10 (by decide)),
    .update (config [key none .default]) (by decide) [none],
    .call (unprotectCall 1 (by decide))]

/-- The first packet is accepted again once the window is wide again. -/
theorem widened_window_forgets :
    (config [key none .default]).validate = .ok () ∧
      rtpAccepted (runAll streamStep plainReceiver narrowed).1 = [1, 10, 1] ∧
      ¬ (rtpAccepted (runAll streamStep plainReceiver narrowed).1).Nodup := by
  have haccepted : rtpAccepted (runAll streamStep plainReceiver narrowed).1 = [1, 10, 1] := by
    decide +kernel
  refine ⟨by decide, haccepted, ?_⟩
  rw [haccepted]
  decide

/-- While the window stays narrow it is not. -/
theorem srtp_not_replayed_iff_narrowed :
    (rtpAccepted (runAll streamStep plainReceiver (narrowed.take 3)).1).Nodup := by
  have hnarrow : ∀ e ∈ (runAll streamStep plainReceiver (narrowed.take 3)).1,
      (StreamEvent.newWindow e).all (fun size => decide (size.toNat ≤ e.pre.base.rtpIndex.windowSize)) =
        true := by
    decide +kernel
  have hnew : RecvStream.new 0xcafebabe (config [key none .default]) none = .ok plainReceiver :=
    recvStream_eq _ _
  refine ((srtp_not_replayed_iff hnew (.runAll streamStep _ _)).mpr
    (updatesRecall_of_le fun e he size hsize => ?_)).1
  have hle := hnarrow e he
  rw [hsize] at hle
  exact of_decide_eq_true hle

end Example

end LibSrtp
