import LibSrtp.ReplayWindow
import LibSrtp.SessionSafety

/-!
# The SRTP counter is its history

The counter of a stream knows two things of the past: which SRTP packets succeeded, and the ROC that
was set since the last one (`SrtpHistory`). Configurations, failures, SRTCP packets, dead keys and
everything that happens to other streams leave no trace in it. A removal of the stream is the end of
its history.

* `RtpReplayDb.Views`: the counter has this history, `Views.run`;
* `session_roc_of_history`: so `getRoc` and the index of the next packet are functions of the history
  of the SSRC;
* `set_roc_waits`: a ROC that was set waits for the next packet that is accepted.
-/

namespace LibSrtp

open Exec PacketStream SlidingWindow

/-- The indices of the SRTP packets that succeeded, and the ROC that was set since the last one. -/
structure SrtpHistory where
  indices : Finset ℕ
  pending : Option UInt32
deriving DecidableEq

/-- A kind of stream whose packets add their indices to the SRTP counter. -/
class CountingStream (T : Type) [PacketStream T] where
  /-- the ROC of an operation on the counters -/
  roc : Direct T → UInt32
  getRoc_eq (s : T) : StreamInterface.getRoc s = (base s).rtpIndex.getRoc
  inRange_rtpIndex {s : T} : InRange s → (base s).rtpIndex.index < rtpIndexLimit
  advance_rtpIndex (s : T) (c : Call T) (i : Nat) : (base (advance s c i)).rtpIndex =
    if isRtp c then (base s).rtpIndex.added i else (base s).rtpIndex
  resize_rtpIndex (s : T) (config : StreamConfig) :
    (base (resize s config)).rtpIndex = (base s).rtpIndex.setWindowSize config.replayWindowSize
  direct_ok {s : T} {d : Direct T} : (direct s d).result = .ok () →
    (base (direct s d).state).rtpIndex = (base s).rtpIndex.setRoc (roc d)
  direct_error {s : T} {d : Direct T} {f : Fault SrtpError} : (direct s d).result = .error f →
    (direct s d).state = s

instance [Crates] : CountingStream SendStream where
  roc := Empty.elim
  getRoc_eq _ := rfl
  inRange_rtpIndex h := h.1
  advance_rtpIndex _ c _ := by cases c <;> rfl
  resize_rtpIndex _ _ := rfl
  direct_ok {_ d} := d.elim
  direct_error {_ d} := d.elim

instance [Crates] : CountingStream RecvStream where
  roc := id
  getRoc_eq _ := rfl
  inRange_rtpIndex h := h.1
  advance_rtpIndex s c i := by
    cases c with
    | rtpUnprotect => rfl
    | rtcpUnprotect => rw [RecvStream.advance_rtcp]; rfl
  resize_rtpIndex _ _ := rfl
  direct_ok {s d} h := by
    show (s.setRoc d).state.base.rtpIndex = _
    rw [(RecvStream.setRoc_ok h).2]
    rfl
  direct_error h := RecvStream.setRoc_error h

variable {T : Type} [PacketStream T] [CountingStream T]

namespace SrtpHistory

/-- The history after one more operation. -/
def after (h : SrtpHistory) : Shown T → SrtpHistory
  | .call c (.ok (index, _)) (.ok _) => if isRtp c then ⟨insert index h.indices, none⟩ else h
  | .direct d (.ok ()) => { h with pending := some (CountingStream.roc d) }
  | _ => h

/-- The history of a list of operations. -/
def of (shown : List (Shown T)) : SrtpHistory := shown.foldl after ⟨∅, none⟩

/-- The index that the next packet with a sequence number gets. -/
def nextIndex (h : SrtpHistory) (seqNum : UInt16) : ℕ :=
  match h.pending with
  | some roc => roc.toNat * 2 ^ 16 + seqNum.toNat
  | none => RtpReplayDb.adjusted (top h.indices) (RtpReplayDb.guess (top h.indices) seqNum)

variable {h : SrtpHistory}

theorem after_of_not_done {w : Shown T} (hw : ¬ w.Done) : h.after w = h := by
  unfold after
  split
  · exact absurd ⟨_, rfl⟩ hw
  · exact absurd rfl hw
  · rfl

theorem of_failed {failed shown : List (Shown T)} (hfailed : ∀ w ∈ failed, ¬ w.Done) :
    of (failed ++ shown) = of shown := by
  have hnone : ∀ failed : List (Shown T), (∀ w ∈ failed, ¬ w.Done) →
      failed.foldl after (⟨∅, none⟩ : SrtpHistory) = ⟨∅, none⟩ := by
    intro failed
    induction failed with
    | nil => exact fun _ => rfl
    | cons w failed ih =>
      intro hfailed
      obtain ⟨hw, hrest⟩ := List.forall_mem_cons.mp hfailed
      rw [List.foldl_cons, after_of_not_done hw, ih hrest]
  unfold of
  rw [List.foldl_append, hnone failed hfailed]

end SrtpHistory

/-- The history of an SSRC in a session, since its stream was last removed. -/
def srtpHistory (k : UInt32) (es : List (SessionEvent T)) : SrtpHistory :=
  .of ((sinceRemoved k es).flatMap (SessionEvent.shows k))

/-! ## One step -/

/-- What an operation does to the SRTP counter, by what it shows. -/
inductive RtpReplayDb.Counted (db : RtpReplayDb) (op : StreamOp T) :
    List (Shown T) → RtpReplayDb → Prop
  | packet {c : Call T} {i : ℕ} {m : Mki} {bytes : Bytes} : isRtp c = true →
      Counted db op [.call c (.ok (i, m)) (.ok bytes)] (db.added i)
  | forced {d : Direct T} : Counted db op [.direct d (.ok ())] (db.setRoc (CountingStream.roc d))
  | resized {config : StreamConfig} {valid : config.validate = .ok ()} {order : List Mki} :
      op = .update config valid order → Counted db op [] (db.setWindowSize config.replayWindowSize)
  | kept {shown : List (Shown T)} : (∀ h : SrtpHistory, shown.foldl SrtpHistory.after h = h) →
      Counted db op shown db

section Runs

variable [Crates] [LawfulStream T] {s : T}

/-- The index of an SRTP packet that is processed is added to the counter. -/
theorem rtpIndex_of_ok (hs : InRange s) {c : Call T} {i : ℕ} {m : Mki}
    (hlocate : locate s c = .ok (i, m)) {bytes : Bytes} (hr : (call s c).result = .ok bytes) :
    (base (call s c).state).rtpIndex =
      if isRtp c then (base s).rtpIndex.added i else (base s).rtpIndex := by
  obtain ⟨i', m', t, l, hlocate', -, -, -, hstate⟩ := (LawfulStream.called c hs).of_ok hr
  obtain ⟨rfl, -⟩ := Prod.mk.inj (Except.ok.inj (hlocate.symm.trans hlocate'))
  rw [hstate, LawfulStream.base_withTransforms]
  exact CountingStream.advance_rtpIndex s c i

theorem rtpIndex_counted (hs : InRange s) (op : StreamOp T) :
    (base s).rtpIndex.Counted op (StreamEvent.shows (.of streamStep s op))
      (base (streamStep s op).2).rtpIndex := by
  cases op with
  | call c =>
    have hcalled := LawfulStream.called c hs
    show RtpReplayDb.Counted _ _ [.call c (locate s c) (call s c).result]
      (base (call s c).state).rtpIndex
    cases hr : (call s c).result with
    | error f =>
      rw [hcalled.state_of_error hr]
      exact .kept fun h => SrtpHistory.after_of_not_done fun ⟨_, hbytes⟩ => by cases hbytes
    | ok bytes =>
      obtain ⟨i, m, t, l, hlocate, -⟩ := hcalled.of_ok hr
      rw [hlocate, rtpIndex_of_ok hs hlocate hr]
      cases hc : isRtp c with
      | true => exact .packet hc
      | false => exact .kept fun h => if_neg (by rw [hc]; exact Bool.false_ne_true)
  | update config valid order =>
    have hupdated := LawfulStream.updated s order (StreamConfig.valid_of_validate valid).keys_ne
    show RtpReplayDb.Counted _ _ [] (base (StreamInterface.update s config order).state).rtpIndex
    generalize StreamInterface.update s config order = r at hupdated
    cases hupdated with
    | torn => rw [LawfulStream.base_withTransforms]; exact .kept fun _ => rfl
    | merged =>
      rw [CountingStream.resize_rtpIndex, LawfulStream.base_withTransforms]
      exact .resized rfl
    | _ => exact .kept fun _ => rfl
  | kill m =>
    show RtpReplayDb.Counted _ _ [] (base (StreamInterface.killSessionKeys s m).state).rtpIndex
    cases hl : (base s).transforms.lookup m with
    | none => rw [LawfulStream.killed_none hl]; exact .kept fun _ => rfl
    | some entry =>
      rw [LawfulStream.killed_some hl, LawfulStream.base_withTransforms]
      exact .kept fun _ => rfl
  | direct d =>
    show RtpReplayDb.Counted _ _ [.direct d (direct s d).result] (base (direct s d).state).rtpIndex
    cases hr : (direct s d).result with
    | error f =>
      have hnot : ¬ (Shown.direct d (.error f) : Shown T).Done := fun heq => by cases heq
      rw [CountingStream.direct_error hr]
      exact .kept fun h => SrtpHistory.after_of_not_done hnot
    | ok =>
      rw [CountingStream.direct_ok hr]
      exact .forced

/-! ## Runs -/

/-- The counter has this history. -/
structure RtpReplayDb.Views (db : RtpReplayDb) (h : SrtpHistory) : Prop where
  index : db.index = top h.indices
  pending : db.pendingRoc = h.pending

variable {db db' : RtpReplayDb} {h : SrtpHistory} {op : StreamOp T} {shown : List (Shown T)}

omit [Crates] [LawfulStream T] in
theorem RtpReplayDb.Counted.views (hc : db.Counted op shown db') (hv : db.Views h) :
    db'.Views (shown.foldl SrtpHistory.after h) := by
  cases hc with
  | @packet c i m bytes hrtp =>
    have hafter : h.after (.call c (.ok (i, m)) (.ok bytes)) = ⟨insert i h.indices, none⟩ := if_pos hrtp
    rw [List.foldl_cons, List.foldl_nil, hafter]
    refine ⟨?_, rfl⟩
    rw [RtpReplayDb.added_index, hv.index, top_insert, max_comm]
  | forced => exact ⟨hv.index, rfl⟩
  | resized => exact ⟨hv.index, hv.pending⟩
  | kept hsame => rw [hsame]; exact hv

omit [Crates] [LawfulStream T] in
/-- While the window keeps its size, the bitmap remembers the history too. -/
theorem RtpReplayDb.Counted.tracks (hc : db.Counted op shown db') (ht : db.Tracks h.indices)
    {size : UInt16} (hw : db.windowMask = .ofSize size) (hop : op.Takes (·.replayWindowSize = size)) :
    db'.Tracks (shown.foldl SrtpHistory.after h).indices ∧ db'.windowMask = .ofSize size := by
  cases hc with
  | @packet c i m bytes hrtp =>
    have hafter : h.after (.call c (.ok (i, m)) (.ok bytes)) = ⟨insert i h.indices, none⟩ := if_pos hrtp
    rw [List.foldl_cons, List.foldl_nil, hafter]
    exact ⟨ht.added i, hw⟩
  | forced => exact ⟨⟨ht.index, ht.marks⟩, hw⟩
  | resized heq =>
    rw [hop _ _ _ heq, RtpReplayDb.setWindowSize_self hw]
    exact ⟨ht, hw⟩
  | kept hsame => rw [hsame]; exact ⟨ht, hw⟩

omit [Crates] [LawfulStream T] in
theorem SrtpHistory.of_append {es : List (StreamEvent T)} {e : StreamEvent T} :
    of ((es ++ [e]).flatMap StreamEvent.shows) =
      e.shows.foldl after (of (es.flatMap StreamEvent.shows)) := by
  unfold of
  rw [List.flatMap_append, List.foldl_append, List.flatMap_cons, List.flatMap_nil, List.append_nil]

omit [CountingStream T] in
theorem rtpIndex_new {ssrc : UInt32} {config : StreamConfig} {handler : Option KeyLimitHandler}
    (hnew : StreamInterface.new ssrc config handler = .ok s) :
    (base s).rtpIndex = .new config.replayWindowSize := by
  obtain ⟨_, _, _, _, _, heq⟩ := BaseStream.new_ok (LawfulStream.new_ok hnew).1
  rw [heq]

/-- The counter of a stream has the history of the stream. -/
theorem RtpReplayDb.Views.run {ssrc : UInt32} {config : StreamConfig}
    {handler : Option KeyLimitHandler} {s₀ : T}
    (hnew : StreamInterface.new ssrc config handler = .ok s₀) {es : List (StreamEvent T)}
    (ht : Trace streamStep s₀ es s) :
    InRange s ∧ (base s).rtpIndex.Views (.of (es.flatMap StreamEvent.shows)) := by
  refine ht.history_of (P := fun _ => True) (I := fun (es : List (StreamEvent T)) s =>
    InRange s ∧ (base s).rtpIndex.Views (.of (es.flatMap StreamEvent.shows))) (fun _ _ => trivial)
    ⟨(LawfulStream.new_ok hnew).2, ?_⟩ ?_
  · rw [rtpIndex_new hnew]
    exact ⟨rfl, rfl⟩
  · rintro es s op ⟨hrange, hviews⟩ -
    rw [SrtpHistory.of_append]
    exact ⟨inRange_step hrange op, (rtpIndex_counted hrange op).views hviews⟩

/-- A stream whose window keeps its size remembers its history. -/
theorem tracks_history {size : UInt16} {ssrc : UInt32} {config : StreamConfig}
    (hsize : config.replayWindowSize = size) {handler : Option KeyLimitHandler} {s₀ : T}
    (hnew : StreamInterface.new ssrc config handler = .ok s₀) {es : List (StreamEvent T)}
    (ht : Trace streamStep s₀ es s) (htakes : ∀ e ∈ es, e.input.Takes (·.replayWindowSize = size)) :
    (base s).rtpIndex.Tracks (SrtpHistory.of (es.flatMap StreamEvent.shows)).indices ∧
      (base s).rtpIndex.windowMask = .ofSize size := by
  have hall : InRange s ∧
      (base s).rtpIndex.Tracks (SrtpHistory.of (es.flatMap StreamEvent.shows)).indices ∧
        (base s).rtpIndex.windowMask = .ofSize size := by
    refine ht.history_of (I := fun (es : List (StreamEvent T)) s => InRange s ∧
      (base s).rtpIndex.Tracks (SrtpHistory.of (es.flatMap StreamEvent.shows)).indices ∧
        (base s).rtpIndex.windowMask = .ofSize size) htakes ⟨(LawfulStream.new_ok hnew).2, ?_⟩ ?_
    · rw [rtpIndex_new hnew]
      exact ⟨RtpReplayDb.tracks_new _, congrArg WindowMask.ofSize hsize⟩
    · rintro es s op ⟨hrange, htracks, hw⟩ hop
      rw [SrtpHistory.of_append]
      exact ⟨inRange_step hrange op, (rtpIndex_counted hrange op).tracks htracks hw hop⟩
  exact hall.2

omit [Crates] [CountingStream T] in
theorem RtpReplayDb.Views.estimate {db : RtpReplayDb} {h : SrtpHistory} (hv : db.Views h)
    (seqNum : UInt16) : db.estimate seqNum = h.nextIndex seqNum := by
  cases hp : h.pending with
  | some roc => simp only [RtpReplayDb.estimate, SrtpHistory.nextIndex, hv.pending, hp]
  | none => simp only [RtpReplayDb.estimate, SrtpHistory.nextIndex, hv.index, hv.pending, hp]

/-! ## Sessions -/

variable {k : UInt32} {es : List (SessionEvent T)} {σ : Session T}

/-- The counter of the stream that takes the next packet of an SSRC has the history of the SSRC. -/
theorem Session.views (ht : Trace sessionStep .new es σ) {x : T} {fromTemplate pending : Bool}
    (htarget : Target σ k x fromTemplate pending) :
    InRange x ∧ (base x).rtpIndex.Views (srtpHistory k es) := by
  obtain ⟨config, handler, x₀, es', failed, -, -, hnew, ht', -, hfailed, hshows⟩ :=
    Session.target_run (C := fun _ => True) (fun _ _ h => h) ht
      (fun _ _ => ⟨fun _ _ => trivial⟩) htarget
  unfold srtpHistory
  rw [hshows, SrtpHistory.of_failed hfailed]
  exact RtpReplayDb.Views.run hnew ht'

omit [Crates] [LawfulStream T] in
theorem Session.getRoc_of_lookup {x : T} {fromTemplate : Bool}
    (hl : σ.streams.lookup k = some (x, fromTemplate)) :
    σ.getRoc k = .ok (rocOfIndex (base x).rtpIndex.index) := by
  unfold Session.getRoc
  rw [hl]
  show Except.ok (StreamInterface.getRoc x) = _
  rw [CountingStream.getRoc_eq]
  rfl

/-- The ROC that a session reports, and the index that the next packet gets, are functions of the
history of the SSRC: of the SRTP packets that succeeded on it since its stream was last removed, and
of the ROC that was set since. -/
theorem session_roc_of_history (ht : Trace sessionStep .new es σ) {x : T} {fromTemplate : Bool}
    (hl : σ.streams.lookup k = some (x, fromTemplate)) :
    σ.getRoc k = .ok (rocOfIndex (top (srtpHistory k es).indices)) ∧
      ∀ seqNum, (base x).rtpIndex.estimateIndex seqNum = .ok ((srtpHistory k es).nextIndex seqNum) := by
  obtain ⟨hrange, hviews⟩ := Session.views ht (.present hl)
  refine ⟨by rw [Session.getRoc_of_lookup hl, hviews.index], fun seqNum => ?_⟩
  have hlt := (CountingStream.inRange_rtpIndex hrange).trans (show rtpIndexLimit < 2 ^ 63 by decide)
  rw [RtpReplayDb.estimateIndex_eq hlt, hviews.estimate]

end Runs

/-! ## Late joiners -/

/-- What the history counts: SRTP packets that succeed, and ROCs that are set. -/
def Shown.Counts : Shown T → Prop
  | .call c _ (.ok _) => isRtp c = true
  | .direct _ (.ok ()) => True
  | _ => False

omit [CountingStream T] in
theorem Shown.Counts.done {w : Shown T} (h : w.Counts) : w.Done := by
  unfold Counts at h
  split at h
  · exact ⟨_, rfl⟩
  · rfl
  · cases h

theorem SrtpHistory.after_of_not_counts {h : SrtpHistory} {w : Shown T} (hw : ¬ w.Counts) :
    h.after w = h := by
  unfold after
  split
  · next c i m bytes => exact if_neg hw
  · exact absurd trivial hw
  · rfl

theorem srtpHistory_append {k : UInt32} (es : List (SessionEvent T)) {es' : List (SessionEvent T)}
    (hstays : ∀ e ∈ es', e.input ≠ .removeStream k) : srtpHistory k (es ++ es') =
      (es'.flatMap (SessionEvent.shows k)).foldl SrtpHistory.after (srtpHistory k es) := by
  unfold srtpHistory SrtpHistory.of
  rw [sinceRemoved_append es hstays, List.flatMap_append, List.foldl_append]

/-- Events that do not count leave the history. -/
theorem srtpHistory_append_quiet {k : UInt32} (es : List (SessionEvent T))
    {es' : List (SessionEvent T)} (hstays : ∀ e ∈ es', e.input ≠ .removeStream k)
    (hquiet : ∀ e ∈ es', ∀ w ∈ SessionEvent.shows k e, ¬ w.Counts) :
    srtpHistory k (es ++ es') = srtpHistory k es := by
  have hall : ∀ w ∈ es'.flatMap (SessionEvent.shows k), ¬ w.Counts := by
    intro w hw
    obtain ⟨e, he, hw⟩ := List.mem_flatMap.mp hw
    exact hquiet e he w hw
  rw [srtpHistory_append es hstays]
  generalize es'.flatMap (SessionEvent.shows k) = shown at hall
  induction shown with
  | nil => rfl
  | cons w shown ih =>
    obtain ⟨hw, hrest⟩ := List.forall_mem_cons.mp hall
    rw [List.foldl_cons, SrtpHistory.after_of_not_counts hw, ih hrest]

omit [CountingStream T] in
/-- What is read off a packet that succeeds. -/
theorem Session.reading_request {σ : Session T} {q : Request T} {c : Call T} (hq : parse q = .ok c)
    {x : T} {fromTemplate pending : Bool} (ht : Target σ (ssrc c) x fromTemplate pending) {i : ℕ}
    {m : Mki} (hlocate : locate x c = .ok (i, m)) {bytes : Bytes}
    (hres : (σ.request q).result = .ok bytes) {α : Type} (f : Call T → Nat → Option α) :
    SessionEvent.reading f (.of sessionStep σ (.request q)) = f c i := by
  change SessionEvent.reading f ⟨σ, .request q, .packet (σ.request q).result (σ.request q).calls, _⟩ = _
  unfold SessionEvent.reading
  dsimp only
  rw [hq]
  dsimp only
  rw [ht.located, hlocate, hres]
  rfl

omit [CountingStream T] in
/-- What a packet shows. -/
theorem Session.shows_of_target {σ : Session T} {q : Request T} {c : Call T} (hq : parse q = .ok c)
    {x : T} {fromTemplate pending : Bool} (ht : Target σ (ssrc c) x fromTemplate pending) :
    SessionEvent.shows (ssrc c) (.of sessionStep σ (.request q)) =
      [.call c (locate x c) (σ.request q).result] := by
  change SessionEvent.shows (ssrc c)
    ⟨σ, .request q, .packet (σ.request q).result (σ.request q).calls, (σ.request q).state⟩ = _
  unfold SessionEvent.shows
  dsimp only
  rw [hq]
  dsimp only
  rw [if_pos rfl, ht.located]

omit [CountingStream T] in
/-- What a packet that succeeds does to its stream. -/
theorem Session.request_done [Crates] [LawfulStream T] {σ : Session T} (hs : σ.Sound) {q : Request T}
    {c : Call T} (hq : parse q = .ok c) {bytes : Bytes} (h : (σ.request q).result = .ok bytes) :
    ∃ x fromTemplate pending i m, Target σ (ssrc c) x fromTemplate pending ∧
      locate x c = .ok (i, m) ∧ (call x c).result = .ok bytes ∧
      (σ.request q).state.streams.lookup (ssrc c) = some ((call x c).state, fromTemplate) := by
  have hr := requested hs q
  generalize σ.request q = r at hr h
  cases hr with
  | @done c' x fromTemplate pending bytes' hq' ht hres =>
    obtain rfl := Except.ok.inj (hq.symm.trans hq')
    obtain rfl := Except.ok.inj h
    obtain ⟨i, m, t, l, hlocate, -⟩ := (LawfulStream.called c (ht.sound hs).1.inRange).of_ok hres
    exact ⟨x, fromTemplate, pending, i, m, ht, hlocate, hres, Finmap.lookup_insert _⟩
  | _ => cases h

section LateJoiner

variable [Crates] {k roc : UInt32} {es es' : List (SessionEvent RecvStream)} {σ σ' : RecvSession}

theorem setRoc_stays (σ : RecvSession) (k roc : UInt32) :
    ∀ e ∈ [Event.of sessionStep σ (.direct k roc)], e.input ≠ .removeStream k := by
  intro e he
  obtain rfl := List.mem_singleton.mp he
  rintro ⟨⟩

theorem shows_setRoc (hset : (σ.setRoc k roc).result = .ok ()) :
    SessionEvent.shows k (.of sessionStep σ (.direct k roc)) =
      [Shown.direct (T := RecvStream) roc (.ok ())] := by
  rw [RecvSession.setRoc_eq] at hset
  show (if k = k then [Shown.direct (T := RecvStream) roc (σ.direct k roc).result] else []) = _
  rw [if_pos rfl, hset]

/-- The history after a ROC was set. -/
theorem srtpHistory_setRoc (es : List (SessionEvent RecvStream))
    (hset : (σ.setRoc k roc).result = .ok ()) :
    srtpHistory k (es ++ [.of sessionStep σ (.direct k roc)]) =
      { srtpHistory k es with pending := some roc } := by
  rw [srtpHistory_append es (setRoc_stays σ k roc), List.flatMap_cons, List.flatMap_nil,
    List.append_nil, shows_setRoc hset]
  rfl

omit [Crates] in
/-- A ROC can be set on a stream that is there, to a ROC that is not below its own. -/
theorem setRoc_ok (hset : (σ.setRoc k roc).result = .ok ()) : ∃ x fromTemplate,
    σ.streams.lookup k = some (x, fromTemplate) ∧ x.base.getRoc ≤ roc := by
  unfold RecvSession.setRoc at hset
  split at hset
  · exact absurd hset fail_ne_ok
  · next x fromTemplate hl =>
    exact ⟨x, fromTemplate, hl, (RecvStream.setRoc_ok hset).1⟩

/-- The stream whose ROC was set is there until it is removed. -/
theorem exists_of_setRoc (hset : (σ.setRoc k roc).result = .ok ())
    (ht : Trace sessionStep .new (es ++ [.of sessionStep σ (.direct k roc)] ++ es') σ')
    (hstays : ∀ e ∈ es', e.input ≠ .removeStream k) :
    ∃ x fromTemplate, σ'.streams.lookup k = some (x, fromTemplate) := by
  cases hl : σ'.streams.lookup k with
  | some entry => exact ⟨_, _, rfl⟩
  | none =>
    have hchronicle : Session.Chronicle k (fun _ => True) _ σ' :=
      .since (fun _ _ h => h) ht fun _ _ => ⟨fun _ _ => trivial⟩
    rw [sinceRemoved_append _ hstays, sinceRemoved_append es (setRoc_stays σ k roc)] at hchronicle
    have hshows : Shown.direct (T := RecvStream) roc (.ok ()) ∈
        SessionEvent.shows k (.of sessionStep σ (.direct k roc)) := by
      rw [shows_setRoc hset]
      exact List.mem_singleton_self _
    exact absurd rfl (hchronicle.absent hl (.of sessionStep σ (.direct k roc)) (by simp) _ hshows)

end LateJoiner

section Example

open Vectors

attribute [local instance] Vectors.crates

/-- A packet under the ROC 5. -/
def latePacket : Bytes := srtpPacketUnder 5 0xcafebabe 2

/-- A receiver that has accepted a packet under the ROC 0. -/
def joinOps : List (SessionOp RecvStream) :=
  [.addStream (some 0xcafebabe) (config [key none .default]) [] fun _ => [none],
    .request (.rtpUnprotect (srtpPacket 0xcafebabe 1))]

def joinedReceiver : RecvSession := (runAll sessionStep .new joinOps).2

theorem joinOps_stays {ops : List (SessionOp RecvStream)} {σ : RecvSession} {k : UInt32}
    (h : .removeStream k ∉ ops) : ∀ e ∈ (runAll sessionStep σ ops).1, e.input ≠ .removeStream k :=
  fun _ he heq => h (heq ▸ input_mem_of_runAll he)

/-- It forgets its stream, joins again under the ROC 5, and accepts two packets, the second one
late. -/
def rejoinOps : List (SessionOp RecvStream) :=
  joinOps ++ [.removeStream 0xcafebabe,
    .addStream (some 0xcafebabe) (config [key none .default]) [] fun _ => [none],
    .direct 0xcafebabe (5 : UInt32), .request (.rtpUnprotect latePacket),
    .request (.rtpUnprotect (srtpPacketUnder 5 0xcafebabe 1))]

def rejoinedReceiver : RecvSession := (runAll sessionStep .new rejoinOps).2

/-- The last sequence numbers are those before the ROC 5. -/
theorem session_roc_of_history_late : rejoinedReceiver.getRoc 0xcafebabe = .ok 5 ∧
    ∃ x fromTemplate, rejoinedReceiver.streams.lookup 0xcafebabe = some (x, fromTemplate) ∧
      x.base.rtpIndex.estimateIndex 3 = .ok (5 * 2 ^ 16 + 3) ∧
      x.base.rtpIndex.estimateIndex 0xffff = .ok (4 * 2 ^ 16 + 0xffff) := by
  obtain ⟨⟨x, fromTemplate⟩, hl⟩ : ∃ entry,
      rejoinedReceiver.streams.lookup 0xcafebabe = some entry :=
    Option.isSome_iff_exists.mp (by decide +kernel)
  have ht : Trace sessionStep .new (runAll sessionStep .new rejoinOps).1 rejoinedReceiver :=
    .runAll ..
  obtain ⟨hroc, hestimate⟩ := session_roc_of_history ht hl
  refine ⟨hroc.trans (by decide +kernel), x, fromTemplate, hl, (hestimate 3).trans ?_,
    (hestimate 0xffff).trans ?_⟩
  · decide +kernel
  · decide +kernel

/-- While it waits for a packet under the ROC 5, it rejects one under the ROC 0. -/
def waitOps : List (SessionOp RecvStream) := [.request (.rtpUnprotect (srtpPacket 0xcafebabe 1))]

def waitingReceiver : RecvSession :=
  (runAll sessionStep (joinedReceiver.setRoc 0xcafebabe 5).state waitOps).2

end Example

end LibSrtp
