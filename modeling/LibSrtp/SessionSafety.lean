import LibSrtp.IndexRollback
import LibSrtp.RtpReplay
import LibSrtp.SessionStreams

/-!
# Nonces and replays in a whole session

What holds of one stream holds of a session with any number of streams, explicit or from the
template, in any interleaving, as long as no stream is removed: each stream goes through one run of
its own (`session_stream_history`), and packets of different SSRCs differ by their SSRC.

* `session_srtp_ivs_distinct`: a sender session enciphers no two SRTP packets under one IV;
* `session_srtcp_ivs_distinct`: nor two SRTCP packets, for `2^31` packets of an SSRC;
* `session_srtp_not_replayed`: a receiver session accepts no SRTP packet twice;
* `removed_stream_starts_again`: a session that removes a stream is as if it never had it, so
  neither result holds of sessions that remove streams.
-/

namespace LibSrtp

open Exec PacketStream

section Sender

variable [Crates]

theorem SendCall.srtp_ssrc (c : Call SendStream) (i : Nat) (u : SrtpUse)
    (h : SendCall.srtp c i = some u) : u.header.ssrc = ssrc c := by
  cases c with
  | rtpProtect header plain mki parsed =>
    obtain rfl := Option.some.inj h
    rfl
  | rtcpProtect => cases h

/-- A stream uses what it shows. -/
theorem streamReadings_srtp (es : List (StreamEvent SendStream)) :
    streamReadings SendCall.srtp es = rtpUses es := by
  have hone : ∀ e : StreamEvent SendStream,
      e.shows.filterMap (Shown.reading SendCall.srtp) = e.rtpUse.toList := by
    rintro ⟨s, op, answer, s'⟩
    cases op with
    | call c =>
      cases answer with
      | packet r =>
        cases c with
        | rtpProtect header plain mki parsed =>
          cases r with
          | ok bytes =>
            have hlocate : locate s (SendCall.rtpProtect header plain mki parsed) =
              (s.rtpIndex header >>= fun i => .ok (i, mki)) := rfl
            simp only [StreamEvent.shows, StreamEvent.rtpUse, hlocate]
            cases s.rtpIndex header <;> rfl
          | error f =>
            cases hlocate : locate s (SendCall.rtpProtect header plain mki parsed) <;>
              simp [StreamEvent.shows, StreamEvent.rtpUse, Shown.reading, hlocate]
        | rtcpProtect header plain mki parsed => cases r <;> rfl
      | unit r => cases c <;> rfl
    | direct d => exact d.elim
    | _ => rfl
  exact streamReadings_eq_filterMap hone es

/-- What is read off a packet of a sender session is read off one that was enciphered. -/
theorem Session.enciphers_of_reading {es : List (SessionEvent SendStream)} {s : SendSession}
    (ht : Trace sessionStep .new es s) {e : SessionEvent SendStream} (he : e ∈ es) {α : Type}
    {f : SendCall → Nat → Option α} {a : α} (h : SessionEvent.reading f e = some a) :
    ∃ p ∈ e.processed, f p.call p.index = some a ∧ p.Enciphers := by
  obtain ⟨p, hp, hread, hproper⟩ := SessionEvent.processed_of_reading ht he h
  exact ⟨p, hp, hread, hproper.enciphers⟩

/-- No repeats, and always this window. -/
def StreamConfig.SendsOnce (size : UInt16) (config : StreamConfig) : Prop :=
  config.replayWindowSize = size ∧ config.allowSendRepeat = false

omit [Crates] in
theorem RtpReplayDb.setWindowSize_self {db : RtpReplayDb} {size : UInt16}
    (h : db.windowMask = .ofSize size) : db.setWindowSize size = db := by
  unfold setWindowSize
  rw [← h]

/-- What an operation does to the index of a sender. -/
inductive SendStream.Counted (s : SendStream) (op : StreamOp SendStream) (s' : SendStream) : Prop
  | added {c : SendCall} (i : ℕ) : op = .call c → s'.base.rtpIndex = s.base.rtpIndex.added i →
      s'.base.allowSendRepeat = s.base.allowSendRepeat → Counted s op s'
  | kept : s'.base.rtpIndex = s.base.rtpIndex →
      s'.base.allowSendRepeat = s.base.allowSendRepeat → Counted s op s'
  | resized {config : StreamConfig} {valid : config.validate = .ok ()} {order : List Mki} :
      op = .update config valid order →
      s'.base.rtpIndex = s.base.rtpIndex.setWindowSize config.replayWindowSize →
      s'.base.allowSendRepeat = config.allowSendRepeat → Counted s op s'

theorem SendStream.counted {s : SendStream} (hs : InRange s) (op : StreamOp SendStream) :
    s.Counted op (streamStep s op).2 := by
  cases op with
  | call c =>
    have hcalled := LawfulStream.called c hs
    show s.Counted _ (call s c).state
    cases hr : (call s c).result with
    | error f => rw [hcalled.state_of_error hr]; exact .kept rfl rfl
    | ok bytes =>
      obtain ⟨i, m, t, l, -, -, -, -, hstate⟩ := hcalled.of_ok hr
      rw [hstate]
      cases c with
      | rtpProtect header plain mki parsed => exact .added i rfl rfl rfl
      | rtcpProtect header plain mki parsed => exact .kept rfl rfl
  | update config valid order =>
    have hupdated := LawfulStream.updated s order (StreamConfig.valid_of_validate valid).keys_ne
    show s.Counted _ (StreamInterface.update s config order).state
    generalize StreamInterface.update s config order = r at hupdated
    cases hupdated with
    | merged => exact .resized rfl rfl rfl
    | _ => exact .kept rfl rfl
  | kill m =>
    show s.Counted _ (StreamInterface.killSessionKeys s m).state
    cases hl : (PacketStream.base s).transforms.lookup m with
    | none => rw [LawfulStream.killed_none hl]; exact .kept rfl rfl
    | some entry => rw [LawfulStream.killed_some hl]; exact .kept rfl rfl
  | direct d => exact d.elim

/-- The index of a sender never goes back. -/
theorem SendStream.Counted.index_le {s s' : SendStream} {op : StreamOp SendStream}
    (h : s.Counted op s') : s.base.rtpIndex.index ≤ s'.base.rtpIndex.index := by
  cases h with
  | added i _ hdb => rw [hdb]; exact le_max_left _ _
  | kept hdb => rw [hdb]
  | resized _ hdb => rw [hdb]; exact le_rfl

theorem SendStream.Counted.windowMask {s s' : SendStream} {op : StreamOp SendStream}
    (h : s.Counted op s') {size : UInt16} (hop : op.Takes (·.SendsOnce size))
    (hw : s.base.rtpIndex.windowMask = .ofSize size) : s'.base.rtpIndex.windowMask = .ofSize size := by
  cases h with
  | added i _ hdb => rw [hdb]; exact hw
  | kept hdb => rw [hdb]; exact hw
  | resized hop' hdb => rw [hdb, ← (hop _ _ _ hop').1]; rfl

/-- A sender that is never updated to another window uses no index twice. -/
structure KeepsOnce (size : UInt16) (uses : List SrtpUse) (s : SendStream) : Prop where
  once : UsedOnce uses s
  window : s.base.rtpIndex.windowMask = .ofSize size

theorem KeepsOnce.new {size : UInt16} {config : StreamConfig} (hv : config.Valid)
    (hC : config.SendsOnce size) {ssrc : UInt32} {handler : Option KeyLimitHandler} {s : SendStream}
    (hnew : SendStream.new ssrc config handler = .ok s) : KeepsOnce size [] s := by
  have hsound : Sound s := .new hv hnew
  obtain ⟨b, hb, h⟩ := bind_eq_ok.mp hnew
  obtain rfl := Except.ok.inj h
  obtain ⟨_, _, _, _, _, rfl⟩ := BaseStream.new_ok hb
  refine ⟨⟨hsound, hC.2, RtpReplayDb.tracks_new _, by simp, List.nodup_nil⟩, ?_⟩
  rw [← hC.1]
  rfl

theorem KeepsOnce.step {size : UInt16} {uses : List SrtpUse} {s : SendStream}
    (h : KeepsOnce size uses s) {op : StreamOp SendStream} (hop : op.Takes (·.SendsOnce size))
    (hlimit : (streamStep s op).2.base.rtpIndex.index < 2 ^ 48) :
    KeepsOnce size (uses ++ (StreamEvent.rtpUse (.of streamStep s op)).toList) (streamStep s op).2 := by
  have hrange := h.once.sound.inRange
  have hcounted := SendStream.counted hrange op
  refine ⟨?_, hcounted.windowMask hop h.window⟩
  by_cases hupdate : ∃ config valid order, op = .update config valid order
  · obtain ⟨config, valid, order, rfl⟩ := hupdate
    obtain ⟨hsize, hrepeat⟩ := hop config valid order rfl
    show UsedOnce (uses ++ []) _
    rw [List.append_nil]
    have hsound := h.once.sound.step (.update config valid order)
    generalize (streamStep s (.update config valid order)).2 = s' at hcounted hsound ⊢
    cases hcounted with
    | added i heq => cases heq
    | kept hdb hr => exact h.once.congr hsound hdb hr
    | resized heq hdb hr =>
      cases heq
      rw [hsize, RtpReplayDb.setWindowSize_self h.window] at hdb
      exact h.once.congr hsound hdb (hr.trans (hrepeat.trans h.once.noRepeat.symm))
  · exact h.once.step (fun config valid order heq => hupdate ⟨config, valid, order, heq⟩) hlimit

theorem index_le_run {s₀ s : SendStream} (hs : InRange s₀) {es : List (StreamEvent SendStream)}
    (ht : Trace streamStep s₀ es s) : ∀ e ∈ es, e.post.base.rtpIndex.index ≤ s.base.rtpIndex.index := by
  have hall : InRange s ∧ ∀ e ∈ es, e.post.base.rtpIndex.index ≤ s.base.rtpIndex.index := by
    refine ht.history_of (P := fun _ => True) (I := fun (es : List (StreamEvent SendStream)) s =>
      InRange s ∧ ∀ e ∈ es, e.post.base.rtpIndex.index ≤ s.base.rtpIndex.index) (fun _ _ => trivial)
      ⟨hs, by simp⟩ ?_
    rintro es s op ⟨hrange, hle⟩ -
    refine ⟨inRange_step hrange op, fun e he => ?_⟩
    rcases List.mem_append.mp he with he | he
    · exact (hle e he).trans (SendStream.counted hrange op).index_le
    · obtain rfl := List.mem_singleton.mp he
      exact le_rfl
  exact hall.2

theorem KeepsOnce.run {size : UInt16} {s₀ s : SendStream} (h : KeepsOnce size [] s₀)
    {es : List (StreamEvent SendStream)} (ht : Trace streamStep s₀ es s)
    (htakes : ∀ e ∈ es, e.input.Takes (·.SendsOnce size)) (hlimit : s.base.rtpIndex.index < 2 ^ 48) :
    KeepsOnce size (rtpUses es) s := by
  have hle := index_le_run h.once.sound.inRange ht
  refine ht.history_of (I := fun es s => KeepsOnce size (rtpUses es) s)
    (P := fun e => e.input.Takes (·.SendsOnce size) ∧ e.post.base.rtpIndex.index < 2 ^ 48)
    (fun e he => ⟨htakes e he, (hle e he).trans_lt hlimit⟩) h ?_
  rintro es s op h ⟨hop, hpost⟩
  rw [rtpUses_append]
  exact h.step hop hpost

theorem KeepsOnce.ivsDiffer {size : UInt16} {uses : List SrtpUse} {s : SendStream}
    (h : KeepsOnce size uses s) : uses.Pairwise SrtpUse.IvsDiffer :=
  (List.pairwise_map.mp h.once.nodup).imp_of_mem fun hu hv hne =>
    SrtpUse.ivsDiffer (h.once.fits _ hu) (h.once.fits _ hv) hne

omit [Crates] in
theorem SrtpUse.ivsDiffer_of_ssrc {u v : SrtpUse} (h : u.header.ssrc ≠ v.header.ssrc) :
    u.IvsDiffer v :=
  ⟨fun _ heq => h (AesCmSha1.rtpIv_inj heq).1, fun _ heq => h (AesGcm.rtpIv_inj heq).1⟩

/-- A sender session that is only given configurations without repeats and with one window size, and
that removes no stream, enciphers no two SRTP packets under one IV, under any one session salt: not in
one stream, explicit or from the template, nor in two, until the index of a stream passes 48 bits. -/
theorem session_srtp_ivs_distinct {size : UInt16} {es : List (SessionEvent SendStream)}
    {s : SendSession} (ht : Trace sessionStep .new es s)
    (hsteady : ∀ e ∈ es, e.input.Steady (·.SendsOnce size))
    (hlimit : ∀ k x fromTemplate, s.streams.lookup k = some (x, fromTemplate) →
      x.base.rtpIndex.index < 2 ^ 48) :
    (readings SendCall.srtp es).Pairwise SrtpUse.IvsDiffer ∧
      ∀ e ∈ es, ∀ u ∈ e.reading SendCall.srtp, ∃ p ∈ e.processed,
        SendCall.srtp p.call p.index = some u ∧ p.Enciphers := by
  refine ⟨?_, fun e he u hu => Session.enciphers_of_reading ht he hu⟩
  refine Session.pairwise_of_streams (fun _ _ h => h) ht hsteady SendCall.srtp_ssrc
    (fun _ _ => SrtpUse.ivsDiffer_of_ssrc) ?_
  intro k x fromTemplate hl config handler x₀ es' hv hC hnew ht' htakes _
  rw [streamReadings_srtp]
  exact ((KeepsOnce.new hv hC hnew).run ht' htakes (hlimit k x fromTemplate hl)).ivsDiffer

/-! ### SRTCP -/

theorem SendCall.srtcpUse_ssrc (c : Call SendStream) (i : Nat) (u : SrtcpUse)
    (h : SendCall.srtcpUse c i = some u) : u.header.ssrc = ssrc c := by
  cases c with
  | rtcpProtect header plain mki parsed =>
    obtain rfl := Option.some.inj h
    rfl
  | rtpProtect => cases h

theorem streamReadings_srtcpUse (es : List (StreamEvent SendStream)) :
    streamReadings SendCall.srtcpUse es = rtcpUses es := by
  have hone : ∀ e : StreamEvent SendStream,
      e.shows.filterMap (Shown.reading SendCall.srtcpUse) = e.rtcpUse.toList := by
    rintro ⟨s, op, answer, s'⟩
    cases op with
    | call c =>
      cases answer with
      | packet r =>
        cases c with
        | rtcpProtect header plain mki parsed => cases r <;> rfl
        | rtpProtect header plain mki parsed =>
          cases hlocate : locate s (SendCall.rtpProtect header plain mki parsed) <;> cases r <;>
            simp [StreamEvent.shows, StreamEvent.rtcpUse, Shown.reading, SendCall.srtcpUse, hlocate]
      | unit r => cases c <;> rfl
    | direct d => exact d.elim
    | _ => rfl
  exact streamReadings_eq_filterMap hone es

/-- The indices of a sender count up from zero. -/
theorem Counts.run {config : StreamConfig} (hv : config.Valid) {ssrc : UInt32}
    {handler : Option KeyLimitHandler} {s₀ s : SendStream}
    (hnew : SendStream.new ssrc config handler = .ok s₀) {es : List (StreamEvent SendStream)}
    (ht : Trace streamStep s₀ es s) : Counts (rtcpUses es) s := by
  refine ht.history_of (I := fun es s => Counts (rtcpUses es) s) (P := fun _ => True)
    (fun _ _ => trivial) ⟨.new hv hnew, ?_, fun _ hn => absurd hn (Nat.not_lt_zero _)⟩ ?_
  · obtain ⟨b, -, h⟩ := bind_eq_ok.mp hnew
    obtain rfl := Except.ok.inj h
    rfl
  · rintro es s op h -
    rw [rtcpUses_append]
    exact h.step op

/-- Neither construction gives the two packets the same IV, whatever the session salt. -/
def SrtcpUse.IvsDiffer (u v : SrtcpUse) : Prop :=
  (∀ salt, AesCmSha1.rtcpIv salt u.header (UInt32.ofNat u.index) ≠
    AesCmSha1.rtcpIv salt v.header (UInt32.ofNat v.index)) ∧
  ∀ salt, AesGcm.rtcpIv salt u.header (UInt32.ofNat u.index) ≠
    AesGcm.rtcpIv salt v.header (UInt32.ofNat v.index)

omit [Crates] in
theorem SrtcpUse.ivsDiffer_of_ssrc {u v : SrtcpUse} (h : u.header.ssrc ≠ v.header.ssrc) :
    u.IvsDiffer v :=
  ⟨fun _ heq => h (AesCmSha1.rtcpIv_inj heq).1, fun _ heq => h (AesGcm.rtcpIv_inj heq).1⟩

theorem Counts.ivsDiffer {uses : List SrtcpUse} {s : SendStream} (h : Counts uses s)
    (hlen : uses.length ≤ rtcpRollback) : uses.Pairwise SrtcpUse.IvsDiffer := by
  have hindex : ∀ (n : ℕ) (hn : n < uses.length), uses[n].index = n := fun n hn =>
    (h.index n hn).trans (Nat.mod_eq_of_lt (hn.trans_le hlen))
  have htoNat : ∀ (n : ℕ) (hn : n < uses.length), (UInt32.ofNat uses[n].index).toNat = n := by
    intro n hn
    rw [hindex n hn]
    exact UInt32.toNat_ofNat_of_lt' ((hn.trans_le hlen).trans (by decide))
  rw [List.pairwise_iff_getElem]
  intro i j hi hj hij
  have hne : UInt32.ofNat uses[i].index ≠ UInt32.ofNat uses[j].index := by
    intro heq
    have heq := congrArg UInt32.toNat heq
    rw [htoNat i hi, htoNat j hj] at heq
    exact hij.ne heq
  exact ⟨fun _ heq => hne (AesCmSha1.rtcpIv_inj heq).2, fun _ heq => hne (AesGcm.rtcpIv_inj heq).2⟩

/-- A sender session that removes no stream enciphers no two SRTCP packets under one IV, under any one
session salt, neither in one stream nor in two, as long as no more than `2^31` SRTCP packets of one
SSRC succeed. -/
theorem session_srtcp_ivs_distinct {es : List (SessionEvent SendStream)} {s : SendSession}
    (ht : Trace sessionStep .new es s) (hstays : ∀ e ∈ es, ∀ k, e.input ≠ .removeStream k)
    (hcount : ∀ k, ((readings SendCall.srtcpUse es).filter (·.header.ssrc = k)).length ≤ rtcpRollback) :
    (readings SendCall.srtcpUse es).Pairwise SrtcpUse.IvsDiffer ∧
      ∀ e ∈ es, ∀ u ∈ e.reading SendCall.srtcpUse, ∃ p ∈ e.processed,
        SendCall.srtcpUse p.call p.index = some u ∧ p.Enciphers := by
  refine ⟨?_, fun e he u hu => Session.enciphers_of_reading ht he hu⟩
  refine Session.pairwise_of_streams (C := fun _ => True) (fun _ _ h => h) ht
    (fun e he => ⟨hstays e he, fun _ => trivial⟩) SendCall.srtcpUse_ssrc
    (fun _ _ => SrtcpUse.ivsDiffer_of_ssrc) ?_
  intro k x fromTemplate hl config handler x₀ es' hv hC hnew ht' htakes hread
  have hlen := hcount k
  rw [hread] at hlen
  rw [streamReadings_srtcpUse] at hlen ⊢
  exact (Counts.run hv hnew ht').ivsDiffer hlen

end Sender

section Receiver

variable [Crates]

/-- The SSRC and the index of an SRTP packet. -/
def RecvCall.srtp : RecvCall → Nat → Option (UInt32 × ℕ)
  | .rtpUnprotect header _ _, index => some (header.ssrc, index)
  | .rtcpUnprotect .., _ => none

theorem RecvCall.srtp_ssrc (c : Call RecvStream) (i : Nat) (a : UInt32 × ℕ)
    (h : RecvCall.srtp c i = some a) : a.1 = ssrc c := by
  cases c with
  | rtpUnprotect header cipher parsed =>
    obtain rfl := Option.some.inj h
    rfl
  | rtcpUnprotect => cases h

/-- A stream accepts what it shows. -/
theorem streamReadings_accepted {s₀ s : RecvStream} (hs : InRange s₀)
    {es : List (StreamEvent RecvStream)} (ht : Trace streamStep s₀ es s) :
    (streamReadings RecvCall.srtp es).map Prod.snd = rtpAccepted es := by
  have hone : ∀ {s : RecvStream} (op : StreamOp RecvStream), InRange s →
      ((StreamEvent.shows (.of streamStep s op)).filterMap (Shown.reading RecvCall.srtp)).map Prod.snd =
        (StreamEvent.rtpAccept (.of streamStep s op)).toList := by
    intro s op hs
    cases op with
    | call c =>
      have hcalled := LawfulStream.called c hs
      show (([Shown.call c (locate s c) (call s c).result]).filterMap
        (Shown.reading RecvCall.srtp)).map Prod.snd = (StreamEvent.rtpAccept
          ⟨s, .call c, .packet (call s c).result, (call s c).state⟩).toList
      cases hr : (call s c).result with
      | error f =>
        have hfailed : Shown.reading RecvCall.srtp (.call c (locate s c) (.error f)) = none :=
          Shown.reading_of_not_done (by rintro ⟨bytes, ⟨⟩⟩)
        rw [List.filterMap_cons_none hfailed]
        cases c <;> rfl
      | ok bytes =>
        obtain ⟨i, m, t, l, hlocate, -⟩ := hcalled.of_ok hr
        rw [hlocate]
        cases c with
        | rtpUnprotect header cipher parsed =>
          obtain ⟨rfl, -, -⟩ := RecvStream.rtp_located hs hlocate
          have hindex : s.base.rtpIndex.index < 2 ^ 63 := hs.1.trans (by decide)
          have hestimate := RtpReplayDb.estimateIndex_eq hindex header.seqNum
          unfold StreamEvent.rtpAccept
          dsimp only
          rw [hestimate]
          rfl
        | rtcpUnprotect header cipher parsed => rfl
    | _ => rfl
  have hall : InRange s ∧ (streamReadings RecvCall.srtp es).map Prod.snd = rtpAccepted es := by
    refine ht.history_of (P := fun _ => True) (I := fun (es : List (StreamEvent RecvStream)) s =>
      InRange s ∧ (streamReadings RecvCall.srtp es).map Prod.snd = rtpAccepted es)
      (fun _ _ => trivial) ⟨hs, rfl⟩ ?_
    rintro es s op ⟨hrange, heq⟩ -
    refine ⟨inRange_step hrange op, ?_⟩
    rw [rtpAccepted_append, ← heq, ← hone op hrange]
    unfold streamReadings
    rw [List.flatMap_append, List.filterMap_append, List.map_append, List.flatMap_cons,
      List.flatMap_nil, List.append_nil]
  exact hall.2

/-- The replay window of a receiver has the size of the configurations it took. -/
theorem RecvStream.windowMask_step {size : UInt16} {s : RecvStream} (hs : InRange s)
    {op : StreamOp RecvStream} (hop : op.Takes (·.replayWindowSize = size))
    (hw : s.base.rtpIndex.windowMask = .ofSize size) :
    (streamStep s op).2.base.rtpIndex.windowMask = .ofSize size := by
  cases op with
  | call c =>
    have hcalled := LawfulStream.called c hs
    show (call s c).state.base.rtpIndex.windowMask = _
    cases hr : (call s c).result with
    | error f => rw [hcalled.state_of_error hr]; exact hw
    | ok bytes =>
      obtain ⟨i, m, t, l, -, -, -, -, hstate⟩ := hcalled.of_ok hr
      rw [hstate]
      cases c with
      | rtpUnprotect header cipher parsed => exact hw
      | rtcpUnprotect header cipher parsed => rw [RecvStream.advance_rtcp]; exact hw
  | update config valid order =>
    have hupdated := LawfulStream.updated s order (StreamConfig.valid_of_validate valid).keys_ne
    show (StreamInterface.update s config order).state.base.rtpIndex.windowMask = _
    generalize StreamInterface.update s config order = r at hupdated
    cases hupdated with
    | merged => rw [← hop config valid order rfl]; rfl
    | _ => exact hw
  | kill m =>
    show (StreamInterface.killSessionKeys s m).state.base.rtpIndex.windowMask = _
    cases hl : (PacketStream.base s).transforms.lookup m with
    | none => rw [LawfulStream.killed_none hl]; exact hw
    | some entry => rw [LawfulStream.killed_some hl]; exact hw
  | direct roc =>
    show (s.setRoc roc).state.base.rtpIndex.windowMask = _
    unfold RecvStream.setRoc
    split <;> exact hw

theorem RecvStream.windowMask_new {ssrc : UInt32} {config : StreamConfig}
    {handler : Option KeyLimitHandler} {s : RecvStream}
    (hnew : RecvStream.new ssrc config handler = .ok s) :
    s.base.rtpIndex.windowMask = .ofSize config.replayWindowSize := by
  obtain ⟨hb, -⟩ := LawfulStream.new_ok (T := RecvStream) hnew
  obtain ⟨_, _, _, _, _, heq⟩ := BaseStream.new_ok hb
  show (PacketStream.base s).rtpIndex.windowMask = _
  rw [heq]
  rfl

/-- A receiver whose window stays as it is accepts nothing twice. -/
theorem rtpAccepted_nodup {size : UInt16} {ssrc : UInt32} {config : StreamConfig}
    {handler : Option KeyLimitHandler} {s₀ s : RecvStream} (hsize : config.replayWindowSize = size)
    (hnew : RecvStream.new ssrc config handler = .ok s₀) {es : List (StreamEvent RecvStream)}
    (ht : Trace streamStep s₀ es s) (htakes : ∀ e ∈ es, e.input.Takes (·.replayWindowSize = size)) :
    (rtpAccepted es).Nodup := by
  have hrange : InRange s₀ := (LawfulStream.new_ok hnew).2
  refine (NotReplayed.run hnew ht (updatesRecall_of_le fun e he newSize hnewSize => ?_)).nodup
  obtain ⟨pre, post, rfl, hpre, heq⟩ := ht.of_mem he
  have hinv : InRange e.pre ∧ e.pre.base.rtpIndex.windowMask = .ofSize size := by
    refine hpre.invariant_of (P := fun e => e.input.Takes (·.replayWindowSize = size))
      (I := fun s : RecvStream => InRange s ∧ s.base.rtpIndex.windowMask = .ofSize size)
      (fun e' he' => htakes e' (by simp [he'])) ⟨hrange, hsize ▸ RecvStream.windowMask_new hnew⟩ ?_
    rintro s op ⟨hs, hw⟩ hop
    exact ⟨inRange_step hs op, RecvStream.windowMask_step hs hop hw⟩
  have hle : newSize = size := by
    unfold StreamEvent.newWindow at hnewSize
    split at hnewSize
    · next hop _ =>
      obtain rfl := Option.some.inj hnewSize
      exact htakes e he _ _ _ hop
    · cases hnewSize
  show newSize.toNat ≤ e.pre.base.rtpIndex.windowMask.bits
  rw [hinv.2, WindowMask.bits_ofSize, hle]

theorem streamReadings_nodup {size : UInt16} {ssrc : UInt32} {config : StreamConfig}
    {handler : Option KeyLimitHandler} {s₀ s : RecvStream} (hsize : config.replayWindowSize = size)
    (hnew : RecvStream.new ssrc config handler = .ok s₀) {es : List (StreamEvent RecvStream)}
    (ht : Trace streamStep s₀ es s) (htakes : ∀ e ∈ es, e.input.Takes (·.replayWindowSize = size)) :
    (streamReadings RecvCall.srtp es).Nodup := by
  have hnodup := rtpAccepted_nodup hsize hnew ht htakes
  rw [← streamReadings_accepted (LawfulStream.new_ok hnew).2 ht] at hnodup
  exact hnodup.of_map _

/-- A receiver session that is only given configurations with one window size, and that removes no
stream, accepts no SRTP index of an SSRC twice, whether its stream is explicit or from the template. -/
theorem session_srtp_not_replayed {size : UInt16} {es : List (SessionEvent RecvStream)}
    {s : RecvSession} (ht : Trace sessionStep .new es s)
    (hsteady : ∀ e ∈ es, e.input.Steady (·.replayWindowSize = size)) :
    (readings RecvCall.srtp es).Nodup := by
  refine Session.pairwise_of_streams (fun _ _ h => h) ht hsteady RecvCall.srtp_ssrc
    (fun a b h heq => h (heq ▸ rfl)) ?_
  intro k x fromTemplate hl config handler x₀ es' hv hC hnew ht' htakes _
  exact streamReadings_nodup hC hnew ht' htakes

end Receiver

/-! ## Streams that are removed -/

section Removal

variable {T : Type} [PacketStream T] {s : Session T} {k : UInt32} {ops : List (SessionOp T)}

/-- Operations on one SSRC leave everything else. -/
theorem runAll_other (hops : ∀ op ∈ ops, op.ssrc = some k)
    (hgood : ∀ e ∈ (runAll sessionStep s ops).1, ¬ e.answer.HardLimit) {j : UInt32} (hj : j ≠ k) :
    Session.view j (runAll sessionStep s ops).2 = Session.view j s := by
  have hof : ∀ op ∈ ops, op.OfStream := by
    intro op hop
    have hssrc := hops op hop
    cases op with
    | setKeyLimitHandler => cases hssrc
    | addStream ssrc => exact fun hnone => by rw [hnone] at hssrc; cases hssrc
    | _ => trivial
  have hnone : ops.filter (·.ssrc = some j) = [] := by
    refine List.filter_eq_nil_iff.mpr fun op hop => ?_
    rw [hops op hop, decide_eq_true_eq]
    exact fun heq => hj (Option.some.inj heq).symm
  have hrun := (separated.run hof hgood (rfl : Session.view j s = _)).2
  rwa [hnone] at hrun

/-- A session that removes a stream has forgotten it. After packets of an SSRC that had no stream,
operations on its counters or configurations for it, none of which met a dead key, the removal leads
back to the session before them. So the same operations answer the same again: a sender protects
under the IVs it has used, and a receiver accepts the packets it has accepted. -/
theorem removed_stream_starts_again (hl : s.streams.lookup k = none)
    (hops : ∀ op ∈ ops, op.ssrc = some k)
    (hgood : ∀ e ∈ (runAll sessionStep s ops).1, ¬ e.answer.HardLimit) :
    ((runAll sessionStep s ops).2.removeStream k).state = s ∧
      ∀ again, (runAll sessionStep s (ops ++ .removeStream k :: again)).1.map (·.answer) =
        (runAll sessionStep s (ops ++ [.removeStream k])).1.map (·.answer) ++
          (runAll sessionStep s again).1.map (·.answer) := by
  have hnext : k + 1 ≠ k := by grind
  have hstate : ((runAll sessionStep s ops).2.removeStream k).state = s := by
    have hrest := Session.view_eq_iff.mp (runAll_other hops hgood hnext)
    obtain ⟨hnone, hsession⟩ := Prod.mk.inj
      (Session.view_removeStream_self (k := k) (s := (runAll sessionStep s ops).2))
    obtain ⟨htemplate, hhandler⟩ := Prod.mk.inj hsession
    refine Session.ext_fields (Finmap.ext_lookup fun j => ?_) (htemplate.trans hrest.2.1)
      (hhandler.trans hrest.2.2)
    by_cases hj : j = k
    · rw [hj, hl]
      exact hnone
    · have hother : Session.view j ((runAll sessionStep s ops).2.removeStream k).state =
        Session.view j s := (Session.view_removeStream_of_ne hj).trans (runAll_other hops hgood hj)
      exact (Session.view_eq_iff.mp hother).1
  refine ⟨hstate, fun again => ?_⟩
  have hremoved : (runAll sessionStep s (ops ++ [.removeStream k])).2 = s := by
    rw [runAll_append]
    exact hstate
  rw [List.append_cons, runAll_append_events, hremoved, List.map_append]

end Removal

section Example

open Vectors

attribute [local instance] Vectors.crates

theorem templateOps_steady {C : StreamConfig → Prop} (hC : C (config [key none .default])) :
    ∀ e ∈ (runAll sessionStep (.new : SendSession) templateOps).1, e.input.Steady C := by
  intro e he
  have hmem := input_mem_of_runAll he
  refine ⟨fun k heq => ?_, fun heq => ?_⟩
  · rw [heq] at hmem
    simp [templateOps] at hmem
  · rw [heq] at hmem
    obtain ⟨rfl, -⟩ : _ = none ∧ _ := by simpa [templateOps] using hmem
    exact (templateOps_leaves hC e he).adds heq (.inl rfl)

/-- Two packets of a stream from the template. -/
theorem session_srtp_ivs_distinct_template :
    (readings SendCall.srtp (runAll sessionStep (.new : SendSession) templateOps).1).length = 2 ∧
      (readings SendCall.srtp (runAll sessionStep (.new : SendSession) templateOps).1).Pairwise
        SrtpUse.IvsDiffer ∧
      ∀ e ∈ (runAll sessionStep (.new : SendSession) templateOps).1,
        ∀ u ∈ SessionEvent.reading SendCall.srtp e, ∃ p ∈ SessionEvent.processed e,
          SendCall.srtp p.call p.index = some u ∧ p.Enciphers := by
  have hsmall : ∀ entry ∈ (runAll sessionStep (.new : SendSession) templateOps).2.streams.entries,
      entry.2.1.base.rtpIndex.index < 2 ^ 48 := by decide +kernel
  refine ⟨by decide +kernel, session_srtp_ivs_distinct (.runAll ..)
    (templateOps_steady (C := (·.SendsOnce 128)) ⟨rfl, rfl⟩) ?_⟩
  intro k x fromTemplate hl
  exact hsmall _ (Finmap.lookup_eq_some_iff.mp hl)

/-- Reports of two streams from the template. -/
def reportOps : List (SessionOp SendStream) :=
  [.addStream none (config [key none .default]) [] fun _ => [],
    .request (SendRequest.rtcpProtectMki (rtcpPacket 0xcafebabe) none),
    .request (SendRequest.rtcpProtectMki (rtcpPacket 0xdeadbeef) none),
    .request (SendRequest.rtcpProtectMki (rtcpPacket 0xcafebabe) none)]

theorem session_srtcp_ivs_distinct_reports :
    (readings SendCall.srtcpUse (runAll sessionStep (.new : SendSession) reportOps).1).length = 3 ∧
      (readings SendCall.srtcpUse (runAll sessionStep (.new : SendSession) reportOps).1).Pairwise
        SrtcpUse.IvsDiffer ∧
      ∀ e ∈ (runAll sessionStep (.new : SendSession) reportOps).1,
        ∀ u ∈ SessionEvent.reading SendCall.srtcpUse e, ∃ p ∈ SessionEvent.processed e,
          SendCall.srtcpUse p.call p.index = some u ∧ p.Enciphers := by
  have hlen : (readings SendCall.srtcpUse
      (runAll sessionStep (.new : SendSession) reportOps).1).length = 3 := by decide +kernel
  refine ⟨hlen, session_srtcp_ivs_distinct (.runAll ..) (fun e he k heq => ?_) fun k => ?_⟩
  · have hmem := input_mem_of_runAll he
    rw [heq] at hmem
    simp [reportOps] at hmem
  · exact ((List.length_filter_le _ _).trans_eq hlen).trans (by decide)

/-- A packet, received twice, and the next one. -/
def repeatedOps : List (SessionOp RecvStream) :=
  [.addStream (some 0xcafebabe) (config [key none .default]) [] fun _ => [none],
    .request (.rtpUnprotect (srtpPacket 0xcafebabe 1)),
    .request (.rtpUnprotect (srtpPacket 0xcafebabe 1)),
    .request (.rtpUnprotect (srtpPacket 0xcafebabe 2))]

theorem session_srtp_not_replayed_repeated :
    (readings RecvCall.srtp (runAll sessionStep (.new : RecvSession) repeatedOps).1).length = 2 ∧
      (readings RecvCall.srtp (runAll sessionStep (.new : RecvSession) repeatedOps).1).Nodup := by
  have hsteady : ∀ e ∈ (runAll sessionStep (.new : RecvSession) repeatedOps).1,
      e.input.Steady (·.replayWindowSize = 128) := by
    refine fun e he => ⟨fun k heq => ?_, fun {ssrc config' streamOrder keyOrder} heq => ?_⟩
    · have hmem := input_mem_of_runAll he
      rw [heq] at hmem
      simp [repeatedOps] at hmem
    · have hmem := input_mem_of_runAll he
      rw [heq] at hmem
      obtain ⟨-, rfl, -, -⟩ : _ ∧ config' = config [key none .default] ∧ _ ∧ _ := by
        simpa [repeatedOps] using hmem
      rfl
  exact ⟨by decide +kernel, session_srtp_not_replayed (.runAll ..) hsteady⟩

/-- A packet that spawns its stream. -/
def spawnOps : List (SessionOp SendStream) :=
  [.request (SendRequest.rtpProtectMki (rtpPacket 0xcafebabe 1) none)]

/-- After the removal the packet can be protected again, under the IV it had. -/
theorem removed_stream_starts_again_spawned :
    ((runAll sessionStep spawningSession spawnOps).2.removeStream 0xcafebabe).state =
      spawningSession := by
  have hssrc : ∀ op ∈ spawnOps, op.ssrc = some 0xcafebabe := by
    intro op hop
    obtain rfl := List.mem_singleton.mp hop
    decide +kernel
  have hgood : ∀ e ∈ (runAll sessionStep spawningSession spawnOps).1, ¬ e.answer.HardLimit := by
    intro e he
    obtain rfl := List.mem_singleton.mp he
    exact SessionOutcome.not_hardLimit (by decide +kernel)
  exact (removed_stream_starts_again (Finmap.lookup_empty _) hssrc hgood).1

end Example

end LibSrtp
