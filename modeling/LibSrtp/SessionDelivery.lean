import LibSrtp.Link
import LibSrtp.SrtpHistory

/-!
# Delivery between sessions

A sender session and a receiver session are given keys from one set, at different times and with
other streams around. What the one protects, the other returns.

* `StreamConfig.PartOf`: a configuration made of keys of another one, whatever their lives;
* `session_srtp_delivery`: an SRTP packet is returned intact, or rejected as a replay, by the history
  of its SSRC at the receiver;
* `session_srtcp_delivery`: an SRTCP packet is, by the replay database of its stream.
-/

namespace LibSrtp

open Exec PacketStream SlidingWindow

/-! ## Parts of a configuration -/

/-- The configuration is made of keys of `U`, with lives of their own, under the profiles and the
window of `U`. -/
structure StreamConfig.PartOf (U config : StreamConfig) : Prop where
  rtpProfile : config.rtpProfile = U.rtpProfile
  rtcpProfile : config.rtcpProfile = U.rtcpProfile
  window : config.replayWindowSize = U.replayWindowSize
  keys {key : MasterKey} : key ∈ config.keys →
    ∃ key' ∈ U.keys, key'.mki = key.mki ∧ key'.key = key.key ∧ key'.salt = key.salt

theorem StreamConfig.PartOf.disabled {U config : StreamConfig} (h : U.PartOf config) (m : Mki) :
    U.PartOf (config.disabled m) where
  rtpProfile := h.rtpProfile
  rtcpProfile := h.rtcpProfile
  window := h.window
  keys {key} hk := by
    obtain ⟨key₀, hk₀, hkey, hsalt, hm⟩ := StreamConfig.of_mem_disabled hk
    obtain ⟨key', hk', hm', hkey', hsalt'⟩ := h.keys hk₀
    exact ⟨key', hk', hm'.trans hm.symm, hkey'.trans hkey.symm, hsalt'.trans hsalt.symm⟩

section Sessions

variable [Crates] {U : StreamConfig}

/-- The keys of a part make the transforms of the whole. -/
theorem StreamConfig.PartOf.provides {config : StreamConfig} (h : U.PartOf config) {key : MasterKey}
    (hk : key ∈ config.keys) {t : Transform} (ht : newTransform config key = .ok t) :
    U.Provides key.mki t := by
  obtain ⟨key', hk', hm, hkey, hsalt⟩ := h.keys hk
  refine ⟨key', hk', hm, ?_⟩
  rw [← ht]
  unfold newTransform
  rw [h.rtpProfile, h.rtcpProfile, hkey, hsalt, hm]

section Configured

variable {T : Type} [PacketStream T] [LawfulStream T] {s : T}

theorem Configured.new_part {config : StreamConfig} (h : U.PartOf config) {ssrc : UInt32}
    {handler : Option KeyLimitHandler} (hnew : StreamInterface.new ssrc config handler = .ok s) :
    Configured U s := by
  intro m t l hl
  obtain ⟨key, hk, rfl, -, ht⟩ := lookup_new hnew hl
  exact h.provides hk ht

theorem Configured.step_part (h : Configured U s) (hs : InRange s) {op : StreamOp T}
    (hop : op.Takes U.PartOf) : Configured U (streamStep s op).2 := by
  intro m t l hl
  rcases transform_step hs op hl with ⟨l', hl'⟩ | ⟨config, valid, order, rfl, -, key, hk, rfl, ht⟩
  · exact h m t l' hl'
  · exact (hop config valid order rfl).provides hk ht

/-- A stream that takes parts of `U` has transforms of `U`. -/
theorem Configured.run_part {config : StreamConfig} (hv : config.Valid) (h : U.PartOf config)
    {ssrc : UInt32} {handler : Option KeyLimitHandler} {s₀ : T}
    (hnew : StreamInterface.new ssrc config handler = .ok s₀) {es : List (StreamEvent T)}
    (ht : Trace streamStep s₀ es s) (htakes : ∀ e ∈ es, e.input.Takes U.PartOf) :
    Sound s ∧ Configured U s := by
  refine ht.invariant_of (I := fun s => Sound s ∧ Configured U s) htakes
    ⟨.new hv hnew, .new_part h hnew⟩ ?_
  rintro s op ⟨hs, hc⟩ hop
  exact ⟨hs.step op, hc.step_part hs.inRange hop⟩

end Configured

/-! ## Receivers -/

namespace RecvStream

/-- What holds of a receiver that takes parts of `U`. -/
structure Shaped (U : StreamConfig) (s : RecvStream) : Prop where
  fixed : s.Fixed U
  rtpTagLen : s.rtpTagLen = U.rtpProfile.tagLen
  rtcpTagLen : s.rtcpTagLen = U.rtcpProfile.tagLen

variable {s : RecvStream}

theorem Shaped.new (hmki : ∀ key ∈ U.keys, key.mki ≠ some []) {config : StreamConfig}
    (hv : config.Valid) (h : U.PartOf config) {ssrc : UInt32} {handler : Option KeyLimitHandler}
    (hnew : RecvStream.new ssrc config handler = .ok s) : s.Shaped U := by
  have hmki' : ∀ key ∈ config.keys, key.mki ≠ some [] := by
    intro key hk
    obtain ⟨key', hk', hm, -⟩ := h.keys hk
    exact hm ▸ hmki key' hk'
  obtain ⟨hfit, hrtp, hrtcp⟩ := allFit_new hv hmki' hnew
  exact ⟨⟨.new hv hnew, hfit, .new_part h hnew⟩, hrtp.trans (congrArg _ h.rtpProfile),
    hrtcp.trans (congrArg _ h.rtcpProfile)⟩

theorem Shaped.step (hmki : ∀ key ∈ U.keys, key.mki ≠ some []) (h : s.Shaped U)
    {op : StreamOp RecvStream} (hop : op.Takes U.PartOf) : (streamStep s op).2.Shaped U := by
  have hs := h.fixed.sound
  obtain ⟨hrtp, hrest⟩ := Prod.mk.inj (trailerShape_step s op hs.inRange)
  obtain ⟨hrtcp, -⟩ := Prod.mk.inj hrest
  refine ⟨⟨hs.step op, AllFit.step h.fixed.fit hs op ?_,
    h.fixed.configured.step_part hs.inRange hop⟩, hrtp.trans h.rtpTagLen, hrtcp.trans h.rtcpTagLen⟩
  intro config valid order heq key hk
  have hpart := hop config valid order heq
  obtain ⟨key', hk', hm, -⟩ := hpart.keys hk
  refine ⟨hm ▸ hmki key' hk', fun _ => ?_⟩
  rw [hpart.rtpProfile, hpart.rtcpProfile]
  exact ⟨h.rtpTagLen.symm, h.rtcpTagLen.symm⟩

/-- A receiver that takes parts of `U` reads the packets of `U`. -/
theorem Shaped.run (hmki : ∀ key ∈ U.keys, key.mki ≠ some []) {config : StreamConfig}
    (hv : config.Valid) (h : U.PartOf config) {ssrc : UInt32} {handler : Option KeyLimitHandler}
    {s₀ : RecvStream} (hnew : RecvStream.new ssrc config handler = .ok s₀)
    {es : List (StreamEvent RecvStream)} (ht : Trace streamStep s₀ es s)
    (htakes : ∀ e ∈ es, e.input.Takes U.PartOf) : s.Shaped U :=
  ht.invariant_of htakes (Shaped.new hmki hv h hnew) fun _ _ h hop => h.step hmki hop

end RecvStream

/-! ## Delivery -/

/-- The index is the one that the next packet gets: by the ROC that was set, or within half the
sequence number space of the highest index. -/
def SrtpHistory.Reaches (h : SrtpHistory) (i : ℕ) : Prop :=
  match h.pending with
  | some roc => roc.toNat = i / 2 ^ 16
  | none => top h.indices < 2 ^ 48 ∧ top h.indices < i + 2 ^ 15 ∧ i < top h.indices + 2 ^ 15

/-- The index was not accepted before, and is not behind the window. -/
def SrtpHistory.Fresh (h : SrtpHistory) (size : UInt16) (i : ℕ) : Prop :=
  i ∉ h.indices ∧ (top h.indices < i ∨ top h.indices - i < size.toNat)

instance (h : SrtpHistory) (size : UInt16) (i : ℕ) : Decidable (h.Fresh size i) :=
  inferInstanceAs (Decidable (_ ∧ _))

omit [Crates] in
theorem RtpReplayDb.Views.estimate_of_reaches {db : RtpReplayDb} {h : SrtpHistory} (hv : db.Views h)
    {i : ℕ} (hi : h.Reaches i) {seqNum : UInt16} (hseq : i % 2 ^ 16 = seqNum.toNat) :
    db.estimate seqNum = i := by
  unfold SrtpHistory.Reaches at hi
  have hpending := hv.pending
  cases hp : h.pending with
  | some roc =>
    rw [hp] at hi hpending
    rw [RtpReplayDb.estimate_of_pending hpending]
    dsimp only at hi
    omega
  | none =>
    rw [hp] at hi hpending
    obtain ⟨hlimit, hlo, hhi⟩ := hi
    rw [← hv.index] at hlimit hlo hhi
    exact RtpReplayDb.estimate_near hpending hlimit hseq hlo hhi

omit [Crates] in
/-- A stream that a packet is handed to. -/
theorem Session.Target.of_getStream {T : Type} [PacketStream T] {σ : Session T} {k : UInt32} {x : T}
    {fromTemplate pending : Bool} (h : (σ.getStream k).1 = .ok (x, fromTemplate, pending)) :
    Target σ k x fromTemplate pending := by
  unfold Session.getStream at h
  split at h
  · next hl =>
    obtain ⟨rfl, rfl, rfl⟩ := Except.ok.inj h
    exact .present hl
  · next hl =>
    split at h
    · cases h
    · next htemplate =>
      split at h
      · cases h
      · next hnew =>
        obtain ⟨rfl, rfl, rfl⟩ := Except.ok.inj h
        exact .spawned hl htemplate hnew

omit [Crates] in
/-- A packet ends as on its stream. -/
theorem Session.Target.request_result {T : Type} [PacketStream T] {σ : Session T} {q : Request T}
    {c : Call T} (hq : parse q = .ok c) {x : T} {fromTemplate pending : Bool}
    (h : Target σ (ssrc c) x fromTemplate pending) : (σ.request q).result = (call x c).result := by
  rw [request_of_ok hq, h.onStream]
  dsimp only
  rcases (call x c).result with (e | _) | bytes <;> rfl

section Target

variable {T : Type} [PacketStream T] [LawfulStream T] {es : List (SessionEvent T)} {s : Session T}
  {k : UInt32} {x : T} {fromTemplate pending : Bool}

/-- The stream that the next packet of an SSRC is handed to has transforms of `U`. -/
theorem target_configured (ht : Trace sessionStep .new es s) (hes : ∀ e ∈ es, e.input.Gives k U.PartOf)
    (hx : Session.Target s k x fromTemplate pending) : Sound x ∧ Configured U x := by
  obtain ⟨config, handler, x₀, xs, failed, hv, hpart, hnew, hrun, htakes, -, -⟩ :=
    Session.target_run (fun _ m h => h.disabled m) ht hes hx
  exact Configured.run_part hv hpart hnew hrun htakes

/-- Its counter has the history of the SSRC, and its window tells what is fresh. -/
theorem target_counted [CountingStream T] (ht : Trace sessionStep .new es s)
    (hes : ∀ e ∈ es, e.input.Gives k U.PartOf) (hx : Session.Target s k x fromTemplate pending) :
    (base x).rtpIndex.Views (srtpHistory k es) ∧
      ∀ i, (base x).rtpIndex.seen i = true ↔ ¬ (srtpHistory k es).Fresh U.replayWindowSize i := by
  obtain ⟨config, handler, x₀, xs, failed, hv, hpart, hnew, hrun, htakes, hfailed, hshows⟩ :=
    Session.target_run (fun _ m h => h.disabled m) ht hes hx
  obtain ⟨htracks, hmask⟩ := tracks_history hpart.window hnew hrun
    fun e he config valid order heq => (htakes e he config valid order heq).window
  have hwindow : (base x).rtpIndex.windowSize = U.replayWindowSize.toNat := by
    unfold RtpReplayDb.windowSize
    rw [hmask, WindowMask.bits_ofSize]
  unfold srtpHistory
  rw [hshows, SrtpHistory.of_failed hfailed]
  refine ⟨(RtpReplayDb.Views.run hnew hrun).2, fun i => ?_⟩
  unfold SrtpHistory.Fresh
  rw [← hwindow, ← not_seen_iff, ← htracks.seen_iff, not_not]

end Target

section Delivery

variable {es : List (SessionEvent SendStream)} {s : SendSession}
  {es' : List (SessionEvent RecvStream)} {r : RecvSession}

/-- What a sender session protects, it protects with a transform of `U`. -/
theorem sent_rtp (ht : Trace sessionStep .new es s) {header : RtpHeader}
    (hes : ∀ e ∈ es, e.input.Gives header.ssrc U.PartOf) {plain bytes : Bytes} {m : Mki}
    (parsed : RtpHeader.new plain = .ok header) {i : ℕ}
    (hi : SessionEvent.reading SendCall.srtp (.of sessionStep s (.request
      (SendRequest.rtpProtectMki plain m))) = some ⟨header, i⟩)
    (hsent : (s.request (SendRequest.rtpProtectMki plain m)).result = .ok bytes) :
    ∃ t, U.Provides m t ∧ t.Keyed ∧ t.mki = m ∧
      t.rtpProtect plain header (rocOfIndex i) = .ok bytes ∧ i % 2 ^ 16 = header.seqNum.toNat := by
  have hq : parse (T := SendStream) (SendRequest.rtpProtectMki plain m) = _ :=
    SendStream.parse_rtp parsed
  obtain ⟨x, fromTemplate, pending, i', m', htarget, hlocate, hres, -⟩ :=
    Session.request_done (Session.Sound.new.run ht) hq hsent
  rw [Session.reading_request hq htarget hlocate hsent] at hi
  obtain ⟨-, rfl⟩ := SrtpUse.mk.inj (Option.some.inj hi)
  obtain ⟨hsound, hconfigured⟩ := target_configured ht hes htarget
  obtain ⟨_, _, t, lives, hlocate', hl, -, happly, -⟩ :=
    (LawfulStream.called _ hsound.inRange).of_ok hres
  obtain ⟨rfl, rfl⟩ := Prod.mk.inj (Except.ok.inj (hlocate.symm.trans hlocate'))
  obtain ⟨j, hj, heq⟩ := bind_eq_ok.mp hlocate
  obtain ⟨rfl, rfl⟩ := Prod.mk.inj (Except.ok.inj heq)
  obtain ⟨hkeyed, hm⟩ := hsound.keyed hl
  refine ⟨t, hconfigured _ _ _ hl, hkeyed, hm, happly, ?_⟩
  rw [SendStream.rtpIndex_eq hsound.inRange.1] at hj
  split at hj
  · exact absurd hj fail_ne_ok
  · obtain rfl := Except.ok.inj hj
    exact RtpReplayDb.estimate_mod ..

/-- What holds of the stream of a receiver session that a packet is handed to. -/
theorem target_shaped (hmki : ∀ key ∈ U.keys, key.mki ≠ some []) {k : UInt32}
    (ht : Trace sessionStep .new es' r) (hes : ∀ e ∈ es', e.input.Gives k U.PartOf) {y : RecvStream}
    {fromTemplate pending : Bool} (hy : Session.Target r k y fromTemplate pending) :
    y.Shaped U ∧ y.base.rtpIndex.Views (srtpHistory k es') ∧
      ∀ i, y.base.rtpIndex.seen i = true ↔ ¬ (srtpHistory k es').Fresh U.replayWindowSize i := by
  obtain ⟨config, handler, y₀, ys, failed, hv, hpart, hnew, hrun, htakes, -, -⟩ :=
    Session.target_run (fun _ m h => h.disabled m) ht hes hy
  exact ⟨.run hmki hv hpart hnew hrun htakes, target_counted ht hes hy⟩

/-- What a receiver session makes of a packet that a transform of `U` protected. -/
theorem received_rtp [LawfulCrates] (hU : U.Valid) (hmki : ∀ key ∈ U.keys, key.mki ≠ some [])
    (ht' : Trace sessionStep .new es' r) {header : RtpHeader}
    (hes' : ∀ e ∈ es', e.input.Gives header.ssrc U.PartOf) {plain bytes : Bytes}
    (parsed : RtpHeader.new plain = .ok header) {t : Transform} (hprovides : U.Provides t.mki t)
    (hkeyed : t.Keyed) {i : ℕ} (hprotect : t.rtpProtect plain header (rocOfIndex i) = .ok bytes)
    (hseq : i % 2 ^ 16 = header.seqNum.toNat) {y : RecvStream} {fromTemplate pending : Bool}
    (htarget : Session.Target r header.ssrc y fromTemplate pending) {t' : Transform}
    {lives : KeysLifetime} (hl : y.base.transforms.lookup t.mki = some (t', lives))
    (h0 : lives.rtp ≠ 0) (hreach : (srtpHistory header.ssrc es').Reaches i) :
    (r.request (RecvRequest.rtpUnprotect bytes)).result =
      if (srtpHistory header.ssrc es').Fresh U.replayWindowSize i then .ok plain
      else fail .invalidPacketIndex := by
  obtain ⟨hshaped, hviews, hseen⟩ := target_shaped hmki ht' hes' htarget
  obtain rfl := StreamConfig.Provides.unique hU hprovides (hshaped.fixed.configured _ _ _ hl)
  have hest := hviews.estimate_of_reaches hreach hseq
  have parsed' := Transform.rtp_parsed hkeyed parsed hprotect
  have hcall := RecvStream.rtp_received hshaped.fixed.sound hshaped.fixed.fit hl h0 parsed hprotect
    hest parsed'
  rw [htarget.request_result (RecvStream.parse_rtp parsed'), hcall]
  rcases em ((srtpHistory header.ssrc es').Fresh U.replayWindowSize i) with hfresh | hstale
  · rw [if_neg fun h => (hseen i).mp h hfresh, if_pos hfresh]
  · rw [if_pos ((hseen i).mpr hstale), if_neg hstale]

/-- The configurations of both sessions are parts of `U`. What the sender session protects on one SSRC,
under any of its keys, the receiver session returns intact, if it has that key alive by then and the
index is in reach of the history of the SSRC and fresh; it rejects it as a replay if it is not. -/
theorem session_srtp_delivery [LawfulCrates] (hU : U.validate = .ok ())
    (hmki : ∀ key ∈ U.keys, key.mki ≠ some []) (ht : Trace sessionStep .new es s) {header : RtpHeader}
    (hes : ∀ e ∈ es, e.input.Gives header.ssrc U.PartOf) (ht' : Trace sessionStep .new es' r)
    (hes' : ∀ e ∈ es', e.input.Gives header.ssrc U.PartOf) {plain bytes : Bytes} {m : Mki}
    (parsed : RtpHeader.new plain = .ok header) {i : ℕ}
    (hi : SessionEvent.reading SendCall.srtp (.of sessionStep s (.request
      (SendRequest.rtpProtectMki plain m))) = some ⟨header, i⟩)
    (hsent : (s.rtpProtectMki plain m).result = .ok bytes) {y : RecvStream}
    {fromTemplate pending : Bool}
    (hy : (r.getStream header.ssrc).1 = .ok (y, fromTemplate, pending)) {t : Transform}
    {lives : KeysLifetime} (hl : y.base.transforms.lookup m = some (t, lives)) (h0 : lives.rtp ≠ 0)
    (hreach : (srtpHistory header.ssrc es').Reaches i) :
    (r.rtpUnprotect bytes).result =
      if (srtpHistory header.ssrc es').Fresh U.replayWindowSize i then .ok plain
      else fail .invalidPacketIndex := by
  rw [SendSession.rtpProtectMki_eq] at hsent
  obtain ⟨t', hprovides, hkeyed, rfl, hprotect, hseq⟩ := sent_rtp ht hes parsed hi hsent
  rw [RecvSession.rtpUnprotect_eq]
  exact received_rtp (StreamConfig.valid_of_validate hU) hmki ht' hes' parsed hprovides hkeyed hprotect
    hseq (.of_getStream hy) hl h0 hreach

/-- The SSRC and the index of an SRTCP packet. -/
def SendCall.srtcp : SendCall → Nat → Option (UInt32 × ℕ)
  | .rtcpProtect header _ _ _, index => some (header.ssrc, index)
  | .rtpProtect .., _ => none

theorem sent_rtcp (ht : Trace sessionStep .new es s) {header : RtcpHeader}
    (hes : ∀ e ∈ es, e.input.Gives header.ssrc U.PartOf) {plain bytes : Bytes} {m : Mki}
    (parsed : RtcpHeader.new plain = .ok header) {i : ℕ}
    (hi : SessionEvent.reading SendCall.srtcp (.of sessionStep s (.request
      (SendRequest.rtcpProtectMki plain m))) = some (header.ssrc, i))
    (hsent : (s.request (SendRequest.rtcpProtectMki plain m)).result = .ok bytes) :
    ∃ t, U.Provides m t ∧ t.Keyed ∧ t.mki = m ∧
      t.rtcpProtect plain header (UInt32.ofNat i) = .ok bytes ∧ i < rtcpRollback := by
  have hq : parse (T := SendStream) (SendRequest.rtcpProtectMki plain m) = _ :=
    SendStream.parse_rtcp parsed
  obtain ⟨x, fromTemplate, pending, i', m', htarget, hlocate, hres, -⟩ :=
    Session.request_done (Session.Sound.new.run ht) hq hsent
  rw [Session.reading_request hq htarget hlocate hsent] at hi
  obtain ⟨-, rfl⟩ := Prod.mk.inj (Option.some.inj hi)
  obtain ⟨hsound, hconfigured⟩ := target_configured ht hes htarget
  obtain ⟨_, _, t, lives, hlocate', hl, -, happly, -⟩ :=
    (LawfulStream.called _ hsound.inRange).of_ok hres
  obtain ⟨rfl, rfl⟩ := Prod.mk.inj (Except.ok.inj (hlocate.symm.trans hlocate'))
  obtain ⟨rfl, rfl⟩ := Prod.mk.inj (Except.ok.inj hlocate)
  obtain ⟨hkeyed, hm⟩ := hsound.keyed hl
  exact ⟨t, hconfigured _ _ _ hl, hkeyed, hm, happly, hsound.inRange.2⟩

/-- As `session_srtp_delivery`: an SRTCP packet is returned intact, or rejected as a replay, by the
SRTCP replay database of the stream it is handed to. -/
theorem session_srtcp_delivery [LawfulCrates] (hU : U.validate = .ok ())
    (hmki : ∀ key ∈ U.keys, key.mki ≠ some []) (ht : Trace sessionStep .new es s) {header : RtcpHeader}
    (hes : ∀ e ∈ es, e.input.Gives header.ssrc U.PartOf) (ht' : Trace sessionStep .new es' r)
    (hes' : ∀ e ∈ es', e.input.Gives header.ssrc U.PartOf) {plain bytes : Bytes} {m : Mki}
    (parsed : RtcpHeader.new plain = .ok header) {i : ℕ}
    (hi : SessionEvent.reading SendCall.srtcp (.of sessionStep s (.request
      (SendRequest.rtcpProtectMki plain m))) = some (header.ssrc, i))
    (hsent : (s.rtcpProtectMki plain m).result = .ok bytes) {y : RecvStream}
    {fromTemplate pending : Bool}
    (hy : (r.getStream header.ssrc).1 = .ok (y, fromTemplate, pending)) {t : Transform}
    {lives : KeysLifetime} (hl : y.base.transforms.lookup m = some (t, lives)) (h0 : lives.rtcp ≠ 0) :
    (r.rtcpUnprotect bytes).result =
      if y.rtcpIndex.seenIndex i = .ok true then fail .invalidPacketIndex else .ok plain := by
  have hvalid := StreamConfig.valid_of_validate hU
  rw [SendSession.rtcpProtectMki_eq] at hsent
  obtain ⟨t', hprovides, hkeyed, rfl, hprotect, hrange⟩ := sent_rtcp ht hes parsed hi hsent
  have htarget := Session.Target.of_getStream hy
  obtain ⟨hshaped, -⟩ := target_shaped hmki ht' hes' htarget
  obtain rfl := StreamConfig.Provides.unique hvalid hprovides (hshaped.fixed.configured _ _ _ hl)
  have parsed' := Transform.rtcp_parsed hkeyed parsed hprotect
  have hcall := RecvStream.rtcp_received hshaped.fixed.sound hshaped.fixed.fit hl h0 hrange parsed
    hprotect parsed'
  have hseen : y.rtcpIndex.seenIndex i = .ok true ↔ y.rtcpIndex.seen i = true := by
    rw [RtcpReplayDb.seenIndex_eq hshaped.fixed.sound.inRange.2 hrange, Except.ok.injEq]
  rw [RecvSession.rtcpUnprotect_eq, htarget.request_result (RecvStream.parse_rtcp parsed'), hcall]
  by_cases hs : y.rtcpIndex.seen i = true
  · rw [if_pos hs, if_pos (hseen.mpr hs)]
  · rw [if_neg hs, if_neg fun heq => hs (hseen.mp heq)]

end Delivery

end Sessions

section Example

open Vectors

attribute [local instance] Vectors.crates

def bothKeys : StreamConfig :=
  config [⟨otherKey, masterSalt, some [2], .default⟩, key (some [1]) .default]

theorem partOf_bothKeys {keys : List MasterKey} (h : keys ⊆ bothKeys.keys) :
    bothKeys.PartOf (config keys) := ⟨rfl, rfl, rfl, fun hk => ⟨_, h hk, rfl, rfl, rfl⟩⟩

/-- The sender gets its second key later. -/
def rekeyOps : List (SessionOp SendStream) :=
  [.addStream (some 0xcafebabe) (config (bothKeys.keys.take 1)) [] fun _ => [some [2]],
    .addStream (some 0xcafebabe) (config (bothKeys.keys.drop 1)) [] fun _ => [some [1]]]

/-- The receiver has a template with both. -/
def bothOps : List (SessionOp RecvStream) :=
  [.addStream none (config bothKeys.keys) [] fun _ => []]

theorem rekeyOps_gives {ssrc : Option UInt32} {config : StreamConfig} {streamOrder : List UInt32}
    {keyOrder : UInt32 → List Mki} (h : .addStream ssrc config streamOrder keyOrder ∈ rekeyOps) :
    bothKeys.PartOf config := by
  rcases List.mem_cons.mp h with heq | h
  · obtain ⟨-, rfl, -, -⟩ := SessionOp.addStream.inj heq
    exact partOf_bothKeys (List.take_subset ..)
  · obtain ⟨-, rfl, -, -⟩ := SessionOp.addStream.inj (List.mem_singleton.mp h)
    exact partOf_bothKeys (List.drop_subset ..)

theorem bothOps_gives {ssrc : Option UInt32} {config : StreamConfig} {streamOrder : List UInt32}
    {keyOrder : UInt32 → List Mki} (h : .addStream ssrc config streamOrder keyOrder ∈ bothOps) :
    bothKeys.PartOf config := by
  obtain ⟨-, rfl, -, -⟩ := SessionOp.addStream.inj (List.mem_singleton.mp h)
  exact partOf_bothKeys (List.Subset.refl _)

/-- A packet under the second key of the sender. -/
def rekeyedPacket (seqNum : UInt16) : Bytes :=
  rtpHeader 0xcafebabe seqNum ++ (rtpAnswer 0xcafebabe 0 seqNum).cipher ++ [1] ++
    (rtpAnswer 0xcafebabe 0 seqNum).mac.take 10

/-- The sender protects the packets with these sequence numbers. -/
def protectOps (seqNums : List UInt16) : List (SessionOp SendStream) :=
  rekeyOps ++ seqNums.map fun seqNum =>
    .request (SendRequest.rtpProtectMki (rtpPacket 0xcafebabe seqNum) (some [1]))

/-- The receiver is handed these packets. -/
def handOps (packets : List Bytes) (request : Bytes → RecvRequest) : List (SessionOp RecvStream) :=
  bothOps ++ packets.map fun packet => .request (request packet)

theorem protectOps_gives {seqNums : List UInt16} {e : SessionEvent SendStream}
    (he : e ∈ (runAll sessionStep .new (protectOps seqNums)).1) :
    e.input.Gives 0xcafebabe bothKeys.PartOf := by
  refine gives_of_added (fun hmem => ?_) e he
  rcases List.mem_append.mp hmem with hmem | hmem
  · exact rekeyOps_gives hmem
  · obtain ⟨seqNum, -, heq⟩ := List.mem_map.mp hmem
    cases heq

theorem handOps_gives {packets : List Bytes} {request : Bytes → RecvRequest}
    {e : SessionEvent RecvStream} (he : e ∈ (runAll sessionStep .new (handOps packets request)).1) :
    e.input.Gives 0xcafebabe bothKeys.PartOf := by
  refine gives_of_added (fun hmem => ?_) e he
  rcases List.mem_append.mp hmem with hmem | hmem
  · exact bothOps_gives hmem
  · obtain ⟨packet, -, heq⟩ := List.mem_map.mp hmem
    cases heq

/-- The stream of the SSRC has lives under the second key. -/
def RecvSession.alive (r : RecvSession) (isRtp : Bool) : Bool :=
  match (r.getStream 0xcafebabe).1 with
  | .ok (y, _, _) => (y.base.transforms.lookup (some [1])).any fun entry => entry.2.lives isRtp ≠ 0
  | .error _ => false

theorem RecvSession.exists_of_alive {r : RecvSession} {isRtp : Bool} (h : r.alive isRtp = true) :
    ∃ y fromTemplate pending t lives, (r.getStream 0xcafebabe).1 = .ok (y, fromTemplate, pending) ∧
      y.base.transforms.lookup (some [1]) = some (t, lives) ∧ lives.lives isRtp ≠ 0 := by
  unfold alive at h
  split at h
  · next y fromTemplate pending hy =>
    obtain ⟨⟨t, lives⟩, hl, h0⟩ := (Option.any_eq_true ..).mp h
    exact ⟨y, fromTemplate, pending, t, lives, hy, hl, of_decide_eq_true h0⟩
  · cases h

/-- What the receiver has been handed, and what it is handed next: the packet 3 comes first and twice,
then the packets 1 and 2 are late, and the packet 2 comes again. -/
def deliveries : List (List UInt16 × UInt16) :=
  [([], 3), ([3], 3), ([3, 3], 1), ([3, 3, 1], 2), ([3, 3, 1, 2], 2)]

theorem session_srtp_delivery_rekeyed :
    deliveries.map (fun d => (RecvSession.rtpUnprotect
        (runAll sessionStep .new (handOps (d.1.map rekeyedPacket) .rtpUnprotect)).2
        (rekeyedPacket d.2)).result) =
      [.ok (rtpPacket 0xcafebabe 3), fail .invalidPacketIndex, .ok (rtpPacket 0xcafebabe 1),
        .ok (rtpPacket 0xcafebabe 2), fail .invalidPacketIndex] := by
  have := Vectors.lawful
  -- the packets were protected in order
  have hsent : ∀ d ∈ deliveries, (SendSession.rtpProtectMki
      (runAll sessionStep .new (protectOps (([1, 2, 3] : List UInt16).filter (· < d.2)))).2
      (rtpPacket 0xcafebabe d.2) (some [1])).result = .ok (rekeyedPacket d.2) := by decide +kernel
  have hread : ∀ d ∈ deliveries, (SessionEvent.reading SendCall.srtp (.of sessionStep
      (runAll sessionStep .new (protectOps (([1, 2, 3] : List UInt16).filter (· < d.2)))).2
      (.request (SendRequest.rtpProtectMki (rtpPacket 0xcafebabe d.2) (some [1]))))).map
        (fun u => (u.header, u.index)) = some (⟨d.2, 0xcafebabe, 12⟩, d.2.toNat) := by decide +kernel
  have halive : ∀ d ∈ deliveries, RecvSession.alive
      (runAll sessionStep .new (handOps (d.1.map rekeyedPacket) .rtpUnprotect)).2 true = true := by
    decide +kernel
  have hindices : ∀ d ∈ deliveries, (srtpHistory 0xcafebabe (runAll sessionStep .new
      (handOps (d.1.map rekeyedPacket) .rtpUnprotect)).1).indices =
        (d.1.map UInt16.toNat).toFinset := by decide +kernel
  have hpending : ∀ d ∈ deliveries, (srtpHistory 0xcafebabe (runAll sessionStep .new
      (handOps (d.1.map rekeyedPacket) .rtpUnprotect)).1).pending = none := by decide +kernel
  have parsed : ∀ d ∈ deliveries,
      RtpHeader.new (rtpPacket 0xcafebabe d.2) = .ok ⟨d.2, 0xcafebabe, 12⟩ := by decide
  have hreach : ∀ d ∈ deliveries, top (d.1.map UInt16.toNat).toFinset < 2 ^ 48 ∧
      top (d.1.map UInt16.toNat).toFinset < d.2.toNat + 2 ^ 15 ∧
      d.2.toNat < top (d.1.map UInt16.toNat).toFinset + 2 ^ 15 := by decide
  have hdelivered : ∀ d ∈ deliveries, (RecvSession.rtpUnprotect
      (runAll sessionStep .new (handOps (d.1.map rekeyedPacket) .rtpUnprotect)).2
      (rekeyedPacket d.2)).result =
        if SrtpHistory.Fresh ⟨(d.1.map UInt16.toNat).toFinset, none⟩ 128 d.2.toNat then
          .ok (rtpPacket 0xcafebabe d.2)
        else fail .invalidPacketIndex := by
    intro d hd
    obtain ⟨y, fromTemplate, pending, t, lives, hy, hl, h0⟩ :=
      RecvSession.exists_of_alive (halive d hd)
    obtain ⟨⟨header, i⟩, hi, heq⟩ := Option.map_eq_some_iff.mp (hread d hd)
    obtain ⟨rfl, rfl⟩ := Prod.mk.inj heq
    have hhistory : srtpHistory 0xcafebabe
        (runAll sessionStep .new (handOps (d.1.map rekeyedPacket) .rtpUnprotect)).1 =
          ⟨(d.1.map UInt16.toNat).toFinset, none⟩ := by rw [← hindices d hd, ← hpending d hd]
    have hdelivery := session_srtp_delivery (U := bothKeys) (by decide +kernel) (by decide)
      (.runAll ..) (fun _ => protectOps_gives) (.runAll ..) (fun _ => handOps_gives) (parsed d hd) hi
      (hsent d hd) hy hl h0 (hhistory ▸ hreach d hd)
    rwa [hhistory] at hdelivery
  rw [List.map_congr_left hdelivered]
  decide

/-- A receiver that was given a packet twice. -/
def plainJoined : RecvSession := (runAll sessionStep .new (repeatedOps.take 3)).2

def joinedStream : RecvStream := (get (plainJoined.getStream 0xcafebabe).1 (by decide +kernel)).1

/-- An SRTCP packet under the second key of the sender. -/
def rekeyedReport (index : Nat) : Bytes :=
  srtcpBody 0xcafebabe index ++ [1] ++ (rtcpAnswer 0xcafebabe index).mac.take 10

/-- As `deliveries`, of SRTCP packets. -/
def reportDeliveries : List (List Nat × Nat) := [([], 1), ([1], 1), ([1, 1], 0), ([1, 1, 0], 0)]

/-- The sender protects its RTCP packet `n` times. -/
def reportsOps (n : Nat) : List (SessionOp SendStream) :=
  rekeyOps ++ List.replicate n
    (.request (SendRequest.rtcpProtectMki (rtcpPacket 0xcafebabe) (some [1])))

theorem reportsOps_gives {n : Nat} {e : SessionEvent SendStream}
    (he : e ∈ (runAll sessionStep .new (reportsOps n)).1) :
    e.input.Gives 0xcafebabe bothKeys.PartOf := by
  refine gives_of_added (fun hmem => ?_) e he
  rcases List.mem_append.mp hmem with hmem | hmem
  · exact rekeyOps_gives hmem
  · cases List.eq_of_mem_replicate hmem

/-- What the replay database of the stream says. -/
def RecvSession.sawReport (r : RecvSession) (index : Nat) : Bool :=
  match (r.getStream 0xcafebabe).1 with
  | .ok (y, _, _) => decide (y.rtcpIndex.seenIndex index = .ok true)
  | .error _ => false

theorem session_srtcp_delivery_rekeyed :
    reportDeliveries.map (fun d => (RecvSession.rtcpUnprotect
        (runAll sessionStep .new (handOps (d.1.map rekeyedReport) .rtcpUnprotect)).2
        (rekeyedReport d.2)).result) =
      [.ok (rtcpPacket 0xcafebabe), fail .invalidPacketIndex, .ok (rtcpPacket 0xcafebabe),
        fail .invalidPacketIndex] := by
  have := Vectors.lawful
  have hsent : ∀ d ∈ reportDeliveries, (SendSession.rtcpProtectMki
      (runAll sessionStep .new (reportsOps d.2)).2 (rtcpPacket 0xcafebabe) (some [1])).result =
        .ok (rekeyedReport d.2) := by decide +kernel
  have hread : ∀ d ∈ reportDeliveries, SessionEvent.reading SendCall.srtcp (.of sessionStep
      (runAll sessionStep .new (reportsOps d.2)).2
      (.request (SendRequest.rtcpProtectMki (rtcpPacket 0xcafebabe) (some [1])))) =
        some (0xcafebabe, d.2) := by decide +kernel
  have halive : ∀ d ∈ reportDeliveries, RecvSession.alive
      (runAll sessionStep .new (handOps (d.1.map rekeyedReport) .rtcpUnprotect)).2 false = true := by
    decide +kernel
  have hsaw : ∀ d ∈ reportDeliveries, RecvSession.sawReport
      (runAll sessionStep .new (handOps (d.1.map rekeyedReport) .rtcpUnprotect)).2 d.2 =
        decide (d.2 ∈ d.1) := by decide +kernel
  have hdelivered : ∀ d ∈ reportDeliveries, (RecvSession.rtcpUnprotect
      (runAll sessionStep .new (handOps (d.1.map rekeyedReport) .rtcpUnprotect)).2
      (rekeyedReport d.2)).result =
        if d.2 ∈ d.1 then fail .invalidPacketIndex else .ok (rtcpPacket 0xcafebabe) := by
    intro d hd
    obtain ⟨y, fromTemplate, pending, t, lives, hy, hl, h0⟩ :=
      RecvSession.exists_of_alive (halive d hd)
    have parsed : RtcpHeader.new (rtcpPacket 0xcafebabe) = .ok ⟨0xcafebabe⟩ := by decide
    have hdelivery := session_srtcp_delivery (U := bothKeys) (by decide +kernel) (by decide)
      (.runAll ..) (fun _ => reportsOps_gives) (.runAll ..) (fun _ => handOps_gives) parsed
      (hread d hd) (hsent d hd) hy hl h0
    have hseen := hsaw d hd
    unfold RecvSession.sawReport at hseen
    rw [hy, decide_eq_decide] at hseen
    simpa only [hseen] using hdelivery
  rw [List.map_congr_left hdelivered]
  decide

end Example

end LibSrtp
