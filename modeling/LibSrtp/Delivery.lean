import LibSrtp.Link

/-!
# Delivery

What arrives, arrives intact and once, whatever the network drops, duplicates and reorders.

* `srtp_delivery`: for SRTP packets within half the sequence number space of the current index;
* `srtcp_delivery`: for SRTCP packets within half a rollover of the highest number, over any number
  of rollovers, as long as all packets accepted before were within that distance too;
* `lateSrtcp_stops_delivery`: one that was not stops the delivery of the packets after it.
-/

namespace LibSrtp

open Exec PacketStream SlidingWindow

section Delivery

variable [Crates]

namespace Link

variable {config : StreamConfig} {l : Link}

theorem Coherent.run (hv : config.Valid) (hmki : ∀ key ∈ config.keys, key.mki ≠ some [])
    {ssrc : UInt32} {handler handler' : Option KeyLimitHandler} {s₀ : SendStream} {r₀ : RecvStream}
    (hsend : SendStream.new ssrc config handler = .ok s₀)
    (hrecv : RecvStream.new ssrc config handler' = .ok r₀) {es : List LinkEvent}
    (ht : Trace linkStep (Link.start s₀ r₀) es l) : Coherent config l :=
  ht.invariant ⟨.new hv hsend, .new hv hmki hrecv⟩ fun _ op h => h.step op

/-- The receiver has the transform of the sender. -/
theorem Coherent.transform_eq (hv : config.Valid) (h : Coherent config l) {m : Mki}
    {t t' : Transform} {lives : KeysLifetime}
    (hl : l.receiver.base.transforms.lookup m = some (t', lives)) (ht : config.Provides m t) :
    t' = t ∧ t.mki = m := by
  obtain rfl := StreamConfig.Provides.unique hv ht (h.receives.fixed.configured m t' lives hl)
  exact ⟨rfl, (h.receives.fixed.sound.keyed hl).2⟩

/-- What the delivery of an SRTP packet does whose index the receiver estimates right. -/
theorem Coherent.delivered_rtp [LawfulCrates] (hv : config.Valid) (h : Coherent config l)
    {p : SentRtp} (hp : p.Made config) {i : ℕ} (hi : p.index = .ok i)
    (hest : l.receiver.base.rtpIndex.estimate p.header.seqNum = i) {t : Transform}
    {lives : KeysLifetime} (hl : l.receiver.base.transforms.lookup p.mki = some (t, lives))
    (h0 : lives.rtp ≠ 0) :
    (l.deliverRtp p).1 =
        (if i ∉ l.acceptedRtp ∧ (top l.acceptedRtp < i ∨
            top l.acceptedRtp - i < config.replayWindowSize.toNat) then .ok p.plain
          else fail .invalidPacketIndex) ∧
      (l.deliverRtp p).2.receiver.base.rtpIndex.index = max (top l.acceptedRtp) i := by
  obtain ⟨i', t', hi', hprovides, hprotect, -⟩ := hp
  obtain rfl := Except.ok.inj (hi'.symm.trans hi)
  obtain ⟨rfl, hm⟩ := h.transform_eq hv hl hprovides
  have hfixed := h.receives.fixed
  have htracks := h.receives.tracks
  rw [← hm] at hl
  have parsed := Transform.rtp_parsed (hfixed.sound.keyed hl).1 p.parsed hprotect
  have hcall := RecvStream.rtp_received hfixed.sound hfixed.fit hl h0 p.parsed hprotect hest parsed
  have hlocate := RecvStream.rtp_locate hfixed.sound hfixed.fit hl p.parsed hprotect hest parsed
  have hfresh : i' ∉ l.acceptedRtp ∧ (top l.acceptedRtp < i' ∨
      top l.acceptedRtp - i' < config.replayWindowSize.toNat) ↔
        ¬ l.receiver.base.rtpIndex.seen i' = true := by
    rw [← not_seen_iff, ← h.receives.rtpWindow, ← htracks.seen_iff]
  unfold Link.deliverRtp
  rw [RecvStream.parse_rtp parsed]
  dsimp only
  by_cases hseen : l.receiver.base.rtpIndex.seen i' = true
  · rw [if_pos hseen] at hcall
    rw [hcall, if_neg fun hnew => hfresh.mp hnew hseen]
    refine ⟨rfl, ?_⟩
    show l.receiver.base.rtpIndex.index = _
    rw [htracks.index, max_eq_left (htracks.seen_iff.mp hseen).1]
  · rw [if_neg hseen] at hcall hlocate
    rw [hcall, hlocate, if_pos (hfresh.mpr hseen)]
    refine ⟨rfl, ?_⟩
    show (l.receiver.base.rtpIndex.added i').index = _
    rw [RtpReplayDb.added_index, htracks.index]

end Link

/-- SRTP, over any run of a link: a packet that was protected at index `i` and arrives within half
the sequence number space of the current index, or first and under the ROC zero, is returned intact
if the receiver did not accept `i` before and the window reaches to it, and is rejected as a replay
otherwise. -/
theorem srtp_delivery [LawfulCrates] {config : StreamConfig} (hv : config.validate = .ok ())
    (hmki : ∀ key ∈ config.keys, key.mki ≠ some []) {ssrc : UInt32}
    {handler handler' : Option KeyLimitHandler} {s₀ : SendStream} {r₀ : RecvStream}
    (hsend : SendStream.new ssrc config handler = .ok s₀)
    (hrecv : RecvStream.new ssrc config handler' = .ok r₀) {es : List LinkEvent} {l : Link}
    (ht : Trace linkStep (Link.start s₀ r₀) es l) {k i c : ℕ} {p : SentRtp}
    (hp : l.rtp[k]? = some p) (hi : p.index = .ok i) (hc : l.receiver.base.rtpIndex.index = c)
    {t : Transform} {lives : KeysLifetime}
    (hl : l.receiver.base.transforms.lookup p.mki = some (t, lives)) (h0 : lives.rtp ≠ 0)
    (hlimit : c < 2 ^ 48)
    (hnear : (i < c + 2 ^ 15 ∧ c < i + 2 ^ 15) ∨ (l.acceptedRtp = ∅ ∧ i < 2 ^ 16)) :
    (linkStep l (.deliverRtp k)).1 = some
        (if i ∉ l.acceptedRtp ∧ (c < i ∨ c - i < config.replayWindowSize.toNat) then .ok p.plain
          else fail .invalidPacketIndex) ∧
      (linkStep l (.deliverRtp k)).2.receiver.base.rtpIndex.index = max c i := by
  have hvalid := StreamConfig.valid_of_validate hv
  have h := Link.Coherent.run hvalid hmki hsend hrecv ht
  have hmade := h.sends.rtp p (List.mem_of_getElem? hp)
  have htop : top l.acceptedRtp = c := h.receives.tracks.index.symm.trans hc
  have hseq : i % 2 ^ 16 = p.header.seqNum.toNat := by
    obtain ⟨i', -, hi', -, -, hseq⟩ := hmade
    obtain rfl := Except.ok.inj (hi'.symm.trans hi)
    exact hseq
  have hest : l.receiver.base.rtpIndex.estimate p.header.seqNum = i := by
    rcases hnear with ⟨hhi, hlo⟩ | ⟨hnone, hfirst⟩
    · rw [← hc] at hhi hlo hlimit
      exact RtpReplayDb.estimate_near h.receives.notForced hlimit hseq hlo hhi
    · rw [hnone, top_empty] at htop
      rw [RtpReplayDb.estimate_first h.receives.notForced (hc.trans htop.symm), ← hseq,
        Nat.mod_eq_of_lt hfirst]
  obtain ⟨hresult, hindex⟩ := h.delivered_rtp hvalid hmade hi hest hl h0
  rw [htop] at hresult hindex
  unfold linkStep
  dsimp only
  rw [hp]
  exact ⟨congrArg some hresult, hindex⟩

/-! ## SRTCP -/

/-- An SRTCP packet that is accepted is less than half a rollover away from the highest number
accepted before. -/
def LinkEvent.InStep (e : LinkEvent) : Prop :=
  ∀ n plain, e.input = .deliverRtcp n → e.answer = some (.ok plain) →
    RtcpReplayDb.Near e.pre.acceptedRtcp n

namespace Link

variable {config : StreamConfig} {l : Link}

/-- All transforms of a configuration have trailers of the same lengths. -/
theorem Coherent.fits (hv : config.Valid) (hmki : ∀ key ∈ config.keys, key.mki ≠ some [])
    (h : Coherent config l) {m m' : Mki} {t t' : Transform} {lives : KeysLifetime}
    (hl : l.receiver.base.transforms.lookup m' = some (t', lives)) (ht : config.Provides m t) :
    t.Keyed ∧ l.receiver.Fits t := by
  obtain ⟨key, hk, rfl, hkey⟩ := ht
  obtain ⟨key', hk', rfl, hkey'⟩ := h.receives.fixed.configured m' t' lives hl
  obtain ⟨hkeyed, hm, hrtp, hrtcp⟩ := keyed_newTransform hv hk hkey
  obtain ⟨-, hm', hrtp', hrtcp'⟩ := keyed_newTransform hv hk' hkey'
  obtain ⟨htag, htag', hlen, -⟩ := h.receives.fixed.fit hl
  refine ⟨hkeyed, ?_, ?_, ?_, hm ▸ hmki key hk⟩
  · rw [hrtp, ← hrtp', htag]
  · rw [hrtcp, ← hrtcp', htag']
  · rw [hm, hv.mkiLen hmki key hk key' hk', ← hm', hlen]

/-- The receiver reads the low 31 bits of the number in a packet. -/
theorem Coherent.trailerIndex_eq (hv : config.Valid)
    (hmki : ∀ key ∈ config.keys, key.mki ≠ some []) (h : Coherent config l) {m' : Mki}
    {t' : Transform} {lives : KeysLifetime}
    (hl : l.receiver.base.transforms.lookup m' = some (t', lives)) {n : ℕ} {p : SentRtcp}
    (hp : p.Made config n) : l.receiver.trailerIndex p.bytes = n % rtcpRollback := by
  obtain ⟨t, hprovides, hprotect⟩ := hp
  obtain ⟨hkeyed, hfits⟩ := h.fits hv hmki hl hprovides
  have hlow : n % rtcpRollback < 2 ^ 31 := Nat.mod_lt _ (Nat.two_pow_pos 31)
  have hindex := ((hfits.reads hkeyed).rtcp p.parsed hprotect).2
  rw [RecvStream.rtcpPacketIndex_eq] at hindex
  split at hindex
  · exact absurd hindex fail_ne_ok
  · rw [Except.ok.inj hindex, RecvStream.toNat_and_low,
      UInt32.toNat_ofNat_of_lt' (hlow.trans (by decide)), Nat.mod_eq_of_lt hlow]

/-- SRTP packets leave the numbers alone. -/
theorem Coherent.tracks_deliverRtp (h : Coherent config l)
    (htracks : l.receiver.rtcpIndex.Tracks l.acceptedRtcp) (p : SentRtp) :
    (l.deliverRtp p).2.receiver.rtcpIndex.Tracks (l.deliverRtp p).2.acceptedRtcp := by
  unfold Link.deliverRtp
  split
  · exact htracks
  · next c hc =>
    obtain ⟨header, parsed, rfl⟩ := pmap_eq_ok.mp hc
    have hkeep : (call l.receiver (RecvCall.rtpUnprotect header p.bytes parsed)).state.rtcpIndex =
        l.receiver.rtcpIndex := by
      have hcalled := LawfulStream.called (RecvCall.rtpUnprotect header p.bytes parsed)
        h.receives.fixed.sound.inRange
      cases hr : (call l.receiver (RecvCall.rtpUnprotect header p.bytes parsed)).result with
      | error f => rw [hcalled.state_of_error hr]
      | ok plain =>
        obtain ⟨i, m, t, lives, -, -, -, -, hstate⟩ := hcalled.of_ok hr
        rw [hstate]
        rfl
    dsimp only
    split <;> (dsimp only; rw [hkeep]; exact htracks)

/-- An SRTCP packet that is accepted in step adds its number. -/
theorem Coherent.tracks_deliverRtcp (hv : config.Valid)
    (hmki : ∀ key ∈ config.keys, key.mki ≠ some []) (h : Coherent config l)
    (htracks : l.receiver.rtcpIndex.Tracks l.acceptedRtcp) {n : ℕ} {p : SentRtcp}
    (hp : p.Made config n)
    (hnear : ∀ plain, (l.deliverRtcp n p).1 = .ok plain → RtcpReplayDb.Near l.acceptedRtcp n) :
    (l.deliverRtcp n p).2.receiver.rtcpIndex.Tracks (l.deliverRtcp n p).2.acceptedRtcp := by
  unfold Link.deliverRtcp at hnear ⊢
  split
  · exact htracks
  · next c hc =>
    obtain ⟨header, parsed, rfl⟩ := pmap_eq_ok.mp hc
    have hcalled := LawfulStream.called (RecvCall.rtcpUnprotect header p.bytes parsed)
      h.receives.fixed.sound.inRange
    rw [hc] at hnear
    dsimp only at hnear ⊢
    cases hr : (call l.receiver (RecvCall.rtcpUnprotect header p.bytes parsed)).result with
    | error f =>
      dsimp only
      rw [hcalled.state_of_error hr]
      exact htracks
    | ok plain =>
      rw [hr] at hnear
      obtain ⟨_, _, _, _, -, hl, -, -, -⟩ := hcalled.of_ok hr
      dsimp only
      rw [(h.receives.acceptedRtcp hr).2, h.trailerIndex_eq hv hmki hl hp]
      exact htracks.added (hnear plain rfl)

/-- The receiver keeps track of the numbers, as long as it takes them in step. -/
theorem Coherent.tracks_step (hv : config.Valid) (hmki : ∀ key ∈ config.keys, key.mki ≠ some [])
    (h : Coherent config l) (htracks : l.receiver.rtcpIndex.Tracks l.acceptedRtcp) {op : LinkOp}
    (hop : LinkEvent.InStep (.of linkStep l op)) :
    (linkStep l op).2.receiver.rtcpIndex.Tracks (linkStep l op).2.acceptedRtcp := by
  cases op with
  | send c =>
    show (l.send c).2.receiver.rtcpIndex.Tracks (l.send c).2.acceptedRtcp
    unfold Link.send
    dsimp only
    split <;> exact htracks
  | deliverRtp k =>
    unfold linkStep
    dsimp only
    split
    · exact htracks
    · exact h.tracks_deliverRtp htracks _
  | deliverRtcp n =>
    cases hp : l.rtcp[n]? with
    | none =>
      unfold linkStep
      dsimp only
      rw [hp]
      exact htracks
    | some p =>
      have hstep : linkStep l (.deliverRtcp n) =
          (some (l.deliverRtcp n p).1, (l.deliverRtcp n p).2) := by
        unfold linkStep
        dsimp only
        rw [hp]
      rw [hstep]
      refine h.tracks_deliverRtcp hv hmki htracks (h.sends.rtcp hp) fun plain hplain => ?_
      refine hop n plain rfl ?_
      show (linkStep l (.deliverRtcp n)).1 = _
      rw [hstep, hplain]

/-- What the delivery of an SRTCP packet does that is in step. -/
theorem Coherent.delivered_rtcp [LawfulCrates] (hv : config.Valid) (h : Coherent config l)
    (htracks : l.receiver.rtcpIndex.Tracks l.acceptedRtcp) {n : ℕ} {p : SentRtcp}
    (hp : p.Made config n) {t : Transform} {lives : KeysLifetime}
    (hl : l.receiver.base.transforms.lookup p.mki = some (t, lives)) (h0 : lives.rtcp ≠ 0)
    (hnear : RtcpReplayDb.Near l.acceptedRtcp n) :
    (l.deliverRtcp n p).1 =
        (if n ∉ l.acceptedRtcp ∧ (top l.acceptedRtcp < n ∨
            top l.acceptedRtcp - n < config.replayWindowSize.toNat) then .ok p.plain
          else fail .invalidPacketIndex) ∧
      top (l.deliverRtcp n p).2.acceptedRtcp = max (top l.acceptedRtcp) n := by
  obtain ⟨t', hprovides, hprotect⟩ := hp
  obtain ⟨rfl, hm⟩ := h.transform_eq hv hl hprovides
  have hfixed := h.receives.fixed
  rw [← hm] at hl
  have parsed := Transform.rtcp_parsed (hfixed.sound.keyed hl).1 p.parsed hprotect
  have hcall := RecvStream.rtcp_received hfixed.sound hfixed.fit hl h0
    (Nat.mod_lt n (Nat.two_pow_pos 31)) p.parsed hprotect parsed
  have hfresh : n ∉ l.acceptedRtcp ∧ (top l.acceptedRtcp < n ∨
      top l.acceptedRtcp - n < config.replayWindowSize.toNat) ↔
        ¬ l.receiver.rtcpIndex.seen (n % rtcpRollback) = true := by
    rw [← not_seen_iff, ← h.receives.rtcpWindow, ← htracks.seen_iff hnear]
  unfold Link.deliverRtcp
  rw [RecvStream.parse_rtcp parsed]
  dsimp only
  by_cases hseen : l.receiver.rtcpIndex.seen (n % rtcpRollback) = true
  · rw [if_pos hseen] at hcall
    rw [hcall, if_neg fun hnew => hfresh.mp hnew hseen]
    exact ⟨rfl, (max_eq_left ((htracks.seen_iff hnear).mp hseen).1).symm⟩
  · rw [if_neg hseen] at hcall
    rw [hcall, if_pos (hfresh.mpr hseen)]
    exact ⟨rfl, by rw [top_insert, max_comm]⟩

end Link

/-- SRTCP, over any run of a link whose packets were accepted in step: the `n`-th packet, less than
half a rollover away from the highest number `N` accepted before, is returned intact if it was not
accepted before and the window reaches to it, and is rejected as a replay otherwise. -/
theorem srtcp_delivery [LawfulCrates] {config : StreamConfig} (hv : config.validate = .ok ())
    (hmki : ∀ key ∈ config.keys, key.mki ≠ some []) {ssrc : UInt32}
    {handler handler' : Option KeyLimitHandler} {s₀ : SendStream} {r₀ : RecvStream}
    (hsend : SendStream.new ssrc config handler = .ok s₀)
    (hrecv : RecvStream.new ssrc config handler' = .ok r₀) {es : List LinkEvent} {l : Link}
    (ht : Trace linkStep (Link.start s₀ r₀) es l) (hes : ∀ e ∈ es, LinkEvent.InStep e) {n N : ℕ}
    {p : SentRtcp} (hp : l.rtcp[n]? = some p) (hN : top l.acceptedRtcp = N) {t : Transform}
    {lives : KeysLifetime} (hl : l.receiver.base.transforms.lookup p.mki = some (t, lives))
    (h0 : lives.rtcp ≠ 0) (hnear : n < N + 2 ^ 30 ∧ N < n + 2 ^ 30) :
    (linkStep l (.deliverRtcp n)).1 = some
        (if n ∉ l.acceptedRtcp ∧ (N < n ∨ N - n < config.replayWindowSize.toNat) then .ok p.plain
          else fail .invalidPacketIndex) ∧
      top (linkStep l (.deliverRtcp n)).2.acceptedRtcp = max N n := by
  have hvalid := StreamConfig.valid_of_validate hv
  have hstart : Link.Coherent config (.start s₀ r₀) ∧
      (Link.start s₀ r₀).receiver.rtcpIndex.Tracks (Link.start s₀ r₀).acceptedRtcp := by
    refine ⟨.run hvalid hmki hsend hrecv .nil, ?_⟩
    obtain ⟨b, -, h⟩ := bind_eq_ok.mp hrecv
    obtain rfl := Except.ok.inj h
    exact RtcpReplayDb.tracks_new _
  obtain ⟨h, htracks⟩ := ht.invariant_of (I := fun l => l.Coherent config ∧
    l.receiver.rtcpIndex.Tracks l.acceptedRtcp) hes hstart
    fun l op hl hop => ⟨hl.1.step op, hl.1.tracks_step hvalid hmki hl.2 hop⟩
  subst hN
  obtain ⟨hresult, htop⟩ := h.delivered_rtcp hvalid htracks (h.sends.rtcp hp) hl h0 hnear
  unfold linkStep
  dsimp only
  rw [hp]
  exact ⟨congrArg some hresult, htop⟩

/-! ## A packet that is late by half a rollover -/

namespace Link

variable {config : StreamConfig} {r : RecvStream} {t : Transform} {header : RtcpHeader}
  {plain : Bytes} {mki : Mki} {lives k : ℕ} {l : Link}

/-- One packet was protected `k` times with a key of so many lives, and nothing was delivered. -/
structure Loaded (config : StreamConfig) (r : RecvStream) (t : Transform) (header : RtcpHeader)
    (plain : Bytes) (mki : Mki) (lives k : ℕ) (l : Link) : Prop where
  coherent : Coherent config l
  receiver : l.receiver = r
  accepted : l.acceptedRtcp = ∅
  length : l.rtcp.length = k
  sent : ∀ p ∈ l.rtcp, p.header = header ∧ p.plain = plain ∧ p.mki = mki
  left : ∃ lifetime, l.sender.base.transforms.lookup mki = some (t, lifetime) ∧
    lifetime.rtcp = lives - k

theorem Loaded.step (h : Loaded config r t header plain mki lives k l) (hk : k < lives)
    (parsed : RtcpHeader.new plain = .ok header)
    (hprotect : ∀ index, ∃ bytes, t.rtcpProtect plain header index = .ok bytes) :
    Loaded config r t header plain mki lives (k + 1)
      (linkStep l (.send (.rtcpProtect header plain mki parsed))).2 := by
  obtain ⟨hcoherent, hr, ha, hlen, hsent, lifetime, hl, hleft⟩ := h
  obtain ⟨bytes, hbytes⟩ := hprotect (UInt32.ofNat l.sender.rtcpIndex)
  have hcall := call_done (c := .rtcpProtect header plain mki parsed) hcoherent.sends.sound.inRange
    rfl hl (by show lifetime.rtcp ≠ 0; omega) hbytes
  have hstep := hcoherent.step (.send (.rtcpProtect header plain mki parsed))
  have hsend : (linkStep l (.send (.rtcpProtect header plain mki parsed))).2 = { l with
      sender := withTransforms (PacketStream.advance l.sender
        (SendCall.rtcpProtect header plain mki parsed) l.sender.rtcpIndex)
        (l.sender.base.transforms.insert mki (t, lifetime.spent false))
      rtcp := l.rtcp ++ [⟨header, plain, mki, parsed, bytes⟩] } := by
    show (l.send _).2 = _
    unfold Link.send
    rw [hcall]
    rfl
  rw [hsend] at hstep ⊢
  refine ⟨hstep, hr, ha, ?_, ?_, lifetime.spent false, Finmap.lookup_insert .., ?_⟩
  · rw [List.length_append, hlen]
    rfl
  · rintro p hp
    rcases List.mem_append.mp hp with hp | hp
    · exact hsent p hp
    · obtain rfl := List.mem_singleton.mp hp
      exact ⟨rfl, rfl, rfl⟩
  · show lifetime.rtcp - 1 = _
    omega

theorem linkStep_deliverRtcp {n : ℕ} {p : SentRtcp} (hp : l.rtcp[n]? = some p) :
    linkStep l (.deliverRtcp n) = (some (l.deliverRtcp n p).1, (l.deliverRtcp n p).2) := by
  unfold linkStep
  dsimp only
  rw [hp]

theorem deliverRtcp_result {n : ℕ} {p : SentRtcp} {c : RecvCall}
    (hc : parse (T := RecvStream) (RecvRequest.rtcpUnprotect p.bytes) = .ok c) :
    (l.deliverRtcp n p).1 = (call l.receiver c).result := by
  unfold Link.deliverRtcp
  rw [hc]
  dsimp only
  cases (call l.receiver c).result <;> rfl

theorem linkStep_accepted {n : ℕ} {p : SentRtcp} {c : RecvCall} (hp : l.rtcp[n]? = some p)
    (hc : parse (T := RecvStream) (RecvRequest.rtcpUnprotect p.bytes) = .ok c)
    (hr : (call l.receiver c).result = .ok plain) :
    (linkStep l (.deliverRtcp n)).2.rtcp = l.rtcp ∧
      (linkStep l (.deliverRtcp n)).2.receiver = (call l.receiver c).state ∧
      (linkStep l (.deliverRtcp n)).2.acceptedRtcp = insert n l.acceptedRtcp := by
  have hdeliver : (l.deliverRtcp n p).2 = { l with
      receiver := (call l.receiver c).state, acceptedRtcp := insert n l.acceptedRtcp } := by
    unfold Link.deliverRtcp
    rw [hc]
    dsimp only
    rw [hr]
  rw [linkStep_deliverRtcp hp, hdeliver]
  exact ⟨rfl, rfl, rfl⟩

end Link

end Delivery

section Example

open Vectors

attribute [local instance] Vectors.crates Vectors.lawful

theorem plainConfig_valid : (config [key none .default]).Valid :=
  StreamConfig.valid_of_validate (by decide +kernel)

def sendRtp (seqNum : UInt16) : LinkOp := .send (protectCall seqNum none (rtpPacket_isOk ..))

/-- The last packet of each kind arrives first, and twice. -/
def reorderedOps : List LinkOp :=
  [sendRtp 1, sendRtp 2, sendRtp 3, .send (protectRtcpCall none), .send (protectRtcpCall none),
    .deliverRtp 2, .deliverRtp 2, .deliverRtcp 1, .deliverRtcp 1]

def reorderedLink : Link := (runAll linkStep (Link.start plainSender plainReceiver) reorderedOps).2

theorem reorderedLink_run : Trace linkStep (Link.start plainSender plainReceiver)
    (runAll linkStep (Link.start plainSender plainReceiver) reorderedOps).1 reorderedLink := .runAll ..

/-- The packets 1 and 2 are late, and the packet 3 was there. -/
theorem srtp_delivery_reordered :
    [0, 1, 2].map (fun k => (linkStep reorderedLink (.deliverRtp k)).1) =
      [some (.ok (rtpPacket 0xcafebabe 1)), some (.ok (rtpPacket 0xcafebabe 2)),
        some (fail .invalidPacketIndex)] := by
  have hsent : ∀ k ∈ List.range 3, (reorderedLink.rtp[k]?).map (fun p => (p.index, p.mki, p.plain)) =
      some (.ok (k + 1), none, rtpPacket 0xcafebabe (UInt16.ofNat (k + 1))) := by decide +kernel
  have hlives : (reorderedLink.receiver.base.transforms.lookup none).map (·.2.rtp) =
      some (2 ^ 48 - 1) := by decide +kernel
  obtain ⟨entry, hl, h0⟩ := Option.map_eq_some_iff.mp hlives
  have haccepted : reorderedLink.acceptedRtp = {3} := by decide +kernel
  have hdelivered : ∀ k < 3, (linkStep reorderedLink (.deliverRtp k)).1 = some
      (if k + 1 ∉ ({3} : Finset ℕ) ∧ (3 < k + 1 ∨ 3 - (k + 1) < 128) then
        .ok (rtpPacket 0xcafebabe (UInt16.ofNat (k + 1))) else fail .invalidPacketIndex) := by
    intro k hk
    obtain ⟨p, hp, hfields⟩ := Option.map_eq_some_iff.mp (hsent k (List.mem_range.mpr hk))
    obtain ⟨hi, hfields⟩ := Prod.mk.inj hfields
    obtain ⟨hm, hplain⟩ := Prod.mk.inj hfields
    obtain ⟨hresult, -⟩ := srtp_delivery (by decide +kernel) (by decide) (sendStream_eq _ _)
      (recvStream_eq _ _) reorderedLink_run hp hi (c := 3) (by decide +kernel) (hm ▸ hl)
      (by rw [h0]; omega) (by decide) (.inl ⟨by omega, by omega⟩)
    rw [← hplain, ← haccepted]
    exact hresult
  rw [List.map_cons, List.map_cons, List.map_cons, List.map_nil, hdelivered 0 (by decide),
    hdelivered 1 (by decide), hdelivered 2 (by decide)]
  decide

theorem reorderedOps_inStep :
    ∀ e ∈ (runAll linkStep (Link.start plainSender plainReceiver) reorderedOps).1,
      LinkEvent.InStep e := by
  have htop : ∀ e ∈ (runAll linkStep (Link.start plainSender plainReceiver) reorderedOps).1,
      top e.pre.acceptedRtcp ≤ 1 := by decide +kernel
  intro e he n plain hinput _
  have hn : n = 1 := by
    have hmem := input_mem_of_runAll he
    rw [hinput] at hmem
    simpa [reorderedOps, sendRtp] using hmem
  have hle := htop e he
  unfold RtcpReplayDb.Near maxRtcpStep
  omega

/-- The packet 0 is late, and the packet 1 was there. -/
theorem srtcp_delivery_reordered :
    [0, 1].map (fun n => (linkStep reorderedLink (.deliverRtcp n)).1) =
      [some (.ok (rtcpPacket 0xcafebabe)), some (fail .invalidPacketIndex)] := by
  have hsent : ∀ n ∈ List.range 2, (reorderedLink.rtcp[n]?).map (fun p => (p.mki, p.plain)) =
      some (none, rtcpPacket 0xcafebabe) := by decide +kernel
  have hlives : (reorderedLink.receiver.base.transforms.lookup none).map (·.2.rtcp) =
      some (2 ^ 31 - 1) := by decide +kernel
  obtain ⟨entry, hl, h0⟩ := Option.map_eq_some_iff.mp hlives
  have haccepted : reorderedLink.acceptedRtcp = {1} := by decide +kernel
  have hdelivered : ∀ n < 2, (linkStep reorderedLink (.deliverRtcp n)).1 = some
      (if n ∉ ({1} : Finset ℕ) ∧ (1 < n ∨ 1 - n < 128) then .ok (rtcpPacket 0xcafebabe)
        else fail .invalidPacketIndex) := by
    intro n hn
    obtain ⟨p, hp, hfields⟩ := Option.map_eq_some_iff.mp (hsent n (List.mem_range.mpr hn))
    obtain ⟨hm, hplain⟩ := Prod.mk.inj hfields
    obtain ⟨hresult, -⟩ := srtcp_delivery (by decide +kernel) (by decide) (sendStream_eq _ _)
      (recvStream_eq _ _) reorderedLink_run reorderedOps_inStep hp (N := 1) (by decide +kernel)
      (hm ▸ hl) (by rw [h0]; omega) ⟨by omega, by omega⟩
    rw [← hplain, ← haccepted]
    exact hresult
  rw [List.map_cons, List.map_cons, List.map_nil, hdelivered 0 (by decide), hdelivered 1 (by decide)]
  decide

/-- The sender protects `2^30 + 3` packets; the first one arrives after two others of them. -/
def lateOps : List LinkOp :=
  List.replicate (2 ^ 30 + 3) (.send (protectRtcpCall none)) ++
    [.deliverRtcp (2 ^ 29), .deliverRtcp (2 ^ 30 + 1), .deliverRtcp 0]

/-- The link once all packets are on their way. -/
theorem loaded_plainSender : ∃ t,
    newTransform (config [key none .default]) (key none .default) = .ok t ∧
    Link.Loaded (config [key none .default]) plainReceiver t ⟨0xcafebabe⟩ (rtcpPacket 0xcafebabe) none
      (2 ^ 31) (2 ^ 30 + 3) (runAll linkStep (Link.start plainSender plainReceiver)
        (List.replicate (2 ^ 30 + 3) (.send (protectRtcpCall none)))).2 := by
  have hcoherent : Link.Coherent (config [key none .default])
      (Link.start plainSender plainReceiver) :=
    Link.Coherent.run plainConfig_valid (by decide) (sendStream_eq _ _) (recvStream_eq _ _) .nil
  obtain ⟨t, ht, hl⟩ := lookup_new_key (s := plainSender) plainConfig_valid (sendStream_eq _ _)
    (List.mem_singleton_self (key none .default))
  have hprotect : ∀ index, ∃ bytes,
      t.rtcpProtect (rtcpPacket 0xcafebabe) ⟨0xcafebabe⟩ index = .ok bytes := by
    have hkeyed := (keyed_newTransform plainConfig_valid (List.mem_singleton_self _) ht).1
    obtain ⟨t, -, heq⟩ := bind_eq_ok.mp ht
    obtain rfl := Except.ok.inj heq
    exact fun index => AesCmSha1.Keyed.exists_rtcpProtect hkeyed _ index (by decide) (by decide)
  have hstart : Link.Loaded (config [key none .default]) plainReceiver t ⟨0xcafebabe⟩
      (rtcpPacket 0xcafebabe) none (2 ^ 31) 0 (Link.start plainSender plainReceiver) :=
    ⟨hcoherent, rfl, rfl, rfl, by simp [Link.start], .default, hl, rfl⟩
  have hload := runAll_replicate (n := 2 ^ 31)
    (fun hj h => h.step hj (by decide) hprotect) (k := 2 ^ 30 + 3) (by decide) hstart
  rw [Nat.zero_add] at hload
  exact ⟨t, ht, hload⟩

/-- Each packet of that link is known. -/
theorem loaded_packet {t : Transform} {l : Link} {n : ℕ} (hn : n < 2 ^ 30 + 3)
    (ht : newTransform (config [key none .default]) (key none .default) = .ok t)
    (hload : l.Loaded (config [key none .default]) plainReceiver t ⟨0xcafebabe⟩
      (rtcpPacket 0xcafebabe) none (2 ^ 31) (2 ^ 30 + 3))
    (hbytes : (newTransform (config [key none .default]) (key none .default) >>= fun t =>
      t.rtcpProtect (rtcpPacket 0xcafebabe) ⟨0xcafebabe⟩ (UInt32.ofNat (n % rtcpRollback))) =
        .ok (srtcpPacket 0xcafebabe n)) :
    ∃ p, l.rtcp[n]? = some p ∧ p.mki = none ∧ p.bytes = srtcpPacket 0xcafebabe n := by
  have hlt : n < l.rtcp.length := hload.length ▸ hn
  have hp := List.getElem?_eq_getElem hlt
  refine ⟨l.rtcp[n], hp, ?_⟩
  obtain ⟨hheader, hplain, hmki⟩ := hload.sent _ (List.getElem_mem hlt)
  obtain ⟨t', hprovides, hprotect⟩ := hload.coherent.sends.rtcp hp
  rw [hheader, hplain] at hprotect
  rw [hmki] at hprovides
  obtain rfl := StreamConfig.Provides.unique plainConfig_valid hprovides
    ⟨key none .default, List.mem_singleton_self _, rfl, ht⟩
  rw [ht, ok_bind, hprotect] at hbytes
  exact ⟨hmki, Except.ok.inj hbytes⟩

theorem parse_unprotectRtcpCall {n : ℕ} {bytes : Bytes} (hb : bytes = srtcpPacket 0xcafebabe n)
    (h : (RtcpHeader.new (srtcpPacket 0xcafebabe n)).isOk = true) :
    parse (T := RecvStream) (RecvRequest.rtcpUnprotect bytes) = .ok (unprotectRtcpCall n h) := by
  rw [hb]
  exact RecvStream.parse_rtcp (Exec.eq_ok_get h)

/-- The delivery of a packet that the receiver accepts. -/
theorem linkStep_unprotectRtcpCall {l : Link} {s : RecvStream} {n : ℕ} {p : SentRtcp}
    (hs : l.receiver = s) (hp : l.rtcp[n]? = some p) (hb : p.bytes = srtcpPacket 0xcafebabe n)
    {h : (RtcpHeader.new (srtcpPacket 0xcafebabe n)).isOk = true}
    (hr : (call s (unprotectRtcpCall n h)).result = .ok (rtcpPacket 0xcafebabe)) :
    (linkStep l (.deliverRtcp n)).2.rtcp = l.rtcp ∧
      (linkStep l (.deliverRtcp n)).2.receiver = (call s (unprotectRtcpCall n h)).state ∧
      (linkStep l (.deliverRtcp n)).2.acceptedRtcp = insert n l.acceptedRtcp := by
  subst hs
  exact Link.linkStep_accepted hp (parse_unprotectRtcpCall hb h) hr

/-- The first packet, late by more than half a rollover, is taken for one of the next rollover. The
packets in order are then rejected. -/
theorem lateSrtcp_stops_delivery :
    LawfulCrates ∧ ∃ l p t lives,
      (runAll linkStep (Link.start plainSender plainReceiver) lateOps).2 = l ∧
      top l.acceptedRtcp = 2 ^ 30 + 1 ∧ 2 ^ 30 + 2 ∉ l.acceptedRtcp ∧
      l.rtcp[2 ^ 30 + 2]? = some p ∧ l.receiver.base.transforms.lookup p.mki = some (t, lives) ∧
      lives.rtcp ≠ 0 ∧
      (linkStep l (.deliverRtcp (2 ^ 30 + 2))).1 = some (fail .invalidPacketIndex) := by
  refine ⟨lawful, ?_⟩
  obtain ⟨t, ht, hload⟩ := loaded_plainSender
  have happend : ∀ (s : Link) (is : List LinkOp),
      (runAll linkStep s (is ++ [.deliverRtcp (2 ^ 29), .deliverRtcp (2 ^ 30 + 1), .deliverRtcp 0])).2 =
        (linkStep (linkStep (linkStep (runAll linkStep s is).2 (.deliverRtcp (2 ^ 29))).2
          (.deliverRtcp (2 ^ 30 + 1))).2 (.deliverRtcp 0)).2 :=
    fun s is => runAll_append linkStep s is _
  have hrun := happend (Link.start plainSender plainReceiver)
    (List.replicate (2 ^ 30 + 3) (.send (protectRtcpCall none)))
  rw [← lateOps] at hrun
  generalize (runAll linkStep (Link.start plainSender plainReceiver)
    (List.replicate (2 ^ 30 + 3) (.send (protectRtcpCall none)))).2 = l at hload hrun
  obtain ⟨p₁, hp₁, -, hb₁⟩ := loaded_packet (n := 2 ^ 29) (by decide) ht hload (by decide +kernel)
  obtain ⟨p₂, hp₂, -, hb₂⟩ := loaded_packet (n := 2 ^ 30 + 1) (by decide) ht hload (by decide +kernel)
  obtain ⟨p₃, hp₃, -, hb₃⟩ := loaded_packet (n := 0) (by decide) ht hload (by decide +kernel)
  obtain ⟨p₄, hp₄, hm₄, hb₄⟩ := loaded_packet (n := 2 ^ 30 + 2) (by decide) ht hload (by decide +kernel)
  obtain ⟨hsent₁, hr₁, ha₁⟩ := linkStep_unprotectRtcpCall hload.receiver hp₁ hb₁
    (h := by decide +kernel) (by decide +kernel)
  generalize (linkStep l (.deliverRtcp (2 ^ 29))).2 = l₁ at hrun hsent₁ hr₁ ha₁
  rw [← hsent₁] at hp₂ hp₃ hp₄
  obtain ⟨hsent₂, hr₂, ha₂⟩ := linkStep_unprotectRtcpCall hr₁ hp₂ hb₂
    (h := by decide +kernel) (by decide +kernel)
  generalize (linkStep l₁ (.deliverRtcp (2 ^ 30 + 1))).2 = l₂ at hrun hsent₂ hr₂ ha₂
  rw [← hsent₂] at hp₃ hp₄
  obtain ⟨hsent₃, hr₃, ha₃⟩ := linkStep_unprotectRtcpCall hr₂ hp₃ hb₃
    (h := by decide +kernel) (by decide +kernel)
  generalize (linkStep l₂ (.deliverRtcp 0)).2 = l₃ at hrun hsent₃ hr₃ ha₃
  rw [← hsent₃] at hp₄
  have haccepted : l₃.acceptedRtcp = {0, 2 ^ 30 + 1, 2 ^ 29} := by
    rw [ha₃, ha₂, ha₁, hload.accepted]
    rfl
  have hlookup : (l₃.receiver.base.transforms.lookup none).map (·.2.rtcp) = some (2 ^ 31 - 3) := by
    rw [hr₃]
    decide +kernel
  obtain ⟨entry, hl, hlives⟩ := Option.map_eq_some_iff.mp hlookup
  refine ⟨l₃, p₄, entry.1, entry.2, hrun, ?_, ?_, hp₄, ?_, ?_, ?_⟩
  · rw [haccepted, top_insert, top_insert]
    decide
  · rw [haccepted]
    simp
  · rw [hm₄, hl]
  · rw [hlives]
    decide
  · rw [Link.linkStep_deliverRtcp hp₄]
    refine congrArg some ((Link.deliverRtcp_result
      (parse_unprotectRtcpCall hb₄ (by decide +kernel))).trans ?_)
    rw [hr₃]
    decide +kernel

end Example

end LibSrtp
