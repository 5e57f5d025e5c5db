import LibSrtp.Canonical
import LibSrtp.ReplayWindow

/-!
# Packets on their way

A sender, a receiver, and a network between them that drops, duplicates and reorders packets.

* `Link`, `linkStep`: the two streams, all packets that were ever sent, and what was accepted;
* `Link.Coherent`: what holds of every link between streams of one configuration, `Coherent.step`;
* `RecvStream.rtp_received`, `RecvStream.rtcp_received`: what a receiver makes of one packet of its
  sender.
-/

namespace LibSrtp

open Exec PacketStream SlidingWindow

/-- An SRTP packet on its way: what it was made of, the answer of its sender's index estimate, and
its bytes. -/
structure SentRtp where
  header : RtpHeader
  plain : Bytes
  mki : Mki
  parsed : RtpHeader.new plain = .ok header
  index : Res Nat
  bytes : Bytes

/-- An SRTCP packet on its way. -/
structure SentRtcp where
  header : RtcpHeader
  plain : Bytes
  mki : Mki
  parsed : RtcpHeader.new plain = .ok header
  bytes : Bytes

/-- Two streams and the network. Packets stay on their way for ever. -/
structure Link where
  sender : SendStream
  receiver : RecvStream
  rtp : List SentRtp
  rtcp : List SentRtcp
  /-- the indices that the receiver accepted -/
  acceptedRtp : Finset ℕ
  /-- the numbers of the SRTCP packets that the receiver accepted -/
  acceptedRtcp : Finset ℕ

inductive LinkOp where
  | send (c : SendCall)
  /-- the `k`-th SRTP packet arrives -/
  | deliverRtp (k : ℕ)
  /-- the `n`-th SRTCP packet arrives -/
  | deliverRtcp (n : ℕ)

variable [Crates]

namespace Link

def start (sender : SendStream) (receiver : RecvStream) : Link := ⟨sender, receiver, [], [], ∅, ∅⟩

def send (l : Link) (c : SendCall) : Res Bytes × Link :=
  let r := call l.sender c
  match r.result, c with
  | .error f, _ => (.error f, { l with sender := r.state })
  | .ok bytes, .rtpProtect header plain mki parsed =>
    (.ok bytes, { l with
      sender := r.state
      rtp := l.rtp ++ [⟨header, plain, mki, parsed, l.sender.rtpIndex header, bytes⟩] })
  | .ok bytes, .rtcpProtect header plain mki parsed =>
    (.ok bytes, { l with
      sender := r.state
      rtcp := l.rtcp ++ [⟨header, plain, mki, parsed, bytes⟩] })

def deliverRtp (l : Link) (p : SentRtp) : Res Bytes × Link :=
  match parse (T := RecvStream) (RecvRequest.rtpUnprotect p.bytes) with
  | .error f => (.error f, l)
  | .ok c =>
    let r := call l.receiver c
    match r.result, locate l.receiver c with
    | .ok plain, .ok (i, _) =>
      (.ok plain, { l with receiver := r.state, acceptedRtp := insert i l.acceptedRtp })
    | result, _ => (result, { l with receiver := r.state })

def deliverRtcp (l : Link) (n : ℕ) (p : SentRtcp) : Res Bytes × Link :=
  match parse (T := RecvStream) (RecvRequest.rtcpUnprotect p.bytes) with
  | .error f => (.error f, l)
  | .ok c =>
    let r := call l.receiver c
    match r.result with
    | .ok plain =>
      (.ok plain, { l with receiver := r.state, acceptedRtcp := insert n l.acceptedRtcp })
    | .error f => (.error f, { l with receiver := r.state })

end Link

/-- Nothing happens when a packet is delivered that was never sent. -/
def linkStep (l : Link) : LinkOp → Option (Res Bytes) × Link
  | .send c => (some (l.send c).1, (l.send c).2)
  | .deliverRtp k =>
    match l.rtp[k]? with
    | none => (none, l)
    | some p => (some (l.deliverRtp p).1, (l.deliverRtp p).2)
  | .deliverRtcp n =>
    match l.rtcp[n]? with
    | none => (none, l)
    | some p => (some (l.deliverRtcp n p).1, (l.deliverRtcp n p).2)

abbrev LinkEvent := Event Link LinkOp (Option (Res Bytes))

/-! ## One packet -/

namespace Transform

variable {t : Transform} {plain packet : Bytes}

/-- A protected packet has the header of the original. -/
theorem rtp_parsed (h : t.Keyed) {header : RtpHeader} {roc : UInt32}
    (parsed : RtpHeader.new plain = .ok header)
    (hp : t.rtpProtect plain header roc = .ok packet) : RtpHeader.new packet = .ok header := by
  obtain ⟨front, tag, rfl, -, hfront, htake⟩ := rtp_layout h (RtpHeader.len_le parsed).2 hp
  refine RtpHeader.new_congr parsed (by simp only [List.length_append]; omega) ?_
  rw [List.append_assoc, List.take_append_of_le_length hfront, htake]

theorem rtcp_parsed (h : t.Keyed) {header : RtcpHeader} {index : UInt32}
    (parsed : RtcpHeader.new plain = .ok header)
    (hp : t.rtcpProtect plain header index = .ok packet) : RtcpHeader.new packet = .ok header := by
  obtain ⟨front, tag, rfl, -, hfront, htake⟩ := rtcp_layout h (RtcpHeader.len_le parsed) hp
  refine RtcpHeader.new_congr parsed (by simp only [List.length_append]; omega) ?_
  rw [List.append_assoc, List.append_assoc, List.take_append_of_le_length hfront, htake]

end Transform

namespace RecvStream

variable {s : RecvStream} {t : Transform} {l : KeysLifetime} {plain packet : Bytes}

/-- Where a receiver puts a packet that its transform protected under the index it estimates. -/
theorem rtp_locate (hs : Sound s) (hfit : s.AllFit)
    (hl : s.base.transforms.lookup t.mki = some (t, l)) {header : RtpHeader} {i : ℕ}
    (parsed : RtpHeader.new plain = .ok header)
    (hp : t.rtpProtect plain header (rocOfIndex i) = .ok packet)
    (hi : s.base.rtpIndex.estimate header.seqNum = i) (parsed' : RtpHeader.new packet = .ok header) :
    PacketStream.locate s (RecvCall.rtpUnprotect header packet parsed') =
      if s.base.rtpIndex.seen i = true then fail .invalidPacketIndex else .ok (i, t.mki) := by
  have hmki := ((hfit hl).reads (hs.keyed hl).1).rtp parsed hp
  show s.rtpIndexMki header packet = _
  rw [rtpIndexMki_eq hs.inRange.1, hi, hmki]
  rfl

/-- What it makes of that packet. -/
theorem rtp_received [LawfulCrates] (hs : Sound s) (hfit : s.AllFit)
    (hl : s.base.transforms.lookup t.mki = some (t, l)) (h0 : l.rtp ≠ 0) {header : RtpHeader} {i : ℕ}
    (parsed : RtpHeader.new plain = .ok header)
    (hp : t.rtpProtect plain header (rocOfIndex i) = .ok packet)
    (hi : s.base.rtpIndex.estimate header.seqNum = i) (parsed' : RtpHeader.new packet = .ok header) :
    call s (RecvCall.rtpUnprotect header packet parsed') =
      if s.base.rtpIndex.seen i = true then ⟨fail .invalidPacketIndex, s, []⟩
      else ⟨.ok plain, { s with base := { s.base with
        rtpIndex := s.base.rtpIndex.added i
        transforms := s.base.transforms.insert t.mki (t, l.spent true) } },
        s.base.alerts true t.mki l⟩ := by
  have hlocate := rtp_locate hs hfit hl parsed hp hi parsed'
  have hopen := Transform.rtp_round_trip (hs.keyed hl).1 (RtpHeader.len_le parsed).2 hp
  split
  · next hseen =>
    rw [if_pos hseen] at hlocate
    exact call_rejected hs.inRange hlocate
  · next hseen =>
    rw [if_neg hseen] at hlocate
    exact call_done hs.inRange hlocate hl h0 hopen

/-- What a receiver makes of the packet that its transform protected under the index `i`. -/
theorem rtcp_received [LawfulCrates] (hs : Sound s) (hfit : s.AllFit)
    (hl : s.base.transforms.lookup t.mki = some (t, l)) (h0 : l.rtcp ≠ 0) {header : RtcpHeader} {i : ℕ}
    (hi : i < rtcpRollback) (parsed : RtcpHeader.new plain = .ok header)
    (hp : t.rtcpProtect plain header (UInt32.ofNat i) = .ok packet)
    (parsed' : RtcpHeader.new packet = .ok header) :
    call s (RecvCall.rtcpUnprotect header packet parsed') =
      if s.rtcpIndex.seen i = true then ⟨fail .invalidPacketIndex, s, []⟩
      else ⟨.ok plain, { s with
        base := { s.base with transforms := s.base.transforms.insert t.mki (t, l.spent false) }
        rtcpIndex := s.rtcpIndex.added i }, s.base.alerts false t.mki l⟩ := by
  have hkeyed := (hs.keyed hl).1
  have hfits := hfit hl
  obtain ⟨hmki, hindex⟩ := (hfits.reads hkeyed).rtcp parsed hp
  have hopen := Transform.rtcp_round_trip hkeyed (RtcpHeader.len_le parsed) hp
  have hword : (UInt32.ofNat i &&& 0x7fffffff).toNat = i := by
    have hi' : i < 2 ^ 31 := hi
    rw [toNat_and_low, UInt32.toNat_ofNat_of_lt' (hi'.trans (by decide)), Nat.mod_eq_of_lt hi']
  have htrailer : 4 + t.rtcpProfile.tagLen + (mkiBytes t.mki).length = s.rtcpTrailerLen := by
    rw [hfits.rtcpTag, hfits.mkiLen, rtcpTrailerLen]
  rw [hword] at hindex
  rw [htrailer] at hopen
  have hlocate : PacketStream.locate s (RecvCall.rtcpUnprotect header packet parsed') =
      if s.rtcpIndex.seen i = true then fail .invalidPacketIndex else .ok (i, t.mki) := by
    show s.rtcpIndexMki packet = _
    unfold rtcpIndexMki
    rw [hindex, ok_bind, RtcpReplayDb.seenIndex_eq hs.inRange.2 hi, ok_bind, hmki]
    rfl
  split
  · next hseen =>
    rw [if_pos hseen] at hlocate
    exact call_rejected hs.inRange hlocate
  · next hseen =>
    rw [if_neg hseen] at hlocate
    rw [call_done hs.inRange hlocate hl h0 hopen, advance_rtcp]
    rfl

end RecvStream

/-! ## What holds of a link -/

/-- The transform of the key with the MKI `m`. -/
def StreamConfig.Provides (config : StreamConfig) (m : Mki) (t : Transform) : Prop :=
  ∃ key ∈ config.keys, key.mki = m ∧ newTransform config key = .ok t

/-- The MKIs of a configuration are distinct. -/
theorem StreamConfig.Provides.unique {config : StreamConfig} (hv : config.Valid) {m : Mki}
    {t t' : Transform} (h : config.Provides m t) (h' : config.Provides m t') : t = t' := by
  obtain ⟨key, hk, rfl, ht⟩ := h
  obtain ⟨key', hk', hm, ht'⟩ := h'
  obtain rfl := List.inj_on_of_nodup_map hv.mkis hk' hk hm
  exact Except.ok.inj (ht.symm.trans ht')

/-- The packet was protected with the key of its MKI under an index that ends in its sequence
number. -/
def SentRtp.Made (config : StreamConfig) (p : SentRtp) : Prop :=
  ∃ i t, p.index = .ok i ∧ config.Provides p.mki t ∧
    t.rtpProtect p.plain p.header (rocOfIndex i) = .ok p.bytes ∧ i % 2 ^ 16 = p.header.seqNum.toNat

/-- The packet was protected with the key of its MKI under the low 31 bits of its number. -/
def SentRtcp.Made (config : StreamConfig) (n : ℕ) (p : SentRtcp) : Prop :=
  ∃ t, config.Provides p.mki t ∧
    t.rtcpProtect p.plain p.header (UInt32.ofNat (n % rtcpRollback)) = .ok p.bytes

/-- What holds of a sender and of what it sent. -/
structure Sends (config : StreamConfig) (s : SendStream) (rtp : List SentRtp)
    (rtcp : List SentRtcp) : Prop where
  sound : Sound s
  configured : Configured config s
  nextIndex : s.rtcpIndex = rtcp.length % rtcpRollback
  rtp : ∀ p ∈ rtp, p.Made config
  rtcp : ∀ {n : ℕ} {p : SentRtcp}, rtcp[n]? = some p → p.Made config n

/-- What holds of a receiver that accepted these indices. -/
structure Receives (config : StreamConfig) (s : RecvStream) (accepted : Finset ℕ) : Prop where
  fixed : s.Fixed config
  tracks : s.base.rtpIndex.Tracks accepted
  notForced : s.base.rtpIndex.pendingRoc = none
  rtpWindow : s.base.rtpIndex.windowSize = config.replayWindowSize.toNat
  rtcpWindow : s.rtcpIndex.windowSize = config.replayWindowSize.toNat

section Sender

variable {config : StreamConfig} {s : SendStream} {rtp : List SentRtp} {rtcp : List SentRtcp}

theorem Sends.new (hv : config.Valid) {ssrc : UInt32} {handler : Option KeyLimitHandler}
    (h : SendStream.new ssrc config handler = .ok s) : Sends config s [] [] where
  sound := .new hv h
  configured := .new h
  nextIndex := by
    obtain ⟨b, -, h⟩ := bind_eq_ok.mp h
    obtain rfl := Except.ok.inj h
    rfl
  rtp := by simp
  rtcp := by simp

theorem Sends.step (h : Sends config s rtp rtcp) (c : SendCall) :
    Sound (call s c).state ∧ Configured config (call s c).state := by
  have hconf : Configured config (streamStep s (.call c)).2 :=
    h.configured.step h.sound.inRange fun _ _ _ heq => by cases heq
  exact ⟨h.sound.step (.call c), hconf⟩

theorem Sends.failed (h : Sends config s rtp rtcp) {c : SendCall} {f : Fault SrtpError}
    (hf : (call s c).result = .error f) : Sends config (call s c).state rtp rtcp := by
  rwa [(LawfulStream.called c h.sound.inRange).state_of_error hf]

theorem Sends.protectedRtp (h : Sends config s rtp rtcp) {header : RtpHeader} {plain bytes : Bytes}
    {mki : Mki} {parsed : RtpHeader.new plain = .ok header}
    (hb : (call s (SendCall.rtpProtect header plain mki parsed)).result = .ok bytes) :
    Sends config (call s (SendCall.rtpProtect header plain mki parsed)).state
      (rtp ++ [⟨header, plain, mki, parsed, s.rtpIndex header, bytes⟩]) rtcp := by
  obtain ⟨hsound, hconf⟩ := h.step (SendCall.rtpProtect header plain mki parsed)
  obtain ⟨i, m, t, l, hlocate, hl, -, happly, hstate⟩ :=
    (LawfulStream.called (SendCall.rtpProtect header plain mki parsed) h.sound.inRange).of_ok hb
  refine ⟨hsound, hconf, by rw [hstate]; exact h.nextIndex, ?_, h.rtcp⟩
  rintro p hp
  rcases List.mem_append.mp hp with hp | hp
  · exact h.rtp p hp
  · obtain rfl := List.mem_singleton.mp hp
    obtain ⟨j, hj, heq⟩ := bind_eq_ok.mp hlocate
    obtain ⟨rfl, rfl⟩ := Prod.mk.inj (Except.ok.inj heq)
    refine ⟨j, t, hj, h.configured _ _ _ hl, happly, ?_⟩
    have hest := hj
    rw [SendStream.rtpIndex_eq h.sound.inRange.1] at hest
    split at hest
    · exact absurd hest fail_ne_ok
    · obtain rfl := Except.ok.inj hest
      exact RtpReplayDb.estimate_mod _ _

theorem Sends.protectedRtcp (h : Sends config s rtp rtcp) {header : RtcpHeader} {plain bytes : Bytes}
    {mki : Mki} {parsed : RtcpHeader.new plain = .ok header}
    (hb : (call s (SendCall.rtcpProtect header plain mki parsed)).result = .ok bytes) :
    Sends config (call s (SendCall.rtcpProtect header plain mki parsed)).state
      rtp (rtcp ++ [⟨header, plain, mki, parsed, bytes⟩]) := by
  obtain ⟨hsound, hconf⟩ := h.step (SendCall.rtcpProtect header plain mki parsed)
  obtain ⟨i, m, t, l, hlocate, hl, -, happly, hstate⟩ :=
    (LawfulStream.called (SendCall.rtcpProtect header plain mki parsed) h.sound.inRange).of_ok hb
  obtain ⟨rfl, rfl⟩ := Prod.mk.inj (Except.ok.inj hlocate)
  refine ⟨hsound, hconf, ?_, h.rtp, ?_⟩
  · rw [hstate, List.length_append]
    show (s.rtcpIndex + 1) % rtcpRollback = _
    rw [h.nextIndex, Nat.mod_add_mod]
    rfl
  · intro n p hp
    rcases Nat.lt_or_ge n rtcp.length with hn | hn
    · rw [List.getElem?_append_left hn] at hp
      exact h.rtcp hp
    · obtain rfl : n = rtcp.length := by
        have := (List.getElem?_eq_some_iff.mp hp).1
        simp only [List.length_append, List.length_singleton] at this
        omega
      rw [List.getElem?_append_right hn, Nat.sub_self] at hp
      obtain rfl := Option.some.inj hp
      refine ⟨t, h.configured _ _ _ hl, ?_⟩
      rw [← h.nextIndex]
      exact happly

end Sender

section Receiver

variable {config : StreamConfig} {s : RecvStream} {A : Finset ℕ}

theorem Receives.new (hv : config.Valid) (hmki : ∀ key ∈ config.keys, key.mki ≠ some [])
    {ssrc : UInt32} {handler : Option KeyLimitHandler}
    (h : RecvStream.new ssrc config handler = .ok s) : Receives config s ∅ := by
  have hfixed := RecvStream.Fixed.run hv hmki h .nil (by simp)
  obtain ⟨b, hb, h⟩ := bind_eq_ok.mp h
  obtain rfl := Except.ok.inj h
  obtain ⟨_, _, _, _, _, rfl⟩ := BaseStream.new_ok hb
  exact ⟨hfixed, RtpReplayDb.tracks_new _, rfl, RtpReplayDb.windowSize_new _,
    RtcpReplayDb.windowSize_new _⟩

theorem Receives.step (h : Receives config s A) (c : RecvCall) :
    (call s c).state.Fixed config := by
  have hfixed : (streamStep s (.call c)).2.Fixed config := h.fixed.step fun _ _ _ heq => by cases heq
  exact hfixed

theorem Receives.failed (h : Receives config s A) {c : RecvCall} {f : Fault SrtpError}
    (hf : (call s c).result = .error f) : Receives config (call s c).state A := by
  rwa [(LawfulStream.called c h.fixed.sound.inRange).state_of_error hf]

/-- An accepted SRTP packet adds its index. -/
theorem Receives.acceptedRtp (h : Receives config s A) {header : RtpHeader} {packet plain : Bytes}
    {parsed : RtpHeader.new packet = .ok header} {i : ℕ} {m : Mki}
    (hlocate : locate s (RecvCall.rtpUnprotect header packet parsed) = .ok (i, m))
    (hb : (call s (RecvCall.rtpUnprotect header packet parsed)).result = .ok plain) :
    Receives config (call s (RecvCall.rtpUnprotect header packet parsed)).state (insert i A) := by
  have hfixed := h.step (RecvCall.rtpUnprotect header packet parsed)
  obtain ⟨i', m', t, l, hlocate', -, -, -, hstate⟩ :=
    (LawfulStream.called (RecvCall.rtpUnprotect header packet parsed) h.fixed.sound.inRange).of_ok hb
  obtain ⟨rfl, rfl⟩ := Prod.mk.inj (Except.ok.inj (hlocate.symm.trans hlocate'))
  rw [hstate] at hfixed ⊢
  exact ⟨hfixed, h.tracks.added i, rfl, h.rtpWindow, h.rtcpWindow⟩

/-- An accepted SRTCP packet leaves the SRTP index, and adds its own. -/
theorem Receives.acceptedRtcp (h : Receives config s A) {header : RtcpHeader} {packet plain : Bytes}
    {parsed : RtcpHeader.new packet = .ok header}
    (hb : (call s (RecvCall.rtcpUnprotect header packet parsed)).result = .ok plain) :
    Receives config (call s (RecvCall.rtcpUnprotect header packet parsed)).state A ∧
      (call s (RecvCall.rtcpUnprotect header packet parsed)).state.rtcpIndex =
        s.rtcpIndex.added (s.trailerIndex packet) := by
  have hfixed := h.step (RecvCall.rtcpUnprotect header packet parsed)
  obtain ⟨i, m, t, l, hlocate, -, -, -, hstate⟩ :=
    (LawfulStream.called (RecvCall.rtcpUnprotect header packet parsed) h.fixed.sound.inRange).of_ok hb
  obtain ⟨-, hi, -, -⟩ := RecvStream.rtcp_located h.fixed.sound.inRange hlocate
  have hsize : (s.rtcpIndex.added i).windowSize = s.rtcpIndex.windowSize :=
    s.rtcpIndex.added_windowSize i
  rw [hstate, RecvStream.advance_rtcp] at hfixed ⊢
  rw [← hi]
  generalize s.rtcpIndex.added i = db at hsize hfixed ⊢
  exact ⟨⟨hfixed, h.tracks, h.notForced, h.rtpWindow, hsize.trans h.rtcpWindow⟩, rfl⟩

end Receiver

/-! ## What holds of a link -/

namespace Link

/-- What holds of the link between two streams of one configuration. -/
structure Coherent (config : StreamConfig) (l : Link) : Prop where
  sends : Sends config l.sender l.rtp l.rtcp
  receives : Receives config l.receiver l.acceptedRtp

variable {config : StreamConfig} {l : Link}

theorem Coherent.send (h : Coherent config l) (c : SendCall) : Coherent config (l.send c).2 := by
  unfold Link.send
  dsimp only
  split
  · next hf => exact ⟨h.sends.failed hf, h.receives⟩
  · next hb => exact ⟨h.sends.protectedRtp hb, h.receives⟩
  · next hb => exact ⟨h.sends.protectedRtcp hb, h.receives⟩

theorem Coherent.deliverRtp (h : Coherent config l) (p : SentRtp) :
    Coherent config (l.deliverRtp p).2 := by
  unfold Link.deliverRtp
  split
  · exact h
  · next c hc =>
    obtain ⟨header, parsed, rfl⟩ := pmap_eq_ok.mp hc
    dsimp only
    split
    · next hb hlocate => exact ⟨h.sends, h.receives.acceptedRtp hlocate hb⟩
    · next hno =>
      refine ⟨h.sends, ?_⟩
      cases hr : (call l.receiver (RecvCall.rtpUnprotect header p.bytes parsed)).result with
      | error f => exact h.receives.failed hr
      | ok plain =>
        obtain ⟨i, m, -, -, hlocate, -⟩ :=
          (LawfulStream.called _ h.receives.fixed.sound.inRange).of_ok hr
        exact absurd hlocate (hno plain i m hr)

theorem Coherent.deliverRtcp (h : Coherent config l) (n : ℕ) (p : SentRtcp) :
    Coherent config (l.deliverRtcp n p).2 := by
  unfold Link.deliverRtcp
  split
  · exact h
  · next c hc =>
    obtain ⟨header, parsed, rfl⟩ := pmap_eq_ok.mp hc
    dsimp only
    split
    · next hb => exact ⟨h.sends, (h.receives.acceptedRtcp hb).1⟩
    · next hf => exact ⟨h.sends, h.receives.failed hf⟩

theorem Coherent.step (h : Coherent config l) (op : LinkOp) : Coherent config (linkStep l op).2 := by
  cases op with
  | send c => exact h.send c
  | deliverRtp k =>
    unfold linkStep
    dsimp only
    split
    · exact h
    · exact h.deliverRtp _
  | deliverRtcp n =>
    unfold linkStep
    dsimp only
    split
    · exact h
    · exact h.deliverRtcp n _

end Link

end LibSrtp
