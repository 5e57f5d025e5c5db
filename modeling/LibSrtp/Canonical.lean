import LibSrtp.Trailer

/-!
# Accepted packets are canonical

Decode, then encode: a packet that a receiver accepts is the one that the sender makes of the
result. For SRTP this holds of every accepted packet (`accepted_rtp_canonical`). SRTCP packets also
carry the E flag, which a receiver drops and AES-GCM never looks at: there it holds of the packets
with the flag of their profile (`accepted_rtcp_canonical_iff`).
-/

namespace LibSrtp

open Exec PacketStream

section Canonical

variable [Crates]

namespace RecvStream

variable {s : RecvStream} {t : Transform}

/-! ## The parts of a received packet -/

omit [Crates] in
/-- The stream cuts a packet into what comes before the MKI, the MKI and the tag. -/
theorem getMki_parts {cipher : Bytes} {headerLen : Nat} {isRtp : Bool} {m : Mki}
    (hlen : headerLen + s.base.mkiLen + s.componentTagLen isRtp ≤ cipher.length)
    (hm : s.getMki cipher headerLen isRtp = .ok m) :
    ∃ front last, cipher = front ++ mkiBytes m ++ last ∧
      front.length = cipher.length - s.componentTagLen isRtp - s.base.mkiLen ∧
      last.length = s.componentTagLen isRtp ∧ (mkiBytes m).length = s.base.mkiLen := by
  have hcut := List.take_append_drop (cipher.length - s.componentTagLen isRtp) cipher
  have hlast : (cipher.drop (cipher.length - s.componentTagLen isRtp)).length =
      s.componentTagLen isRtp := by rw [List.length_drop]; omega
  rw [getMki_eq] at hm
  split at hm
  · next h0 =>
    obtain rfl := Except.ok.inj hm
    refine ⟨cipher.take (cipher.length - s.componentTagLen isRtp), _, ?_, ?_, hlast, h0.symm⟩
    · show cipher = _ ++ [] ++ _
      rw [List.append_nil, hcut]
    · rw [List.length_take]; omega
  · rw [if_neg (Nat.not_lt.mpr hlen)] at hm
    obtain rfl := Except.ok.inj hm
    refine ⟨cipher.take (cipher.length - s.componentTagLen isRtp - s.base.mkiLen), _, ?_, ?_, hlast,
      ?_⟩
    · have hinner := List.take_append_drop (cipher.length - s.componentTagLen isRtp - s.base.mkiLen)
        (cipher.take (cipher.length - s.componentTagLen isRtp))
      rw [List.take_take, Nat.min_eq_left (Nat.sub_le _ _)] at hinner
      show cipher = _ ++ s.mkiOf cipher isRtp ++ _
      rw [mkiOf, hinner, hcut]
    · rw [List.length_take]; omega
    · show (s.mkiOf cipher isRtp).length = _
      rw [mkiOf, List.length_drop, List.length_take]
      omega

omit [Crates] in
/-- As `getMki_parts`, with the word of the index apart. -/
theorem rtcp_parts {cipher : Bytes} {m : Mki}
    (hlen : RtcpHeader.len + s.rtcpTrailerLen ≤ cipher.length)
    (hm : s.getMki cipher RtcpHeader.len false = .ok m) :
    ∃ front last, cipher =
        front ++ Bytes.toBe 4 (s.trailerWord cipher).toNat ++ mkiBytes m ++ last ∧
      RtcpHeader.len ≤ front.length ∧ last.length = s.rtcpTagLen := by
  have htag : s.componentTagLen false = s.rtcpTagLen := rfl
  unfold rtcpTrailerLen at hlen
  obtain ⟨front, last, hparts, hfront, hlast, hmkiLen⟩ := getMki_parts (by omega) hm
  have hdrop : (front.drop (front.length - 4)).length = 4 := by rw [List.length_drop]; omega
  have hsplit : front.take (front.length - 4) ++
      Bytes.toBe 4 (UInt32.ofNat (Bytes.fromBe (front.drop (front.length - 4)))).toNat = front := by
    have hbe := Bytes.toBe_fromBe (front.drop (front.length - 4))
    have hlt := Bytes.fromBe_lt (front.drop (front.length - 4))
    rw [hdrop] at hbe hlt
    rw [UInt32.toNat_ofNat_of_lt' hlt, hbe, List.take_append_drop]
  have hread := trailerWord_append (s := s) (front.take (front.length - 4))
    (UInt32.ofNat (Bytes.fromBe (front.drop (front.length - 4)))) hmkiLen (hlast.trans htag)
  rw [hsplit, ← hparts] at hread
  rw [← hread] at hsplit
  refine ⟨front.take (front.length - 4), last, ?_, by rw [List.length_take]; omega, hlast⟩
  rw [hsplit, ← hparts]

/-- What holds of a receiver that was built from a valid configuration and never updated. -/
structure Fixed (config : StreamConfig) (s : RecvStream) : Prop where
  sound : Sound s
  fit : s.AllFit
  configured : Configured config s

theorem Fixed.step {config : StreamConfig} (h : Fixed config s) {op : StreamOp RecvStream}
    (hop : ∀ config valid order, op ≠ .update config valid order) :
    Fixed config (streamStep s op).2 := by
  obtain ⟨hs, hf, hc⟩ := h
  refine ⟨hs.step op, hf.step hs op ?_, hc.step hs.inRange hop⟩
  intro config' valid order heq
  exact absurd heq (hop config' valid order)

theorem Fixed.run {config : StreamConfig} (hv : config.Valid)
    (hmki : ∀ key ∈ config.keys, key.mki ≠ some []) {ssrc : UInt32}
    {handler : Option KeyLimitHandler} {s₀ : RecvStream}
    (hnew : RecvStream.new ssrc config handler = .ok s₀) {es : List (StreamEvent RecvStream)}
    (ht : Trace streamStep s₀ es s)
    (hfixed : ∀ e ∈ es, ∀ config valid order, e.input ≠ .update config valid order) :
    Fixed config s :=
  ht.invariant_of hfixed ⟨.new hv hnew, (allFit_new hv hmki hnew).1, .new hnew⟩
    fun _ _ h hop => h.step hop

/-- An accepted SRTP packet, decoded and encoded again. -/
theorem rtp_canonical [StrictCrates] (hs : Sound s) (hfit : s.AllFit) {header : RtpHeader}
    {cipher plain : Bytes} (parsed : RtpHeader.new cipher = .ok header)
    (hp : (s.rtpUnprotect header cipher).result = .ok plain) :
    ∃ i m t l, s.base.rtpIndex.estimateIndex header.seqNum = .ok i ∧
      s.getMki cipher header.len true = .ok m ∧ s.base.transforms.lookup m = some (t, l) ∧
      RtpHeader.new plain = .ok header ∧ t.rtpProtect plain header (rocOfIndex i) = .ok cipher := by
  have hlim : rtpIndexLimit = 2 ^ 48 + 2 ^ 16 := rfl
  have hrange : s.base.rtpIndex.index < rtpIndexLimit := hs.inRange.1
  have hcalled := LawfulStream.called (RecvCall.rtpUnprotect header cipher parsed) hs.inRange
  obtain ⟨i, m, t, l, hlocate, hl, -, happly, -⟩ := hcalled.of_ok hp
  obtain ⟨rfl, -, hm⟩ := rtp_located hs.inRange hlocate
  obtain ⟨hkeyed, rfl⟩ := hs.keyed hl
  have hfits := hfit hl
  have happly : t.rtpUnprotect cipher header
      (rocOfIndex (s.base.rtpIndex.estimate header.seqNum)) = .ok plain := happly
  have htag : s.componentTagLen true = t.rtpProfile.tagLen := hfits.rtpTag.symm
  have hlen := Transform.rtpUnprotect_len hkeyed happly
  rw [hfits.mkiLen, ← htag] at hlen
  obtain ⟨front, last, hparts, hfront, hlast, -⟩ := getMki_parts hlen hm
  have hlen' : header.len ≤ front.length := by omega
  rw [hparts] at happly
  obtain ⟨hprotect, hplain, htake⟩ :=
    Transform.rtp_canonical hkeyed hlen' (hlast.trans htag) happly
  refine ⟨_, _, t, l, RtpReplayDb.estimateIndex_eq (by omega) _, hm, hl, ?_, ?_⟩
  · refine RtpHeader.new_congr parsed hplain ?_
    rw [htake, hparts, List.append_assoc, List.take_append_of_le_length hlen']
  · rw [hparts]
    exact hprotect

/-! ## The E flag -/

/-- The E flag of a packet: the high bit of the word with the index. -/
def eFlag (s : RecvStream) (cipher : Bytes) : Bool :=
  decide (s.trailerWord cipher &&& 0x80000000 ≠ 0)

omit [Crates] in
theorem toNat_and_low (w : UInt32) : (w &&& 0x7fffffff).toNat = w.toNat % 2 ^ 31 := by
  rw [UInt32.toNat_and]
  exact Nat.and_two_pow_sub_one_eq_mod w.toNat 31

omit [Crates] in
theorem and_high_ne_zero (w : UInt32) : w &&& 0x80000000 ≠ 0 ↔ 2 ^ 31 ≤ w.toNat := by
  have hw := w.toNat_lt
  have hand : (w &&& 0x80000000).toNat = (w.toNat.testBit 31).toNat * 2 ^ 31 := by
    rw [UInt32.toNat_and]
    exact Nat.and_two_pow w.toNat 31
  have hdiv : w.toNat / 2 ^ 31 % 2 = 1 ↔ 2 ^ 31 ≤ w.toNat := by omega
  rw [Ne, ← UInt32.toNat_inj, hand, Nat.testBit_eq_decide_div_mod_eq, ← hdiv]
  simp

omit [Crates] in
theorem toNat_or_high {w : UInt32} (h : w.toNat < 2 ^ 31) :
    (w ||| 0x80000000).toNat = w.toNat + 2 ^ 31 := by
  have hor := Nat.two_pow_add_eq_or_of_lt h 1
  rw [Nat.mul_one] at hor
  rw [UInt32.toNat_or, Nat.or_comm, Nat.add_comm, hor]
  rfl

omit [Crates] in
/-- A word is its index with the E flag of a profile exactly when it has that flag. -/
theorem esrtcp_eq_iff (t : Transform) (word : UInt32) :
    t.esrtcp (word &&& 0x7fffffff) = word ↔
      (word &&& 0x80000000 ≠ 0 ↔ 0 < t.rtcpProfile.keyLen) := by
  have hlow := toNat_and_low word
  have hlt : (word &&& 0x7fffffff).toNat < 2 ^ 31 := hlow ▸ Nat.mod_lt _ (by decide)
  have hword := word.toNat_lt
  rw [and_high_ne_zero, ← UInt32.toNat_inj]
  unfold Transform.esrtcp
  split
  · next hlen =>
    rw [toNat_or_high hlt, hlow, iff_true_right hlen]
    omega
  · next hlen =>
    rw [toNat_and_low, Nat.mod_eq_of_lt hlt, hlow, iff_false_right hlen]
    omega

/-- An accepted SRTCP packet, decoded and encoded again: the same packet exactly when it has the E
flag that is written under the profile. -/
theorem rtcp_canonical_iff [StrictCrates] (hs : Sound s) (hfit : s.AllFit) {header : RtcpHeader}
    {cipher plain : Bytes} (parsed : RtcpHeader.new cipher = .ok header)
    (hp : (s.rtcpUnprotect header cipher).result = .ok plain) :
    ∃ i m t l, s.rtcpPacketIndex cipher = .ok i ∧
      s.getMki cipher RtcpHeader.len false = .ok m ∧ s.base.transforms.lookup m = some (t, l) ∧
      (t.rtcpProtect plain header (UInt32.ofNat i) = .ok cipher ↔
        (s.eFlag cipher = true ↔ 0 < t.rtcpProfile.keyLen)) := by
  have hmin : RtcpHeader.len = 8 := rfl
  have hcalled := LawfulStream.called (RecvCall.rtcpUnprotect header cipher parsed) hs.inRange
  obtain ⟨i, m, t, l, hlocate, hl, -, happly, -⟩ := hcalled.of_ok hp
  obtain ⟨hlen, rfl, -, hm⟩ := rtcp_located hs.inRange hlocate
  obtain ⟨hkeyed, rfl⟩ := hs.keyed hl
  have hfits := hfit hl
  have happly : t.rtcpUnprotect cipher header (UInt32.ofNat (s.trailerIndex cipher))
      s.rtcpTrailerLen = .ok plain := happly
  have htrailer : s.rtcpTrailerLen = 4 + t.rtcpProfile.tagLen + (mkiBytes t.mki).length := by
    unfold rtcpTrailerLen
    rw [hfits.rtcpTag, hfits.mkiLen]
  have hindex : UInt32.ofNat (s.trailerIndex cipher) = s.trailerWord cipher &&& 0x7fffffff := by
    rw [trailerIndex_eq, UInt32.ofNat_toNat]
  have hplain := Transform.rtcpUnprotect_header hkeyed (by unfold rtcpTrailerLen; omega) hlen happly
  have hi : s.rtcpPacketIndex cipher = .ok (s.trailerIndex cipher) := by
    rw [rtcpPacketIndex_eq, if_neg (Nat.not_lt.mpr hlen)]
  refine ⟨_, _, t, l, hi, hm, hl, ?_⟩
  rw [hindex] at happly ⊢
  have hflag : s.eFlag cipher = true ↔ s.trailerWord cipher &&& 0x80000000 ≠ 0 :=
    decide_eq_true_iff
  rw [hflag, ← esrtcp_eq_iff]
  constructor
  · intro hprotect
    obtain ⟨front, last, hparts, hlast, -⟩ := Transform.rtcp_layout hkeyed hplain hprotect
    have hword := trailerWord_append (s := s) front (t.esrtcp (s.trailerWord cipher &&& 0x7fffffff))
      hfits.mkiLen (hlast.trans hfits.rtcpTag)
    rw [← hparts] at hword
    exact hword.symm
  · intro hword
    obtain ⟨front, last, hparts, hfront, hlast⟩ := rtcp_parts hlen hm
    rw [htrailer] at happly
    generalize s.trailerWord cipher = word at hword hparts happly
    rw [← hword] at hparts
    rw [hparts] at happly ⊢
    exact Transform.rtcp_canonical hkeyed hfront (hlast.trans hfits.rtcpTag.symm) happly

end RecvStream

open RecvStream

/-- In every state of a receiver whose valid configuration stays: what `rtpUnprotect` accepts, its
transform makes of the result again. -/
theorem accepted_rtp_canonical [StrictCrates] {config : StreamConfig}
    (hv : config.validate = .ok ()) (hmki : ∀ key ∈ config.keys, key.mki ≠ some []) {ssrc : UInt32}
    {handler : Option KeyLimitHandler} {s₀ s : RecvStream}
    (hnew : RecvStream.new ssrc config handler = .ok s₀) {es : List (StreamEvent RecvStream)}
    (ht : Trace streamStep s₀ es s)
    (hfixed : ∀ e ∈ es, ∀ config valid order, e.input ≠ .update config valid order)
    {header : RtpHeader} {cipher plain : Bytes} (parsed : RtpHeader.new cipher = .ok header)
    (hp : (s.rtpUnprotect header cipher).result = .ok plain) :
    ∃ i m t l, s.base.rtpIndex.estimateIndex header.seqNum = .ok i ∧
      s.getMki cipher header.len true = .ok m ∧ s.base.transforms.lookup m = some (t, l) ∧
      RtpHeader.new plain = .ok header ∧ t.rtpProtect plain header (rocOfIndex i) = .ok cipher := by
  have hf := Fixed.run (StreamConfig.valid_of_validate hv) hmki hnew ht hfixed
  exact rtp_canonical hf.sound hf.fit parsed hp

/-- In every state of a receiver whose valid configuration stays: what `rtcpUnprotect` accepts, its
transform makes of the result again exactly when the E flag of the packet is that of the profile. -/
theorem accepted_rtcp_canonical_iff [StrictCrates] {config : StreamConfig}
    (hv : config.validate = .ok ()) (hmki : ∀ key ∈ config.keys, key.mki ≠ some []) {ssrc : UInt32}
    {handler : Option KeyLimitHandler} {s₀ s : RecvStream}
    (hnew : RecvStream.new ssrc config handler = .ok s₀) {es : List (StreamEvent RecvStream)}
    (ht : Trace streamStep s₀ es s)
    (hfixed : ∀ e ∈ es, ∀ config valid order, e.input ≠ .update config valid order)
    {header : RtcpHeader} {cipher plain : Bytes} (parsed : RtcpHeader.new cipher = .ok header)
    (hp : (s.rtcpUnprotect header cipher).result = .ok plain) :
    ∃ i m t l, s.rtcpPacketIndex cipher = .ok i ∧
      s.getMki cipher RtcpHeader.len false = .ok m ∧ s.base.transforms.lookup m = some (t, l) ∧
      (t.rtcpProtect plain header (UInt32.ofNat i) = .ok cipher ↔
        (s.eFlag cipher = true ↔ 0 < config.rtcpProfile.keyLen)) := by
  have hvalid := StreamConfig.valid_of_validate hv
  have hf := Fixed.run hvalid hmki hnew ht hfixed
  obtain ⟨i, m, t, l, hi, hm, hl, hiff⟩ := rtcp_canonical_iff hf.sound hf.fit parsed hp
  obtain ⟨key, hk, -, hkey⟩ := hf.configured m t l hl
  obtain ⟨-, -, -, hprofile⟩ := keyed_newTransform hvalid hk hkey
  exact ⟨i, m, t, l, hi, hm, hl, hprofile ▸ hiff⟩

end Canonical

/-! ## Runs on known answers -/

section Example

open Vectors Exec

attribute [local instance] Vectors.crates Vectors.strict

theorem accepted_rtp_canonical_first :
    ∃ (i : Nat) (m : Mki) (t : Transform) (l : KeysLifetime),
      plainReceiver.base.transforms.lookup m = some (t, l) ∧
      t.rtpProtect (rtpPacket 0xcafebabe 1) ⟨1, 0xcafebabe, 12⟩ (rocOfIndex i) =
        .ok (srtpPacket 0xcafebabe 1) := by
  have hv : (config [key none .default]).validate = .ok () := by decide +kernel
  have hp : (plainReceiver.rtpUnprotect ⟨1, 0xcafebabe, 12⟩ (srtpPacket 0xcafebabe 1)).result =
      .ok (rtpPacket 0xcafebabe 1) := by decide +kernel
  obtain ⟨i, m, t, l, -, -, hl, -, hprotect⟩ := accepted_rtp_canonical hv (by decide)
    (recvStream_eq _ _) .nil (by simp) (by decide +kernel) hp
  exact ⟨i, m, t, l, hl, hprotect⟩

theorem accepted_rtcp_canonical_iff_first :
    ∃ (i : Nat) (m : Mki) (t : Transform) (l : KeysLifetime),
      plainReceiver.base.transforms.lookup m = some (t, l) ∧
      t.rtcpProtect (rtcpPacket 0xcafebabe) ⟨0xcafebabe⟩ (UInt32.ofNat i) =
        .ok (srtcpPacket 0xcafebabe 0) := by
  have hv : (config [key none .default]).validate = .ok () := by decide +kernel
  have hp : (plainReceiver.rtcpUnprotect ⟨0xcafebabe⟩ (srtcpPacket 0xcafebabe 0)).result =
      .ok (rtcpPacket 0xcafebabe) := by decide +kernel
  obtain ⟨i, m, t, l, -, -, hl, hiff⟩ := accepted_rtcp_canonical_iff hv (by decide)
    (recvStream_eq _ _) .nil (by simp) (by decide +kernel) hp
  exact ⟨i, m, t, l, hl, hiff.mpr (by decide +kernel)⟩

end Example

section GcmExample

open Vectors

attribute [local instance] Vectors.gcmCrates

/-- A receiver with one AES-GCM key and no MKI. -/
def gcmReceiver : RecvStream := get (RecvStream.new 0xcafebabe gcmConfig none) (by decide +kernel)

/-- A packet whose E flag was cleared is accepted, and its sender never made it. -/
theorem clearedEFlag_accepted :
    LawfulCrates ∧ StrictCrates ∧
      (gcmReceiver.rtcpUnprotect ⟨0xcafebabe⟩ (gcmSrtcpPacket false)).result =
        .ok (rtcpPacket 0xcafebabe) ∧
      (gcmReceiver.base.transforms.lookup none).map
          (·.1.rtcpProtect (rtcpPacket 0xcafebabe) ⟨0xcafebabe⟩ 0) =
        some (.ok (gcmSrtcpPacket true)) ∧
      gcmSrtcpPacket true ≠ gcmSrtcpPacket false :=
  ⟨gcm_lawful, gcm_strict, by decide +kernel, by decide +kernel, by decide⟩

end GcmExample

end LibSrtp
