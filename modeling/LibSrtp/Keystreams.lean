import LibSrtp.CounterBlocks
import LibSrtp.SessionSafety

/-!
# The keystream of a session

A stream cipher is broken by two packets that are encrypted with the same keystream. A sender session
never does that with AES-CM: its packets have IVs of their own (`SessionSafety`), and those of two
packets are so far apart that the counters of packets of up to `2^20` bytes do not meet
(`CounterBlocks`).

* `session_keystreams_disjoint`: no two packets of a session consume a counter block in common.

The block cipher is a parameter, since it is the crate's: `IsCtr32BE` says how the crate uses it.
-/

namespace LibSrtp

open Exec PacketStream

/-- The header, the index and the plain text of an SRTP packet. -/
def SendCall.srtpPlain : SendCall → Nat → Option (SrtpUse × Bytes)
  | .rtpProtect header plain _ _, index => some (⟨header, index⟩, plain)
  | .rtcpProtect .., _ => none

/-- Those of an SRTCP packet, and its MKI. -/
def SendCall.srtcpPlain : SendCall → Nat → Option (SrtcpUse × Bytes)
  | .rtcpProtect header plain mki _, index => some (⟨header, mki, index⟩, plain)
  | .rtpProtect .., _ => none

section Readings

variable {T : Type} [PacketStream T] {α β : Type} {f : Call T → Nat → Option α}
  {f' : Call T → Nat → Option β} {g : α → β}

/-- Less is read off a packet by reading more and forgetting some. -/
theorem Shown.reading_map (h : ∀ c i, f' c i = (f c i).map g) (w : Shown T) :
    Shown.reading f' w = (Shown.reading f w).map g := by
  unfold Shown.reading
  split
  · exact h _ _
  · rfl

theorem streamReadings_map (h : ∀ c i, f' c i = (f c i).map g) (es : List (StreamEvent T)) :
    streamReadings f' es = (streamReadings f es).map g := by
  unfold streamReadings
  rw [List.map_filterMap]
  exact congrArg (List.filterMap · _) (funext fun w => Shown.reading_map h w)

end Readings

theorem SendCall.srtp_eq (c : SendCall) (i : Nat) :
    SendCall.srtp c i = (SendCall.srtpPlain c i).map Prod.fst := by
  cases c <;> rfl

theorem SendCall.srtcpUse_eq (c : SendCall) (i : Nat) :
    SendCall.srtcpUse c i = (SendCall.srtcpPlain c i).map Prod.fst := by
  cases c <;> rfl

namespace AesCmSha1

variable {t : AesCmSha1} {packet packet' : Bytes}

/-- Packets of up to `2^20` bytes whose IVs differ consume no counter block in common. -/
theorem rtpBlocks_disjoint {header header' : RtpHeader} {roc roc' : UInt32}
    (hiv : ∀ salt, rtpIv salt header roc ≠ rtpIv salt header' roc') (hl : packet.length ≤ 2 ^ 20)
    (hl' : packet'.length ≤ 2 ^ 20) :
    Disjoint (t.rtpBlocks packet header roc) (t.rtpBlocks packet' header' roc') := by
  unfold rtpBlocks
  cases t.rtpKey.salt with
  | none => exact Set.empty_disjoint _
  | some salt =>
    exact disjoint_of_short (hiv salt) (counter_rtpIv ..) (counter_rtpIv ..)
      ((Nat.sub_le ..).trans hl) ((Nat.sub_le ..).trans hl')

theorem rtcpBlocks_disjoint {header header' : RtcpHeader} {index index' : UInt32}
    (hiv : ∀ salt, rtcpIv salt header index ≠ rtcpIv salt header' index') (hl : packet.length ≤ 2 ^ 20)
    (hl' : packet'.length ≤ 2 ^ 20) :
    Disjoint (t.rtcpBlocks packet header index) (t.rtcpBlocks packet' header' index') := by
  unfold rtcpBlocks
  cases t.rtcpKey.salt with
  | none => exact Set.empty_disjoint _
  | some salt =>
    exact disjoint_of_short (hiv salt) (counter_rtcpIv ..) (counter_rtcpIv ..)
      ((Nat.sub_le ..).trans hl) ((Nat.sub_le ..).trans hl')

variable [Crates] {encryptBlock : Bytes → ByteArr 16 → ByteArr 16}

/-- A packet that is enciphered consumes its blocks. -/
theorem consumes_of_rtpEnciphers (hctr : IsCtr32BE encryptBlock) {header : RtpHeader} {roc : UInt32}
    (hlen : header.len ≤ packet.length) (hcipher : 0 < t.rtpProfile.keyLen)
    (h : (Transform.aesCmSha1 t).RtpEnciphers packet header roc packet') :
    Consumes encryptBlock t.rtpKey.key (t.rtpBlocks packet header roc) header.len packet packet' := by
  obtain ⟨body, tag, rfl, hbody⟩ := h
  unfold Enciphers at hbody
  rw [if_pos hcipher] at hbody
  obtain ⟨key, salt, hkey, hsalt, rfl⟩ := hbody
  unfold rtpBlocks
  rw [hsalt, hkey, List.append_assoc]
  exact consumes_of_cipher hctr key (rtpIv salt header roc) hlen _

theorem consumes_of_rtcpEnciphers (hctr : IsCtr32BE encryptBlock) {header : RtcpHeader}
    {index : UInt32} (hlen : RtcpHeader.len ≤ packet.length) (hcipher : 0 < t.rtcpProfile.keyLen)
    (h : (Transform.aesCmSha1 t).RtcpEnciphers packet header index packet') :
    Consumes encryptBlock t.rtcpKey.key (t.rtcpBlocks packet header index) RtcpHeader.len packet
      packet' := by
  obtain ⟨body, tag, rfl, hbody⟩ := h
  unfold Enciphers at hbody
  rw [if_pos hcipher] at hbody
  obtain ⟨key, salt, hkey, hsalt, rfl⟩ := hbody
  unfold rtcpBlocks
  rw [hsalt, hkey, List.append_assoc, List.append_assoc]
  exact consumes_of_cipher hctr key (rtcpIv salt header index) hlen _

end AesCmSha1

section Session

variable [Crates]

/-- With AES-CM the payload of the packet is xored with the blocks of its index, encrypted. -/
def Processed.Consumes (encryptBlock : Bytes → ByteArr 16 → ByteArr 16) (p : Processed SendStream) :
    Prop :=
  match p.call, p.transform with
  | .rtpProtect header plain _ _, .aesCmSha1 t => 0 < t.rtpProfile.keyLen →
    AesCmSha1.Consumes encryptBlock t.rtpKey.key (t.rtpBlocks plain header (rocOfIndex p.index))
      header.len plain p.out
  | .rtcpProtect header plain _ _, .aesCmSha1 t => 0 < t.rtcpProfile.keyLen →
    AesCmSha1.Consumes encryptBlock t.rtcpKey.key (t.rtcpBlocks plain header (UInt32.ofNat p.index))
      RtcpHeader.len plain p.out
  | _, .aesGcm _ => True

theorem Processed.Enciphers.consumes {encryptBlock : Bytes → ByteArr 16 → ByteArr 16}
    (hctr : AesCmSha1.IsCtr32BE encryptBlock) {p : Processed SendStream} (h : p.Enciphers) :
    p.Consumes encryptBlock := by
  obtain ⟨x, c, i, t, out⟩ := p
  cases t with
  | aesCmSha1 t => cases c with
    | rtpProtect header plain mki parsed =>
      exact fun hcipher =>
        AesCmSha1.consumes_of_rtpEnciphers hctr (RtpHeader.len_le parsed).2 hcipher h
    | rtcpProtect header plain mki parsed =>
      exact fun hcipher => AesCmSha1.consumes_of_rtcpEnciphers hctr (RtcpHeader.len_le parsed) hcipher h
  | aesGcm t => cases c <;> trivial

/-- What is read off the packets of a run is read off packets that consume the blocks of their
index. -/
theorem Session.consumes_of_reading {es : List (SessionEvent SendStream)} {s : SendSession}
    (ht : Trace sessionStep .new es s) {α : Type} {f : SendCall → Nat → Option α} {a : α}
    (h : a ∈ readings f es) : ∃ e ∈ es, ∃ p ∈ e.processed, f p.call p.index = some a ∧
      ∀ encryptBlock, AesCmSha1.IsCtr32BE encryptBlock → p.Consumes encryptBlock := by
  obtain ⟨e, he, ha⟩ := List.mem_filterMap.mp h
  obtain ⟨p, hp, hread, henciphers⟩ := Session.enciphers_of_reading ht he ha
  exact ⟨e, he, p, hp, hread, fun _ hctr => henciphers.consumes hctr⟩

end Session

/-- A sender session that is only given configurations without repeats and with one window size, and
that removes no stream, encrypts no two packets under one transform with a counter block in common,
whatever the SSRCs, for packets of up to `2^20` bytes, SRTP indices of 48 bits and `2^31` SRTCP
packets of each SSRC. The blocks are those that the packets consume. -/
theorem session_keystreams_disjoint [Crates] {size : UInt16} {es : List (SessionEvent SendStream)}
    {s : SendSession} (ht : Trace sessionStep .new es s)
    (hsteady : ∀ e ∈ es, e.input.Steady (·.SendsOnce size))
    (hlimit : ∀ k x fromTemplate, s.streams.lookup k = some (x, fromTemplate) →
      x.base.rtpIndex.index < 2 ^ 48)
    (hcount : ∀ k,
      ((readings SendCall.srtcpPlain es).filter (·.1.header.ssrc = k)).length ≤ rtcpRollback)
    (hshort : ∀ p ∈ readings SendCall.srtpPlain es, p.2.length ≤ 2 ^ 20)
    (hshort' : ∀ p ∈ readings SendCall.srtcpPlain es, p.2.length ≤ 2 ^ 20) :
    ((readings SendCall.srtpPlain es).Pairwise fun p q => ∀ t : AesCmSha1,
        Disjoint (t.rtpBlocks p.2 p.1.header (rocOfIndex p.1.index))
          (t.rtpBlocks q.2 q.1.header (rocOfIndex q.1.index))) ∧
      ((readings SendCall.srtcpPlain es).Pairwise fun p q => ∀ t : AesCmSha1,
        Disjoint (t.rtcpBlocks p.2 p.1.header (UInt32.ofNat p.1.index))
          (t.rtcpBlocks q.2 q.1.header (UInt32.ofNat q.1.index))) ∧
      (∀ a ∈ readings SendCall.srtpPlain es, ∃ e ∈ es, ∃ p ∈ e.processed,
        SendCall.srtpPlain p.call p.index = some a ∧
          ∀ encryptBlock, AesCmSha1.IsCtr32BE encryptBlock → p.Consumes encryptBlock) ∧
      ∀ a ∈ readings SendCall.srtcpPlain es, ∃ e ∈ es, ∃ p ∈ e.processed,
        SendCall.srtcpPlain p.call p.index = some a ∧
          ∀ encryptBlock, AesCmSha1.IsCtr32BE encryptBlock → p.Consumes encryptBlock := by
  refine ⟨?_, ?_, fun _ ha => Session.consumes_of_reading ht ha,
    fun _ ha => Session.consumes_of_reading ht ha⟩
  · have hivs : (readings SendCall.srtpPlain es).Pairwise fun p q => p.1.IvsDiffer q.1 := by
      have hssrc : ∀ c i p, SendCall.srtpPlain c i = some p →
          p.1.header.ssrc = ssrc (T := SendStream) c :=
        fun c i p hp => SendCall.srtp_ssrc c i p.1 ((SendCall.srtp_eq c i).trans (congrArg _ hp))
      refine Session.pairwise_of_streams (fun _ _ h => h) ht hsteady hssrc
        (fun _ _ => SrtpUse.ivsDiffer_of_ssrc) ?_
      intro k x fromTemplate hl config handler x₀ es' hv hC hnew ht' htakes _
      have huses := ((KeepsOnce.new hv hC hnew).run ht' htakes (hlimit k x fromTemplate hl)).ivsDiffer
      rw [← streamReadings_srtp, streamReadings_map SendCall.srtp_eq] at huses
      exact List.pairwise_map.mp huses
    exact hivs.imp_of_mem fun hp hq h t =>
      AesCmSha1.rtpBlocks_disjoint h.1 (hshort _ hp) (hshort _ hq)
  · have hivs : (readings SendCall.srtcpPlain es).Pairwise fun p q => p.1.IvsDiffer q.1 := by
      have hssrc : ∀ c i p, SendCall.srtcpPlain c i = some p →
          p.1.header.ssrc = ssrc (T := SendStream) c :=
        fun c i p hp =>
          SendCall.srtcpUse_ssrc c i p.1 ((SendCall.srtcpUse_eq c i).trans (congrArg _ hp))
      refine Session.pairwise_of_streams (fun _ _ h => h) ht hsteady hssrc
        (fun _ _ => SrtcpUse.ivsDiffer_of_ssrc) ?_
      intro k x fromTemplate hl config handler x₀ es' hv hC hnew ht' htakes hread
      have hlen := hcount k
      rw [hread] at hlen
      have huses := Counts.run hv hnew ht'
      rw [← streamReadings_srtcpUse, streamReadings_map SendCall.srtcpUse_eq] at huses
      exact List.pairwise_map.mp (huses.ivsDiffer (by rwa [List.length_map]))
    exact hivs.imp_of_mem fun hp hq h t =>
      AesCmSha1.rtcpBlocks_disjoint h.1 (hshort' _ hp) (hshort' _ hq)

section Example

open Vectors

attribute [local instance] Vectors.crates

/-- SRTP and SRTCP packets of a stream from the template, and of another one. -/
def mixedOps : List (SessionOp SendStream) := templateOps ++ reportOps.drop 1

theorem session_keystreams_disjoint_mixed :
    ((readings SendCall.srtpPlain (runAll sessionStep (.new : SendSession) mixedOps).1).map Prod.snd =
        [rtpPacket 0xcafebabe 1, rtpPacket 0xcafebabe 2] ∧
      (readings SendCall.srtcpPlain (runAll sessionStep (.new : SendSession) mixedOps).1).map
          Prod.snd =
        [rtcpPacket 0xcafebabe, rtcpPacket 0xdeadbeef, rtcpPacket 0xcafebabe]) ∧
      ((readings SendCall.srtpPlain (runAll sessionStep (.new : SendSession) mixedOps).1).Pairwise
        fun p q => ∀ t : AesCmSha1,
          Disjoint (t.rtpBlocks p.2 p.1.header (rocOfIndex p.1.index))
            (t.rtpBlocks q.2 q.1.header (rocOfIndex q.1.index))) ∧
      (readings SendCall.srtcpPlain (runAll sessionStep (.new : SendSession) mixedOps).1).Pairwise
        fun p q => ∀ t : AesCmSha1,
          Disjoint (t.rtcpBlocks p.2 p.1.header (UInt32.ofNat p.1.index))
            (t.rtcpBlocks q.2 q.1.header (UInt32.ofNat q.1.index)) := by
  have hsteady : ∀ e ∈ (runAll sessionStep (.new : SendSession) mixedOps).1,
      e.input.Steady (·.SendsOnce 128) := by
    intro e he
    unfold mixedOps at he
    rw [runAll_append_events] at he
    rcases List.mem_append.mp he with he | he
    · exact templateOps_steady (C := (·.SendsOnce 128)) ⟨rfl, rfl⟩ e he
    · have hmem := input_mem_of_runAll he
      refine ⟨fun k heq => ?_, fun {ssrc config streamOrder keyOrder} heq => ?_⟩
      · rw [heq] at hmem
        simp [reportOps] at hmem
      · rw [heq] at hmem
        simp [reportOps] at hmem
  have hsmall : ∀ entry ∈ (runAll sessionStep (.new : SendSession) mixedOps).2.streams.entries,
      entry.2.1.base.rtpIndex.index < 2 ^ 48 := by decide +kernel
  have hlen : (readings SendCall.srtcpPlain
      (runAll sessionStep (.new : SendSession) mixedOps).1).length = 3 := by decide +kernel
  obtain ⟨hrtp, hrtcp, -⟩ := session_keystreams_disjoint (.runAll ..) hsteady
    (fun k x fromTemplate hl => hsmall _ (Finmap.lookup_eq_some_iff.mp hl))
    (fun k => ((List.length_filter_le _ _).trans_eq hlen).trans (by decide)) (by decide +kernel)
    (by decide +kernel)
  exact ⟨by decide +kernel, hrtp, hrtcp⟩

end Example

end LibSrtp
