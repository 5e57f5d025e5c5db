import LibSrtp.Error

/-!
# RTP and RTCP header parsers

The parsers read the header bytes only: `RtpHeader.new_congr` says that a string with the same
header bytes, of any other length, has the same header. Encryption and decryption both rely on it.
-/

namespace LibSrtp

open Exec

def fixedHeaderSize : Nat := 12
def rtcpMinSize : Nat := 8

/-- `RtpHeader` -/
structure RtpHeader where
  seqNum : UInt16
  ssrc : UInt32
  len : Nat
deriving DecidableEq, Repr

/-- `RtcpHeader` -/
structure RtcpHeader where
  ssrc : UInt32
deriving DecidableEq, Repr

/-- `u32::from_be_bytes` -/
def u32FromBeBytes (b : ByteArr 4) : UInt32 := UInt32.ofNat (Bytes.fromBe b.1)

/-- `u16::from_be_bytes` -/
def u16FromBeBytes (b : ByteArr 2) : UInt16 := UInt16.ofNat (Bytes.fromBe b.1)

namespace RtcpHeader

def new (rtcp : Bytes) : Res RtcpHeader := do
  let packetSize := rtcp.length
  if packetSize < rtcpMinSize then
    fail .invalidPacket
  else do
    let first ← index rtcp 0
    if first &&& 0xc0 ≠ 0x80 then
      fail .invalidPacket
    else do
      let ssrc ← tryInto 4 (← slice rtcp 4 8) .invalidPacket
      .ok ⟨u32FromBeBytes ssrc⟩

/-- The RTCP header is always 8 bytes. -/
def len : Nat := rtcpMinSize

/-- The parser has one error. -/
theorem raises_new (b : Bytes) : Raises (· = .error .invalidPacket) (new b) := by
  have hmin : rtcpMinSize = 8 := rfl
  unfold new
  dsimp only
  split
  · simp
  · next h =>
    rw [index_eq (by omega), ok_bind]
    split
    · simp
    · rw [slice_eq (by omega) (by omega), ok_bind]
      exact (raises_tryInto (by simp)).bind fun _ _ => raises_ok

theorem len_le {b : Bytes} {h : RtcpHeader} (hn : new b = .ok h) : len ≤ b.length := by
  unfold new at hn
  dsimp only at hn
  split at hn
  · exact absurd hn fail_ne_ok
  · next h => exact Nat.not_lt.mp h

/-- A string that starts with the same eight bytes has the same header. -/
theorem new_congr {b b' : Bytes} {h : RtcpHeader} (hn : new b = .ok h) (hl : len ≤ b'.length)
    (heq : b'.take len = b.take len) : new b' = .ok h := by
  have hmin : rtcpMinSize = 8 := rfl
  have hlen : len = 8 := rfl
  have hb := len_le hn
  have hfirst : (index b' 0 : Res UInt8) = index b 0 := by
    have hget := congrArg (·[0]?) heq
    simp only [List.getElem?_take, hlen, Nat.zero_lt_succ, if_true] at hget
    rw [List.getElem?_eq_getElem (by omega), List.getElem?_eq_getElem (by omega),
      Option.some.injEq] at hget
    rw [index_eq (by omega), index_eq (by omega), hget]
  have hssrc : (slice b' 4 8 : Res Bytes) = slice b 4 8 := by
    rw [slice_eq (by omega) (by omega), slice_eq (by omega) (by omega)]
    exact congrArg (fun bs : Bytes => Except.ok (bs.drop 4)) heq
  rw [← hn]
  unfold new
  rw [hfirst, hssrc, if_neg (by omega), if_neg (by omega)]

end RtcpHeader

namespace RtpHeader

/-- The extension header, after `headerSize` bytes: the size of the header with it. -/
def extensionSize (rtp : Bytes) (headerSize : Nat) : Res Nat := do
  if rtp.length < headerSize + 4 then
    fail .invalidPacket
  else do
    let headerSize := headerSize + 4
    let x ← tryInto 2 (← slice rtp (headerSize - 2) headerSize) .invalidPacket
    let xSize := (u16FromBeBytes x).toNat * 4
    if rtp.length < headerSize + xSize then
      fail .invalidPacket
    else
      .ok (headerSize + xSize)

def new (rtp : Bytes) : Res RtpHeader := do
  let packetSize := rtp.length
  if packetSize < fixedHeaderSize then
    fail .invalidPacket
  else do
    let first ← index rtp 0
    if first &&& 0xc0 ≠ 0x80 then
      fail .invalidPacket
    else do
      let ccSize := (first &&& 0x0f).toNat * 4
      if packetSize < fixedHeaderSize + ccSize then
        fail .invalidPacket
      else do
        let headerSize := fixedHeaderSize + ccSize
        let headerSize ←
          if first &&& 0x10 ≠ 0 then extensionSize rtp headerSize else .ok headerSize
        let ssrc ← tryInto 4 (← slice rtp 8 12) .invalidPacket
        let seqNum ← tryInto 2 (← slice rtp 2 4) .invalidPacket
        .ok ⟨u16FromBeBytes seqNum, u32FromBeBytes ssrc, headerSize⟩

/-! ## Closed form -/

/-- The first byte: version, padding, extension flag, CSRC count. -/
def firstByte (b : Bytes) : UInt8 := b.getD 0 0

/-- Where the CSRC list ends. -/
def csrcEnd (b : Bytes) : Nat := fixedHeaderSize + (firstByte b &&& 0x0f).toNat * 4

/-- The size of the extension, from the last two bytes of its header. -/
def xSize (b : Bytes) : Nat :=
  (UInt16.ofNat (Bytes.fromBe ((b.take (csrcEnd b + 4)).drop (csrcEnd b + 2)))).toNat * 4

/-- The size of the header. -/
def parsedLen (b : Bytes) : Nat :=
  if firstByte b &&& 0x10 ≠ 0 then csrcEnd b + 4 + xSize b else csrcEnd b

/-- The header of a string that has one. -/
def parsed (b : Bytes) : RtpHeader where
  seqNum := UInt16.ofNat (Bytes.fromBe ((b.take 4).drop 2))
  ssrc := UInt32.ofNat (Bytes.fromBe ((b.take 12).drop 8))
  len := parsedLen b

/-- The strings that have a header. -/
structure Parses (b : Bytes) : Prop where
  fixed : fixedHeaderSize ≤ b.length
  version : firstByte b &&& 0xc0 = 0x80
  csrc : csrcEnd b ≤ b.length
  extension : firstByte b &&& 0x10 ≠ 0 → csrcEnd b + 4 ≤ b.length
  len : parsedLen b ≤ b.length

theorem extensionSize_eq (b : Bytes) : extensionSize b (csrcEnd b) =
    if csrcEnd b + 4 ≤ b.length ∧ csrcEnd b + 4 + xSize b ≤ b.length then
      .ok (csrcEnd b + 4 + xSize b)
    else fail .invalidPacket := by
  unfold extensionSize
  by_cases h4 : csrcEnd b + 4 ≤ b.length
  · have hslice : ((b.take (csrcEnd b + 4)).drop (csrcEnd b + 2)).length = 2 := by
      rw [List.length_drop, List.length_take]; omega
    rw [if_neg (by omega)]
    dsimp only
    rw [show csrcEnd b + 4 - 2 = csrcEnd b + 2 by omega, slice_eq (by omega) h4, ok_bind,
      tryInto_eq hslice, ok_bind]
    change (if b.length < csrcEnd b + 4 + xSize b then _ else _) = _
    split
    · next h => rw [if_neg (by omega)]
    · next h => rw [if_pos ⟨h4, by omega⟩]; rfl
  · rw [if_pos (by omega), if_neg (by omega)]

/-- The parser answers with the header of a string that has one, and refuses any other string. -/
theorem new_cases (b : Bytes) :
    Parses b ∧ new b = .ok (parsed b) ∨ ¬ Parses b ∧ new b = fail .invalidPacket := by
  have hfixed : fixedHeaderSize = 12 := rfl
  have hcsrc : fixedHeaderSize + (firstByte b &&& 0x0f).toNat * 4 = csrcEnd b := rfl
  unfold new
  dsimp only
  by_cases h12 : b.length < fixedHeaderSize
  · exact .inr ⟨fun hp => absurd hp.fixed (Nat.not_le.mpr h12), if_pos h12⟩
  have hfirst : (index b 0 : Res UInt8) = .ok (firstByte b) := by
    rw [index_eq (by omega), firstByte, List.getD_eq_getElem _ _ (by omega)]
  rw [if_neg h12, hfirst, ok_bind]
  by_cases hv : firstByte b &&& 0xc0 = 0x80
  swap
  · exact .inr ⟨fun hp => hv hp.version, if_pos hv⟩
  rw [if_neg (not_not.mpr hv), hcsrc]
  by_cases hc : b.length < csrcEnd b
  · exact .inr ⟨fun hp => absurd hp.csrc (Nat.not_le.mpr hc), if_pos hc⟩
  rw [if_neg hc]
  -- the fields at fixed places
  have htail : ∀ n, (do
      let ssrc ← tryInto 4 (← slice b 8 12) .invalidPacket
      let seqNum ← tryInto 2 (← slice b 2 4) .invalidPacket
      .ok ⟨u16FromBeBytes seqNum, u32FromBeBytes ssrc, n⟩ : Res RtpHeader) =
        .ok { parsed b with len := n } := by
    intro n
    have hssrc : ((b.take 12).drop 8).length = 4 := by
      rw [List.length_drop, List.length_take]; omega
    have hseq : ((b.take 4).drop 2).length = 2 := by
      rw [List.length_drop, List.length_take]; omega
    rw [slice_eq (by omega) (by omega), ok_bind, tryInto_eq hssrc, ok_bind,
      slice_eq (by omega) (by omega), ok_bind, tryInto_eq hseq, ok_bind]
    rfl
  by_cases hx : firstByte b &&& 0x10 ≠ 0
  · have hlen : parsedLen b = csrcEnd b + 4 + xSize b := if_pos hx
    rw [if_pos hx, extensionSize_eq]
    by_cases hext : csrcEnd b + 4 ≤ b.length ∧ csrcEnd b + 4 + xSize b ≤ b.length
    · rw [if_pos hext, ok_bind, htail, ← hlen]
      exact .inl ⟨⟨by omega, hv, by omega, fun _ => hext.1, by omega⟩, rfl⟩
    · rw [if_neg hext]
      exact .inr ⟨fun hp => hext ⟨hp.extension hx, by have := hp.len; omega⟩, rfl⟩
  · have hlen : parsedLen b = csrcEnd b := if_neg hx
    rw [if_neg hx, ok_bind, htail, ← hlen]
    exact .inl ⟨⟨by omega, hv, by omega, fun h => absurd h hx, by omega⟩, rfl⟩

theorem new_eq_ok {b : Bytes} {h : RtpHeader} : new b = .ok h ↔ Parses b ∧ h = parsed b := by
  rcases new_cases b with ⟨hp, hn⟩ | ⟨hp, hn⟩ <;> rw [hn]
  · rw [Except.ok.injEq]
    exact ⟨fun h => ⟨hp, h.symm⟩, fun h => h.2.symm⟩
  · exact iff_of_false fail_ne_ok fun h => hp h.1

/-- The parser has one error. -/
theorem raises_new (b : Bytes) : Raises (· = .error .invalidPacket) (new b) := by
  rcases new_cases b with ⟨-, hn⟩ | ⟨-, hn⟩ <;> rw [hn] <;> simp

/-- The header is inside the packet. -/
theorem len_le {b : Bytes} {h : RtpHeader} (hn : new b = .ok h) :
    fixedHeaderSize ≤ h.len ∧ h.len ≤ b.length := by
  obtain ⟨hp, rfl⟩ := new_eq_ok.mp hn
  refine ⟨?_, hp.len⟩
  show fixedHeaderSize ≤ parsedLen b
  unfold parsedLen csrcEnd
  split <;> omega

/-- A string that starts with the same header bytes has the same header. -/
theorem new_congr {b b' : Bytes} {h : RtpHeader} (hn : new b = .ok h) (hl : h.len ≤ b'.length)
    (heq : b'.take h.len = b.take h.len) : new b' = .ok h := by
  obtain ⟨hmin, hle⟩ := len_le hn
  obtain ⟨hp, rfl⟩ := new_eq_ok.mp hn
  have hfixed : fixedHeaderSize = 12 := rfl
  have htake : ∀ n, n ≤ (parsed b).len → b'.take n = b.take n := by
    intro n hnle
    have := congrArg (List.take n) heq
    rwa [List.take_take, List.take_take, Nat.min_eq_left hnle] at this
  have hfirst : firstByte b' = firstByte b := by
    have := congrArg (List.getD · 0 0) (htake 1 (by omega))
    unfold firstByte
    simpa [List.getD_eq_getElem?_getD, List.getElem?_take] using this
  have hcsrc : csrcEnd b' = csrcEnd b := by unfold csrcEnd; rw [hfirst]
  have hlen : parsedLen b' = parsedLen b := by
    unfold parsedLen
    rw [hfirst, hcsrc]
    split
    · next hx =>
      have hext : csrcEnd b + 4 ≤ (parsed b).len := by
        show _ ≤ parsedLen b
        unfold parsedLen
        rw [if_pos hx]
        omega
      unfold xSize
      rw [hcsrc, htake _ hext]
    · rfl
  have hl' : parsedLen b' ≤ b'.length := hlen.trans_le hl
  refine new_eq_ok.mpr ⟨⟨by omega, hfirst ▸ hp.version, ?_, fun hx => ?_, hl'⟩, ?_⟩
  · refine Nat.le_trans ?_ hl'
    unfold parsedLen
    split <;> omega
  · refine Nat.le_trans ?_ hl'
    unfold parsedLen
    rw [if_pos hx]
    omega
  · unfold parsed
    rw [hlen, htake 4 (by omega), htake 12 (by omega)]

end RtpHeader

end LibSrtp
