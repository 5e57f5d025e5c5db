import LibSrtp.Link

/-!
# The grammar of RTP headers

What an RTP header is, by the arithmetic of its fields, and that the parser accepts nothing else.

* `Rfc3550.HasHeader`: the strings that start with a header;
* `rtpHeader_grammar`: the parser accepts these and reads their fields, and looks at nothing behind
  the header.
-/

namespace LibSrtp

open Exec

/-! ## The grammar

```
 0                   1                   2                   3
 0 1 2 3 4 5 6 7 8 9 0 1 2 3 4 5 6 7 8 9 0 1 2 3 4 5 6 7 8 9 0 1
|V=2|P|X|  CC   |M|     PT      |       sequence number         |
|                           timestamp                           |
|           synchronization source (SSRC) identifier            |
|            contributing source (CSRC) identifiers             |
|      defined by profile       |            length             |
|                        header extension                       |
```
-/

namespace Rfc3550

def byte (b : Bytes) (i : ℕ) : ℕ := (b.getD i 0).toNat

/-- Big-endian integers of 16 and 32 bits. -/
def be16 (b : Bytes) (i : ℕ) : ℕ := byte b i * 2 ^ 8 + byte b (i + 1)

def be32 (b : Bytes) (i : ℕ) : ℕ := be16 b i * 2 ^ 16 + be16 b (i + 2)

def version (b : Bytes) : ℕ := byte b 0 / 2 ^ 6

def hasExtension (b : Bytes) : Bool := (byte b 0).testBit 4

def csrcCount (b : Bytes) : ℕ := byte b 0 % 2 ^ 4

/-- The end of the list of contributing sources. -/
def csrcEnd (b : Bytes) : ℕ := 12 + 4 * csrcCount b

/-- The extension has a header of four bytes; the last two have its length, in words. -/
def headerLen (b : Bytes) : ℕ :=
  if hasExtension b then csrcEnd b + 4 + 4 * be16 b (csrcEnd b + 2) else csrcEnd b

/-- The strings that start with a header. -/
structure HasHeader (b : Bytes) : Prop where
  fixed : 12 ≤ b.length
  version : version b = 2
  csrc : csrcEnd b ≤ b.length
  extension : hasExtension b = true → csrcEnd b + 4 ≤ b.length
  len : headerLen b ≤ b.length

/-! ## The parser -/

theorem byte_lt (b : Bytes) (i : ℕ) : byte b i < 2 ^ 8 := (b.getD i 0).toNat_lt

theorem be16_lt (b : Bytes) (i : ℕ) : be16 b i < 2 ^ 16 := by
  have h₀ := byte_lt b i
  have h₁ := byte_lt b (i + 1)
  unfold be16
  omega

theorem be32_lt (b : Bytes) (i : ℕ) : be32 b i < 2 ^ 32 := by
  have h₀ := be16_lt b i
  have h₁ := be16_lt b (i + 2)
  unfold be32
  omega

theorem slice_two {b : Bytes} {i : ℕ} (h : i + 2 ≤ b.length) :
    Bytes.fromBe ((b.take (i + 2)).drop i) = be16 b i := by
  have hbytes : (b.take (i + 2)).drop i = [b.getD i 0, b.getD (i + 1) 0] := by
    rw [← List.take_drop, List.drop_eq_getElem_cons (by omega), List.drop_eq_getElem_cons (by omega),
      List.getD_eq_getElem _ _ (by omega), List.getD_eq_getElem _ _ (by omega)]
    rfl
  rw [hbytes]
  simp [Bytes.fromBe, be16, byte]

theorem slice_four {b : Bytes} {i : ℕ} (h : i + 4 ≤ b.length) :
    Bytes.fromBe ((b.take (i + 4)).drop i) = be32 b i := by
  have hbytes : (b.take (i + 4)).drop i =
      [b.getD i 0, b.getD (i + 1) 0, b.getD (i + 2) 0, b.getD (i + 3) 0] := by
    rw [← List.take_drop, List.drop_eq_getElem_cons (by omega), List.drop_eq_getElem_cons (by omega),
      List.drop_eq_getElem_cons (by omega), List.drop_eq_getElem_cons (by omega),
      List.getD_eq_getElem _ _ (by omega), List.getD_eq_getElem _ _ (by omega),
      List.getD_eq_getElem _ _ (by omega), List.getD_eq_getElem _ _ (by omega)]
    rfl
  rw [hbytes]
  simp only [Bytes.fromBe, be32, be16, byte, List.foldl_cons, List.foldl_nil]
  rw [show i + 2 + 1 = i + 3 from rfl]
  omega

theorem version_iff (b : Bytes) : RtpHeader.firstByte b &&& 0xc0 = 0x80 ↔ version b = 2 := by
  have hbits : ∀ n : Fin 256, n.val &&& 0xc0 = 0x80 ↔ n.val / 2 ^ 6 = 2 := by decide +kernel
  rw [← UInt8.toNat_inj, UInt8.toNat_and]
  exact hbits ⟨byte b 0, byte_lt b 0⟩

theorem extension_iff (b : Bytes) : RtpHeader.firstByte b &&& 0x10 ≠ 0 ↔ hasExtension b = true := by
  have hbits : ∀ n : Fin 256, n.val &&& 0x10 ≠ 0 ↔ n.val.testBit 4 = true := by decide +kernel
  rw [ne_eq, ← UInt8.toNat_inj, UInt8.toNat_and]
  exact hbits ⟨byte b 0, byte_lt b 0⟩

theorem csrcEnd_eq (b : Bytes) : RtpHeader.csrcEnd b = csrcEnd b := by
  have hcount : (RtpHeader.firstByte b &&& 0x0f).toNat = csrcCount b := by
    rw [UInt8.toNat_and]
    exact Nat.and_two_pow_sub_one_eq_mod _ 4
  unfold RtpHeader.csrcEnd csrcEnd
  rw [hcount, Nat.mul_comm]
  rfl

theorem parsedLen_eq {b : Bytes} (h : hasExtension b = true → csrcEnd b + 4 ≤ b.length) :
    RtpHeader.parsedLen b = headerLen b := by
  unfold RtpHeader.parsedLen headerLen
  simp only [extension_iff, csrcEnd_eq]
  split
  · next hx =>
    have hslice := slice_two (b := b) (i := csrcEnd b + 2) (h hx)
    unfold RtpHeader.xSize
    rw [csrcEnd_eq, show csrcEnd b + 4 = csrcEnd b + 2 + 2 from rfl, hslice,
      UInt16.toNat_ofNat_of_lt' (be16_lt _ _), Nat.mul_comm]
  · rfl

theorem parses_iff (b : Bytes) : RtpHeader.Parses b ↔ HasHeader b := by
  constructor
  · intro h
    have hext : hasExtension b = true → csrcEnd b + 4 ≤ b.length := by
      intro hx
      rw [← csrcEnd_eq]
      exact h.extension ((extension_iff b).mpr hx)
    exact ⟨h.fixed, (version_iff b).mp h.version, csrcEnd_eq b ▸ h.csrc, hext,
      parsedLen_eq hext ▸ h.len⟩
  · intro h
    refine ⟨h.fixed, (version_iff b).mpr h.version, (csrcEnd_eq b).symm ▸ h.csrc, fun hx => ?_,
      (parsedLen_eq h.extension).symm ▸ h.len⟩
    rw [csrcEnd_eq]
    exact h.extension ((extension_iff b).mp hx)

end Rfc3550

/-- The parser accepts the strings that start with a header. It reads the length of the header, the
sequence number and the SSRC from it, and nothing behind it: a string with the same header bytes has
the same header, and so has the protected packet. -/
theorem rtpHeader_grammar [Crates] (b : Bytes) :
    ((∃ h, RtpHeader.new b = .ok h) ↔ Rfc3550.HasHeader b) ∧
    ∀ h, RtpHeader.new b = .ok h →
      (h.len = Rfc3550.headerLen b ∧ h.seqNum.toNat = Rfc3550.be16 b 2 ∧
        h.ssrc.toNat = Rfc3550.be32 b 8) ∧
      (∀ b', h.len ≤ b'.length → b'.take h.len = b.take h.len → RtpHeader.new b' = .ok h) ∧
      ∀ (t : Transform) roc packet, t.Keyed → t.rtpProtect b h roc = .ok packet →
        RtpHeader.new packet = .ok h := by
  constructor
  · rw [← Rfc3550.parses_iff]
    constructor
    · rintro ⟨h, hn⟩
      exact (RtpHeader.new_eq_ok.mp hn).1
    · exact fun hp => ⟨_, RtpHeader.new_eq_ok.mpr ⟨hp, rfl⟩⟩
  · intro h hn
    refine ⟨?_, fun b' hl heq => RtpHeader.new_congr hn hl heq,
      fun t roc packet hk hp => Transform.rtp_parsed hk hn hp⟩
    obtain ⟨hp, rfl⟩ := RtpHeader.new_eq_ok.mp hn
    have hheader := (Rfc3550.parses_iff b).mp hp
    have hfixed := hheader.fixed
    refine ⟨Rfc3550.parsedLen_eq hheader.extension, ?_, ?_⟩
    · show (UInt16.ofNat _).toNat = _
      rw [Rfc3550.slice_two (by omega), UInt16.toNat_ofNat_of_lt' (Rfc3550.be16_lt _ _)]
    · show (UInt32.ofNat _).toNat = _
      rw [Rfc3550.slice_four (by omega), UInt32.toNat_ofNat_of_lt' (Rfc3550.be32_lt _ _)]

end LibSrtp
