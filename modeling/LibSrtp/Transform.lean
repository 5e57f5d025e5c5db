import LibSrtp.Transform.AesCmSha1
import LibSrtp.Transform.AesGcm

/-!
# Transforms

The two implementations of the `Transform` trait, and what the streams rely on: a transform that
was built for its profiles is `Keyed`, a `Keyed` transform never panics on a packet the stream has
checked, and it undoes what it did.
-/

namespace LibSrtp

/-- `Box<dyn Transform>` -/
inductive Transform where
  | aesCmSha1 (t : AesCmSha1)
  | aesGcm (t : AesGcm)
deriving DecidableEq

namespace Transform

open Exec

variable [Crates]

def rtpProtect (plain : Bytes) (header : RtpHeader) (roc : UInt32) : Transform → Res Bytes
  | aesCmSha1 t => t.rtpProtect plain header roc
  | aesGcm t => t.rtpProtect plain header roc

def rtcpProtect (plain : Bytes) (header : RtcpHeader) (index : UInt32) : Transform → Res Bytes
  | aesCmSha1 t => t.rtcpProtect plain header index
  | aesGcm t => t.rtcpProtect plain header index

def rtpUnprotect (cipher : Bytes) (header : RtpHeader) (roc : UInt32) : Transform → Res Bytes
  | aesCmSha1 t => t.rtpUnprotect cipher header roc
  | aesGcm t => t.rtpUnprotect cipher header roc

def rtcpUnprotect (cipher : Bytes) (header : RtcpHeader) (index : UInt32) (trailerLen : Nat) :
    Transform → Res Bytes
  | aesCmSha1 t => t.rtcpUnprotect cipher header index trailerLen
  | aesGcm t => t.rtcpUnprotect cipher header index trailerLen

omit [Crates] in
/-- `equals`: the same implementation with the same profiles, keys and MKI. -/
def equals (a b : Transform) : Bool := decide (a = b)

/-! ## Keyed transforms -/

def mki : Transform → Mki
  | aesCmSha1 t => t.mki
  | aesGcm t => t.mki

def rtpProfile : Transform → ProtectionProfile
  | aesCmSha1 t => t.rtpProfile
  | aesGcm t => t.rtpProfile

def rtcpProfile : Transform → ProtectionProfile
  | aesCmSha1 t => t.rtcpProfile
  | aesGcm t => t.rtcpProfile

/-- The session keys fit the profiles. -/
def Keyed : Transform → Prop
  | aesCmSha1 t => t.Keyed
  | aesGcm t => t.Keyed

variable {t : Transform}

theorem raises_rtpProtect (h : t.Keyed) {plain : Bytes} {header : RtpHeader} {roc : UInt32}
    (hlen : header.len ≤ plain.length) :
    Raises (CipherFault plain.length) (t.rtpProtect plain header roc) := by
  cases t with
  | aesCmSha1 t => exact AesCmSha1.Keyed.raises_rtpProtect h hlen
  | aesGcm t => exact AesGcm.Keyed.raises_rtpProtect h hlen

theorem raises_rtcpProtect (h : t.Keyed) {plain : Bytes} {header : RtcpHeader} {index : UInt32}
    (hlen : RtcpHeader.len ≤ plain.length) :
    Raises (CipherFault plain.length) (t.rtcpProtect plain header index) := by
  cases t with
  | aesCmSha1 t => exact AesCmSha1.Keyed.raises_rtcpProtect h hlen
  | aesGcm t => exact AesGcm.Keyed.raises_rtcpProtect h hlen

theorem raises_rtpUnprotect (h : t.Keyed) {packet : Bytes} {header : RtpHeader} {roc : UInt32} :
    Raises (CipherFault packet.length) (t.rtpUnprotect packet header roc) := by
  cases t with
  | aesCmSha1 t => exact AesCmSha1.Keyed.raises_rtpUnprotect h
  | aesGcm t => exact AesGcm.Keyed.raises_rtpUnprotect h

/-- The stream has checked the length before it comes to this. -/
theorem raises_rtcpUnprotect (h : t.Keyed) {packet : Bytes} {header : RtcpHeader} {index : UInt32}
    {trailerLen : Nat} (htrailer : 4 ≤ trailerLen)
    (hlen : RtcpHeader.len + trailerLen ≤ packet.length) :
    Raises (CipherFault packet.length) (t.rtcpUnprotect packet header index trailerLen) := by
  cases t with
  | aesCmSha1 t => exact AesCmSha1.Keyed.raises_rtcpUnprotect h htrailer hlen
  | aesGcm t => exact AesGcm.Keyed.raises_rtcpUnprotect h

/-! ## Round trips -/

/-- The index that goes on the wire, with the E flag. -/
def esrtcp (t : Transform) (index : UInt32) : UInt32 :=
  if t.rtcpProfile.keyLen > 0 then index ||| 0x80000000 else index &&& 0x7fffffff

omit [Crates] in
/-- The E flag is not part of the index. -/
theorem esrtcp_index (t : Transform) (index : UInt32) :
    t.esrtcp index &&& 0x7fffffff = index &&& 0x7fffffff := by
  unfold esrtcp
  split
  · apply UInt32.toNat_inj.mp
    rw [UInt32.toNat_and, UInt32.toNat_or, UInt32.toNat_and, Nat.and_or_distrib_right]
    simp
  · rw [UInt32.and_assoc, UInt32.and_self]

/-- A protected packet starts with the header it was given and ends in the MKI and the tag. -/
theorem rtp_layout (h : t.Keyed) {plain packet : Bytes} {header : RtpHeader} {roc : UInt32}
    (hlen : header.len ≤ plain.length) (hp : t.rtpProtect plain header roc = .ok packet) :
    ∃ front tag, packet = front ++ mkiBytes t.mki ++ tag ∧ tag.length = t.rtpProfile.tagLen ∧
      header.len ≤ front.length ∧ front.take header.len = plain.take header.len := by
  cases t with
  | aesCmSha1 t => exact (AesCmSha1.Keyed.rtp_round_trip h hlen hp).2
  | aesGcm t =>
    obtain ⟨front, hpacket, hfront⟩ := AesGcm.Keyed.rtp_layout h hlen hp
    exact ⟨front, [], hpacket.trans (List.append_nil _).symm, (AesGcm.Keyed.tagLen_eq h).1.symm,
      hfront⟩

/-- As for SRTP, with the index and the E flag in front of the MKI. -/
theorem rtcp_layout (h : t.Keyed) {plain packet : Bytes} {header : RtcpHeader} {index : UInt32}
    (hlen : RtcpHeader.len ≤ plain.length) (hp : t.rtcpProtect plain header index = .ok packet) :
    ∃ front tag, packet = front ++ Bytes.toBe 4 (t.esrtcp index).toNat ++ mkiBytes t.mki ++ tag ∧
      tag.length = t.rtcpProfile.tagLen ∧ RtcpHeader.len ≤ front.length ∧
      front.take RtcpHeader.len = plain.take RtcpHeader.len := by
  cases t with
  | aesCmSha1 t => exact (AesCmSha1.Keyed.rtcp_round_trip h hlen hp).2
  | aesGcm t =>
    obtain ⟨front, hpacket, hfront⟩ := AesGcm.Keyed.rtcp_layout h hlen hp
    obtain ⟨-, htag, hkey⟩ := AesGcm.Keyed.tagLen_eq h
    have hword : esrtcp (.aesGcm t) index = index ||| 0x80000000 := if_pos hkey
    rw [hword]
    exact ⟨front, [], hpacket.trans (List.append_nil _).symm, htag.symm, hfront⟩

/-- Unprotecting a protected packet gives back the original. -/
theorem rtp_round_trip [LawfulCrates] (h : t.Keyed) {plain packet : Bytes} {header : RtpHeader}
    {roc : UInt32} (hlen : header.len ≤ plain.length)
    (hp : t.rtpProtect plain header roc = .ok packet) :
    t.rtpUnprotect packet header roc = .ok plain := by
  cases t with
  | aesCmSha1 t => exact (AesCmSha1.Keyed.rtp_round_trip h hlen hp).1
  | aesGcm t => exact AesGcm.Keyed.rtp_round_trip h hlen hp

theorem rtcp_round_trip [LawfulCrates] (h : t.Keyed) {plain packet : Bytes} {header : RtcpHeader}
    {index : UInt32} (hlen : RtcpHeader.len ≤ plain.length)
    (hp : t.rtcpProtect plain header index = .ok packet) :
    t.rtcpUnprotect packet header index (4 + t.rtcpProfile.tagLen + (mkiBytes t.mki).length) =
      .ok plain := by
  cases t with
  | aesCmSha1 t => exact (AesCmSha1.Keyed.rtcp_round_trip h hlen hp).1
  | aesGcm t =>
    have htag : (Transform.aesGcm t).rtcpProfile.tagLen = 0 := (AesGcm.Keyed.tagLen_eq h).2.1
    rw [htag]
    exact AesGcm.Keyed.rtcp_round_trip h hlen hp

/-- An accepted packet is as long as its header and its trailer. -/
theorem rtpUnprotect_len (h : t.Keyed) {packet plain : Bytes} {header : RtpHeader} {roc : UInt32}
    (hu : t.rtpUnprotect packet header roc = .ok plain) :
    header.len + (mkiBytes t.mki).length + t.rtpProfile.tagLen ≤ packet.length := by
  cases t with
  | aesCmSha1 t =>
    have hlen := AesCmSha1.Keyed.rtpUnprotect_len hu
    show header.len + (mkiBytes t.mki).length + t.rtpProfile.tagLen ≤ packet.length
    omega
  | aesGcm t =>
    have hlen := AesGcm.Keyed.rtpUnprotect_len hu
    have htag := (AesGcm.Keyed.tagLen_eq h).1
    show header.len + (mkiBytes t.mki).length + t.rtpProfile.tagLen ≤ packet.length
    omega

theorem rtcpUnprotect_header (h : t.Keyed) {packet plain : Bytes} {header : RtcpHeader}
    {index : UInt32} {trailerLen : Nat} (htrailer : 4 ≤ trailerLen)
    (hlen : RtcpHeader.len + trailerLen ≤ packet.length)
    (hu : t.rtcpUnprotect packet header index trailerLen = .ok plain) :
    RtcpHeader.len ≤ plain.length := by
  cases t with
  | aesCmSha1 t => exact AesCmSha1.Keyed.rtcpUnprotect_header h htrailer hlen hu
  | aesGcm t => exact AesGcm.Keyed.rtcpUnprotect_header h hu

/-- A packet that is accepted is what `rtpProtect` makes of the result. -/
theorem rtp_canonical [StrictCrates] (h : t.Keyed) {front last plain : Bytes} {header : RtpHeader}
    {roc : UInt32} (hfront : header.len ≤ front.length) (hlast : last.length = t.rtpProfile.tagLen)
    (hu : t.rtpUnprotect (front ++ mkiBytes t.mki ++ last) header roc = .ok plain) :
    t.rtpProtect plain header roc = .ok (front ++ mkiBytes t.mki ++ last) ∧
      header.len ≤ plain.length ∧ plain.take header.len = front.take header.len := by
  cases t with
  | aesCmSha1 t => exact AesCmSha1.Keyed.rtp_canonical h hfront hlast hu
  | aesGcm t =>
    obtain rfl := List.length_eq_zero_iff.mp (hlast.trans (AesGcm.Keyed.tagLen_eq h).1)
    rw [List.append_nil] at hu ⊢
    exact AesGcm.Keyed.rtp_canonical h hfront hu

/-- As for SRTP, of packets with the E flag that `rtcpProtect` writes. -/
theorem rtcp_canonical [StrictCrates] (h : t.Keyed) {front last plain : Bytes} {header : RtcpHeader}
    {index : UInt32} (hfront : RtcpHeader.len ≤ front.length)
    (hlast : last.length = t.rtcpProfile.tagLen)
    (hu : t.rtcpUnprotect (front ++ Bytes.toBe 4 (t.esrtcp index).toNat ++ mkiBytes t.mki ++ last)
      header index (4 + t.rtcpProfile.tagLen + (mkiBytes t.mki).length) = .ok plain) :
    t.rtcpProtect plain header index =
      .ok (front ++ Bytes.toBe 4 (t.esrtcp index).toNat ++ mkiBytes t.mki ++ last) := by
  cases t with
  | aesCmSha1 t => exact AesCmSha1.Keyed.rtcp_canonical h hfront hlast hu
  | aesGcm t =>
    obtain ⟨-, htag, hkey⟩ := AesGcm.Keyed.tagLen_eq h
    have hword : esrtcp (.aesGcm t) index = index ||| 0x80000000 := if_pos hkey
    have htag : (Transform.aesGcm t).rtcpProfile.tagLen = 0 := htag
    obtain rfl := List.length_eq_zero_iff.mp (hlast.trans htag)
    rw [hword, htag] at hu
    rw [hword]
    rw [List.append_nil] at hu ⊢
    exact AesGcm.Keyed.rtcp_canonical h hfront hu

end Transform

end LibSrtp
