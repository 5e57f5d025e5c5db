import LibSrtp.Nonces
import LibSrtp.Transform

/-!
# What a tag vouches for

The MAC of AES-CM with HMAC-SHA1 and the tag of AES-GCM are taken over a part of the packet and of
the state of the streams. A `Seal` is that part, with the key it is sealed under, and no more: not the
component, not the profile, and for AES-CM neither the key nor the salt of the cipher. These are the
`Keying` of the packet.

* `Transform.rtp_sealed`: two SRTP packets with one seal and one keying, one protected and one
  accepted, have the same header, ROC and plain text, wherever their transforms come from;
* `Transform.rtcp_sealed`: as for SRTCP, with the index for the ROC.
-/

namespace LibSrtp

open Exec Bytes

/-- What a tag is taken over, and under which key: a message for HMAC-SHA1; the nonce, the
associated data and the cipher text, with its tag, for AES-GCM. -/
inductive Seal where
  | mac (authKey : Option (ByteArr 20)) (message : Bytes)
  | aead (key : Bytes) (nonce : ByteArr 12) (ad cipher : Bytes)
deriving DecidableEq

/-- The component a packet belongs to, with its cipher and session keys. -/
inductive Keying where
  | cm (isRtp : Bool) (keyLen : Nat) (keys : CmSessionKeys)
  | gcm (isRtp : Bool) (keys : GcmSessionKeys)
deriving DecidableEq

/-- The key of a tag. -/
inductive TagKey where
  | mac (authKey : Option (ByteArr 20))
  | aead (key : Bytes)
deriving DecidableEq

def Seal.tagKey : Seal → TagKey
  | .mac authKey _ => .mac authKey
  | .aead key .. => .aead key

def Keying.tagKey : Keying → TagKey
  | .cm _ _ keys => .mac keys.authKey
  | .gcm _ keys => .aead keys.key

def Keying.isRtp : Keying → Bool
  | .cm isRtp .. => isRtp
  | .gcm isRtp _ => isRtp

/-! ## SRTP -/

namespace AesCmSha1

/-- The part of an SRTP packet in front of the MKI and the tag. -/
def rtpBody (t : AesCmSha1) (packet : Bytes) : Bytes :=
  packet.take (packet.length - (t.rtpProfile.tagLen + (mkiBytes t.mki).length))

/-- The MAC is over the packet and the ROC; without a tag nothing is sealed. -/
def rtpSeal (t : AesCmSha1) (packet : Bytes) (roc : UInt32) : Option Seal :=
  if 0 < t.rtpProfile.tagLen then
    some (.mac t.rtpKey.authKey (t.rtpBody packet ++ toBe 4 roc.toNat))
  else none

theorem rtpSeal_eq_some {t : AesCmSha1} {packet : Bytes} {roc : UInt32} {σ : Seal}
    (h : t.rtpSeal packet roc = some σ) :
    0 < t.rtpProfile.tagLen ∧ .mac t.rtpKey.authKey (t.rtpBody packet ++ toBe 4 roc.toNat) = σ := by
  unfold rtpSeal at h
  split at h
  · next hlen => exact ⟨hlen, Option.some.inj h⟩
  · cases h

variable [Crates] {t : AesCmSha1} {plain packet : Bytes} {header : RtpHeader} {roc : UInt32}

/-- A protected packet is its plain text enciphered. -/
theorem Keyed.rtp_body (h : t.Keyed) (hlen : header.len ≤ plain.length)
    (hp : t.rtpProtect plain header roc = .ok packet) :
    header.len ≤ (t.rtpBody packet).length ∧
      (t.rtpBody packet).take header.len = plain.take header.len ∧
      cipher t.rtpProfile t.rtpKey (rtpIv · header roc) (t.rtpBody packet) header.len = .ok plain := by
  rw [h.rtpProtect_eq, bind_eq_ok] at hp
  obtain ⟨body, hbody, hp⟩ := hp
  obtain rfl := Except.ok.inj hp
  obtain ⟨hbl, htake, hback⟩ := cipher_eq_ok hlen hbody
  have hcut : t.rtpBody (body ++ mkiBytes t.mki ++
      tag t.rtpProfile t.rtpKey (body ++ toBe 4 roc.toNat)) = body := by
    unfold rtpBody
    rw [List.append_assoc]
    exact List.take_left' (by simp only [List.length_append, length_tag h.rtp]; omega)
  rw [hcut]
  exact ⟨by omega, htake, hback⟩

/-- An accepted packet is deciphered to its plain text. -/
theorem Keyed.rtp_opened (h : t.Keyed) (hu : t.rtpUnprotect packet header roc = .ok plain) :
    header.len ≤ (t.rtpBody packet).length ∧
      cipher t.rtpProfile t.rtpKey (rtpIv · header roc) (t.rtpBody packet) header.len = .ok plain := by
  have hlen := rtpUnprotect_len hu
  rw [h.rtpUnprotect_eq roc hlen] at hu
  dsimp only at hu
  split at hu
  · exact ⟨by unfold rtpBody; rw [List.length_take]; omega, hu⟩
  · exact absurd hu fail_ne_ok

/-- One seal, one packet. -/
theorem Keyed.rtp_sealed (h : t.Keyed) {t' : AesCmSha1} (h' : t'.Keyed)
    (hcipher : t.rtpProfile.keyLen = t'.rtpProfile.keyLen) (hkeys : t.rtpKey = t'.rtpKey)
    (parsed : RtpHeader.new plain = .ok header) (hp : t.rtpProtect plain header roc = .ok packet)
    {packet' plain' : Bytes} {header' : RtpHeader} {roc' : UInt32}
    (parsed' : RtpHeader.new packet' = .ok header')
    (hu : t'.rtpUnprotect packet' header' roc' = .ok plain') {σ : Seal}
    (hseal : t.rtpSeal packet roc = some σ) (hseal' : t'.rtpSeal packet' roc' = some σ) :
    header = header' ∧ roc = roc' ∧ plain = plain' := by
  obtain ⟨-, hmessage⟩ := Seal.mac.inj ((rtpSeal_eq_some hseal).2.trans (rtpSeal_eq_some hseal').2.symm)
  obtain ⟨hbody, hroc⟩ := List.append_inj' hmessage (length_toBe_eq ..)
  obtain rfl := toBe_u32_inj hroc
  obtain ⟨hlen, htake, hopen⟩ := h.rtp_body (RtpHeader.len_le parsed).2 hp
  obtain ⟨hlen', hopen'⟩ := h'.rtp_opened hu
  have hnew : RtpHeader.new (t.rtpBody packet) = .ok header := RtpHeader.new_congr parsed hlen htake
  have hnew' : RtpHeader.new (t'.rtpBody packet') = .ok header' := by
    refine RtpHeader.new_congr parsed' hlen' ?_
    unfold rtpBody at hlen' ⊢
    rw [List.length_take] at hlen'
    rw [List.take_take]
    congr 1
    omega
  rw [hbody] at hnew hopen
  obtain rfl := Except.ok.inj (hnew.symm.trans hnew')
  rw [cipher_congr hcipher, hkeys] at hopen
  exact ⟨rfl, rfl, Except.ok.inj (hopen.symm.trans hopen')⟩

end AesCmSha1

namespace AesGcm

/-- The part of an SRTP packet in front of the MKI. -/
def rtpBody (t : AesGcm) (packet : Bytes) : Bytes :=
  packet.take (packet.length - (mkiBytes t.mki).length)

/-- The tag is over the header and the payload, under the nonce. -/
def rtpSeal (t : AesGcm) (packet : Bytes) (header : RtpHeader) (roc : UInt32) : Seal :=
  .aead t.rtpKey.key (t.getRtpIv header roc) ((t.rtpBody packet).take header.len)
    ((t.rtpBody packet).drop header.len)

variable [Crates] {t : AesGcm} {plain packet : Bytes} {header : RtpHeader} {roc : UInt32}

/-- What the tag was made of. -/
theorem Keyed.rtp_body (h : t.Keyed) (hlen : header.len ≤ plain.length)
    (hp : t.rtpProtect plain header roc = .ok packet) :
    ∃ payload tag, Crates.gcmEncrypt t.rtpKey.key (t.getRtpIv header roc)
        (plain.take header.len) (plain.drop header.len) = some (payload, tag) ∧
      (t.rtpBody packet).take header.len = plain.take header.len ∧
      (t.rtpBody packet).drop header.len = payload ++ tag.1 := by
  rw [h.rtpProtect_eq roc hlen] at hp
  obtain ⟨⟨payload, tag⟩, henc, hp⟩ := bind_eq_ok.mp hp
  obtain rfl := Except.ok.inj hp
  have had : (plain.take header.len).length = header.len := by simp [hlen]
  have hcut : t.rtpBody (plain.take header.len ++ payload ++ tag.1 ++ mkiBytes t.mki) =
      plain.take header.len ++ (payload ++ tag.1) := by
    unfold rtpBody
    rw [← List.append_assoc]
    exact List.take_left' (by simp only [List.length_append]; omega)
  rw [hcut]
  exact ⟨payload, tag, okOr_eq_ok.mp henc, List.take_left' had, List.drop_left' had⟩

/-- What the tag was checked on. -/
theorem Keyed.rtp_opened (h : t.Keyed) (hu : t.rtpUnprotect packet header roc = .ok plain) :
    ∃ payload tag plain', Crates.gcmDecrypt t.rtpKey.key (t.getRtpIv header roc)
        ((t.rtpBody packet).take header.len) payload tag = some plain' ∧
      plain = (t.rtpBody packet).take header.len ++ plain' ∧
      (t.rtpBody packet).drop header.len = payload ++ tag.1 ∧
      header.len ≤ (t.rtpBody packet).length := by
  by_cases hlen : packet.length < header.len + (mkiBytes t.mki).length + aesGcmTagLen
  · unfold rtpUnprotect at hu
    rw [if_pos hlen] at hu
    exact absurd hu fail_ne_ok
  · have hsplit := List.take_append_drop (packet.length - (mkiBytes t.mki).length) packet
    obtain ⟨ad, payload, tag, hbody, had⟩ := exists_tag (t.rtpBody packet) header.len
      (by unfold rtpBody; rw [List.length_take]; omega)
    have hmki : (packet.drop (packet.length - (mkiBytes t.mki).length)).length =
        (mkiBytes t.mki).length := by rw [List.length_drop]; omega
    have heq := h.rtpUnprotect_eq payload tag roc had hmki
    rw [← hbody] at heq
    unfold rtpBody at heq
    rw [hsplit, hu] at heq
    obtain ⟨plain', hdec, hplain⟩ := bind_eq_ok.mp heq.symm
    obtain rfl := Except.ok.inj hplain
    rw [hbody, List.append_assoc, List.take_left' had, List.drop_left' had]
    exact ⟨payload, tag, plain', okOr_eq_ok.mp hdec, rfl, rfl, by rw [List.length_append]; omega⟩

/-- One seal, one packet. -/
theorem Keyed.rtp_sealed [LawfulCrates] (h : t.Keyed) {t' : AesGcm} (h' : t'.Keyed)
    (hkeys : t.rtpKey = t'.rtpKey)
    (parsed : RtpHeader.new plain = .ok header) (hp : t.rtpProtect plain header roc = .ok packet)
    {packet' plain' : Bytes} {header' : RtpHeader} {roc' : UInt32}
    (parsed' : RtpHeader.new packet' = .ok header')
    (hu : t'.rtpUnprotect packet' header' roc' = .ok plain')
    (hseal : t.rtpSeal packet header roc = t'.rtpSeal packet' header' roc') :
    header = header' ∧ roc = roc' ∧ plain = plain' := by
  obtain ⟨-, hnonce, had, hrest⟩ := Seal.aead.inj hseal
  obtain ⟨payload, tag, henc, htake, hdrop⟩ := h.rtp_body (RtpHeader.len_le parsed).2 hp
  obtain ⟨payload', tag', out, hdec, rfl, hdrop', hlen'⟩ := h'.rtp_opened hu
  rw [hdrop, hdrop'] at hrest
  obtain ⟨rfl, htag⟩ := List.append_inj' hrest (tag.2.trans tag'.2.symm)
  obtain rfl := Subtype.ext htag
  have hroc : roc = roc' := by
    unfold getRtpIv at hnonce
    rw [hkeys] at hnonce
    exact (rtpIv_inj hnonce).2.1
  -- both headers are read off the authenticated header
  have hnew : RtpHeader.new ((t.rtpBody packet).take header.len) = .ok header := by
    rw [htake]
    have hlen := (RtpHeader.len_le parsed).2
    exact RtpHeader.new_congr parsed (by rw [List.length_take]; omega)
      (by rw [List.take_take, min_self])
  have hnew' : RtpHeader.new ((t'.rtpBody packet').take header'.len) = .ok header' := by
    refine RtpHeader.new_congr parsed' (by rw [List.length_take]; omega) ?_
    unfold rtpBody at hlen' ⊢
    rw [List.length_take] at hlen'
    rw [List.take_take, List.take_take]
    congr 1
    omega
  rw [had] at hnew
  obtain rfl := Except.ok.inj (hnew.symm.trans hnew')
  refine ⟨rfl, hroc, ?_⟩
  have hback := LawfulCrates.gcmDecrypt_gcmEncrypt henc
  rw [← htake, hkeys, hnonce, had, hdec] at hback
  rw [← had, htake, Option.some.inj hback, List.take_append_drop]

end AesGcm

/-! ## SRTCP -/

namespace AesCmSha1

/-- The MAC is over the packet up to and with the word of the index. -/
def rtcpSeal (t : AesCmSha1) (packet : Bytes) (trailerLen : Nat) : Seal :=
  .mac t.rtcpKey.authKey (packet.take (packet.length - trailerLen + 4))

variable [Crates] {t : AesCmSha1} {plain packet : Bytes} {header : RtcpHeader} {index : UInt32}

theorem Keyed.rtcp_body (h : t.Keyed) (hlen : RtcpHeader.len ≤ plain.length)
    (hp : t.rtcpProtect plain header index = .ok packet) :
    ∃ front, packet.take (packet.length -
        (4 + t.rtcpProfile.tagLen + (mkiBytes t.mki).length) + 4) =
          front ++ toBe 4 (t.esrtcp index).toNat ∧
      RtcpHeader.len ≤ front.length ∧ front.take RtcpHeader.len = plain.take RtcpHeader.len ∧
      cipher t.rtcpProfile t.rtcpKey (rtcpIv · header index) front RtcpHeader.len = .ok plain := by
  rw [h.rtcpProtect_eq, bind_eq_ok] at hp
  obtain ⟨body, hbody, hp⟩ := hp
  obtain rfl := Except.ok.inj hp
  obtain ⟨hbl, htake, hback⟩ := cipher_eq_ok hlen hbody
  refine ⟨body, ?_, by omega, htake, hback⟩
  rw [List.append_assoc]
  refine List.take_left' ?_
  simp only [List.length_append, length_tag h.rtcp, length_toBe]
  omega

theorem Keyed.rtcp_opened (h : t.Keyed) {trailerLen : Nat} (htrailer : 4 ≤ trailerLen)
    (hlen : RtcpHeader.len + trailerLen ≤ packet.length)
    (hu : t.rtcpUnprotect packet header index trailerLen = .ok plain) :
    cipher t.rtcpProfile t.rtcpKey (rtcpIv · header index) (packet.take (packet.length - trailerLen))
      RtcpHeader.len = .ok plain := by
  rw [h.rtcpUnprotect_eq header index htrailer hlen] at hu
  dsimp only at hu
  split at hu
  · exact hu
  · exact absurd hu fail_ne_ok

/-- One seal, one packet. -/
theorem Keyed.rtcp_sealed (h : t.Keyed) {t' : AesCmSha1} (h' : t'.Keyed)
    (hcipher : t.rtcpProfile.keyLen = t'.rtcpProfile.keyLen) (hkeys : t.rtcpKey = t'.rtcpKey)
    (parsed : RtcpHeader.new plain = .ok header) (hindex : index &&& 0x7fffffff = index)
    (hp : t.rtcpProtect plain header index = .ok packet) {packet' plain' : Bytes}
    {header' : RtcpHeader} {word' : UInt32} {trailerLen' : Nat} (htrailer : 4 ≤ trailerLen')
    (hlen : RtcpHeader.len + trailerLen' ≤ packet'.length)
    (hword : (packet'.drop (packet'.length - trailerLen')).take 4 = toBe 4 word'.toNat)
    (parsed' : RtcpHeader.new packet' = .ok header')
    (hu : t'.rtcpUnprotect packet' header' (word' &&& 0x7fffffff) trailerLen' = .ok plain')
    (hseal : t.rtcpSeal packet (4 + t.rtcpProfile.tagLen + (mkiBytes t.mki).length) =
      t'.rtcpSeal packet' trailerLen') :
    header = header' ∧ index = word' &&& 0x7fffffff ∧ plain = plain' := by
  obtain ⟨-, hmessage⟩ := Seal.mac.inj hseal
  obtain ⟨front, hfront, hfl, htake, hopen⟩ := h.rtcp_body (RtcpHeader.len_le parsed) hp
  have hopen' := h'.rtcp_opened htrailer hlen hu
  rw [hfront, List.take_add, hword] at hmessage
  obtain ⟨rfl, hbe⟩ := List.append_inj' hmessage (length_toBe_eq ..)
  have hindex' : index = word' &&& 0x7fffffff := by
    rw [← toBe_u32_inj hbe]
    exact (Transform.esrtcp_index (.aesCmSha1 t) index).trans hindex |>.symm
  have hnew := RtcpHeader.new_congr parsed hfl htake
  have hnew' : RtcpHeader.new (packet'.take (packet'.length - trailerLen')) = .ok header' := by
    refine RtcpHeader.new_congr parsed' hfl ?_
    rw [List.length_take] at hfl
    rw [List.take_take]
    congr 1
    omega
  obtain rfl := Except.ok.inj (hnew.symm.trans hnew')
  rw [← hindex', ← cipher_congr hcipher, ← hkeys] at hopen'
  exact ⟨rfl, hindex', Except.ok.inj (hopen.symm.trans hopen')⟩

end AesCmSha1

namespace AesGcm

/-- The tag is over the header, the index with the E flag, and the payload, under the nonce. -/
def rtcpSeal (t : AesGcm) (packet : Bytes) (header : RtcpHeader) (index : UInt32) (trailerLen : Nat) :
    Seal :=
  let body := packet.take (packet.length - trailerLen)
  .aead t.rtcpKey.key (t.getRtcpIv header index)
    (body.take RtcpHeader.len ++ toBe 4 (index ||| 0x80000000).toNat) (body.drop RtcpHeader.len)

variable [Crates] {t : AesGcm} {plain packet : Bytes} {header : RtcpHeader} {index : UInt32}

theorem Keyed.rtcp_body (h : t.Keyed) (hlen : RtcpHeader.len ≤ plain.length)
    (hp : t.rtcpProtect plain header index = .ok packet) :
    ∃ payload tag, Crates.gcmEncrypt t.rtcpKey.key (t.getRtcpIv header index)
        (plain.take RtcpHeader.len ++ toBe 4 (index ||| 0x80000000).toNat)
        (plain.drop RtcpHeader.len) = some (payload, tag) ∧
      packet.take (packet.length - (4 + t.rtcpProfile.tagLen + (mkiBytes t.mki).length)) =
        plain.take RtcpHeader.len ++ (payload ++ tag.1) := by
  have htag := h.tagLen_eq.2.1
  rw [h.rtcpProtect_eq index hlen] at hp
  obtain ⟨⟨payload, tag⟩, henc, hp⟩ := bind_eq_ok.mp hp
  obtain rfl := Except.ok.inj hp
  refine ⟨payload, tag, okOr_eq_ok.mp henc, ?_⟩
  rw [htag, ← List.append_assoc, List.append_assoc _ (toBe 4 _)]
  refine List.take_left' ?_
  simp only [List.length_append, length_toBe]
  omega

theorem Keyed.rtcp_opened (h : t.Keyed) {trailerLen : Nat}
    (hu : t.rtcpUnprotect packet header index trailerLen = .ok plain) :
    ∃ ad payload tag plain', packet.take (packet.length - trailerLen) = ad ++ (payload ++ tag.1) ∧
      ad.length = RtcpHeader.len ∧
      Crates.gcmDecrypt t.rtcpKey.key (t.getRtcpIv header index)
        (ad ++ toBe 4 (index ||| 0x80000000).toNat) payload tag = some plain' ∧
      plain = ad ++ plain' := by
  by_cases hlen : packet.length < RtcpHeader.len + trailerLen + aesGcmTagLen
  · unfold rtcpUnprotect at hu
    rw [if_pos hlen] at hu
    exact absurd hu fail_ne_ok
  · have hsplit := List.take_append_drop (packet.length - trailerLen) packet
    obtain ⟨ad, payload, tag, hbody, had⟩ := exists_tag
      (packet.take (packet.length - trailerLen)) RtcpHeader.len (by rw [List.length_take]; omega)
    have heq := h.rtcpUnprotect_eq payload (packet.drop (packet.length - trailerLen)) tag header
      index had
    rw [← hbody, hsplit, List.length_drop, Nat.sub_sub_self (by omega), hu] at heq
    obtain ⟨plain', hdec, hplain⟩ := bind_eq_ok.mp heq.symm
    obtain rfl := Except.ok.inj hplain
    exact ⟨ad, payload, tag, plain', by rw [hbody, List.append_assoc], had, okOr_eq_ok.mp hdec, rfl⟩

/-- One seal, one packet. -/
theorem Keyed.rtcp_sealed [LawfulCrates] (h : t.Keyed) {t' : AesGcm} (h' : t'.Keyed)
    (hkeys : t.rtcpKey = t'.rtcpKey)
    (parsed : RtcpHeader.new plain = .ok header)
    (hp : t.rtcpProtect plain header index = .ok packet) {packet' plain' : Bytes}
    {header' : RtcpHeader} {index' : UInt32} {trailerLen' : Nat}
    (parsed' : RtcpHeader.new packet' = .ok header')
    (hu : t'.rtcpUnprotect packet' header' index' trailerLen' = .ok plain')
    (hseal : t.rtcpSeal packet header index (4 + t.rtcpProfile.tagLen + (mkiBytes t.mki).length) =
      t'.rtcpSeal packet' header' index' trailerLen') :
    header = header' ∧ index = index' ∧ plain = plain' := by
  obtain ⟨-, hnonce, had, hrest⟩ := Seal.aead.inj hseal
  have hlen := RtcpHeader.len_le parsed
  have hal : (plain.take RtcpHeader.len).length = RtcpHeader.len := by simp [hlen]
  obtain ⟨payload, tag, henc, hbody⟩ := h.rtcp_body hlen hp
  obtain ⟨ad, payload', tag', out, hbody', hal', hdec, rfl⟩ := h'.rtcp_opened hu
  rw [hbody, hbody', List.drop_left' hal, List.drop_left' hal'] at hrest
  rw [hbody, hbody', List.take_left' hal, List.take_left' hal'] at had
  obtain ⟨rfl, htag⟩ := List.append_inj' hrest (tag.2.trans tag'.2.symm)
  obtain rfl := Subtype.ext htag
  obtain rfl : index = index' := by
    unfold getRtcpIv at hnonce
    rw [hkeys] at hnonce
    exact (rtcpIv_inj hnonce).2
  obtain ⟨rfl, -⟩ := List.append_inj' had rfl
  have hnew : RtcpHeader.new (plain.take RtcpHeader.len) = .ok header :=
    RtcpHeader.new_congr parsed hal.ge (by rw [List.take_take, min_self])
  have hnew' : RtcpHeader.new (plain.take RtcpHeader.len) = .ok header' := by
    refine RtcpHeader.new_congr parsed' hal.ge ?_
    have hfront := congrArg (List.take RtcpHeader.len) hbody'
    rw [List.take_left' hal', List.take_take] at hfront
    rw [List.take_take, min_self, ← hfront]
    congr 1
    have hcut := congrArg List.length hbody'
    simp only [List.length_take, List.length_append, hal'] at hcut
    omega
  obtain rfl := Except.ok.inj (hnew.symm.trans hnew')
  refine ⟨rfl, rfl, ?_⟩
  have hback := LawfulCrates.gcmDecrypt_gcmEncrypt henc
  rw [hkeys, hnonce, hdec] at hback
  rw [Option.some.inj hback, List.take_append_drop]

end AesGcm

/-! ## Both transforms -/

namespace Transform

def rtpSeal (packet : Bytes) (header : RtpHeader) (roc : UInt32) : Transform → Option Seal
  | aesCmSha1 t => t.rtpSeal packet roc
  | aesGcm t => some (t.rtpSeal packet header roc)

def rtcpSeal (packet : Bytes) (header : RtcpHeader) (index : UInt32) (trailerLen : Nat) :
    Transform → Seal
  | aesCmSha1 t => t.rtcpSeal packet trailerLen
  | aesGcm t => t.rtcpSeal packet header index trailerLen

def rtpKeying : Transform → Keying
  | aesCmSha1 t => .cm true t.rtpProfile.keyLen t.rtpKey
  | aesGcm t => .gcm true t.rtpKey

def rtcpKeying : Transform → Keying
  | aesCmSha1 t => .cm false t.rtcpProfile.keyLen t.rtcpKey
  | aesGcm t => .gcm false t.rtcpKey

@[simp] theorem isRtp_rtpKeying (t : Transform) : t.rtpKeying.isRtp = true := by cases t <;> rfl

@[simp] theorem isRtp_rtcpKeying (t : Transform) : t.rtcpKeying.isRtp = false := by cases t <;> rfl

/-- The two components are keyed apart. -/
theorem rtpKeying_ne_rtcpKeying (t t' : Transform) : t.rtpKeying ≠ t'.rtcpKeying := by
  intro h
  have hrtp := congrArg Keying.isRtp h
  simp at hrtp

/-- A seal is made with the tag key of the keying. -/
theorem tagKey_rtpSeal {t : Transform} (h : t.Keyed) {packet : Bytes} {header : RtpHeader}
    {roc : UInt32} {σ : Seal} (hseal : t.rtpSeal packet header roc = some σ) :
    σ.tagKey = t.rtpKeying.tagKey ∧ σ.tagKey ≠ .mac none := by
  cases t with
  | aesCmSha1 t =>
    obtain ⟨hlen, rfl⟩ := AesCmSha1.rtpSeal_eq_some hseal
    obtain ⟨authKey, hauth⟩ := h.rtp.auth hlen
    refine ⟨rfl, fun hnone => ?_⟩
    rw [TagKey.mac.inj hnone] at hauth
    cases hauth
  | aesGcm t =>
    obtain rfl := Option.some.inj hseal
    exact ⟨rfl, by rintro ⟨⟩⟩

theorem tagKey_rtcpSeal {t : Transform} (h : t.Keyed) (packet : Bytes) (header : RtcpHeader)
    (index : UInt32) (trailerLen : Nat) :
    (t.rtcpSeal packet header index trailerLen).tagKey = t.rtcpKeying.tagKey ∧
      (t.rtcpSeal packet header index trailerLen).tagKey ≠ .mac none := by
  cases t with
  | aesCmSha1 t =>
    have hlen : 0 < t.rtcpProfile.tagLen := by
      rw [h.rtcp_tag]
      decide
    obtain ⟨authKey, hauth⟩ := h.rtcp.auth hlen
    refine ⟨rfl, fun hnone => ?_⟩
    rw [TagKey.mac.inj hnone] at hauth
    cases hauth
  | aesGcm t => exact ⟨rfl, by rintro ⟨⟩⟩

variable [Crates] {t t' : Transform} {plain packet plain' packet' : Bytes}

/-- Two SRTP packets with one seal and one keying, one protected and one accepted, are one packet. -/
theorem rtp_sealed [LawfulCrates] (h : t.Keyed) (h' : t'.Keyed)
    (hkeying : t.rtpKeying = t'.rtpKeying) {header header' : RtpHeader}
    {roc roc' : UInt32} (parsed : RtpHeader.new plain = .ok header)
    (hp : t.rtpProtect plain header roc = .ok packet)
    (parsed' : RtpHeader.new packet' = .ok header')
    (hu : t'.rtpUnprotect packet' header' roc' = .ok plain') {σ : Seal}
    (hseal : t.rtpSeal packet header roc = some σ) (hseal' : t'.rtpSeal packet' header' roc' = some σ) :
    header = header' ∧ roc = roc' ∧ plain = plain' := by
  cases t with
  | aesCmSha1 t => cases t' with
    | aesCmSha1 t' =>
      obtain ⟨-, hcipher, hkeys⟩ := Keying.cm.inj hkeying
      exact AesCmSha1.Keyed.rtp_sealed h h' hcipher hkeys parsed hp parsed' hu hseal hseal'
    | aesGcm t' => cases hkeying
  | aesGcm t => cases t' with
    | aesCmSha1 t' => cases hkeying
    | aesGcm t' =>
      exact AesGcm.Keyed.rtp_sealed h h' (Keying.gcm.inj hkeying).2 parsed hp parsed' hu
        ((Option.some.inj hseal).trans (Option.some.inj hseal').symm)

/-- As for SRTCP packets. -/
theorem rtcp_sealed [LawfulCrates] (h : t.Keyed) (h' : t'.Keyed)
    (hkeying : t.rtcpKeying = t'.rtcpKeying) {header header' : RtcpHeader}
    {index word' : UInt32} {trailerLen' : Nat} (parsed : RtcpHeader.new plain = .ok header)
    (hindex : index &&& 0x7fffffff = index) (hp : t.rtcpProtect plain header index = .ok packet)
    (htrailer : 4 ≤ trailerLen') (hlen : RtcpHeader.len + trailerLen' ≤ packet'.length)
    (hword : (packet'.drop (packet'.length - trailerLen')).take 4 = toBe 4 word'.toNat)
    (parsed' : RtcpHeader.new packet' = .ok header')
    (hu : t'.rtcpUnprotect packet' header' (word' &&& 0x7fffffff) trailerLen' = .ok plain')
    (hseal : t.rtcpSeal packet header index (4 + t.rtcpProfile.tagLen + (mkiBytes t.mki).length) =
      t'.rtcpSeal packet' header' (word' &&& 0x7fffffff) trailerLen') :
    header = header' ∧ index = word' &&& 0x7fffffff ∧ plain = plain' := by
  cases t with
  | aesCmSha1 t => cases t' with
    | aesCmSha1 t' =>
      obtain ⟨-, hcipher, hkeys⟩ := Keying.cm.inj hkeying
      exact AesCmSha1.Keyed.rtcp_sealed h h' hcipher hkeys parsed hindex hp htrailer hlen hword parsed'
        hu hseal
    | aesGcm t' => cases hkeying
  | aesGcm t => cases t' with
    | aesCmSha1 t' => cases hkeying
    | aesGcm t' =>
      exact AesGcm.Keyed.rtcp_sealed h h' (Keying.gcm.inj hkeying).2 parsed hp parsed' hu hseal

end Transform

end LibSrtp
