import LibSrtp.KeyDerivation
import LibSrtp.ProtectionProfile
import LibSrtp.Header

/-!
# AES-GCM
-/

namespace LibSrtp

open Exec

def aesGcmTagLen : Nat := 16

/-- The session keys of one component. -/
structure GcmSessionKeys where
  key : Bytes
  salt : ByteArr 12
deriving DecidableEq

/-- `AesGcm` -/
structure AesGcm where
  rtpProfile : ProtectionProfile
  rtcpProfile : ProtectionProfile
  rtpKey : GcmSessionKeys
  rtcpKey : GcmSessionKeys
  mki : Mki
deriving DecidableEq

namespace AesGcm

open ProtectionProfile

variable [Crates]

/-! ## Construction -/

/-- The session keys of the component whose salt and key have these labels. The key derivation
gives 14 bytes of salt, of which AES-GCM keeps 12. -/
def newKey (saltLabel keyLabel : KdfLabel) (masterKey masterSalt : Bytes)
    (profile : ProtectionProfile) : Res GcmSessionKeys := do
  let salt ← aesCmKdf saltLabel masterKey masterSalt
  let salt := salt.take profile.saltLen
  let key ← aesCmKdf keyLabel masterKey masterSalt
  let salt ← tryInto 12 salt .kdfDispatch
  .ok ⟨key, salt⟩

def new (masterKey masterSalt : Bytes) (mki : Mki) (rtpProfile rtcpProfile : ProtectionProfile) :
    Res AesGcm := do
  if ¬ (rtpProfile = aeadAes128Gcm ∨ rtpProfile = aeadAes256Gcm) then
    fail .transformDispatch
  else do
    let rtpKeys ← newKey .rtpSalt .rtpEncrypt masterKey masterSalt rtpProfile
    if ¬ (rtcpProfile = aeadAes128Gcm ∨ rtcpProfile = aeadAes256Gcm) then
      fail .transformDispatch
    else do
      let rtcpKeys ← newKey .rtcpSalt .rtcpEncrypt masterKey masterSalt rtcpProfile
      .ok ⟨rtpProfile, rtcpProfile, rtpKeys, rtcpKeys, mki⟩

/-! ## Nonces -/

/-- `0 <2 bytes> || SSRC <4> || ROC <4> || seqnum <2>`, xored into the salt. -/
def rtpIv (salt : ByteArr 12) (header : RtpHeader) (roc : UInt32) : ByteArr 12 :=
  Bytes.xorArr (Bytes.field 10 (Bytes.toBe 2 header.seqNum.toNat))
    (Bytes.xorArr (Bytes.field 6 (Bytes.toBe 4 roc.toNat))
      (Bytes.xorArr (Bytes.field 2 (Bytes.toBe 4 header.ssrc.toNat)) salt))

def getRtpIv (t : AesGcm) (header : RtpHeader) (roc : UInt32) : ByteArr 12 :=
  rtpIv t.rtpKey.salt header roc

/-- `0 <2 bytes> || SSRC <4> || 0 <2> || index <4>`, xored into the salt. -/
def rtcpIv (salt : ByteArr 12) (header : RtcpHeader) (index : UInt32) : ByteArr 12 :=
  Bytes.xorArr (Bytes.field 8 (Bytes.toBe 4 index.toNat))
    (Bytes.xorArr (Bytes.field 2 (Bytes.toBe 4 header.ssrc.toNat)) salt)

def getRtcpIv (t : AesGcm) (header : RtcpHeader) (index : UInt32) : ByteArr 12 :=
  rtcpIv t.rtcpKey.salt header index

/-! ## Encryption -/

/-- Encrypt with the AES of the profile. -/
def encryptDetached (profile : ProtectionProfile) (key : Bytes) (nonce : ByteArr 12)
    (ad payload : Bytes) : Res (Bytes × ByteArr 16) :=
  match profile with
  | aeadAes128Gcm => do
    let key ← fromSlice 16 key
    okOr (Crates.gcmEncrypt key.1 nonce ad payload) .encryption
  | aeadAes256Gcm => do
    let key ← fromSlice 32 key
    okOr (Crates.gcmEncrypt key.1 nonce ad payload) .encryption
  | _ => fail .transformDispatch

/-- Decrypt with the AES of the profile. -/
def decryptDetached (profile : ProtectionProfile) (key : Bytes) (nonce : ByteArr 12)
    (ad payload : Bytes) (tag : ByteArr 16) : Res Bytes :=
  match profile with
  | aeadAes128Gcm => do
    let key ← fromSlice 16 key
    okOr (Crates.gcmDecrypt key.1 nonce ad payload tag) .authentication
  | aeadAes256Gcm => do
    let key ← fromSlice 32 key
    okOr (Crates.gcmDecrypt key.1 nonce ad payload tag) .authentication
  | _ => fail .transformDispatch

/-- Split a protected packet into its header, its payload and the tag at its end. -/
def splitTag (packet : Bytes) (headerLen : Nat) : Res (Bytes × Bytes × ByteArr 16) := do
  let (ad, payloadTag) ← splitAt packet headerLen
  let (payload, tag) ← splitAt payloadTag (← sub payloadTag.length aesGcmTagLen)
  let tag ← fromSlice 16 tag
  .ok (ad, payload, tag)

def rtpEncrypt (t : AesGcm) (rtpPacket : Bytes) (header : RtpHeader) (roc : UInt32) :
    Res Bytes := do
  let nonce := t.getRtpIv header roc
  let (ad, payload) ← splitAt rtpPacket header.len
  let (payload, tag) ← encryptDetached t.rtpProfile t.rtpKey.key nonce ad payload
  .ok (ad ++ payload ++ tag.1)

/-- The payload is decrypted in place, so cutting the tag off leaves the header and the payload. -/
def rtpDecrypt (t : AesGcm) (srtpPacket : Bytes) (header : RtpHeader) (roc : UInt32) :
    Res Bytes := do
  let nonce := t.getRtpIv header roc
  let (ad, payload, tag) ← splitTag srtpPacket header.len
  let payload ← decryptDetached t.rtpProfile t.rtpKey.key nonce ad payload tag
  .ok (ad ++ payload)

def rtcpEncrypt (t : AesGcm) (rtcpPacket : Bytes) (header : RtcpHeader) (index : UInt32)
    (esrtcp : Bytes) : Res Bytes := do
  let nonce := t.getRtcpIv header index
  let (ad, payload) ← splitAt rtcpPacket RtcpHeader.len
  let (payload, tag) ← encryptDetached t.rtcpProfile t.rtcpKey.key nonce (ad ++ esrtcp) payload
  .ok (ad ++ payload ++ tag.1)

def rtcpDecrypt (t : AesGcm) (srtcpPacket : Bytes) (header : RtcpHeader) (index : UInt32) :
    Res Bytes := do
  let nonce := t.getRtcpIv header index
  let (ad, payload, tag) ← splitTag srtcpPacket RtcpHeader.len
  let esrtcp := Bytes.toBe 4 (index ||| 0x80000000).toNat
  -- the cipher is selected by the RTP profile here
  let payload ← decryptDetached t.rtpProfile t.rtcpKey.key nonce (ad ++ esrtcp) payload tag
  .ok (ad ++ payload)

/-! ## The transform -/

def rtpProtect (t : AesGcm) (plain : Bytes) (header : RtpHeader) (roc : UInt32) : Res Bytes := do
  let plain ← t.rtpEncrypt plain header roc
  .ok (plain ++ mkiBytes t.mki)

def rtcpProtect (t : AesGcm) (plain : Bytes) (header : RtcpHeader) (index : UInt32) :
    Res Bytes := do
  let esrtcp := Bytes.toBe 4 (index ||| 0x80000000).toNat
  let plain ← t.rtcpEncrypt plain header index esrtcp
  .ok (plain ++ esrtcp ++ mkiBytes t.mki)

def rtpUnprotect (t : AesGcm) (cipher : Bytes) (header : RtpHeader) (roc : UInt32) :
    Res Bytes := do
  let trailerLen := (mkiBytes t.mki).length
  if cipher.length < header.len + trailerLen + aesGcmTagLen then
    fail .invalidPacket
  else do
    let cipher := cipher.take (← sub cipher.length trailerLen)
    t.rtpDecrypt cipher header roc

def rtcpUnprotect (t : AesGcm) (cipher : Bytes) (header : RtcpHeader) (index : UInt32)
    (trailerLen : Nat) : Res Bytes := do
  if cipher.length < RtcpHeader.len + trailerLen + aesGcmTagLen then
    fail .invalidPacket
  else do
    let cipher := cipher.take (← sub cipher.length trailerLen)
    t.rtcpDecrypt cipher header index

/-! ## Closed forms -/

/-- The session keys fit the profiles, which are the same one: decryption of SRTCP is dispatched on
the profile of SRTP. -/
structure Keyed (t : AesGcm) : Prop where
  aead : t.rtpProfile.isAead = true
  same : t.rtcpProfile = t.rtpProfile
  rtp : t.rtpKey.key.length = t.rtpProfile.keyLen
  rtcp : t.rtcpKey.key.length = t.rtpProfile.keyLen

section Detached

variable {profile : ProtectionProfile} {key ad payload : Bytes} {nonce : ByteArr 12}

theorem encryptDetached_eq (hp : profile.isAead = true) (hk : key.length = profile.keyLen) :
    encryptDetached profile key nonce ad payload =
      okOr (Crates.gcmEncrypt key nonce ad payload) .encryption := by
  unfold encryptDetached
  cases profile <;> try contradiction
  case aeadAes128Gcm => rw [fromSlice_eq (n := 16) hk, ok_bind]
  case aeadAes256Gcm => rw [fromSlice_eq (n := 32) hk, ok_bind]

theorem decryptDetached_eq {tag : ByteArr 16} (hp : profile.isAead = true)
    (hk : key.length = profile.keyLen) :
    decryptDetached profile key nonce ad payload tag =
      okOr (Crates.gcmDecrypt key nonce ad payload tag) .authentication := by
  unfold decryptDetached
  cases profile <;> try contradiction
  case aeadAes128Gcm => rw [fromSlice_eq (n := 16) hk, ok_bind]
  case aeadAes256Gcm => rw [fromSlice_eq (n := 32) hk, ok_bind]

omit [Crates] in
theorem splitTag_eq {tag : ByteArr 16} {headerLen : Nat} (h : ad.length = headerLen) :
    splitTag (ad ++ payload ++ tag.1) headerLen = .ok (ad, payload, tag) := by
  have htag := tag.2
  have hlen : (payload ++ tag.1).length - aesGcmTagLen = payload.length := by
    simp [htag, aesGcmTagLen]
  unfold splitTag
  rw [List.append_assoc, splitAt_eq (by simp; omega), ok_bind]
  dsimp only
  rw [List.take_left' h, List.drop_left' h, sub_eq (by simp [htag, aesGcmTagLen]), ok_bind, hlen,
    splitAt_eq (by simp), ok_bind]
  dsimp only
  rw [List.take_left, List.drop_left, fromSlice_eq htag, ok_bind]

omit [Crates] in
/-- A packet that is long enough is a header, a payload and a tag. -/
theorem exists_tag (packet : Bytes) (headerLen : Nat)
    (h : headerLen + aesGcmTagLen ≤ packet.length) :
    ∃ (ad payload : Bytes) (tag : ByteArr 16),
      packet = ad ++ payload ++ tag.1 ∧ ad.length = headerLen := by
  have hlen : aesGcmTagLen = 16 := rfl
  refine ⟨packet.take headerLen, (packet.drop headerLen).take (packet.length - headerLen - 16),
    ⟨packet.drop (packet.length - 16), by rw [List.length_drop]; omega⟩, ?_, by simp; omega⟩
  have hdrop : packet.drop (packet.length - 16) =
      (packet.drop headerLen).drop (packet.length - headerLen - 16) := by
    rw [List.drop_drop]; congr 1; omega
  dsimp only
  rw [List.append_assoc, hdrop, List.take_append_drop, List.take_append_drop]

end Detached

theorem keyed_new {masterKey masterSalt : Bytes} {mki : Mki}
    {rtpProfile rtcpProfile : ProtectionProfile} {t : AesGcm}
    (hrtp : 0 < rtpProfile.keyLen → masterKey.length = rtpProfile.keyLen)
    (hrtcp : 0 < rtcpProfile.keyLen → masterKey.length = rtcpProfile.keyLen)
    (h : new masterKey masterSalt mki rtpProfile rtcpProfile = .ok t) :
    t.Keyed ∧ t.mki = mki ∧ t.rtpProfile = rtpProfile ∧ t.rtcpProfile = rtcpProfile := by
  have hkey : ∀ {sl kl p k}, kl.outputSize masterKey.length = masterKey.length →
      newKey sl kl masterKey masterSalt p = .ok k → k.key.length = masterKey.length := by
    intro sl kl p k hkl hk
    simp only [newKey, bind_eq_ok] at hk
    obtain ⟨_, _, key, hkey, _, _, hk⟩ := hk
    obtain rfl := Except.ok.inj hk
    exact (length_of_aesCmKdf hkey).trans hkl
  unfold new at h
  split at h
  · exact absurd h fail_ne_ok
  · next hp =>
    obtain ⟨rtpKeys, hr, h⟩ := bind_eq_ok.mp h
    split at h
    · exact absurd h fail_ne_ok
    · next hp' =>
      obtain ⟨rtcpKeys, hc, h⟩ := bind_eq_ok.mp h
      obtain rfl := Except.ok.inj h
      have hr' := hkey (by rfl) hr
      have hc' := hkey (by rfl) hc
      refine ⟨?_, rfl, rfl, rfl⟩
      rcases not_not.mp hp with rfl | rfl <;> rcases not_not.mp hp' with rfl | rfl
      -- the two profiles have keys of the same length
      · exact ⟨rfl, rfl, hr'.trans (hrtp (by decide)), hc'.trans (hrtp (by decide))⟩
      · exact absurd ((hrtp (by decide)).symm.trans (hrtcp (by decide))) (by decide)
      · exact absurd ((hrtp (by decide)).symm.trans (hrtcp (by decide))) (by decide)
      · exact ⟨rfl, rfl, hr'.trans (hrtp (by decide)), hc'.trans (hrtp (by decide))⟩

theorem raises_new {masterKey masterSalt : Bytes} {mki : Mki}
    {rtpProfile rtcpProfile : ProtectionProfile} (hs : masterSalt.length ≤ 16) :
    Raises (CipherFault 32) (new masterKey masterSalt mki rtpProfile rtcpProfile) := by
  have hkey : ∀ sl kl p, Raises (CipherFault 32) (newKey sl kl masterKey masterSalt p) := fun sl kl p =>
    (raises_aesCmKdf hs).bind fun _ _ => (raises_aesCmKdf hs).bind fun _ _ =>
      (raises_tryInto trivial).bind fun _ _ => raises_ok
  unfold new
  split
  · exact raises_fail.mpr trivial
  · refine (hkey _ _ _).bind fun _ _ => ?_
    split
    · exact raises_fail.mpr trivial
    · exact (hkey _ _ _).bind fun _ _ => raises_ok

theorem exists_new [LawfulCrates] {masterKey masterSalt : Bytes} {mki : Mki}
    {rtpProfile rtcpProfile : ProtectionProfile} (hk : AesKeySize masterKey.length)
    (hs : masterSalt.length ≤ 16) (hrtp : rtpProfile.isAead = true)
    (hrtcp : rtcpProfile.isAead = true) :
    ∃ t, new masterKey masterSalt mki rtpProfile rtcpProfile = .ok t := by
  have hkey : ∀ (sl kl : KdfLabel) {p : ProtectionProfile}, sl.outputSize masterKey.length = 14 →
      p.isAead = true → ∃ k, newKey sl kl masterKey masterSalt p = .ok k := by
    intro sl kl p hsl hp
    obtain ⟨salt, hsalt, hlen⟩ := exists_aesCmKdf hk hs sl
    obtain ⟨key, hkey, -⟩ := exists_aesCmKdf hk hs kl
    have h12 : (salt.take p.saltLen).length = 12 := by
      rw [List.length_take, hlen, hsl]
      cases p <;> first | contradiction | rfl
    unfold newKey
    rw [hsalt, ok_bind, hkey, ok_bind, tryInto_eq h12]
    exact ⟨_, rfl⟩
  have haead : ∀ {p : ProtectionProfile}, p.isAead = true → p = aeadAes128Gcm ∨ p = aeadAes256Gcm := by
    intro p hp
    cases p <;> first | contradiction | simp
  obtain ⟨rtpKeys, hr⟩ := hkey .rtpSalt .rtpEncrypt rfl hrtp
  obtain ⟨rtcpKeys, hc⟩ := hkey .rtcpSalt .rtcpEncrypt rfl hrtcp
  unfold new
  rw [if_neg (not_not.mpr (haead hrtp)), hr, ok_bind, if_neg (not_not.mpr (haead hrtcp)), hc, ok_bind]
  exact ⟨_, rfl⟩

namespace Keyed

variable {t : AesGcm}

omit [Crates] in
/-- AES-GCM has no tag in the trailer, and always encrypts. -/
theorem tagLen_eq (h : t.Keyed) :
    t.rtpProfile.tagLen = 0 ∧ t.rtcpProfile.tagLen = 0 ∧ t.rtcpProfile.keyLen > 0 := by
  have haead := h.aead
  rw [h.same]
  cases hp : t.rtpProfile <;> rw [hp] at haead <;> first | decide | contradiction

theorem rtpProtect_eq (h : t.Keyed) {plain : Bytes} {header : RtpHeader} (roc : UInt32)
    (hlen : header.len ≤ plain.length) :
    t.rtpProtect plain header roc = (do
      let (payload, tag) ← okOr (Crates.gcmEncrypt t.rtpKey.key (t.getRtpIv header roc)
        (plain.take header.len) (plain.drop header.len)) .encryption
      .ok (plain.take header.len ++ payload ++ tag.1 ++ mkiBytes t.mki)) := by
  unfold rtpProtect rtpEncrypt
  rw [splitAt_eq hlen, ok_bind]
  dsimp only
  rw [encryptDetached_eq h.aead h.rtp, bind_assoc]
  rfl

theorem rtcpProtect_eq (h : t.Keyed) {plain : Bytes} {header : RtcpHeader} (index : UInt32)
    (hlen : RtcpHeader.len ≤ plain.length) :
    t.rtcpProtect plain header index = (do
      let esrtcp := Bytes.toBe 4 (index ||| 0x80000000).toNat
      let (payload, tag) ← okOr (Crates.gcmEncrypt t.rtcpKey.key (t.getRtcpIv header index)
        (plain.take RtcpHeader.len ++ esrtcp) (plain.drop RtcpHeader.len)) .encryption
      .ok (plain.take RtcpHeader.len ++ payload ++ tag.1 ++ esrtcp ++ mkiBytes t.mki)) := by
  unfold rtcpProtect rtcpEncrypt
  dsimp only
  rw [splitAt_eq hlen, ok_bind]
  dsimp only
  rw [encryptDetached_eq (by rw [h.same]; exact h.aead) (by rw [h.same]; exact h.rtcp), bind_assoc]
  rfl

theorem rtpUnprotect_eq (h : t.Keyed) {ad : Bytes} (payload : Bytes) (tag : ByteArr 16)
    {header : RtpHeader} (roc : UInt32) (hlen : ad.length = header.len) {mki : Bytes}
    (hmki : mki.length = (mkiBytes t.mki).length) :
    t.rtpUnprotect (ad ++ payload ++ tag.1 ++ mki) header roc = (do
      let payload ← okOr
        (Crates.gcmDecrypt t.rtpKey.key (t.getRtpIv header roc) ad payload tag) .authentication
      .ok (ad ++ payload)) := by
  have htag := tag.2
  have hl : (ad ++ payload ++ tag.1 ++ mki).length =
      header.len + payload.length + 16 + (mkiBytes t.mki).length := by simp; omega
  have hcut : (ad ++ payload ++ tag.1 ++ mki).take
      (header.len + payload.length + 16 + (mkiBytes t.mki).length - (mkiBytes t.mki).length) =
        ad ++ payload ++ tag.1 := List.take_left' (by simp; omega)
  unfold rtpUnprotect rtpDecrypt
  rw [hl, if_neg (by simp [aesGcmTagLen]; omega), sub_eq (by omega), ok_bind, hcut]
  dsimp only
  rw [splitTag_eq hlen, ok_bind]
  dsimp only
  rw [decryptDetached_eq h.aead h.rtp]

theorem rtcpUnprotect_eq (h : t.Keyed) {ad : Bytes} (payload trailer : Bytes) (tag : ByteArr 16)
    (header : RtcpHeader) (index : UInt32) (hlen : ad.length = RtcpHeader.len) :
    t.rtcpUnprotect (ad ++ payload ++ tag.1 ++ trailer) header index trailer.length = (do
      let payload ← okOr (Crates.gcmDecrypt t.rtcpKey.key (t.getRtcpIv header index)
        (ad ++ Bytes.toBe 4 (index ||| 0x80000000).toNat) payload tag) .authentication
      .ok (ad ++ payload)) := by
  have htag := tag.2
  have hl : (ad ++ payload ++ tag.1 ++ trailer).length =
      RtcpHeader.len + payload.length + 16 + trailer.length := by simp; omega
  have hcut : (ad ++ payload ++ tag.1 ++ trailer).take
      (RtcpHeader.len + payload.length + 16 + trailer.length - trailer.length) =
        ad ++ payload ++ tag.1 := List.take_left' (by simp; omega)
  unfold rtcpUnprotect rtcpDecrypt
  rw [hl, if_neg (by simp [aesGcmTagLen]; omega), sub_eq (by omega), ok_bind, hcut]
  dsimp only
  rw [splitTag_eq hlen, ok_bind]
  dsimp only
  rw [decryptDetached_eq h.aead h.rtcp]

/-! ### Faults -/

theorem raises_rtpProtect (h : t.Keyed) {plain : Bytes} {header : RtpHeader} {roc : UInt32}
    (hlen : header.len ≤ plain.length) :
    Raises (CipherFault plain.length) (t.rtpProtect plain header roc) := by
  rw [h.rtpProtect_eq roc hlen]
  exact (raises_okOr trivial).bind fun _ _ => raises_ok

theorem raises_rtcpProtect (h : t.Keyed) {plain : Bytes} {header : RtcpHeader} {index : UInt32}
    (hlen : RtcpHeader.len ≤ plain.length) :
    Raises (CipherFault plain.length) (t.rtcpProtect plain header index) := by
  rw [h.rtcpProtect_eq index hlen]
  exact (raises_okOr trivial).bind fun _ _ => raises_ok

theorem raises_rtpUnprotect (h : t.Keyed) {packet : Bytes} {header : RtpHeader} {roc : UInt32} :
    Raises (CipherFault packet.length) (t.rtpUnprotect packet header roc) := by
  by_cases hlen : packet.length < header.len + (mkiBytes t.mki).length + aesGcmTagLen
  · unfold rtpUnprotect
    rw [if_pos hlen]
    exact raises_fail.mpr trivial
  · have hsplit := List.take_append_drop (packet.length - (mkiBytes t.mki).length) packet
    obtain ⟨ad, payload, tag, hbody, had⟩ := exists_tag
      (packet.take (packet.length - (mkiBytes t.mki).length)) header.len
      (by rw [List.length_take]; omega)
    have hmki : (packet.drop (packet.length - (mkiBytes t.mki).length)).length =
        (mkiBytes t.mki).length := by rw [List.length_drop]; omega
    have heq := h.rtpUnprotect_eq payload tag roc had hmki
    rw [← hbody, hsplit] at heq
    rw [heq]
    exact (raises_okOr trivial).bind fun _ _ => raises_ok

theorem raises_rtcpUnprotect (h : t.Keyed) {packet : Bytes} {header : RtcpHeader}
    {index : UInt32} {trailerLen : Nat} :
    Raises (CipherFault packet.length) (t.rtcpUnprotect packet header index trailerLen) := by
  by_cases hlen : packet.length < RtcpHeader.len + trailerLen + aesGcmTagLen
  · unfold rtcpUnprotect
    rw [if_pos hlen]
    exact raises_fail.mpr trivial
  · have hsplit := List.take_append_drop (packet.length - trailerLen) packet
    obtain ⟨ad, payload, tag, hbody, had⟩ := exists_tag
      (packet.take (packet.length - trailerLen)) RtcpHeader.len (by rw [List.length_take]; omega)
    have heq := h.rtcpUnprotect_eq payload (packet.drop (packet.length - trailerLen)) tag header
      index had
    rw [← hbody, hsplit, List.length_drop, Nat.sub_sub_self (by omega)] at heq
    rw [heq]
    exact (raises_okOr trivial).bind fun _ _ => raises_ok

/-! ### Round trip -/

theorem rtp_layout (h : t.Keyed) {plain packet : Bytes} {header : RtpHeader} {roc : UInt32}
    (hlen : header.len ≤ plain.length) (hp : t.rtpProtect plain header roc = .ok packet) :
    ∃ front, packet = front ++ mkiBytes t.mki ∧ header.len ≤ front.length ∧
      front.take header.len = plain.take header.len := by
  rw [h.rtpProtect_eq roc hlen] at hp
  obtain ⟨⟨payload, tag⟩, -, hp⟩ := bind_eq_ok.mp hp
  obtain rfl := Except.ok.inj hp
  have had : (plain.take header.len).length = header.len := by simp [hlen]
  exact ⟨_, rfl, by simp; omega, by rw [List.append_assoc, List.take_left' had]⟩

theorem rtcp_layout (h : t.Keyed) {plain packet : Bytes} {header : RtcpHeader} {index : UInt32}
    (hlen : RtcpHeader.len ≤ plain.length) (hp : t.rtcpProtect plain header index = .ok packet) :
    ∃ front, packet = front ++ Bytes.toBe 4 (index ||| 0x80000000).toNat ++ mkiBytes t.mki ∧
      RtcpHeader.len ≤ front.length ∧ front.take RtcpHeader.len = plain.take RtcpHeader.len := by
  rw [h.rtcpProtect_eq index hlen] at hp
  obtain ⟨⟨payload, tag⟩, -, hp⟩ := bind_eq_ok.mp hp
  obtain rfl := Except.ok.inj hp
  have had : (plain.take RtcpHeader.len).length = RtcpHeader.len := by simp [hlen]
  exact ⟨_, rfl, by simp; omega, by rw [List.append_assoc, List.take_left' had]⟩

theorem rtp_round_trip [LawfulCrates] (h : t.Keyed) {plain packet : Bytes} {header : RtpHeader}
    {roc : UInt32} (hlen : header.len ≤ plain.length)
    (hp : t.rtpProtect plain header roc = .ok packet) :
    t.rtpUnprotect packet header roc = .ok plain := by
  rw [h.rtpProtect_eq roc hlen] at hp
  obtain ⟨⟨payload, tag⟩, henc, hp⟩ := bind_eq_ok.mp hp
  obtain rfl := Except.ok.inj hp
  have had : (plain.take header.len).length = header.len := by simp [hlen]
  have hdec := LawfulCrates.gcmDecrypt_gcmEncrypt (okOr_eq_ok.mp henc)
  rw [h.rtpUnprotect_eq _ _ roc had rfl, hdec, okOr_some, ok_bind, List.take_append_drop]

theorem rtcp_round_trip [LawfulCrates] (h : t.Keyed) {plain packet : Bytes} {header : RtcpHeader}
    {index : UInt32} (hlen : RtcpHeader.len ≤ plain.length)
    (hp : t.rtcpProtect plain header index = .ok packet) :
    t.rtcpUnprotect packet header index (4 + (mkiBytes t.mki).length) = .ok plain := by
  rw [h.rtcpProtect_eq index hlen] at hp
  obtain ⟨⟨payload, tag⟩, henc, hp⟩ := bind_eq_ok.mp hp
  obtain rfl := Except.ok.inj hp
  have had : (plain.take RtcpHeader.len).length = RtcpHeader.len := by simp [hlen]
  have hdec := LawfulCrates.gcmDecrypt_gcmEncrypt (okOr_eq_ok.mp henc)
  have htrailer : (Bytes.toBe 4 (index ||| 0x80000000).toNat ++ mkiBytes t.mki).length =
      4 + (mkiBytes t.mki).length := by rw [List.length_append, Bytes.length_toBe]
  rw [List.append_assoc _ (Bytes.toBe 4 _), ← htrailer, h.rtcpUnprotect_eq _ _ tag header index had,
    hdec, okOr_some, ok_bind, List.take_append_drop]

/-! ### The other direction -/

theorem rtpUnprotect_len {packet plain : Bytes} {header : RtpHeader} {roc : UInt32}
    (hu : t.rtpUnprotect packet header roc = .ok plain) :
    header.len + (mkiBytes t.mki).length ≤ packet.length := by
  unfold rtpUnprotect at hu
  dsimp only at hu
  split at hu
  · exact absurd hu fail_ne_ok
  · next h => omega

theorem rtcpUnprotect_header (h : t.Keyed) {packet plain : Bytes} {header : RtcpHeader}
    {index : UInt32} {trailerLen : Nat}
    (hu : t.rtcpUnprotect packet header index trailerLen = .ok plain) :
    RtcpHeader.len ≤ plain.length := by
  by_cases hlen : packet.length < RtcpHeader.len + trailerLen + aesGcmTagLen
  · unfold rtcpUnprotect at hu
    rw [if_pos hlen] at hu
    exact absurd hu fail_ne_ok
  · have hsplit := List.take_append_drop (packet.length - trailerLen) packet
    obtain ⟨ad, payload, tag, hbody, had⟩ := exists_tag
      (packet.take (packet.length - trailerLen)) RtcpHeader.len (by rw [List.length_take]; omega)
    have heq := h.rtcpUnprotect_eq payload (packet.drop (packet.length - trailerLen)) tag header
      index had
    rw [← hbody, hsplit, List.length_drop, Nat.sub_sub_self (by omega), hu] at heq
    obtain ⟨plain', -, hplain⟩ := bind_eq_ok.mp heq.symm
    obtain rfl := Except.ok.inj hplain
    rw [List.length_append]
    omega

theorem rtp_canonical [StrictCrates] (h : t.Keyed) {front plain : Bytes} {header : RtpHeader}
    {roc : UInt32} (hfront : header.len ≤ front.length)
    (hu : t.rtpUnprotect (front ++ mkiBytes t.mki) header roc = .ok plain) :
    t.rtpProtect plain header roc = .ok (front ++ mkiBytes t.mki) ∧
      header.len ≤ plain.length ∧ plain.take header.len = front.take header.len := by
  by_cases hl : header.len + aesGcmTagLen ≤ front.length
  · obtain ⟨ad, payload, tag, rfl, had⟩ := exists_tag front header.len hl
    rw [h.rtpUnprotect_eq payload tag roc had rfl] at hu
    obtain ⟨plain', hdec, hu⟩ := bind_eq_ok.mp hu
    obtain rfl := Except.ok.inj hu
    have henc := StrictCrates.gcmEncrypt_gcmDecrypt (okOr_eq_ok.mp hdec)
    have hpl : header.len ≤ (ad ++ plain').length := by rw [List.length_append]; omega
    refine ⟨?_, hpl, ?_⟩
    · rw [h.rtpProtect_eq roc hpl, List.take_left' had, List.drop_left' had, henc, okOr_some, ok_bind]
    · rw [List.take_left' had, List.append_assoc, List.take_left' had]
  · unfold rtpUnprotect at hu
    rw [if_pos (by rw [List.length_append]; omega)] at hu
    exact absurd hu fail_ne_ok

theorem rtcp_canonical [StrictCrates] (h : t.Keyed) {front plain : Bytes} {header : RtcpHeader}
    {index : UInt32} (hfront : RtcpHeader.len ≤ front.length)
    (hu : t.rtcpUnprotect (front ++ Bytes.toBe 4 (index ||| 0x80000000).toNat ++ mkiBytes t.mki)
      header index (4 + (mkiBytes t.mki).length) = .ok plain) :
    t.rtcpProtect plain header index =
      .ok (front ++ Bytes.toBe 4 (index ||| 0x80000000).toNat ++ mkiBytes t.mki) := by
  have htrailer : (Bytes.toBe 4 (index ||| 0x80000000).toNat ++ mkiBytes t.mki).length =
      4 + (mkiBytes t.mki).length := by rw [List.length_append, Bytes.length_toBe]
  rw [List.append_assoc, ← htrailer] at hu
  rw [List.append_assoc]
  by_cases hl : RtcpHeader.len + aesGcmTagLen ≤ front.length
  · obtain ⟨ad, payload, tag, rfl, had⟩ := exists_tag front RtcpHeader.len hl
    rw [h.rtcpUnprotect_eq payload _ tag header index had] at hu
    obtain ⟨plain', hdec, hu⟩ := bind_eq_ok.mp hu
    obtain rfl := Except.ok.inj hu
    have henc := StrictCrates.gcmEncrypt_gcmDecrypt (okOr_eq_ok.mp hdec)
    have hpl : RtcpHeader.len ≤ (ad ++ plain').length := by rw [List.length_append]; omega
    rw [h.rtcpProtect_eq index hpl, List.take_left' had, List.drop_left' had]
    dsimp only
    rw [henc, okOr_some, ok_bind, ← List.append_assoc]
  · unfold rtcpUnprotect at hu
    rw [if_pos (by rw [List.length_append]; omega)] at hu
    exact absurd hu fail_ne_ok

end Keyed

end AesGcm

end LibSrtp
