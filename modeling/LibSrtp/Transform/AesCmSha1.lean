import LibSrtp.KeyDerivation
import LibSrtp.ProtectionProfile
import LibSrtp.Header

/-!
# AES-CM with HMAC-SHA1, and the null cipher

The transform as the library computes it. Packets are modified in place there; here each function
returns the packet it leaves.
-/

namespace LibSrtp

open Exec

/-- The session keys of one component; a null cipher has no key and salt, a null authentication no
authentication key. -/
structure CmSessionKeys where
  key : Option Bytes
  salt : Option (ByteArr 14)
  authKey : Option (ByteArr 20)
deriving DecidableEq

/-- `AesCmSha1` -/
structure AesCmSha1 where
  rtpProfile : ProtectionProfile
  rtcpProfile : ProtectionProfile
  rtpKey : CmSessionKeys
  rtcpKey : CmSessionKeys
  mki : Mki
deriving DecidableEq

namespace AesCmSha1

open ProtectionProfile

variable [Crates]

/-! ## Construction -/

def newRtpKey (masterKey masterSalt : Bytes) (rtpProfile : ProtectionProfile) :
    Res CmSessionKeys :=
  match rtpProfile with
  | aes128CmHmacSha180 | aes128CmHmacSha132 | aes192CmHmacSha180 | aes192CmHmacSha132
  | aes256CmHmacSha180 | aes256CmHmacSha132 => do
    let rtpKey ← aesCmKdf .rtpEncrypt masterKey masterSalt
    let rtpSalt ← tryInto 14 (← aesCmKdf .rtpSalt masterKey masterSalt) .kdfDispatch
    let rtpAuthKey ← tryInto 20 (← aesCmKdf .rtpAuthTag masterKey masterSalt) .kdfDispatch
    .ok ⟨some rtpKey, some rtpSalt, some rtpAuthKey⟩
  | aes128CmNullAuth | aes192CmNullAuth | aes256CmNullAuth => do
    let rtpKey ← aesCmKdf .rtpEncrypt masterKey masterSalt
    let rtpSalt ← tryInto 14 (← aesCmKdf .rtpSalt masterKey masterSalt) .kdfDispatch
    .ok ⟨some rtpKey, some rtpSalt, none⟩
  | nullCipherHmacSha180 => do
    let rtpAuthKey ← tryInto 20 (← aesCmKdf .rtpAuthTag masterKey masterSalt) .kdfDispatch
    .ok ⟨none, none, some rtpAuthKey⟩
  | _ => fail .transformDispatch

def newRtcpKey (masterKey masterSalt : Bytes) (rtcpProfile : ProtectionProfile) :
    Res CmSessionKeys :=
  match rtcpProfile with
  | aes128CmHmacSha180 | aes192CmHmacSha180 | aes256CmHmacSha180 => do
    let rtcpKey ← aesCmKdf .rtcpEncrypt masterKey masterSalt
    let rtcpSalt ← tryInto 14 (← aesCmKdf .rtcpSalt masterKey masterSalt) .kdfDispatch
    let rtcpAuthKey ← tryInto 20 (← aesCmKdf .rtcpAuthTag masterKey masterSalt) .kdfDispatch
    .ok ⟨some rtcpKey, some rtcpSalt, some rtcpAuthKey⟩
  -- RTCP requires a full authentication tag
  | aes128CmNullAuth | aes192CmNullAuth | aes256CmNullAuth
  | aes128CmHmacSha132 | aes192CmHmacSha132 | aes256CmHmacSha132 => fail .invalidProfile
  | nullCipherHmacSha180 => do
    let rtcpAuthKey ← tryInto 20 (← aesCmKdf .rtcpAuthTag masterKey masterSalt) .kdfDispatch
    .ok ⟨none, none, some rtcpAuthKey⟩
  | _ => fail .transformDispatch

def new (masterKey masterSalt : Bytes) (mki : Mki) (rtpProfile rtcpProfile : ProtectionProfile) :
    Res AesCmSha1 := do
  let rtpKeys ← newRtpKey masterKey masterSalt rtpProfile
  let rtcpKeys ← newRtcpKey masterKey masterSalt rtcpProfile
  .ok ⟨rtpProfile, rtcpProfile, rtpKeys, rtcpKeys, mki⟩

/-! ## Encryption -/

/-- The session salt, padded with two zero bytes: the start of every IV. -/
def saltIv (salt : ByteArr 14) : ByteArr 16 := ⟨salt.1 ++ [0, 0], by simp [salt.2]⟩

/-- `0 <4 bytes> || SSRC <4> || ROC <4> || seqnum <2> || 0 <2>`, xored into the salt. -/
def rtpIv (sessionSalt : ByteArr 14) (header : RtpHeader) (roc : UInt32) : ByteArr 16 :=
  Bytes.xorArr (Bytes.field 12 (Bytes.toBe 2 header.seqNum.toNat))
    (Bytes.xorArr (Bytes.field 8 (Bytes.toBe 4 roc.toNat))
      (Bytes.xorArr (Bytes.field 4 (Bytes.toBe 4 header.ssrc.toNat)) (saltIv sessionSalt)))

/-- `0 <4 bytes> || SSRC <4> || 0 <2> || index <4> || 0 <2>`, xored into the salt. -/
def rtcpIv (sessionSalt : ByteArr 14) (header : RtcpHeader) (index : UInt32) : ByteArr 16 :=
  Bytes.xorArr (Bytes.field 10 (Bytes.toBe 4 index.toNat))
    (Bytes.xorArr (Bytes.field 4 (Bytes.toBe 4 header.ssrc.toNat)) (saltIv sessionSalt))

def rtpEncrypt (t : AesCmSha1) (rtpPacket : Bytes) (header : RtpHeader) (roc : UInt32) :
    Res Bytes := do
  let sessionKey ← okOr t.rtpKey.key .contextNotReady
  let sessionSalt ← okOr t.rtpKey.salt .contextNotReady
  let iv := rtpIv sessionSalt header roc
  match t.rtpProfile with
  | aes128CmHmacSha180 | aes128CmHmacSha132 | aes128CmNullAuth =>
    aesCtrFrom 16 sessionKey iv rtpPacket header.len
  | aes192CmHmacSha180 | aes192CmHmacSha132 | aes192CmNullAuth =>
    aesCtrFrom 24 sessionKey iv rtpPacket header.len
  | aes256CmHmacSha180 | aes256CmHmacSha132 | aes256CmNullAuth =>
    aesCtrFrom 32 sessionKey iv rtpPacket header.len
  | _ => fail .transformDispatch

def rtcpEncrypt (t : AesCmSha1) (rtcpPacket : Bytes) (header : RtcpHeader) (index : UInt32) :
    Res Bytes := do
  let sessionKey ← okOr t.rtcpKey.key .contextNotReady
  let sessionSalt ← okOr t.rtcpKey.salt .contextNotReady
  let iv := rtcpIv sessionSalt header index
  match t.rtcpProfile with
  | aes128CmHmacSha180 => aesCtrFrom 16 sessionKey iv rtcpPacket RtcpHeader.len
  | aes192CmHmacSha180 => aesCtrFrom 24 sessionKey iv rtcpPacket RtcpHeader.len
  | aes256CmHmacSha180 => aesCtrFrom 32 sessionKey iv rtcpPacket RtcpHeader.len
  | _ => fail .transformDispatch

/-! ## Authentication -/

/-- The leftmost `tagLen` bytes of the MAC. -/
def truncateTag (tag : ByteArr 20) (tagLen : Nat) : Res Bytes := do
  if tag.1.length < tagLen then
    fail .encryption
  else
    slice tag.1 0 tagLen

/-- The tag is on `packet || ROC`. -/
def rtpAuthTag (t : AesCmSha1) (authenticatedPacket : Bytes) (roc : UInt32) : Res Bytes := do
  let sessionAuthKey ← okOr t.rtpKey.authKey .contextNotReady
  truncateTag
    (Crates.hmacSha1 sessionAuthKey.1 (authenticatedPacket ++ Bytes.toBe 4 roc.toNat))
    t.rtpProfile.tagLen

def rtcpAuthTag (t : AesCmSha1) (authenticatedPacket : Bytes) : Res Bytes := do
  let sessionAuthKey ← okOr t.rtcpKey.authKey .contextNotReady
  truncateTag (Crates.hmacSha1 sessionAuthKey.1 authenticatedPacket) t.rtcpProfile.tagLen

/-! ## The transform -/

def rtpProtect (t : AesCmSha1) (plain : Bytes) (header : RtpHeader) (roc : UInt32) : Res Bytes := do
  let plain ← if t.rtpProfile.keyLen > 0 then t.rtpEncrypt plain header roc else .ok plain
  let plain := plain ++ mkiBytes t.mki
  if t.rtpProfile.tagLen > 0 then do
    -- the MKI is not authenticated
    let authenticated ← slice plain 0 (← sub plain.length (mkiBytes t.mki).length)
    .ok (plain ++ (← t.rtpAuthTag authenticated roc))
  else
    .ok plain

def rtcpProtect (t : AesCmSha1) (plain : Bytes) (header : RtcpHeader) (index : UInt32) :
    Res Bytes := do
  let plain ←
    if t.rtcpProfile.keyLen > 0 then do
      let plain ← t.rtcpEncrypt plain header index
      -- the E flag is set
      .ok (plain ++ Bytes.toBe 4 (index ||| 0x80000000).toNat)
    else
      .ok (plain ++ Bytes.toBe 4 (index &&& 0x7fffffff).toNat)
  let plain := plain ++ mkiBytes t.mki
  let authenticated ← slice plain 0 (← sub plain.length (mkiBytes t.mki).length)
  .ok (plain ++ (← t.rtcpAuthTag authenticated))

def rtpUnprotect (t : AesCmSha1) (cipher : Bytes) (header : RtpHeader) (roc : UInt32) :
    Res Bytes := do
  let trailerLen := t.rtpProfile.tagLen + (mkiBytes t.mki).length
  if cipher.length < header.len + trailerLen then
    fail .invalidPacket
  else do
    let body ← slice cipher 0 (← sub cipher.length trailerLen)
    let authentic ←
      if t.rtpProfile.tagLen > 0 then do
        let tag ← slice cipher (← sub cipher.length t.rtpProfile.tagLen) cipher.length
        .ok (decide (tag = (← t.rtpAuthTag body roc)))
      else
        .ok true
    if ¬ authentic then
      fail .authentication
    else if t.rtpProfile.keyLen > 0 then
      t.rtpEncrypt body header roc
    else
      .ok body

def rtcpUnprotect (t : AesCmSha1) (cipher : Bytes) (header : RtcpHeader) (index : UInt32)
    (trailerLen : Nat) : Res Bytes := do
  let tag ← slice cipher (← sub cipher.length t.rtcpProfile.tagLen) cipher.length
  let bodyLen ← sub cipher.length trailerLen
  -- the index is the only part of the trailer that is authenticated
  let expected ← t.rtcpAuthTag (← slice cipher 0 (bodyLen + 4))
  if tag ≠ expected then
    fail .authentication
  else do
    let body ← slice cipher 0 bodyLen
    if t.rtcpProfile.keyLen > 0 then
      t.rtcpEncrypt body header index
    else
      .ok body

/-! ## Closed forms

The two components do the same with other keys, another IV and another trailer: a cipher that may
be null (`cipher`) and a MAC that may be empty (`tag`). -/

/-- The keys a component of `profile` needs. -/
structure Fit (keys : CmSessionKeys) (profile : ProtectionProfile) : Prop where
  not_aead : profile.isAead = false
  cipher : 0 < profile.keyLen →
    ∃ key salt, keys.key = some key ∧ key.length = profile.keyLen ∧ keys.salt = some salt
  auth : 0 < profile.tagLen → ∃ authKey, keys.authKey = some authKey

/-- The cipher of a component: the AES of its profile, or none. -/
def cipher (profile : ProtectionProfile) (keys : CmSessionKeys) (iv : ByteArr 14 → ByteArr 16)
    (packet : Bytes) (start : Nat) : Res Bytes :=
  match keys.key, keys.salt with
  | some key, some salt =>
    if 0 < profile.keyLen then aesCtrFrom profile.keyLen key (iv salt) packet start
    else .ok packet
  | _, _ => .ok packet

/-- The tag of a component on `message`: empty without authentication. -/
def tag (profile : ProtectionProfile) (keys : CmSessionKeys) (message : Bytes) : Bytes :=
  match keys.authKey with
  | some authKey => (Crates.hmacSha1 authKey.1 message).1.take profile.tagLen
  | none => []

section Component

variable {profile : ProtectionProfile} {keys : CmSessionKeys} {iv : ByteArr 14 → ByteArr 16}
  {packet out : Bytes} {start : Nat}

theorem cipher_null (h : ¬ 0 < profile.keyLen) : cipher profile keys iv packet start = .ok packet := by
  unfold cipher; split <;> simp [h]

/-- Of a profile, the cipher uses the length of the key. -/
theorem cipher_congr {profile' : ProtectionProfile} (h : profile.keyLen = profile'.keyLen) :
    cipher profile keys iv packet start = cipher profile' keys iv packet start := by
  unfold cipher
  rw [h]

/-- A cipher keeps the header and the length, and undoes itself. -/
theorem cipher_eq_ok (hs : start ≤ packet.length)
    (h : cipher profile keys iv packet start = .ok out) :
    out.length = packet.length ∧ out.take start = packet.take start ∧
      cipher profile keys iv out start = .ok packet := by
  unfold cipher at h ⊢
  split at h
  · next key salt hk hsalt =>
    split at h
    · next hlen =>
      have hinv := aesCtrFrom_involutive h
      obtain ⟨-, -, -, rfl⟩ := aesCtrFrom_eq_ok.mp h
      exact ⟨by simp; omega, List.take_left' (by simp [hs]), (if_pos hlen).trans hinv⟩
    · next hlen =>
      obtain rfl := Except.ok.inj h
      exact ⟨rfl, rfl, if_neg hlen⟩
  · obtain rfl := Except.ok.inj h
    exact ⟨rfl, rfl, rfl⟩

theorem raises_cipher (hfit : Fit keys profile) (hs : start ≤ packet.length) :
    Raises (CipherFault packet.length) (cipher profile keys iv packet start) := by
  by_cases hlen : 0 < profile.keyLen
  · obtain ⟨key, salt, hk, hkl, hsalt⟩ := hfit.cipher hlen
    unfold cipher
    rw [hk, hsalt]
    simp only [if_pos hlen]
    exact raises_aesCtrFrom hkl hs
  · rw [cipher_null hlen]; exact raises_ok

theorem exists_cipher [LawfulCrates] (hfit : Fit keys profile) (hs : start ≤ packet.length)
    (hl : packet.length < 2 ^ 36) : ∃ out, cipher profile keys iv packet start = .ok out := by
  have hlim := LawfulCrates.keystreamLimit_ge
  by_cases hlen : 0 < profile.keyLen
  · obtain ⟨key, salt, hk, hkl, hsalt⟩ := hfit.cipher hlen
    unfold cipher
    rw [hk, hsalt]
    simp only [if_pos hlen]
    exact ⟨_, aesCtrFrom_eq_ok.mpr ⟨hs, hkl, by omega, rfl⟩⟩
  · exact ⟨packet, cipher_null hlen⟩

theorem length_tag (hfit : Fit keys profile) (message : Bytes) :
    (tag profile keys message).length = profile.tagLen := by
  have hle := profile.tagLen_le
  unfold tag
  split
  · rw [List.length_take, (Crates.hmacSha1 _ _).2]; omega
  · next hnone =>
    by_cases h : 0 < profile.tagLen
    · obtain ⟨authKey, hauth⟩ := hfit.auth h
      rw [hauth] at hnone
      simp at hnone
    · simp; omega

omit [Crates] in
theorem truncateTag_eq {mac : ByteArr 20} {tagLen : Nat} (h : tagLen ≤ 10) :
    truncateTag mac tagLen = .ok (mac.1.take tagLen) := by
  have hmac := mac.2
  unfold truncateTag
  rw [if_neg (by omega), slice_eq (Nat.zero_le _) (by omega), List.drop_zero]

end Component

/-! ### Construction -/

section Construction

variable {masterKey masterSalt : Bytes} {mki : Mki} {p rtpProfile rtcpProfile : ProtectionProfile}

theorem fit_newRtpKey {keys : CmSessionKeys} (hk : 0 < p.keyLen → masterKey.length = p.keyLen)
    (h : newRtpKey masterKey masterSalt p = .ok keys) : Fit keys p := by
  cases p <;> simp only [newRtpKey, bind_eq_ok] at h
  case nullCipherHmacSha180 =>
    obtain ⟨_, _, auth, _, h⟩ := h
    obtain rfl := Except.ok.inj h
    exact ⟨rfl, fun h => absurd h (by decide), fun _ => ⟨auth, rfl⟩⟩
  case aeadAes128Gcm | aeadAes256Gcm => exact absurd h fail_ne_ok
  case aes128CmNullAuth | aes192CmNullAuth | aes256CmNullAuth =>
    obtain ⟨key, hkey, _, _, salt, _, h⟩ := h
    obtain rfl := Except.ok.inj h
    exact ⟨rfl, fun hp => ⟨key, salt, rfl, (length_of_aesCmKdf hkey).trans (hk hp), rfl⟩,
      fun h => absurd h (by decide)⟩
  all_goals
    obtain ⟨key, hkey, _, _, salt, _, _, _, auth, _, h⟩ := h
    obtain rfl := Except.ok.inj h
    exact ⟨rfl, fun hp => ⟨key, salt, rfl, (length_of_aesCmKdf hkey).trans (hk hp), rfl⟩,
      fun _ => ⟨auth, rfl⟩⟩

theorem fit_newRtcpKey {keys : CmSessionKeys} (hk : 0 < p.keyLen → masterKey.length = p.keyLen)
    (h : newRtcpKey masterKey masterSalt p = .ok keys) : Fit keys p ∧ p.tagLen = 10 := by
  cases p <;> simp only [newRtcpKey, bind_eq_ok] at h
  case nullCipherHmacSha180 =>
    obtain ⟨_, _, auth, _, h⟩ := h
    obtain rfl := Except.ok.inj h
    exact ⟨⟨rfl, fun h => absurd h (by decide), fun _ => ⟨auth, rfl⟩⟩, rfl⟩
  case aes128CmHmacSha180 | aes192CmHmacSha180 | aes256CmHmacSha180 =>
    obtain ⟨key, hkey, _, _, salt, _, _, _, auth, _, h⟩ := h
    obtain rfl := Except.ok.inj h
    exact ⟨⟨rfl, fun hp => ⟨key, salt, rfl, (length_of_aesCmKdf hkey).trans (hk hp), rfl⟩,
      fun _ => ⟨auth, rfl⟩⟩, rfl⟩
  all_goals exact absurd h fail_ne_ok

theorem raises_newRtpKey (hs : masterSalt.length ≤ 16) :
    Raises (CipherFault 32) (newRtpKey masterKey masterSalt p) := by
  have hkey : Raises (CipherFault 32) (aesCmKdf .rtpEncrypt masterKey masterSalt) :=
    raises_aesCmKdf hs
  have hsalt : Raises (CipherFault 32) (aesCmKdf .rtpSalt masterKey masterSalt) :=
    raises_aesCmKdf hs
  have hauth : Raises (CipherFault 32) (aesCmKdf .rtpAuthTag masterKey masterSalt) :=
    raises_aesCmKdf hs
  cases p <;> simp only [newRtpKey]
  case nullCipherHmacSha180 =>
    exact hauth.bind fun _ _ => (raises_tryInto trivial).bind fun _ _ => raises_ok
  case aeadAes128Gcm | aeadAes256Gcm => exact raises_fail.mpr trivial
  case aes128CmNullAuth | aes192CmNullAuth | aes256CmNullAuth =>
    exact hkey.bind fun _ _ => hsalt.bind fun _ _ => (raises_tryInto trivial).bind
      fun _ _ => raises_ok
  all_goals
    exact hkey.bind fun _ _ => hsalt.bind fun _ _ => (raises_tryInto trivial).bind fun _ _ =>
      hauth.bind fun _ _ => (raises_tryInto trivial).bind fun _ _ => raises_ok

theorem raises_newRtcpKey (hs : masterSalt.length ≤ 16) :
    Raises (CipherFault 32) (newRtcpKey masterKey masterSalt p) := by
  have hkey : Raises (CipherFault 32) (aesCmKdf .rtcpEncrypt masterKey masterSalt) :=
    raises_aesCmKdf hs
  have hsalt : Raises (CipherFault 32) (aesCmKdf .rtcpSalt masterKey masterSalt) :=
    raises_aesCmKdf hs
  have hauth : Raises (CipherFault 32) (aesCmKdf .rtcpAuthTag masterKey masterSalt) :=
    raises_aesCmKdf hs
  cases p <;> simp only [newRtcpKey]
  case nullCipherHmacSha180 =>
    exact hauth.bind fun _ _ => (raises_tryInto trivial).bind fun _ _ => raises_ok
  case aes128CmHmacSha180 | aes192CmHmacSha180 | aes256CmHmacSha180 =>
    exact hkey.bind fun _ _ => hsalt.bind fun _ _ => (raises_tryInto trivial).bind fun _ _ =>
      hauth.bind fun _ _ => (raises_tryInto trivial).bind fun _ _ => raises_ok
  all_goals exact raises_fail.mpr trivial

theorem raises_new (hs : masterSalt.length ≤ 16) :
    Raises (CipherFault 32) (new masterKey masterSalt mki rtpProfile rtcpProfile) :=
  (raises_newRtpKey hs).bind fun _ _ => (raises_newRtcpKey hs).bind fun _ _ => raises_ok

/-- With a key and salt of the right sizes the only profiles refused are those of AES-GCM, and for
RTCP those without a full tag. -/
theorem exists_newRtpKey [LawfulCrates] (hk : AesKeySize masterKey.length)
    (hs : masterSalt.length ≤ 16) (hp : p.isAead = false) :
    ∃ keys, newRtpKey masterKey masterSalt p = .ok keys := by
  obtain ⟨key, hkey, -⟩ := exists_aesCmKdf hk hs .rtpEncrypt
  obtain ⟨salt, hsalt, hsl⟩ := exists_aesCmKdf hk hs .rtpSalt
  obtain ⟨auth, hauth, hal⟩ := exists_aesCmKdf hk hs .rtpAuthTag
  cases p <;> first
    | contradiction
    | (simp only [newRtpKey, hkey, hsalt, hauth, ok_bind, tryInto_eq (n := 14) hsl,
        tryInto_eq (n := 20) hal]
       exact ⟨_, rfl⟩)

theorem exists_newRtcpKey [LawfulCrates] (hk : AesKeySize masterKey.length)
    (hs : masterSalt.length ≤ 16) (hp : p.isAead = false) (htag : 10 ≤ p.tagLen) :
    ∃ keys, newRtcpKey masterKey masterSalt p = .ok keys := by
  obtain ⟨key, hkey, -⟩ := exists_aesCmKdf hk hs .rtcpEncrypt
  obtain ⟨salt, hsalt, hsl⟩ := exists_aesCmKdf hk hs .rtcpSalt
  obtain ⟨auth, hauth, hal⟩ := exists_aesCmKdf hk hs .rtcpAuthTag
  cases p <;> first
    | contradiction
    | exact absurd htag (by decide)
    | (simp only [newRtcpKey, hkey, hsalt, hauth, ok_bind, tryInto_eq (n := 14) hsl,
        tryInto_eq (n := 20) hal]
       exact ⟨_, rfl⟩)

theorem exists_new [LawfulCrates] (hk : AesKeySize masterKey.length) (hs : masterSalt.length ≤ 16)
    (hrtp : rtpProfile.isAead = false) (hrtcp : rtcpProfile.isAead = false)
    (htag : 10 ≤ rtcpProfile.tagLen) :
    ∃ t, new masterKey masterSalt mki rtpProfile rtcpProfile = .ok t := by
  obtain ⟨rtpKeys, hr⟩ := exists_newRtpKey hk hs hrtp
  obtain ⟨rtcpKeys, hc⟩ := exists_newRtcpKey hk hs hrtcp htag
  unfold new
  rw [hr, ok_bind, hc, ok_bind]
  exact ⟨_, rfl⟩

end Construction

/-- The session keys fit the profiles; an SRTCP profile has a full tag. -/
structure Keyed (t : AesCmSha1) : Prop where
  rtp : Fit t.rtpKey t.rtpProfile
  rtcp : Fit t.rtcpKey t.rtcpProfile
  rtcp_tag : t.rtcpProfile.tagLen = 10

theorem keyed_new {masterKey masterSalt : Bytes} {mki : Mki}
    {rtpProfile rtcpProfile : ProtectionProfile} {t : AesCmSha1}
    (hrtp : 0 < rtpProfile.keyLen → masterKey.length = rtpProfile.keyLen)
    (hrtcp : 0 < rtcpProfile.keyLen → masterKey.length = rtcpProfile.keyLen)
    (h : new masterKey masterSalt mki rtpProfile rtcpProfile = .ok t) :
    t.Keyed ∧ t.mki = mki ∧ t.rtpProfile = rtpProfile ∧ t.rtcpProfile = rtcpProfile := by
  unfold new at h
  simp only [bind_eq_ok] at h
  obtain ⟨rtpKeys, hrk, rtcpKeys, hck, h⟩ := h
  obtain rfl := Except.ok.inj h
  obtain ⟨hfit, htag⟩ := fit_newRtcpKey hrtcp hck
  exact ⟨⟨fit_newRtpKey hrtp hrk, hfit, htag⟩, rfl, rfl, rfl⟩

/-- The index that goes on the wire, with the E flag of the profile. -/
def esrtcp (t : AesCmSha1) (index : UInt32) : UInt32 :=
  if t.rtcpProfile.keyLen > 0 then index ||| 0x80000000 else index &&& 0x7fffffff

namespace Keyed

variable {t : AesCmSha1}

theorem rtpEncrypt_eq (h : t.Keyed) (packet : Bytes) (header : RtpHeader) (roc : UInt32) :
    (if t.rtpProfile.keyLen > 0 then t.rtpEncrypt packet header roc else .ok packet) =
      cipher t.rtpProfile t.rtpKey (rtpIv · header roc) packet header.len := by
  split
  · next hlen =>
    obtain ⟨key, salt, hk, -, hsalt⟩ := h.rtp.cipher hlen
    have hcm := h.rtp.not_aead
    unfold rtpEncrypt cipher
    rw [hk, hsalt]
    cases hp : t.rtpProfile <;> rw [hp] at hlen hcm <;> first | rfl | contradiction
  · next hlen => exact (cipher_null hlen).symm

theorem rtcpEncrypt_eq (h : t.Keyed) (packet : Bytes) (header : RtcpHeader) (index : UInt32) :
    (if t.rtcpProfile.keyLen > 0 then t.rtcpEncrypt packet header index else .ok packet) =
      cipher t.rtcpProfile t.rtcpKey (rtcpIv · header index) packet RtcpHeader.len := by
  split
  · next hlen =>
    obtain ⟨key, salt, hk, -, hsalt⟩ := h.rtcp.cipher hlen
    have hcm := h.rtcp.not_aead
    have htag := h.rtcp_tag
    unfold rtcpEncrypt cipher
    rw [hk, hsalt]
    cases hp : t.rtcpProfile <;> rw [hp] at hlen hcm htag <;> first | rfl | contradiction
  · next hlen => exact (cipher_null hlen).symm

theorem rtpAuthTag_eq (h : t.Keyed) (htag : t.rtpProfile.tagLen > 0) (packet : Bytes)
    (roc : UInt32) : t.rtpAuthTag packet roc =
      .ok (tag t.rtpProfile t.rtpKey (packet ++ Bytes.toBe 4 roc.toNat)) := by
  obtain ⟨authKey, hauth⟩ := h.rtp.auth htag
  unfold rtpAuthTag tag
  rw [hauth, okOr_some, ok_bind, truncateTag_eq t.rtpProfile.tagLen_le]

theorem rtcpAuthTag_eq (h : t.Keyed) (packet : Bytes) :
    t.rtcpAuthTag packet = .ok (tag t.rtcpProfile t.rtcpKey packet) := by
  obtain ⟨authKey, hauth⟩ := h.rtcp.auth (by rw [h.rtcp_tag]; omega)
  unfold rtcpAuthTag tag
  rw [hauth, okOr_some, ok_bind, truncateTag_eq t.rtcpProfile.tagLen_le]

/-- Encryption: the packet ciphered, the MKI, the tag. -/
theorem rtpProtect_eq (h : t.Keyed) (plain : Bytes) (header : RtpHeader) (roc : UInt32) :
    t.rtpProtect plain header roc = (do
      let body ← cipher t.rtpProfile t.rtpKey (rtpIv · header roc) plain header.len
      .ok (body ++ mkiBytes t.mki ++
        tag t.rtpProfile t.rtpKey (body ++ Bytes.toBe 4 roc.toNat))) := by
  have htail : ∀ body : Bytes,
      (if t.rtpProfile.tagLen > 0 then do
        let authenticated ← slice (body ++ mkiBytes t.mki) 0
          (← sub (body ++ mkiBytes t.mki).length (mkiBytes t.mki).length)
        .ok (body ++ mkiBytes t.mki ++ (← t.rtpAuthTag authenticated roc))
      else .ok (body ++ mkiBytes t.mki) : Res Bytes) =
        .ok (body ++ mkiBytes t.mki ++
          tag t.rtpProfile t.rtpKey (body ++ Bytes.toBe 4 roc.toNat)) := by
    intro body
    have hlen : (body ++ mkiBytes t.mki).length - (mkiBytes t.mki).length = body.length := by simp
    by_cases htag : t.rtpProfile.tagLen > 0
    · rw [if_pos htag, sub_eq (by simp), ok_bind, hlen, slice_eq (Nat.zero_le _) (by simp), ok_bind,
        List.drop_zero, List.take_left, h.rtpAuthTag_eq htag, ok_bind]
    · have hnil : tag t.rtpProfile t.rtpKey (body ++ Bytes.toBe 4 roc.toNat) = [] :=
        List.length_eq_zero_iff.mp (by rw [length_tag h.rtp]; omega)
      rw [if_neg htag, hnil, List.append_nil]
  unfold rtpProtect
  rw [← h.rtpEncrypt_eq]
  by_cases hlen : t.rtpProfile.keyLen > 0
  · simp only [if_pos hlen, htail]
  · simp only [if_neg hlen, ok_bind, htail]

theorem rtcpProtect_eq (h : t.Keyed) (plain : Bytes) (header : RtcpHeader) (index : UInt32) :
    t.rtcpProtect plain header index = (do
      let body ← cipher t.rtcpProfile t.rtcpKey (rtcpIv · header index) plain RtcpHeader.len
      let body := body ++ Bytes.toBe 4 (t.esrtcp index).toNat
      .ok (body ++ mkiBytes t.mki ++ tag t.rtcpProfile t.rtcpKey body)) := by
  have htail : ∀ body : Bytes,
      (do let authenticated ← slice (body ++ mkiBytes t.mki) 0
            (← sub (body ++ mkiBytes t.mki).length (mkiBytes t.mki).length)
          .ok (body ++ mkiBytes t.mki ++ (← t.rtcpAuthTag authenticated)) : Res Bytes) =
        .ok (body ++ mkiBytes t.mki ++ tag t.rtcpProfile t.rtcpKey body) := by
    intro body
    have hlen : (body ++ mkiBytes t.mki).length - (mkiBytes t.mki).length = body.length := by simp
    rw [sub_eq (by simp), ok_bind, hlen, slice_eq (Nat.zero_le _) (by simp), ok_bind,
      List.drop_zero, List.take_left, h.rtcpAuthTag_eq, ok_bind]
  unfold rtcpProtect esrtcp
  rw [← h.rtcpEncrypt_eq]
  by_cases hlen : t.rtcpProfile.keyLen > 0
  · simp only [if_pos hlen, ok_bind, htail]
  · simp only [if_neg hlen, ok_bind, htail]

/-- AES-CM protects every packet that is not too long for it. -/
theorem exists_rtcpProtect [LawfulCrates] (h : t.Keyed) {plain : Bytes} (header : RtcpHeader)
    (index : UInt32) (hs : RtcpHeader.len ≤ plain.length) (hl : plain.length < 2 ^ 36) :
    ∃ packet, t.rtcpProtect plain header index = .ok packet := by
  have hcipher : ∃ body, cipher t.rtcpProfile t.rtcpKey (rtcpIv · header index) plain
      RtcpHeader.len = .ok body := exists_cipher h.rtcp hs hl
  obtain ⟨body, hbody⟩ := hcipher
  rw [rtcpProtect_eq h, hbody]
  exact ⟨_, rfl⟩

/-- Decryption: check the tag on all but the trailer, then cipher again. -/
theorem rtpUnprotect_eq (h : t.Keyed) {packet : Bytes} {header : RtpHeader} (roc : UInt32)
    (hlen : header.len + (t.rtpProfile.tagLen + (mkiBytes t.mki).length) ≤ packet.length) :
    t.rtpUnprotect packet header roc =
      let body := packet.take (packet.length - (t.rtpProfile.tagLen + (mkiBytes t.mki).length))
      if packet.drop (packet.length - t.rtpProfile.tagLen) =
          tag t.rtpProfile t.rtpKey (body ++ Bytes.toBe 4 roc.toNat) then
        cipher t.rtpProfile t.rtpKey (rtpIv · header roc) body header.len
      else fail .authentication := by
  unfold rtpUnprotect
  rw [if_neg (by omega), sub_eq (by omega), ok_bind, slice_eq (Nat.zero_le _) (Nat.sub_le _ _),
    ok_bind, List.drop_zero, h.rtpEncrypt_eq]
  by_cases htag : t.rtpProfile.tagLen > 0
  · rw [if_pos htag, sub_eq (by omega), ok_bind, slice_eq (Nat.sub_le _ _) (Nat.le_refl _), ok_bind,
      List.take_length, h.rtpAuthTag_eq htag, ok_bind, ok_bind]
    simp only [decide_eq_true_eq, ite_not]
  · have hnil : tag t.rtpProfile t.rtpKey (packet.take (packet.length -
        (t.rtpProfile.tagLen + (mkiBytes t.mki).length)) ++ Bytes.toBe 4 roc.toNat) = [] :=
      List.length_eq_zero_iff.mp (by rw [length_tag h.rtp]; omega)
    have hdrop : packet.drop (packet.length - t.rtpProfile.tagLen) = [] :=
      List.drop_eq_nil_of_le (by omega)
    simp only [if_neg htag, ok_bind, hnil, hdrop, not_true_eq_false, if_false, if_true]

theorem rtcpUnprotect_eq (h : t.Keyed) {packet : Bytes} {trailerLen : Nat} (header : RtcpHeader)
    (index : UInt32) (htrailer : 4 ≤ trailerLen)
    (hlen : RtcpHeader.len + trailerLen ≤ packet.length) :
    t.rtcpUnprotect packet header index trailerLen =
      let bodyLen := packet.length - trailerLen
      if packet.drop (packet.length - t.rtcpProfile.tagLen) =
          tag t.rtcpProfile t.rtcpKey (packet.take (bodyLen + 4)) then
        cipher t.rtcpProfile t.rtcpKey (rtcpIv · header index) (packet.take bodyLen)
          RtcpHeader.len
      else fail .authentication := by
  have htag := h.rtcp_tag
  have hmin : RtcpHeader.len = 8 := rfl
  unfold rtcpUnprotect
  rw [sub_eq (by omega), ok_bind, slice_eq (Nat.sub_le _ _) (Nat.le_refl _), ok_bind,
    List.take_length, sub_eq (by omega), ok_bind, slice_eq (Nat.zero_le _) (by omega), ok_bind,
    List.drop_zero, h.rtcpAuthTag_eq, ok_bind, slice_eq (Nat.zero_le _) (by omega), ok_bind,
    List.drop_zero, h.rtcpEncrypt_eq, ite_not]

/-! ### Faults -/

theorem raises_rtpProtect (h : t.Keyed) {plain : Bytes} {header : RtpHeader} {roc : UInt32}
    (hlen : header.len ≤ plain.length) :
    Raises (CipherFault plain.length) (t.rtpProtect plain header roc) := by
  rw [h.rtpProtect_eq]
  exact (raises_cipher h.rtp hlen).bind fun _ _ => raises_ok

theorem raises_rtcpProtect (h : t.Keyed) {plain : Bytes} {header : RtcpHeader} {index : UInt32}
    (hlen : RtcpHeader.len ≤ plain.length) :
    Raises (CipherFault plain.length) (t.rtcpProtect plain header index) := by
  rw [h.rtcpProtect_eq]
  exact (raises_cipher h.rtcp hlen).bind fun _ _ => raises_ok

theorem raises_rtpUnprotect (h : t.Keyed) {packet : Bytes} {header : RtpHeader} {roc : UInt32} :
    Raises (CipherFault packet.length) (t.rtpUnprotect packet header roc) := by
  by_cases hlen :
      packet.length < header.len + (t.rtpProfile.tagLen + (mkiBytes t.mki).length)
  · unfold rtpUnprotect
    rw [if_pos hlen]
    exact raises_fail.mpr trivial
  · rw [h.rtpUnprotect_eq roc (Nat.not_lt.mp hlen)]
    dsimp only
    split
    · refine (raises_cipher h.rtp (by rw [List.length_take]; omega)).mono fun f hf => hf.mono ?_
      exact List.length_take_le' _ _
    · exact raises_fail.mpr trivial

theorem raises_rtcpUnprotect (h : t.Keyed) {packet : Bytes} {header : RtcpHeader}
    {index : UInt32} {trailerLen : Nat} (htrailer : 4 ≤ trailerLen)
    (hlen : RtcpHeader.len + trailerLen ≤ packet.length) :
    Raises (CipherFault packet.length) (t.rtcpUnprotect packet header index trailerLen) := by
  rw [h.rtcpUnprotect_eq header index htrailer hlen]
  dsimp only
  split
  · refine (raises_cipher h.rtcp (by rw [List.length_take]; omega)).mono fun f hf => hf.mono ?_
    exact List.length_take_le' _ _
  · exact raises_fail.mpr trivial

/-! ### Round trip -/

/-- Decryption by the parts of the packet. -/
theorem rtpUnprotect_append (h : t.Keyed) {front last : Bytes} {header : RtpHeader} (roc : UInt32)
    (hfront : header.len ≤ front.length) (hlast : last.length = t.rtpProfile.tagLen) :
    t.rtpUnprotect (front ++ mkiBytes t.mki ++ last) header roc =
      if last = tag t.rtpProfile t.rtpKey (front ++ Bytes.toBe 4 roc.toNat) then
        cipher t.rtpProfile t.rtpKey (rtpIv · header roc) front header.len
      else fail .authentication := by
  have hl : (front ++ mkiBytes t.mki ++ last).length =
      front.length + (mkiBytes t.mki).length + t.rtpProfile.tagLen := by
    simp only [List.length_append, hlast]
  have hcut : (front ++ mkiBytes t.mki ++ last).take ((front ++ mkiBytes t.mki ++ last).length -
      (t.rtpProfile.tagLen + (mkiBytes t.mki).length)) = front := by
    rw [List.append_assoc]
    exact List.take_left' (by rw [← List.append_assoc, hl]; omega)
  have hdrop : (front ++ mkiBytes t.mki ++ last).drop ((front ++ mkiBytes t.mki ++ last).length -
      t.rtpProfile.tagLen) = last :=
    List.drop_left' (by rw [hl, List.length_append]; omega)
  rw [h.rtpUnprotect_eq roc (by omega)]
  dsimp only
  rw [hcut, hdrop]

theorem rtcpUnprotect_append (h : t.Keyed) {front word last : Bytes} (header : RtcpHeader)
    (index : UInt32) (hfront : RtcpHeader.len ≤ front.length) (hword : word.length = 4)
    (hlast : last.length = t.rtcpProfile.tagLen) :
    t.rtcpUnprotect (front ++ word ++ mkiBytes t.mki ++ last) header index
        (4 + t.rtcpProfile.tagLen + (mkiBytes t.mki).length) =
      if last = tag t.rtcpProfile t.rtcpKey (front ++ word) then
        cipher t.rtcpProfile t.rtcpKey (rtcpIv · header index) front RtcpHeader.len
      else fail .authentication := by
  have hl : (front ++ word ++ mkiBytes t.mki ++ last).length =
      front.length + 4 + (mkiBytes t.mki).length + t.rtcpProfile.tagLen := by
    simp only [List.length_append, hword, hlast]
  have hcut : ∀ k, k ≤ (front ++ word).length →
      (front ++ word ++ mkiBytes t.mki ++ last).take k = (front ++ word).take k := by
    intro k hk
    rw [List.append_assoc (front ++ word), List.take_append_of_le_length hk]
  have hdrop : (front ++ word ++ mkiBytes t.mki ++ last).drop
      ((front ++ word ++ mkiBytes t.mki ++ last).length - t.rtcpProfile.tagLen) = last :=
    List.drop_left' (by simp only [List.length_append, hword, hlast]; omega)
  have hfrontLen : (front ++ word ++ mkiBytes t.mki ++ last).length -
      (4 + t.rtcpProfile.tagLen + (mkiBytes t.mki).length) = front.length := by omega
  have hwhole : front.length + 4 = (front ++ word).length := by rw [List.length_append, hword]
  rw [h.rtcpUnprotect_eq header index (by omega) (by omega)]
  dsimp only
  rw [hdrop, hfrontLen, hcut _ hwhole.le, hwhole, List.take_length, hcut _ (by omega), List.take_left]

/-- What `rtpProtect` produced, `rtpUnprotect` takes apart again; in between it is the header, the
rest of the packet, the MKI and the tag. -/
theorem rtp_round_trip (h : t.Keyed) {plain packet : Bytes} {header : RtpHeader} {roc : UInt32}
    (hlen : header.len ≤ plain.length) (hp : t.rtpProtect plain header roc = .ok packet) :
    t.rtpUnprotect packet header roc = .ok plain ∧
      ∃ front tag, packet = front ++ mkiBytes t.mki ++ tag ∧ tag.length = t.rtpProfile.tagLen ∧
        header.len ≤ front.length ∧ front.take header.len = plain.take header.len := by
  rw [h.rtpProtect_eq, bind_eq_ok] at hp
  obtain ⟨body, hbody, hp⟩ := hp
  obtain rfl := Except.ok.inj hp
  obtain ⟨hbl, htake, hback⟩ := cipher_eq_ok hlen hbody
  have htag := length_tag h.rtp (body ++ Bytes.toBe 4 roc.toNat)
  refine ⟨?_, body, _, rfl, htag, by omega, htake⟩
  rw [h.rtpUnprotect_append roc (by omega) htag, if_pos rfl, hback]

theorem rtcp_round_trip (h : t.Keyed) {plain packet : Bytes} {header : RtcpHeader} {index : UInt32}
    (hlen : RtcpHeader.len ≤ plain.length) (hp : t.rtcpProtect plain header index = .ok packet) :
    t.rtcpUnprotect packet header index (4 + t.rtcpProfile.tagLen + (mkiBytes t.mki).length) =
        .ok plain ∧
      ∃ front tag, packet = front ++ Bytes.toBe 4 (t.esrtcp index).toNat ++ mkiBytes t.mki ++ tag ∧
        tag.length = t.rtcpProfile.tagLen ∧ RtcpHeader.len ≤ front.length ∧
        front.take RtcpHeader.len = plain.take RtcpHeader.len := by
  rw [h.rtcpProtect_eq, bind_eq_ok] at hp
  obtain ⟨body, hbody, hp⟩ := hp
  obtain rfl := Except.ok.inj hp
  obtain ⟨hbl, htake, hback⟩ := cipher_eq_ok hlen hbody
  have htag := length_tag h.rtcp (body ++ Bytes.toBe 4 (t.esrtcp index).toNat)
  refine ⟨?_, body, _, rfl, htag, by omega, htake⟩
  rw [h.rtcpUnprotect_append header index (by omega) (Bytes.length_toBe _ _) htag, if_pos rfl, hback]

/-! ### The other direction -/

/-- A packet is as long as its header and its trailer. -/
theorem rtpUnprotect_len {packet plain : Bytes} {header : RtpHeader} {roc : UInt32}
    (hu : t.rtpUnprotect packet header roc = .ok plain) :
    header.len + (t.rtpProfile.tagLen + (mkiBytes t.mki).length) ≤ packet.length := by
  unfold rtpUnprotect at hu
  dsimp only at hu
  split at hu
  · exact absurd hu fail_ne_ok
  · next h => exact Nat.not_lt.mp h

/-- Decryption keeps the header. -/
theorem rtcpUnprotect_header (h : t.Keyed) {packet plain : Bytes} {header : RtcpHeader}
    {index : UInt32} {trailerLen : Nat} (htrailer : 4 ≤ trailerLen)
    (hlen : RtcpHeader.len + trailerLen ≤ packet.length)
    (hu : t.rtcpUnprotect packet header index trailerLen = .ok plain) :
    RtcpHeader.len ≤ plain.length := by
  rw [h.rtcpUnprotect_eq header index htrailer hlen] at hu
  dsimp only at hu
  split at hu
  · have hbody : RtcpHeader.len ≤ (packet.take (packet.length - trailerLen)).length := by
      rw [List.length_take]; omega
    exact (cipher_eq_ok hbody hu).1.symm ▸ hbody
  · exact absurd hu fail_ne_ok

/-- What `rtpUnprotect` accepts is what `rtpProtect` makes of the result. -/
theorem rtp_canonical (h : t.Keyed) {front last plain : Bytes} {header : RtpHeader} {roc : UInt32}
    (hfront : header.len ≤ front.length) (hlast : last.length = t.rtpProfile.tagLen)
    (hu : t.rtpUnprotect (front ++ mkiBytes t.mki ++ last) header roc = .ok plain) :
    t.rtpProtect plain header roc = .ok (front ++ mkiBytes t.mki ++ last) ∧
      header.len ≤ plain.length ∧ plain.take header.len = front.take header.len := by
  rw [h.rtpUnprotect_append roc hfront hlast] at hu
  split at hu
  · next htag =>
    obtain ⟨hpl, htake, hback⟩ := cipher_eq_ok hfront hu
    refine ⟨?_, by omega, htake⟩
    rw [h.rtpProtect_eq, hback, ok_bind, ← htag]
  · exact absurd hu fail_ne_ok

/-- For SRTCP this also takes the E flag that `rtcpProtect` writes. -/
theorem rtcp_canonical (h : t.Keyed) {front last plain : Bytes} {header : RtcpHeader}
    {index : UInt32} (hfront : RtcpHeader.len ≤ front.length)
    (hlast : last.length = t.rtcpProfile.tagLen)
    (hu : t.rtcpUnprotect (front ++ Bytes.toBe 4 (t.esrtcp index).toNat ++ mkiBytes t.mki ++ last)
      header index (4 + t.rtcpProfile.tagLen + (mkiBytes t.mki).length) = .ok plain) :
    t.rtcpProtect plain header index =
      .ok (front ++ Bytes.toBe 4 (t.esrtcp index).toNat ++ mkiBytes t.mki ++ last) := by
  rw [h.rtcpUnprotect_append header index hfront (Bytes.length_toBe _ _) hlast] at hu
  split at hu
  · next htag =>
    obtain ⟨hpl, htake, hback⟩ := cipher_eq_ok hfront hu
    rw [h.rtcpProtect_eq, hback, ok_bind]
    dsimp only
    rw [← htag]
  · exact absurd hu fail_ne_ok

end Keyed

end AesCmSha1

end LibSrtp
