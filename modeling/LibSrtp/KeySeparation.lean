import LibSrtp.CounterBlocks
import LibSrtp.KeyTable

/-!
# The session secrets of a master key

A transform has up to six secrets, each the start of a keystream of the master key. The label of the
secret is in the part of the counter block that does not count.

* `secret_derived`: each secret comes from the derivation with its label;
* `session_secrets_separated`: no two secrets of a transform consume a counter block in common.
-/

namespace LibSrtp

open Exec Bytes CounterMode

/-- The initial block of a derivation. -/
def kdfIv (label : KdfLabel) (block : ByteArr 16) : ByteArr 16 :=
  xorArr (field 7 [label.toU8]) block

theorem KdfLabel.toU8_inj {label label' : KdfLabel} (h : label.toU8 = label'.toU8) :
    label = label' := by
  cases label <;> cases label' <;> first | rfl | exact absurd h (by decide)

/-- The part that does not count tells the label. -/
theorem base_kdfIv_inj {label label' : KdfLabel} {block : ByteArr 16}
    (h : base (kdfIv label block) = base (kdfIv label' block)) : label = label' := by
  have hbyte : ∀ label : KdfLabel,
      (base (kdfIv label block))[7]? = block.1[7]?.map (· ^^^ label.toU8) := by
    intro label
    show ((xorStream (field 7 [label.toU8]) block.1).take 12)[7]? = _
    rw [List.getElem?_take_of_lt (by decide), getElem?_xorStream]
    rfl
  have heq := congrArg (fun bytes : Bytes => bytes[7]?) h
  rw [hbyte, hbyte, List.getElem?_eq_getElem (by rw [block.2]; decide)] at heq
  exact KdfLabel.toU8_inj ((UInt8.xor_right_inj _).mp (Option.some.inj heq))

namespace Transform

/-- A secret of the transform, by the label it is derived with. -/
def secret : Transform → KdfLabel → Option Bytes
  | aesCmSha1 t, .rtpEncrypt => t.rtpKey.key
  | aesCmSha1 t, .rtpSalt => t.rtpKey.salt.map (·.1)
  | aesCmSha1 t, .rtpAuthTag => t.rtpKey.authKey.map (·.1)
  | aesCmSha1 t, .rtcpEncrypt => t.rtcpKey.key
  | aesCmSha1 t, .rtcpSalt => t.rtcpKey.salt.map (·.1)
  | aesCmSha1 t, .rtcpAuthTag => t.rtcpKey.authKey.map (·.1)
  | aesGcm t, .rtpEncrypt => some t.rtpKey.key
  | aesGcm t, .rtpSalt => some t.rtpKey.salt.1
  | aesGcm t, .rtcpEncrypt => some t.rtcpKey.key
  | aesGcm t, .rtcpSalt => some t.rtcpKey.salt.1
  | aesGcm _, _ => none

end Transform

section Derivation

variable [Crates] {masterKey masterSalt : Bytes}

theorem aesCmKdf_ok {label : KdfLabel} {out : Bytes}
    (h : aesCmKdf label masterKey masterSalt = .ok out) :
    AesKeySize masterKey.length ∧ ∃ block, saltBlock masterSalt = .ok block ∧
      out = xorStream (Crates.keystream masterKey (kdfIv label block))
        (List.replicate (label.outputSize masterKey.length) 0) := by
  unfold aesCmKdf at h
  obtain ⟨block, hblock, h⟩ := bind_eq_ok.mp h
  split at h
  · next hk => exact ⟨.inl hk, block, hblock, (aesCtr_eq_ok.mp h).2.2⟩
  · next hk => exact ⟨.inr (.inl hk), block, hblock, (aesCtr_eq_ok.mp h).2.2⟩
  · next hk => exact ⟨.inr (.inr hk), block, hblock, (aesCtr_eq_ok.mp h).2.2⟩
  · exact absurd h fail_ne_ok

/-- The secret is the start of what is derived with the label. -/
def Derived (masterKey masterSalt : Bytes) (label : KdfLabel) (secret : Bytes) : Prop :=
  ∃ out, aesCmKdf label masterKey masterSalt = .ok out ∧ secret <+: out

theorem Derived.keystream {label : KdfLabel} {secret : Bytes}
    (h : Derived masterKey masterSalt label secret) : AesKeySize masterKey.length ∧
      ∃ block, saltBlock masterSalt = .ok block ∧
        secret.length ≤ label.outputSize masterKey.length ∧ ∀ i < secret.length,
          secret.getD i 0 = Crates.keystream masterKey (kdfIv label block) i := by
  obtain ⟨out, hout, rest, rfl⟩ := h
  obtain ⟨hsize, block, hblock, heq⟩ := aesCmKdf_ok hout
  have hlen := length_of_aesCmKdf hout
  rw [List.length_append] at hlen
  refine ⟨hsize, block, hblock, by omega, fun i hi => ?_⟩
  have hbyte := congrArg (fun bytes : Bytes => bytes.getD i 0) heq
  rw [List.getD_append _ _ _ _ hi] at hbyte
  have hzero : (List.replicate (label.outputSize masterKey.length) (0 : UInt8)).getD i 0 = 0 := by
    rw [List.getD_eq_getElem?_getD, List.getElem?_replicate]
    split <;> rfl
  rw [hbyte, getD_xorStream _ (by rw [List.length_replicate]; omega), hzero, UInt8.zero_xor]

theorem Derived.of_kdf {label : KdfLabel} {secret : Bytes}
    (h : aesCmKdf label masterKey masterSalt = .ok secret) :
    Derived masterKey masterSalt label secret := ⟨secret, h, List.prefix_rfl⟩

/-- What the keys of one component of AES-CM are derived from. -/
theorem AesCmSha1.derived_newRtpKey {p : ProtectionProfile} {keys : CmSessionKeys}
    (h : newRtpKey masterKey masterSalt p = .ok keys) :
    (∀ key, keys.key = some key → Derived masterKey masterSalt .rtpEncrypt key) ∧
      (∀ salt, keys.salt = some salt → Derived masterKey masterSalt .rtpSalt salt.1) ∧
      ∀ auth, keys.authKey = some auth → Derived masterKey masterSalt .rtpAuthTag auth.1 := by
  cases p <;> simp only [newRtpKey, bind_eq_ok] at h
  case nullCipherHmacSha180 =>
    obtain ⟨_, hauth, auth, hconv, h⟩ := h
    obtain rfl := Except.ok.inj h
    refine ⟨by rintro _ ⟨⟩, by rintro _ ⟨⟩, ?_⟩
    rintro _ ⟨⟩
    exact .of_kdf (tryInto_ok hconv ▸ hauth)
  case aeadAes128Gcm | aeadAes256Gcm => exact absurd h fail_ne_ok
  case aes128CmNullAuth | aes192CmNullAuth | aes256CmNullAuth =>
    obtain ⟨key, hkey, _, hsalt, salt, hconv, h⟩ := h
    obtain rfl := Except.ok.inj h
    refine ⟨?_, ?_, by rintro _ ⟨⟩⟩
    · rintro _ ⟨⟩
      exact .of_kdf hkey
    · rintro _ ⟨⟩
      exact .of_kdf (tryInto_ok hconv ▸ hsalt)
  all_goals
    obtain ⟨key, hkey, _, hsalt, salt, hconv, _, hauth, auth, hconv', h⟩ := h
    obtain rfl := Except.ok.inj h
    refine ⟨?_, ?_, ?_⟩
    · rintro _ ⟨⟩
      exact .of_kdf hkey
    · rintro _ ⟨⟩
      exact .of_kdf (tryInto_ok hconv ▸ hsalt)
    · rintro _ ⟨⟩
      exact .of_kdf (tryInto_ok hconv' ▸ hauth)

theorem AesCmSha1.derived_newRtcpKey {p : ProtectionProfile} {keys : CmSessionKeys}
    (h : newRtcpKey masterKey masterSalt p = .ok keys) :
    (∀ key, keys.key = some key → Derived masterKey masterSalt .rtcpEncrypt key) ∧
      (∀ salt, keys.salt = some salt → Derived masterKey masterSalt .rtcpSalt salt.1) ∧
      ∀ auth, keys.authKey = some auth → Derived masterKey masterSalt .rtcpAuthTag auth.1 := by
  cases p <;> simp only [newRtcpKey, bind_eq_ok] at h
  case nullCipherHmacSha180 =>
    obtain ⟨_, hauth, auth, hconv, h⟩ := h
    obtain rfl := Except.ok.inj h
    refine ⟨by rintro _ ⟨⟩, by rintro _ ⟨⟩, ?_⟩
    rintro _ ⟨⟩
    exact .of_kdf (tryInto_ok hconv ▸ hauth)
  case aes128CmHmacSha180 | aes192CmHmacSha180 | aes256CmHmacSha180 =>
    obtain ⟨key, hkey, _, hsalt, salt, hconv, _, hauth, auth, hconv', h⟩ := h
    obtain rfl := Except.ok.inj h
    refine ⟨?_, ?_, ?_⟩
    · rintro _ ⟨⟩
      exact .of_kdf hkey
    · rintro _ ⟨⟩
      exact .of_kdf (tryInto_ok hconv ▸ hsalt)
    · rintro _ ⟨⟩
      exact .of_kdf (tryInto_ok hconv' ▸ hauth)
  all_goals exact absurd h fail_ne_ok

/-- The salts of AES-GCM are cut short. -/
theorem AesGcm.derived_newKey {saltLabel keyLabel : KdfLabel} {p : ProtectionProfile}
    {keys : GcmSessionKeys} (h : newKey saltLabel keyLabel masterKey masterSalt p = .ok keys) :
    Derived masterKey masterSalt keyLabel keys.key ∧
      Derived masterKey masterSalt saltLabel keys.salt.1 := by
  simp only [newKey, bind_eq_ok] at h
  obtain ⟨out, hout, key, hkey, salt, hconv, h⟩ := h
  obtain rfl := Except.ok.inj h
  refine ⟨.of_kdf hkey, out, hout, ?_⟩
  rw [tryInto_ok hconv]
  exact List.take_prefix _ _

/-- Each secret of a transform comes from the derivation with its label. -/
theorem secret_derived {config : StreamConfig} {key : MasterKey} {t : Transform}
    (ht : newTransform config key = .ok t) {label : KdfLabel} {secret : Bytes}
    (h : t.secret label = some secret) : Derived key.key key.salt label secret := by
  have hcm : ∀ {t : AesCmSha1}, AesCmSha1.new key.key key.salt key.mki config.rtpProfile
      config.rtcpProfile = .ok t → (Transform.aesCmSha1 t).secret label = some secret →
        Derived key.key key.salt label secret := by
    intro t ht h
    obtain ⟨rtpKeys, hrtp, ht⟩ := bind_eq_ok.mp ht
    obtain ⟨rtcpKeys, hrtcp, ht⟩ := bind_eq_ok.mp ht
    obtain rfl := Except.ok.inj ht
    obtain ⟨hkey, hsalt, hauth⟩ := AesCmSha1.derived_newRtpKey hrtp
    obtain ⟨hkey', hsalt', hauth'⟩ := AesCmSha1.derived_newRtcpKey hrtcp
    cases label with
    | rtpEncrypt => exact hkey _ h
    | rtpAuthTag =>
      obtain ⟨auth, heq, rfl⟩ := Option.map_eq_some_iff.mp h
      exact hauth _ heq
    | rtpSalt =>
      obtain ⟨salt, heq, rfl⟩ := Option.map_eq_some_iff.mp h
      exact hsalt _ heq
    | rtcpEncrypt => exact hkey' _ h
    | rtcpAuthTag =>
      obtain ⟨auth, heq, rfl⟩ := Option.map_eq_some_iff.mp h
      exact hauth' _ heq
    | rtcpSalt =>
      obtain ⟨salt, heq, rfl⟩ := Option.map_eq_some_iff.mp h
      exact hsalt' _ heq
  have hgcm : ∀ {t : AesGcm}, AesGcm.new key.key key.salt key.mki config.rtpProfile
      config.rtcpProfile = .ok t → (Transform.aesGcm t).secret label = some secret →
        Derived key.key key.salt label secret := by
    intro t ht h
    unfold AesGcm.new at ht
    split at ht
    · exact absurd ht fail_ne_ok
    · obtain ⟨rtpKeys, hrtp, ht⟩ := bind_eq_ok.mp ht
      split at ht
      · exact absurd ht fail_ne_ok
      · obtain ⟨rtcpKeys, hrtcp, ht⟩ := bind_eq_ok.mp ht
        obtain rfl := Except.ok.inj ht
        obtain ⟨hkey, hsalt⟩ := AesGcm.derived_newKey hrtp
        obtain ⟨hkey', hsalt'⟩ := AesGcm.derived_newKey hrtcp
        cases label with
        | rtpEncrypt => exact Option.some.inj h ▸ hkey
        | rtpSalt => exact Option.some.inj h ▸ hsalt
        | rtcpEncrypt => exact Option.some.inj h ▸ hkey'
        | rtcpSalt => exact Option.some.inj h ▸ hsalt'
        | rtpAuthTag => cases h
        | rtcpAuthTag => cases h
  unfold newTransform at ht
  split at ht <;> obtain ⟨t, hnew, ht⟩ := bind_eq_ok.mp ht <;> obtain rfl := Except.ok.inj ht
  · exact hgcm hnew h
  · exact hgcm hnew h
  · exact hcm hnew h

/-- Two secrets of a transform are keystreams of the master key from initial blocks of their own, and
consume no counter block in common. -/
theorem session_secrets_separated {config : StreamConfig} {key : MasterKey} {t : Transform}
    (ht : newTransform config key = .ok t) {label label' : KdfLabel} (hne : label ≠ label')
    {secret secret' : Bytes} (h : t.secret label = some secret)
    (h' : t.secret label' = some secret') :
    ∃ iv iv' : ByteArr 16,
      (∀ i < secret.length, secret.getD i 0 = Crates.keystream key.key iv i) ∧
      (∀ i < secret'.length, secret'.getD i 0 = Crates.keystream key.key iv' i) ∧
      Disjoint (blocks iv secret.length) (blocks iv' secret'.length) := by
  obtain ⟨hsize, block, hblock, hlen, hbytes⟩ := (secret_derived ht h).keystream
  obtain ⟨-, block', hblock', hlen', hbytes'⟩ := (secret_derived ht h').keystream
  obtain rfl := Except.ok.inj (hblock.symm.trans hblock')
  refine ⟨_, _, hbytes, hbytes', (disjoint_blocks_iff ?_ ?_).mpr (.inl fun heq => ?_)⟩
  · exact (hlen.trans (outputSize_le hsize)).trans (by decide)
  · exact (hlen'.trans (outputSize_le hsize)).trans (by decide)
  · exact hne (base_kdfIv_inj heq)

end Derivation

section Example

open Vectors

attribute [local instance] crates

/-- The encryption key of the examples and the salt next to it. -/
theorem session_secrets_separated_example : ∃ iv iv' : ByteArr 16,
    (∀ i < rtpKey.length, rtpKey.getD i 0 = Crates.keystream masterKey iv i) ∧
      (∀ i < rtpSalt.length, rtpSalt.getD i 0 = Crates.keystream masterKey iv' i) ∧
      Disjoint (blocks iv rtpKey.length) (blocks iv' rtpSalt.length) := by
  have ht : newTransform (config [key none .default]) (key none .default) =
      .ok (.aesCmSha1 exampleTransform) := by
    show (AesCmSha1.new masterKey masterSalt none .aes128CmHmacSha180 .aes128CmHmacSha180 >>= fun t =>
      .ok (Transform.aesCmSha1 t)) = _
    rw [show AesCmSha1.new masterKey masterSalt none .aes128CmHmacSha180 .aes128CmHmacSha180 =
      .ok exampleTransform by decide +kernel]
    rfl
  exact session_secrets_separated ht (show KdfLabel.rtpEncrypt ≠ .rtpSalt by decide) rfl rfl

end Example

end LibSrtp
