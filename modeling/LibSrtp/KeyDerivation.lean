import LibSrtp.Crates

/-!
# Session key derivation
-/

namespace LibSrtp

open Exec

def sessionSaltSize : Nat := 14
def sessionAuthKeySize : Nat := 20

/-- `KdfLabel` -/
inductive KdfLabel where
  | rtpEncrypt
  | rtpAuthTag
  | rtpSalt
  | rtcpEncrypt
  | rtcpAuthTag
  | rtcpSalt
deriving DecidableEq, Repr

namespace KdfLabel

/-- `label as u8` -/
def toU8 : KdfLabel → UInt8
  | rtpEncrypt => 0x00
  | rtpAuthTag => 0x01
  | rtpSalt => 0x02
  | rtcpEncrypt => 0x03
  | rtcpAuthTag => 0x04
  | rtcpSalt => 0x05

def outputSize (keySize : Nat) : KdfLabel → Nat
  | rtpEncrypt | rtcpEncrypt => keySize
  | rtpSalt | rtcpSalt => sessionSaltSize
  | rtpAuthTag | rtcpAuthTag => sessionAuthKeySize

end KdfLabel

/-- The zeroed 16-byte block with `masterSalt` copied to its start. -/
def saltBlock (masterSalt : Bytes) : Res (ByteArr 16) :=
  if h : masterSalt.length ≤ 16 then
    .ok ⟨masterSalt ++ List.replicate (16 - masterSalt.length) 0, by simp; omega⟩
  else
    panicked

variable [Crates]

def aesCmKdf (label : KdfLabel) (masterKey masterSalt : Bytes) : Res Bytes := do
  let out := List.replicate (label.outputSize masterKey.length) 0
  let prfInput ← saltBlock masterSalt
  let prfInput := Bytes.xorArr (Bytes.field 7 [label.toU8]) prfInput
  match masterKey.length with
  | 16 => aesCtr 16 masterKey prfInput out
  | 24 => aesCtr 24 masterKey prfInput out
  | 32 => aesCtr 32 masterKey prfInput out
  | _ => fail .invalidKeySize

/-- The sizes of a master key. -/
def AesKeySize (n : Nat) : Prop := n = 16 ∨ n = 24 ∨ n = 32

theorem length_of_aesCmKdf {label : KdfLabel} {masterKey masterSalt out : Bytes}
    (h : aesCmKdf label masterKey masterSalt = .ok out) :
    out.length = label.outputSize masterKey.length := by
  unfold aesCmKdf at h
  obtain ⟨block, -, h⟩ := bind_eq_ok.mp h
  split at h
  all_goals first
    | (obtain ⟨-, -, rfl⟩ := aesCtr_eq_ok.mp h; simp)
    | exact absurd h fail_ne_ok

omit [Crates] in
theorem outputSize_le {label : KdfLabel} {keySize : Nat} (hk : AesKeySize keySize) :
    label.outputSize keySize ≤ 32 := by
  unfold AesKeySize at hk
  cases label <;> simp [KdfLabel.outputSize, sessionSaltSize, sessionAuthKeySize] <;> omega

/-- A key derivation asks the cipher for at most 32 bytes. -/
theorem raises_aesCmKdf {label : KdfLabel} {masterKey masterSalt : Bytes}
    (hs : masterSalt.length ≤ 16) :
    Raises (CipherFault 32) (aesCmKdf label masterKey masterSalt) := by
  have hctr : ∀ {keySize iv}, AesKeySize masterKey.length → masterKey.length = keySize →
      Raises (CipherFault 32) (aesCtr keySize masterKey iv
        (List.replicate (label.outputSize masterKey.length) 0)) := by
    intro keySize iv hsize hk
    refine (raises_aesCtr hk).mono fun f hf => hf.mono ?_
    rw [List.length_replicate]
    exact outputSize_le hsize
  unfold aesCmKdf
  rw [saltBlock, dif_pos hs, ok_bind]
  split
  · next h => exact hctr (.inl h) h
  · next h => exact hctr (.inr (.inl h)) h
  · next h => exact hctr (.inr (.inr h)) h
  · exact raises_fail.mpr trivial

/-- On keys of the right sizes a key derivation succeeds. -/
theorem exists_aesCmKdf [LawfulCrates] {masterKey masterSalt : Bytes}
    (hk : AesKeySize masterKey.length) (hs : masterSalt.length ≤ 16) (label : KdfLabel) :
    ∃ out, aesCmKdf label masterKey masterSalt = .ok out ∧
      out.length = label.outputSize masterKey.length := by
  have hlim := LawfulCrates.keystreamLimit_ge
  have hout : label.outputSize masterKey.length ≤ 32 := outputSize_le hk
  have hctr : ∀ {keySize iv}, masterKey.length = keySize →
      ∃ out, aesCtr keySize masterKey iv (List.replicate (label.outputSize masterKey.length) 0) =
        .ok out := fun h => ⟨_, aesCtr_eq_ok.mpr ⟨h, by rw [List.length_replicate]; omega, rfl⟩⟩
  have hok : ∃ out, aesCmKdf label masterKey masterSalt = .ok out := by
    unfold aesCmKdf
    rw [saltBlock, dif_pos hs, ok_bind]
    split
    · next h => exact hctr h
    · next h => exact hctr h
    · next h => exact hctr h
    · next h16 h24 h32 => rcases hk with h | h | h <;> contradiction
  obtain ⟨out, h⟩ := hok
  exact ⟨out, h, length_of_aesCmKdf h⟩

end LibSrtp
