import Mathlib.Tactic.Common

/-!
# Protection profiles
-/

namespace LibSrtp

/-- `ProtectionProfile` -/
inductive ProtectionProfile where
  | nullCipherHmacSha180
  | aes128CmHmacSha180
  | aes128CmHmacSha132
  | aes128CmNullAuth
  | aes192CmHmacSha180
  | aes192CmHmacSha132
  | aes192CmNullAuth
  | aes256CmHmacSha180
  | aes256CmHmacSha132
  | aes256CmNullAuth
  | aeadAes128Gcm
  | aeadAes256Gcm
deriving DecidableEq, Repr

namespace ProtectionProfile

def tagLen : ProtectionProfile → Nat
  | nullCipherHmacSha180 | aes128CmHmacSha180 | aes192CmHmacSha180 | aes256CmHmacSha180 => 10
  | aes128CmHmacSha132 | aes192CmHmacSha132 | aes256CmHmacSha132 => 4
  | aes128CmNullAuth | aes192CmNullAuth | aes256CmNullAuth => 0
  -- the tag of AES-GCM is part of the cipher text, not of the trailer
  | aeadAes128Gcm | aeadAes256Gcm => 0

def keyLen : ProtectionProfile → Nat
  | nullCipherHmacSha180 => 0
  | aes128CmNullAuth | aes128CmHmacSha132 | aes128CmHmacSha180 | aeadAes128Gcm => 16
  | aes192CmNullAuth | aes192CmHmacSha132 | aes192CmHmacSha180 => 24
  | aes256CmNullAuth | aes256CmHmacSha132 | aes256CmHmacSha180 | aeadAes256Gcm => 32

def saltLen : ProtectionProfile → Nat
  | nullCipherHmacSha180 | aes128CmNullAuth | aes128CmHmacSha132 | aes128CmHmacSha180
  | aes192CmNullAuth | aes192CmHmacSha132 | aes192CmHmacSha180
  | aes256CmNullAuth | aes256CmHmacSha132 | aes256CmHmacSha180 => 14
  | aeadAes128Gcm | aeadAes256Gcm => 12

/-- The profiles whose authentication is part of the cipher. -/
def isAead : ProtectionProfile → Bool
  | aeadAes128Gcm | aeadAes256Gcm => true
  | _ => false

theorem tagLen_le (p : ProtectionProfile) : p.tagLen ≤ 10 := by cases p <;> decide

end ProtectionProfile

end LibSrtp
