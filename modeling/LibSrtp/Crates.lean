import LibSrtp.Error

/-!
# The cryptographic crates

AES in counter mode, HMAC-SHA1 and AES-GCM come from third-party crates. They are parameters of
the model (`Crates`); what the library relies on is `LawfulCrates`.
-/

namespace LibSrtp

open Exec

/-- The functions the library takes from the `ctr`, `aes`, `hmac`, `sha1` and `aes-gcm` crates.
The variant of AES is that of the length of the key. -/
class Crates where
  /-- Byte `n` of the keystream of `Ctr32BE` under a key and an initial counter block. A function:
  the keystream depends on nothing else. -/
  keystream : (key : Bytes) → (iv : ByteArr 16) → (n : Nat) → UInt8
  /-- The longest buffer `apply_keystream` takes; on a longer one it panics. -/
  keystreamLimit : Nat
  /-- `Hmac<Sha1>`: it takes keys of any length, and is a function of key and message. -/
  hmacSha1 : (key : Bytes) → (message : Bytes) → ByteArr 20
  /-- `encrypt_in_place_detached`: the cipher text and the tag. -/
  gcmEncrypt : (key : Bytes) → (nonce : ByteArr 12) → (ad payload : Bytes) →
    Option (Bytes × ByteArr 16)
  /-- `decrypt_in_place_detached` -/
  gcmDecrypt : (key : Bytes) → (nonce : ByteArr 12) → (ad payload : Bytes) → (tag : ByteArr 16) →
    Option Bytes

/-- What the library relies on. -/
class LawfulCrates [Crates] : Prop where
  /-- The counter mode ciphers do not panic below `2^36` bytes. -/
  keystreamLimit_ge : 2 ^ 36 ≤ Crates.keystreamLimit
  /-- Decryption inverts encryption. -/
  gcmDecrypt_gcmEncrypt {key ad payload cipher : Bytes} {nonce : ByteArr 12} {tag : ByteArr 16} :
    Crates.gcmEncrypt key nonce ad payload = some (cipher, tag) →
      Crates.gcmDecrypt key nonce ad cipher tag = some payload

/-- AES-GCM accepts a cipher text only with the tag that encryption gives it. -/
class StrictCrates [Crates] : Prop where
  gcmEncrypt_gcmDecrypt {key ad payload cipher : Bytes} {nonce : ByteArr 12} {tag : ByteArr 16} :
    Crates.gcmDecrypt key nonce ad cipher tag = some payload →
      Crates.gcmEncrypt key nonce ad payload = some (cipher, tag)

/-- Crates that answer from tables, of keystreams by key and counter block and of codes by key and
message; they know no AES-GCM. -/
@[reducible] def Crates.tabulated (keystreams macs : List ((Bytes × Bytes) × Bytes)) : Crates where
  keystream key iv n := ((keystreams.lookup (key, iv.1)).getD []).getD n 0
  keystreamLimit := 2 ^ 36
  hmacSha1 key message :=
    let mac := (macs.lookup (key, message)).getD []
    ⟨(mac ++ List.replicate 20 0).take 20, by simp⟩
  gcmEncrypt _ _ _ _ := none
  gcmDecrypt _ _ _ _ _ := none

theorem Crates.lawful_tabulated (keystreams macs : List ((Bytes × Bytes) × Bytes)) :
    @LawfulCrates (.tabulated keystreams macs) :=
  @LawfulCrates.mk (.tabulated keystreams macs) (Nat.le_refl _) fun h => by cases h

/-- An encryption with AES-GCM. -/
structure GcmVector where
  key : Bytes
  nonce : ByteArr 12
  ad : Bytes
  payload : Bytes
  cipher : Bytes
  tag : ByteArr 16

/-- As `tabulated`, with an AES-GCM that knows one encryption. -/
@[reducible] def Crates.tabulatedGcm (keystreams : List ((Bytes × Bytes) × Bytes)) (v : GcmVector) :
    Crates where
  keystream key iv n := ((keystreams.lookup (key, iv.1)).getD []).getD n 0
  keystreamLimit := 2 ^ 36
  hmacSha1 _ _ := ⟨List.replicate 20 0, rfl⟩
  gcmEncrypt key nonce ad payload :=
    if key = v.key ∧ nonce = v.nonce ∧ ad = v.ad ∧ payload = v.payload then some (v.cipher, v.tag)
    else none
  gcmDecrypt key nonce ad cipher tag :=
    if key = v.key ∧ nonce = v.nonce ∧ ad = v.ad ∧ cipher = v.cipher ∧ tag = v.tag then
      some v.payload
    else none

theorem Crates.lawful_tabulatedGcm (keystreams : List ((Bytes × Bytes) × Bytes)) (v : GcmVector) :
    @LawfulCrates (.tabulatedGcm keystreams v) := by
  refine @LawfulCrates.mk (.tabulatedGcm keystreams v) (Nat.le_refl _) fun h => ?_
  change (if _ then some _ else none) = some _ at h
  show (if _ then some _ else none) = some _
  split at h
  · next heq =>
    obtain ⟨rfl, rfl⟩ := Prod.mk.inj (Option.some.inj h)
    rw [if_pos ⟨heq.1, heq.2.1, heq.2.2.1, rfl, rfl⟩, heq.2.2.2]
  · cases h

theorem Crates.strict_tabulatedGcm (keystreams : List ((Bytes × Bytes) × Bytes)) (v : GcmVector) :
    @StrictCrates (.tabulatedGcm keystreams v) := by
  refine @StrictCrates.mk (.tabulatedGcm keystreams v) fun h => ?_
  change (if _ then some _ else none) = some _ at h
  show (if _ then some _ else none) = some _
  split at h
  · next heq =>
    obtain rfl := Option.some.inj h
    rw [if_pos ⟨heq.1, heq.2.1, heq.2.2.1, rfl⟩, heq.2.2.2.1, heq.2.2.2.2]
  · cases h

theorem Crates.strict_tabulated (keystreams macs : List ((Bytes × Bytes) × Bytes)) :
    @StrictCrates (.tabulated keystreams macs) :=
  @StrictCrates.mk (.tabulated keystreams macs) fun h => by cases h

variable [Crates]

/-- `AesCtr32BE::new(GenericArray::from_slice(key), iv)`, for the AES with keys of `keySize`
bytes, then `apply_keystream`. -/
def aesCtr (keySize : Nat) (key : Bytes) (iv : ByteArr 16) (data : Bytes) : Res Bytes := do
  let key ← fromSlice keySize key
  if data.length ≤ Crates.keystreamLimit then
    .ok (Bytes.xorStream (Crates.keystream key.1 iv) data)
  else
    panicked

/-- As `aesCtr`, on `&mut packet[start..]`. -/
def aesCtrFrom (keySize : Nat) (key : Bytes) (iv : ByteArr 16) (packet : Bytes) (start : Nat) :
    Res Bytes := do
  let (head, tail) ← splitAt packet start
  let tail ← aesCtr keySize key iv tail
  .ok (head ++ tail)

theorem aesCtr_eq_ok {keySize : Nat} {key data out : Bytes} {iv : ByteArr 16} :
    aesCtr keySize key iv data = .ok out ↔ key.length = keySize ∧
      data.length ≤ Crates.keystreamLimit ∧ out = Bytes.xorStream (Crates.keystream key iv) data := by
  unfold aesCtr
  rw [bind_eq_ok]
  constructor
  · rintro ⟨k, hk, h⟩
    obtain rfl := fromSlice_eq_ok.mp hk
    split at h
    · next hl => exact ⟨k.2, hl, by simpa using h.symm⟩
    · exact absurd h panicked_ne_ok
  · rintro ⟨hk, hl, rfl⟩
    exact ⟨⟨key, hk⟩, fromSlice_eq hk, if_pos hl⟩

theorem aesCtrFrom_eq_ok {keySize start : Nat} {key packet out : Bytes} {iv : ByteArr 16} :
    aesCtrFrom keySize key iv packet start = .ok out ↔ start ≤ packet.length ∧
      key.length = keySize ∧ packet.length - start ≤ Crates.keystreamLimit ∧
      out = packet.take start ++ Bytes.xorStream (Crates.keystream key iv) (packet.drop start) := by
  unfold aesCtrFrom
  constructor
  · intro h
    obtain ⟨⟨hd, tl⟩, hs, h⟩ := bind_eq_ok.mp h
    obtain ⟨out', ht, h⟩ := bind_eq_ok.mp h
    unfold splitAt at hs
    split at hs
    · next hle =>
      obtain ⟨rfl, rfl⟩ := Prod.mk.inj (Except.ok.inj hs)
      obtain ⟨hk, hl, rfl⟩ := aesCtr_eq_ok.mp ht
      exact ⟨hle, hk, by simpa using hl, (Except.ok.inj h).symm⟩
    · exact absurd hs panicked_ne_ok
  · rintro ⟨hle, hk, hl, rfl⟩
    have htail : aesCtr keySize key iv (packet.drop start) =
        .ok (Bytes.xorStream (Crates.keystream key iv) (packet.drop start)) :=
      aesCtr_eq_ok.mpr ⟨hk, by rw [List.length_drop]; exact hl, rfl⟩
    simp only [splitAt_eq hle, ok_bind, htail]

/-- How a transform with the right keys may stop on a packet of `len` bytes: with an error of its
own, or because the packet is too long for the cipher. -/
def CipherFault (len : Nat) : Fault SrtpError → Prop
  | .panic => Crates.keystreamLimit < len
  | f => OwnFault f

theorem CipherFault.ownFault {len : Nat} {f : Fault SrtpError} (h : CipherFault len f) :
    OwnFault f := by
  cases f with
  | panic => trivial
  | error e => exact h

theorem CipherFault.ne_panic [LawfulCrates] {len : Nat} {f : Fault SrtpError}
    (h : CipherFault len f) (hl : len < 2 ^ 36) : f ≠ .panic := by
  have hlim := LawfulCrates.keystreamLimit_ge
  rintro rfl
  change Crates.keystreamLimit < len at h
  omega

theorem CipherFault.mono {len len' : Nat} {f : Fault SrtpError} (h : CipherFault len f)
    (hl : len ≤ len') : CipherFault len' f := by
  cases f with
  | panic => exact Nat.lt_of_lt_of_le h hl
  | error e => exact h

theorem raises_aesCtr {keySize : Nat} {key data : Bytes} {iv : ByteArr 16}
    (hk : key.length = keySize) : Raises (CipherFault data.length) (aesCtr keySize key iv data) := by
  unfold aesCtr
  rw [fromSlice_eq hk, ok_bind]
  split
  · exact raises_ok
  · next h => exact raises_panicked.mpr (Nat.lt_of_not_le h)

theorem raises_aesCtrFrom {keySize start : Nat} {key packet : Bytes} {iv : ByteArr 16}
    (hk : key.length = keySize) (hs : start ≤ packet.length) :
    Raises (CipherFault packet.length) (aesCtrFrom keySize key iv packet start) := by
  unfold aesCtrFrom
  rw [splitAt_eq hs, ok_bind]
  refine Raises.bind ((raises_aesCtr hk).mono fun f hf => hf.mono ?_) fun _ _ => raises_ok
  rw [List.length_drop]
  omega

/-- Counter mode decrypts by encrypting again. -/
theorem aesCtrFrom_involutive {keySize start : Nat} {key packet out : Bytes} {iv : ByteArr 16}
    (h : aesCtrFrom keySize key iv packet start = .ok out) :
    aesCtrFrom keySize key iv out start = .ok packet := by
  obtain ⟨hs, hk, hl, rfl⟩ := aesCtrFrom_eq_ok.mp h
  have htake : (packet.take start).length = start := by simp [hs]
  refine aesCtrFrom_eq_ok.mpr ⟨by simp [hs], hk, by simp; omega, ?_⟩
  rw [List.take_left' htake, List.drop_left' htake, Bytes.xorStream_xorStream_self,
    List.take_append_drop]

end LibSrtp
