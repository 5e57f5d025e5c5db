import LibSrtp.Nonces
import LibSrtp.Support.CounterMode

/-!
# Counter blocks of AES-CM

The crate counts the blocks of a packet up from its IV, in the last four bytes. The sequence number,
or the low half of the SRTCP index, is in the first two of these.

* `AesCmSha1.rtpEncrypt_blocks`, `AesCmSha1.rtcpEncrypt_blocks`: the blocks that an encryption
  consumes;
* `counterBlocks_disjoint`: when two packets consume no block in common.
-/

namespace LibSrtp

open Exec Bytes CounterMode

/-! ## IVs as counter blocks -/

theorem xorStream_congr {ks ks' : ℕ → UInt8} {xs : Bytes} (h : ∀ i < xs.length, ks i = ks' i) :
    xorStream ks xs = xorStream ks' xs := by
  apply List.ext_getElem?
  intro i
  rw [getElem?_xorStream, getElem?_xorStream]
  rcases Nat.lt_or_ge i xs.length with hlt | hge
  · rw [h i hlt]
  · rw [List.getElem?_eq_none hge]
    rfl

theorem take_xorStream (ks : ℕ → UInt8) (xs : Bytes) (n : ℕ) :
    (xorStream ks xs).take n = xorStream ks (xs.take n) := by
  apply List.ext_getElem?
  intro i
  rw [getElem?_xorStream, List.getElem?_take, List.getElem?_take, getElem?_xorStream]
  split <;> rfl

/-- A field behind a string is not in it. -/
theorem xorStream_field_of_le {off : ℕ} {xs : Bytes} (ys : Bytes) (h : xs.length ≤ off) :
    xorStream (field off ys) xs = xs := by
  apply List.ext_getElem?
  intro i
  rw [getElem?_xorStream]
  rcases Nat.lt_or_ge i xs.length with hlt | hge
  · rw [field_of_lt ys (hlt.trans_le h), List.getElem?_eq_getElem hlt]
    simp
  · rw [List.getElem?_eq_none hge]
    rfl

/-- What is behind a field stays as it was. -/
theorem drop_xorStream_field {off n : ℕ} {ys : Bytes} (xs : Bytes) (h : off + ys.length ≤ n) :
    (xorStream (field off ys) xs).drop n = xs.drop n := by
  apply List.ext_getElem?
  intro i
  rw [List.getElem?_drop, List.getElem?_drop, getElem?_xorStream, field_of_ge (by omega)]
  cases xs[n + i]? with
  | none => rfl
  | some x => simp

/-- The high half of an integer comes first. -/
theorem toBe_four (x : ℕ) : toBe 4 x = toBe 2 (x / 2 ^ 16) ++ toBe 2 x := by
  simp only [toBe, List.nil_append, Nat.div_div_eq_div_mul, List.cons_append]
  rfl

namespace AesCmSha1

variable {salt : ByteArr 14}

theorem length_saltIv_take : ((saltIv salt).1.take 12).length = 12 := by
  rw [List.length_take, (saltIv salt).2]
  rfl

theorem base_rtpIv (header : RtpHeader) (roc : UInt32) : base (rtpIv salt header roc) =
    xorStream (field 8 (toBe 4 roc.toNat))
      (xorStream (field 4 (toBe 4 header.ssrc.toNat)) ((saltIv salt).1.take 12)) := by
  show (xorStream _ (xorStream _ (xorStream _ (saltIv salt).1))).take 12 = _
  rw [take_xorStream, take_xorStream, take_xorStream, xorStream_field_of_le]
  simp [(saltIv salt).2]

theorem base_rtcpIv (header : RtcpHeader) (index : UInt32) : base (rtcpIv salt header index) =
    xorStream (field 10 (toBe 2 (index.toNat / 2 ^ 16)))
      (xorStream (field 4 (toBe 4 header.ssrc.toNat)) ((saltIv salt).1.take 12)) := by
  show (xorStream _ (xorStream _ (saltIv salt).1)).take 12 = _
  rw [take_xorStream, take_xorStream, toBe_four index.toNat]
  refine xorStream_congr fun i hi => ?_
  -- the low half of the index is behind the first twelve bytes
  have hlt : i < 12 := by simpa [(saltIv salt).2] using hi
  unfold field
  split
  · rw [List.getD_append _ _ _ _ (by rw [length_toBe]; omega)]
  · rfl

/-- The first twelve bytes of an SRTP IV tell the SSRC and the ROC. -/
theorem base_rtpIv_eq_iff {header header' : RtpHeader} {roc roc' : UInt32} :
    base (rtpIv salt header roc) = base (rtpIv salt header' roc') ↔
      header.ssrc = header'.ssrc ∧ roc = roc' := by
  rw [base_rtpIv, base_rtpIv]
  constructor
  · intro h
    obtain ⟨hssrc, hroc⟩ := two_fields (length_toBe_eq ..) (length_toBe_eq ..) (by rw [length_toBe])
      (by rw [length_toBe, length_saltIv_take]) h
    exact ⟨toBe_u32_inj hssrc, toBe_u32_inj hroc⟩
  · rintro ⟨hssrc, rfl⟩
    rw [hssrc]

/-- Those of an SRTCP IV tell the SSRC and the high half of the index. -/
theorem base_rtcpIv_eq_iff {header header' : RtcpHeader} {index index' : UInt32} :
    base (rtcpIv salt header index) = base (rtcpIv salt header' index') ↔
      header.ssrc = header'.ssrc ∧ index.toNat / 2 ^ 16 = index'.toNat / 2 ^ 16 := by
  rw [base_rtcpIv, base_rtcpIv]
  constructor
  · intro h
    obtain ⟨hssrc, hindex⟩ := two_fields (length_toBe_eq ..) (length_toBe_eq ..)
      (by rw [length_toBe]; decide) (by rw [length_toBe, length_saltIv_take]) h
    have hlt : ∀ x : UInt32, x.toNat / 2 ^ 16 < 256 ^ 2 :=
      fun x => Nat.div_lt_of_lt_mul x.toNat_lt
    exact ⟨toBe_u32_inj hssrc, toBe_inj (hlt _) (hlt _) hindex⟩
  · rintro ⟨hssrc, hindex⟩
    rw [hssrc, hindex]

/-- A counter whose last two bytes are zero. -/
theorem counter_mod_of_drop {iv : ByteArr 16} (h : iv.1.drop 14 = [0, 0]) :
    counter iv % 2 ^ 16 = 0 := by
  have hsplit : iv.1.drop 12 = (iv.1.drop 12).take 2 ++ [0] ++ [0] := by
    have happend := (List.take_append_drop 2 (iv.1.drop 12)).symm
    rw [List.drop_drop, h] at happend
    rw [List.append_assoc]
    exact happend
  unfold counter
  rw [hsplit, fromBe_append_singleton, fromBe_append_singleton]
  simp only [UInt8.toNat_zero]
  omega

theorem counter_rtpIv (header : RtpHeader) (roc : UInt32) :
    counter (rtpIv salt header roc) % 2 ^ 16 = 0 := by
  refine counter_mod_of_drop ?_
  show (xorStream _ (xorStream _ (xorStream _ (saltIv salt).1))).drop 14 = _
  rw [drop_xorStream_field _ (by rw [length_toBe]),
    drop_xorStream_field _ (by rw [length_toBe]; decide),
    drop_xorStream_field _ (by rw [length_toBe]; decide)]
  exact List.drop_left' salt.2

theorem counter_rtcpIv (header : RtcpHeader) (index : UInt32) :
    counter (rtcpIv salt header index) % 2 ^ 16 = 0 := by
  refine counter_mod_of_drop ?_
  show (xorStream _ (xorStream _ (saltIv salt).1)).drop 14 = _
  rw [drop_xorStream_field _ (by rw [length_toBe]),
    drop_xorStream_field _ (by rw [length_toBe]; decide)]
  exact List.drop_left' salt.2

/-! ## Encryption -/

/-- The counter blocks of a payload. -/
def rtpBlocks (t : AesCmSha1) (packet : Bytes) (header : RtpHeader) (roc : UInt32) :
    Set (ByteArr 16) :=
  match t.rtpKey.salt with
  | some salt => blocks (rtpIv salt header roc) (packet.length - header.len)
  | none => ∅

def rtcpBlocks (t : AesCmSha1) (packet : Bytes) (header : RtcpHeader) (index : UInt32) :
    Set (ByteArr 16) :=
  match t.rtcpKey.salt with
  | some salt => blocks (rtcpIv salt header index) (packet.length - RtcpHeader.len)
  | none => ∅

variable [Crates]

/-- The crate's counter mode over a block cipher: block `k` of the keystream is the counter block `k`,
encrypted. -/
def IsCtr32BE (encryptBlock : Bytes → ByteArr 16 → ByteArr 16) : Prop :=
  ∀ key iv n,
    Crates.keystream key iv n = (encryptBlock key (counterBlock iv (n / 16))).1.getD (n % 16) 0

omit [Crates] in
example (encryptBlock : Bytes → ByteArr 16 → ByteArr 16) :
    ∃ crates : Crates, @IsCtr32BE crates encryptBlock :=
  ⟨{ Crates.tabulated [] [] with
      keystream := fun key iv n => (encryptBlock key (counterBlock iv (n / 16))).1.getD (n % 16) 0 },
    fun _ _ _ => rfl⟩

theorem aesCtrFrom_ok {keySize start : ℕ} {key packet out : Bytes} {iv : ByteArr 16}
    (h : aesCtrFrom keySize key iv packet start = .ok out) : start ≤ packet.length ∧
      out = packet.take start ++ xorStream (Crates.keystream key iv) (packet.drop start) := by
  obtain ⟨hle, -, -, hout⟩ := aesCtrFrom_eq_ok.mp h
  exact ⟨hle, hout⟩

theorem rtpEncrypt_ok {t : AesCmSha1} {packet out : Bytes} {header : RtpHeader} {roc : UInt32}
    (h : t.rtpEncrypt packet header roc = .ok out) :
    ∃ key salt, t.rtpKey.key = some key ∧ t.rtpKey.salt = some salt ∧ header.len ≤ packet.length ∧
      out = packet.take header.len ++
        xorStream (Crates.keystream key (rtpIv salt header roc)) (packet.drop header.len) := by
  obtain ⟨key, hkey, h⟩ := bind_eq_ok.mp h
  obtain ⟨salt, hsalt, h⟩ := bind_eq_ok.mp h
  refine ⟨key, salt, okOr_eq_ok.mp hkey, okOr_eq_ok.mp hsalt, ?_⟩
  dsimp only at h
  split at h
  all_goals first | exact aesCtrFrom_ok h | exact absurd h fail_ne_ok

theorem rtcpEncrypt_ok {t : AesCmSha1} {packet out : Bytes} {header : RtcpHeader} {index : UInt32}
    (h : t.rtcpEncrypt packet header index = .ok out) :
    ∃ key salt, t.rtcpKey.key = some key ∧ t.rtcpKey.salt = some salt ∧
      RtcpHeader.len ≤ packet.length ∧ out = packet.take RtcpHeader.len ++
        xorStream (Crates.keystream key (rtcpIv salt header index)) (packet.drop RtcpHeader.len) := by
  obtain ⟨key, hkey, h⟩ := bind_eq_ok.mp h
  obtain ⟨salt, hsalt, h⟩ := bind_eq_ok.mp h
  refine ⟨key, salt, okOr_eq_ok.mp hkey, okOr_eq_ok.mp hsalt, ?_⟩
  dsimp only at h
  split at h
  all_goals first | exact aesCtrFrom_ok h | exact absurd h fail_ne_ok

omit [Crates] in
theorem getD_cipher {packet : Bytes} {start i : ℕ} (ks : ℕ → UInt8) (hs : start ≤ packet.length)
    (hi : i < packet.length - start) :
    (packet.take start ++ xorStream ks (packet.drop start)).getD (start + i) 0 =
      packet.getD (start + i) 0 ^^^ ks i := by
  have hlen : (packet.take start).length = start := by rw [List.length_take]; omega
  rw [List.getD_append_right _ _ _ _ (by omega), hlen, Nat.add_sub_cancel_left,
    getD_xorStream _ (by rw [List.length_drop]; omega)]
  simp only [List.getD_eq_getElem?_getD, List.getElem?_drop]

/-- Every byte of the payload of `packet` is xored with a byte of one of these blocks, encrypted. -/
def Consumes (encryptBlock : Bytes → ByteArr 16 → ByteArr 16) (sessionKey : Option Bytes)
    (used : Set (ByteArr 16)) (start : Nat) (packet out : Bytes) : Prop :=
  ∃ key, sessionKey = some key ∧ ∀ i < packet.length - start, ∃ c ∈ used,
    out.getD (start + i) 0 = packet.getD (start + i) 0 ^^^ (encryptBlock key c).1.getD (i % 16) 0

/-- A cipher in counter mode consumes the blocks of its payload. -/
theorem consumes_of_cipher {encryptBlock : Bytes → ByteArr 16 → ByteArr 16}
    (hctr : IsCtr32BE encryptBlock) (key : Bytes) (iv : ByteArr 16) {packet : Bytes} {start : Nat}
    (hs : start ≤ packet.length) (tail : Bytes) :
    Consumes encryptBlock (some key) (blocks iv (packet.length - start)) start packet
      (packet.take start ++ xorStream (Crates.keystream key iv) (packet.drop start) ++ tail) := by
  refine ⟨key, rfl, fun i hi => ⟨counterBlock iv (i / 16), ⟨i, hi, rfl⟩, ?_⟩⟩
  have hlen : (packet.take start ++
      xorStream (Crates.keystream key iv) (packet.drop start)).length = packet.length := by
    rw [List.length_append, List.length_take, length_xorStream, List.length_drop]
    omega
  rw [List.getD_append _ _ _ _ (by omega), getD_cipher _ hs hi, hctr]

theorem rtpEncrypt_blocks {encryptBlock : Bytes → ByteArr 16 → ByteArr 16}
    (hctr : IsCtr32BE encryptBlock) {t : AesCmSha1} {packet out : Bytes} {header : RtpHeader}
    {roc : UInt32} (h : t.rtpEncrypt packet header roc = .ok out) :
    Consumes encryptBlock t.rtpKey.key (t.rtpBlocks packet header roc) header.len packet out := by
  obtain ⟨key, salt, hkey, hsalt, hle, rfl⟩ := rtpEncrypt_ok h
  have hconsumes := consumes_of_cipher hctr key (rtpIv salt header roc) hle []
  unfold rtpBlocks
  rw [hsalt]
  rwa [List.append_nil, ← hkey] at hconsumes

theorem rtcpEncrypt_blocks {encryptBlock : Bytes → ByteArr 16 → ByteArr 16}
    (hctr : IsCtr32BE encryptBlock) {t : AesCmSha1} {packet out : Bytes} {header : RtcpHeader}
    {index : UInt32} (h : t.rtcpEncrypt packet header index = .ok out) :
    Consumes encryptBlock t.rtcpKey.key (t.rtcpBlocks packet header index) RtcpHeader.len packet
      out := by
  obtain ⟨key, salt, hkey, hsalt, hle, rfl⟩ := rtcpEncrypt_ok h
  have hconsumes := consumes_of_cipher hctr key (rtcpIv salt header index) hle []
  unfold rtcpBlocks
  rw [hsalt]
  rwa [List.append_nil, ← hkey] at hconsumes

omit [Crates] in
/-- Blocks of IVs that differ, for payloads of at most `2^20` bytes. -/
theorem disjoint_of_short {iv iv' : ByteArr 16} {n n' : ℕ} (hne : iv ≠ iv')
    (h : counter iv % 2 ^ 16 = 0) (h' : counter iv' % 2 ^ 16 = 0) (hn : n ≤ 2 ^ 20)
    (hn' : n' ≤ 2 ^ 20) : Disjoint (blocks iv n) (blocks iv' n') := by
  refine (disjoint_blocks_iff (hn.trans (by decide)) (hn'.trans (by decide))).mpr ?_
  rcases eq_or_ne (base iv) (base iv') with hbase | hbase
  · have hcounter : counter iv ≠ counter iv' := fun heq => hne (CounterMode.ext hbase heq)
    exact .inr (apart_of_short hcounter h h' hn hn')
  · exact .inl hbase

omit [Crates] in
theorem rtpBlocks_disjoint_iff {t : AesCmSha1} {salt : ByteArr 14} (hsalt : t.rtpKey.salt = some salt)
    {packet packet' : Bytes} (hl : packet.length < 2 ^ 36) (hl' : packet'.length < 2 ^ 36)
    (header header' : RtpHeader) (roc roc' : UInt32) :
    Disjoint (t.rtpBlocks packet header roc) (t.rtpBlocks packet' header' roc') ↔
      (header.ssrc ≠ header'.ssrc ∨ roc ≠ roc') ∨
        Apart (rtpIv salt header roc) (rtpIv salt header' roc') (packet.length - header.len)
          (packet'.length - header'.len) := by
  unfold rtpBlocks
  rw [hsalt]
  dsimp only
  rw [disjoint_blocks_iff (by omega) (by omega), ne_eq, base_rtpIv_eq_iff, not_and_or]

omit [Crates] in
theorem rtcpBlocks_disjoint_iff {t : AesCmSha1} {salt : ByteArr 14}
    (hsalt : t.rtcpKey.salt = some salt) {packet packet' : Bytes} (hl : packet.length < 2 ^ 36)
    (hl' : packet'.length < 2 ^ 36) (header header' : RtcpHeader) (index index' : UInt32) :
    Disjoint (t.rtcpBlocks packet header index) (t.rtcpBlocks packet' header' index') ↔
      (header.ssrc ≠ header'.ssrc ∨ index.toNat / 2 ^ 16 ≠ index'.toNat / 2 ^ 16) ∨
        Apart (rtcpIv salt header index) (rtcpIv salt header' index')
          (packet.length - RtcpHeader.len) (packet'.length - RtcpHeader.len) := by
  unfold rtcpBlocks
  rw [hsalt]
  dsimp only
  rw [disjoint_blocks_iff (by omega) (by omega), ne_eq, base_rtcpIv_eq_iff, not_and_or]

end AesCmSha1

open AesCmSha1

/-- Two packets with different SSRCs, ROCs or sequence numbers, or SSRCs and SRTCP indices, consume no
counter block in common, unless they agree in all but the sequence number, or the low half of the
index, and one of them is so long that its counter reaches the IV of the other. Payloads of at most
`2^20` bytes are never so long. These are the blocks that encrypted give the keystream of the packet,
if the crate counts up in the last four bytes. -/
theorem counterBlocks_disjoint [Crates] (t : AesCmSha1) :
    (∀ packet packet' header header' roc roc' out out',
      t.rtpEncrypt packet header roc = .ok out → t.rtpEncrypt packet' header' roc' = .ok out' →
      packet.length < 2 ^ 36 → packet'.length < 2 ^ 36 →
      (header.ssrc, roc, header.seqNum) ≠ (header'.ssrc, roc', header'.seqNum) →
      (Disjoint (t.rtpBlocks packet header roc) (t.rtpBlocks packet' header' roc') ↔
        (header.ssrc ≠ header'.ssrc ∨ roc ≠ roc') ∨ ∃ salt, t.rtpKey.salt = some salt ∧
          Apart (rtpIv salt header roc) (rtpIv salt header' roc') (packet.length - header.len)
            (packet'.length - header'.len)) ∧
      (packet.length - header.len ≤ 2 ^ 20 → packet'.length - header'.len ≤ 2 ^ 20 →
        Disjoint (t.rtpBlocks packet header roc) (t.rtpBlocks packet' header' roc'))) ∧
    (∀ packet packet' header header' index index' out out',
      t.rtcpEncrypt packet header index = .ok out →
      t.rtcpEncrypt packet' header' index' = .ok out' →
      packet.length < 2 ^ 36 → packet'.length < 2 ^ 36 →
      (header.ssrc, index) ≠ (header'.ssrc, index') →
      (Disjoint (t.rtcpBlocks packet header index) (t.rtcpBlocks packet' header' index') ↔
        (header.ssrc ≠ header'.ssrc ∨ index.toNat / 2 ^ 16 ≠ index'.toNat / 2 ^ 16) ∨
          ∃ salt, t.rtcpKey.salt = some salt ∧ Apart (rtcpIv salt header index)
            (rtcpIv salt header' index') (packet.length - RtcpHeader.len)
            (packet'.length - RtcpHeader.len)) ∧
      (packet.length - RtcpHeader.len ≤ 2 ^ 20 → packet'.length - RtcpHeader.len ≤ 2 ^ 20 →
        Disjoint (t.rtcpBlocks packet header index) (t.rtcpBlocks packet' header' index'))) ∧
    ∀ encryptBlock, IsCtr32BE encryptBlock →
      (∀ packet header roc out, t.rtpEncrypt packet header roc = .ok out →
        Consumes encryptBlock t.rtpKey.key (t.rtpBlocks packet header roc) header.len packet out) ∧
      ∀ packet header index out, t.rtcpEncrypt packet header index = .ok out →
        Consumes encryptBlock t.rtcpKey.key (t.rtcpBlocks packet header index) RtcpHeader.len packet
          out := by
  refine ⟨?_, ?_, fun _ hctr => ⟨fun _ _ _ _ => rtpEncrypt_blocks hctr,
    fun _ _ _ _ => rtcpEncrypt_blocks hctr⟩⟩
  · intro packet packet' header header' roc roc' out out' hout _ hl hl' hne
    obtain ⟨key, salt, -, hsalt, -⟩ := rtpEncrypt_ok hout
    constructor
    · rw [rtpBlocks_disjoint_iff hsalt hl hl', hsalt]
      simp only [Option.some.injEq, exists_eq_left']
    · intro hn hn'
      have hiv : rtpIv salt header roc ≠ rtpIv salt header' roc' := by
        intro heq
        obtain ⟨hssrc, hroc, hseq⟩ := rtpIv_inj heq
        exact hne (by rw [hssrc, hroc, hseq])
      unfold rtpBlocks
      rw [hsalt]
      exact disjoint_of_short hiv (counter_rtpIv ..) (counter_rtpIv ..) hn hn'
  · intro packet packet' header header' index index' out out' hout _ hl hl' hne
    obtain ⟨key, salt, -, hsalt, -⟩ := rtcpEncrypt_ok hout
    constructor
    · rw [rtcpBlocks_disjoint_iff hsalt hl hl', hsalt]
      simp only [Option.some.injEq, exists_eq_left']
    · intro hn hn'
      have hiv : rtcpIv salt header index ≠ rtcpIv salt header' index' := by
        intro heq
        obtain ⟨hssrc, hindex⟩ := rtcpIv_inj heq
        exact hne (by rw [hssrc, hindex])
      unfold rtcpBlocks
      rw [hsalt]
      exact disjoint_of_short hiv (counter_rtcpIv ..) (counter_rtcpIv ..) hn hn'

section Example

open Vectors

attribute [local instance] crates

/-- The transform of the key of the examples. -/
def exampleTransform : AesCmSha1 where
  rtpProfile := .aes128CmHmacSha180
  rtcpProfile := .aes128CmHmacSha180
  rtpKey := ⟨some rtpKey, some ⟨rtpSalt, rfl⟩, some ⟨rtpAuthKey, rfl⟩⟩
  rtcpKey := ⟨some rtcpKey, some ⟨rtcpSalt, rfl⟩, some ⟨rtcpAuthKey, rfl⟩⟩
  mki := none

theorem new_eq_exampleTransform :
    AesCmSha1.new masterKey masterSalt none .aes128CmHmacSha180 .aes128CmHmacSha180 =
      .ok exampleTransform := by decide +kernel

theorem exampleTransform_rtpEncrypt {packet : Bytes} {header : RtpHeader} (roc : UInt32)
    (h : header.len ≤ packet.length) (hl : packet.length < 2 ^ 36) :
    ∃ out, exampleTransform.rtpEncrypt packet header roc = .ok out := by
  have hlimit : 2 ^ 36 ≤ Crates.keystreamLimit := lawful.keystreamLimit_ge
  exact ⟨_, aesCtrFrom_eq_ok.mpr ⟨h, rfl, by omega, rfl⟩⟩

/-- The blocks of a packet with sequence number 0 and more than `2^20` bytes of payload reach those
of sequence number 3: their counters start at `0x9ae10000` and `0x9ae20000`. -/
theorem long_payload_overlaps : ¬ ∀ (masterKey masterSalt : Bytes) (mki : Mki)
    (rtpProfile rtcpProfile : ProtectionProfile) (t : AesCmSha1) (packet packet' : Bytes)
    (header header' : RtpHeader) (roc roc' : UInt32) (out out' : Bytes),
    AesCmSha1.new masterKey masterSalt mki rtpProfile rtcpProfile = .ok t →
    RtpHeader.new packet = .ok header → RtpHeader.new packet' = .ok header' →
    t.rtpEncrypt packet header roc = .ok out → t.rtpEncrypt packet' header' roc' = .ok out' →
    packet.length < 2 ^ 36 → packet'.length < 2 ^ 36 →
    (header.ssrc, roc, header.seqNum) ≠ (header'.ssrc, roc', header'.seqNum) →
    Disjoint (t.rtpBlocks packet header roc) (t.rtpBlocks packet' header' roc') := by
  intro h
  have hparse : ∀ (seqNum : UInt16) (header : RtpHeader) (payload : Bytes),
      RtpHeader.new (rtpHeader 0xcafebabe seqNum) = .ok header → header.len = 12 →
      (rtpHeader 0xcafebabe seqNum).length = 12 →
      RtpHeader.new (rtpHeader 0xcafebabe seqNum ++ payload) = .ok header := by
    intro seqNum header payload hn hlen hlength
    refine RtpHeader.new_congr hn ?_ ?_
    · rw [List.length_append]
      omega
    · rw [List.take_append_of_le_length (by omega)]
  have hlong : ∀ payload : Bytes, 2 ^ 20 < payload.length → payload.length < 2 ^ 21 → False := by
    intro payload hlo hhi
    have hp := hparse 0 ⟨0, 0xcafebabe, 12⟩ payload (by decide) rfl rfl
    have hp' := hparse 3 ⟨3, 0xcafebabe, 12⟩ [0] (by decide) rfl rfl
    have hlen : (rtpHeader 0xcafebabe 0 ++ payload).length = 12 + payload.length := by
      rw [List.length_append]
      rfl
    obtain ⟨out, hout⟩ := exampleTransform_rtpEncrypt 0 (RtpHeader.len_le hp).2 (by omega)
    obtain ⟨out', hout'⟩ := exampleTransform_rtpEncrypt 0 (RtpHeader.len_le hp').2 (by decide)
    have hdisjoint := h _ _ _ _ _ _ _ _ _ _ _ _ _ _
      new_eq_exampleTransform hp hp' hout hout' (by omega) (by decide) (by decide)
    have hsalt : exampleTransform.rtpKey.salt = some ⟨rtpSalt, rfl⟩ := rfl
    rw [rtpBlocks_disjoint_iff hsalt (by omega) (by decide)] at hdisjoint
    rcases hdisjoint with (hne | hne) | hzero | hzero | ⟨hle, -⟩
    · exact hne rfl
    · exact hne rfl
    · rw [hlen] at hzero
      dsimp only at hzero
      omega
    · exact absurd hzero (by decide)
    · have hahead : ahead (rtpIv ⟨rtpSalt, rfl⟩ ⟨0, 0xcafebabe, 12⟩ 0)
          (rtpIv ⟨rtpSalt, rfl⟩ ⟨3, 0xcafebabe, 12⟩ 0) = 2 ^ 16 := by decide +kernel
      rw [hlen, hahead] at hle
      dsimp only at hle
      omega
  exact hlong (List.replicate (2 ^ 20 + 1) 0) (by rw [List.length_replicate]; omega)
    (by rw [List.length_replicate]; omega)

end Example

end LibSrtp
