import LibSrtp.SessionRun
import LibSrtp.Vectors

/-!
# What validation promises

`StreamConfig.validate` guards every way into a session. `validate_iff` says what it accepts; two
promises follow from that, each with one gap.

* `mkiConsistency_iff`: the MKIs of several keys are distinct and of one length, unless the first
  one is empty: the size `0` stands for a size not known yet, so the second key sets it again.
* `usable_iff_same_family`: the streams of a valid configuration can be built, unless one of its
  profiles is an AES-GCM one and the other is not: without salt nothing tells the two apart.
-/

namespace LibSrtp

open Exec PacketStream

namespace StreamConfig

/-! ## What `validate` accepts -/

/-- The profiles fit the sizes of the keys and salts. -/
structure SizesMatch (c : StreamConfig) (keySize saltSize : Nat) : Prop where
  rtpKey : c.rtpProfile.keyLen = 0 ∨ c.rtpProfile.keyLen = keySize
  rtcpKey : c.rtcpProfile.keyLen = 0 ∨ c.rtcpProfile.keyLen = keySize
  nullCiphers : c.rtpProfile.keyLen = 0 → c.rtcpProfile.keyLen = 0 → AesKeySize keySize
  rtpSalt : saltSize = 0 ∨ c.rtpProfile.saltLen = saltSize
  rtcpSalt : saltSize = 0 ∨ c.rtcpProfile.saltLen = saltSize

/-- The RTCP profile has a full tag, or needs none. -/
def FullRtcpTag (c : StreamConfig) : Prop :=
  10 ≤ c.rtcpProfile.tagLen ∨ c.rtcpProfile.isAead = true

theorem saltLen_pos (p : ProtectionProfile) : 0 < p.saltLen := by cases p <;> decide

theorem validateSizes_iff {c : StreamConfig} {keySize saltSize : Nat} :
    c.validateSizes keySize saltSize = .ok () ↔ c.SizesMatch keySize saltSize := by
  have hs := saltLen_pos c.rtpProfile
  have hs' := saltLen_pos c.rtcpProfile
  unfold validateSizes
  split_ifs with h1 h2 h3 h4 h5
  · refine iff_of_false fail_ne_ok fun h => ?_
    rcases h.rtpKey with h | h <;> omega
  · refine iff_of_false fail_ne_ok fun h => ?_
    rcases h.rtcpKey with h | h <;> omega
  · refine iff_of_false fail_ne_ok fun h => ?_
    rcases h.nullCiphers h3.1 h3.2.1 with h | h | h <;> omega
  · refine iff_of_false fail_ne_ok fun h => ?_
    rcases h.rtpSalt with h | h <;> omega
  · refine iff_of_false fail_ne_ok fun h => ?_
    rcases h.rtcpSalt with h | h <;> omega
  · refine iff_of_true rfl ⟨by omega, by omega, fun hr hc => ?_, by omega, by omega⟩
    unfold AesKeySize
    omega

theorem fullRtcpTag_iff {c : StreamConfig} : c.FullRtcpTag ↔
    ¬ (c.rtcpProfile.tagLen < 10 ∧ c.rtcpProfile ≠ .aeadAes128Gcm ∧
      c.rtcpProfile ≠ .aeadAes256Gcm) := by
  unfold FullRtcpTag
  cases c.rtcpProfile <;> decide

/-- The loop of `validate` over several keys. -/
def keyLoop (c : StreamConfig) : Res (Nat × List Bytes) :=
  match c.keys with
  | [] => fail .invalidProfile
  | first :: _ => c.keys.foldlM (validateKey first.key.length first.salt.length) (0, [])

theorem validate_iff {c : StreamConfig} {first : MasterKey} {rest : List MasterKey}
    (hk : c.keys = first :: rest) : c.validate = .ok () ↔
      c.FullRtcpTag ∧ c.SizesMatch first.key.length first.salt.length ∧
        (rest ≠ [] → ∃ found, c.keyLoop = .ok found) := by
  rw [fullRtcpTag_iff, ← validateSizes_iff]
  unfold validate keyLoop
  simp only [hk]
  split
  · next htag => exact iff_of_false fail_ne_ok fun h => h.1 htag
  · next htag =>
    cases rest with
    | nil => simp [htag]
    | cons second rest =>
      rw [if_pos (by simp), bind_eq_ok]
      constructor
      · rintro ⟨found, hloop, hsizes⟩
        exact ⟨htag, hsizes, fun _ => ⟨found, hloop⟩⟩
      · rintro ⟨-, hsizes, hloop⟩
        obtain ⟨found, hloop⟩ := hloop (by simp)
        exact ⟨found, hloop, hsizes⟩

/-! ## The loop over the keys -/

/-- One turn of the loop. -/
theorem validateKey_iff {keySize saltSize : Nat} {found found' : Nat × List Bytes}
    {key : MasterKey} : validateKey keySize saltSize found key = .ok found' ↔
      ∃ mki, key.mki = some mki ∧ (found.1 = 0 ∨ found.1 = mki.length) ∧ mki ∉ found.2 ∧
        key.key.length = keySize ∧ key.salt.length = saltSize ∧
        found' = (mki.length, mki :: found.2) := by
  refine ⟨validateKey_eq_ok, ?_⟩
  rintro ⟨mki, hmki, hsize, hseen, hk, hs, rfl⟩
  unfold validateKey
  rw [hmki]
  dsimp only
  have hlast : ¬ (key.key.length ≠ keySize ∨ key.salt.length ≠ saltSize) := by simp [hk, hs]
  have htail : ∀ n : Nat, (if mki ∈ found.2 then fail .invalidProfile
      else if key.key.length ≠ keySize ∨ key.salt.length ≠ saltSize then fail .invalidProfile
      else .ok (n, mki :: found.2) : Res (Nat × List Bytes)) = .ok (n, mki :: found.2) := by
    intro n
    rw [if_neg hseen, if_neg hlast]
  simp only [ok_bind, htail]
  rcases hsize with h0 | hsize
  · rw [if_pos h0]
  · rw [hsize, if_neg (not_not.mpr rfl), ite_self]

/-- What the loop asks of a key once it knows the sizes. -/
structure Fits (keySize saltSize mkiSize : Nat) (k : MasterKey) : Prop where
  key : k.key.length = keySize
  salt : k.salt.length = saltSize
  mki : ∃ mki, k.mki = some mki ∧ mki.length = mkiSize

/-- Once the size of the MKIs is known the loop asks for distinct MKIs of that size. -/
theorem loop_iff {keySize saltSize mkiSize : Nat} (hpos : 0 < mkiSize) {seen : List Bytes}
    {keys : List MasterKey} :
    (∃ found, keys.foldlM (validateKey keySize saltSize) (mkiSize, seen) = .ok found) ↔
      (∀ key ∈ keys, Fits keySize saltSize mkiSize key) ∧ (keys.map (·.mki)).Nodup ∧
        ∀ mki ∈ seen, some mki ∉ keys.map (·.mki) := by
  constructor
  · rintro ⟨found, h⟩
    obtain ⟨hall, hnodup⟩ := validate_keys_eq_ok h
    refine ⟨fun key hk => ?_, hnodup, fun mki hseen hmem => ?_⟩
    · obtain ⟨hkey, hsalt, mki, hmki, -, hlen⟩ := hall key hk
      exact ⟨hkey, hsalt, mki, hmki, hlen hpos⟩
    · obtain ⟨key, hk, heq⟩ := List.mem_map.mp hmem
      obtain ⟨-, -, mki', hmki, hnot, -⟩ := hall key hk
      obtain rfl := Option.some.inj (heq.symm.trans hmki)
      exact hnot hseen
  · rintro ⟨hfits, hnodup, hseen⟩
    induction keys generalizing seen with
    | nil => exact ⟨_, rfl⟩
    | cons key keys ih =>
      rw [List.map_cons, List.nodup_cons] at hnodup
      have hfit := hfits key List.mem_cons_self
      obtain ⟨mki, hmki, hlen⟩ := hfit.mki
      have hnew : mki ∉ seen := fun h => hseen mki h (by rw [List.map_cons, hmki]; simp)
      have hturn : validateKey keySize saltSize (mkiSize, seen) key = .ok (mkiSize, mki :: seen) :=
        validateKey_iff.mpr ⟨mki, hmki, .inr hlen.symm, hnew, hfit.key, hfit.salt, by rw [hlen]⟩
      rw [List.foldlM_cons, hturn, ok_bind]
      refine ih (fun k hk => hfits k (List.mem_cons_of_mem _ hk)) hnodup.2 fun m hm hmem => ?_
      rcases List.mem_cons.mp hm with rfl | hm
      · exact hnodup.1 (hmki ▸ hmem)
      · exact hseen m hm (List.mem_cons_of_mem _ hmem)

/-- The first key gives the sizes. An empty MKI leaves the size of the others open. -/
theorem keyLoop_iff {c : StreamConfig} {first : MasterKey} {rest : List MasterKey}
    (hk : c.keys = first :: rest) : (∃ found, c.keyLoop = .ok found) ↔
      ∃ mki, first.mki = some mki ∧ ∃ found,
        rest.foldlM (validateKey first.key.length first.salt.length) (mki.length, [mki]) =
          .ok found := by
  unfold keyLoop
  simp only [hk, List.foldlM_cons, bind_eq_ok, validateKey_iff]
  constructor
  · rintro ⟨found, _, ⟨mki, hmki, -, -, -, -, rfl⟩, h⟩
    exact ⟨mki, hmki, found, h⟩
  · rintro ⟨mki, hmki, found, h⟩
    exact ⟨found, _, ⟨mki, hmki, by simp⟩, h⟩

end StreamConfig

/-! ## MKIs -/

/-- The keys of a stream can be told apart by the MKI, found at one place in every packet. -/
structure Consistent (keys : List MasterKey) : Prop where
  mki : ∀ key ∈ keys, key.mki ≠ none
  mkiLen : ∀ key ∈ keys, ∀ key' ∈ keys, (mkiBytes key.mki).length = (mkiBytes key'.mki).length
  distinct : (keys.map (·.mki)).Nodup
  keyLen : ∀ key ∈ keys, ∀ key' ∈ keys, key.key.length = key'.key.length
  saltLen : ∀ key ∈ keys, ∀ key' ∈ keys, key.salt.length = key'.salt.length

/-- Valid configurations have consistent keys, and consistent keys pass the loop. -/
structure MkiConsistency (c : StreamConfig) : Prop where
  sound : c.validate = .ok () → Consistent c.keys
  complete : Consistent c.keys → ∃ found, c.keyLoop = .ok found

/-- The first MKI is empty, the others are consistent and not empty, and all sizes fit. -/
structure EmptyMkiFirst (c : StreamConfig) (first : MasterKey) (rest : List MasterKey) : Prop where
  keys : c.keys = first :: rest
  empty : first.mki = some []
  others : Consistent rest
  nonempty : ∀ key ∈ rest, key.mki ≠ some []
  sizes : ∀ key ∈ rest,
    key.key.length = first.key.length ∧ key.salt.length = first.salt.length
  rtcpTag : c.FullRtcpTag
  profiles : c.SizesMatch first.key.length first.salt.length

namespace Consistent

open StreamConfig

variable {first second : MasterKey} {rest keys : List MasterKey}

/-- Consistent keys are keys of one size with distinct MKIs. -/
theorem of_fits {keySize saltSize mkiSize : Nat} (h : ∀ key ∈ keys, Fits keySize saltSize mkiSize key)
    (hn : (keys.map (·.mki)).Nodup) : Consistent keys := by
  have hmki : ∀ key ∈ keys, (mkiBytes key.mki).length = mkiSize := by
    intro key hk
    obtain ⟨mki, hmki, hlen⟩ := (h key hk).mki
    rw [hmki]; exact hlen
  refine ⟨fun key hk => ?_, fun key hk key' hk' => ?_, hn, fun key hk key' hk' => ?_,
    fun key hk key' hk' => ?_⟩
  · obtain ⟨mki, hmki, -⟩ := (h key hk).mki
    rw [hmki]; simp
  · rw [hmki key hk, hmki key' hk']
  · rw [(h key hk).key, (h key' hk').key]
  · rw [(h key hk).salt, (h key' hk').salt]

theorem fits (h : Consistent (first :: rest)) : ∀ key ∈ first :: rest,
    Fits first.key.length first.salt.length (mkiBytes first.mki).length key := by
  intro key hk
  obtain ⟨mki, hmki⟩ := Option.ne_none_iff_exists'.mp (h.mki key hk)
  have hlen := h.mkiLen key hk first List.mem_cons_self
  rw [hmki] at hlen
  exact ⟨h.keyLen key hk first List.mem_cons_self, h.saltLen key hk first List.mem_cons_self,
    mki, hmki, hlen⟩

/-- Two keys of a consistent list have no empty MKI. -/
theorem mki_ne_nil (h : Consistent (first :: second :: rest)) : first.mki ≠ some [] := by
  intro hnil
  have hfit := h.fits second (by simp)
  obtain ⟨mki, hmki, hlen⟩ := hfit.mki
  rw [hnil] at hlen
  obtain rfl := List.length_eq_zero_iff.mp hlen
  have hn := h.distinct
  rw [List.map_cons, List.map_cons, hnil, hmki] at hn
  simp at hn

end Consistent

open StreamConfig in
/-- With an MKI that is not empty in front, the loop accepts consistent keys and no others. -/
theorem keyLoop_iff_consistent {c : StreamConfig} {first : MasterKey} {rest : List MasterKey}
    (hk : c.keys = first :: rest) {mki : Bytes} (hmki : first.mki = some mki) (hne : mki ≠ []) :
    (∃ found, c.keyLoop = .ok found) ↔ Consistent c.keys := by
  have hpos : 0 < mki.length := List.length_pos_iff.mpr hne
  rw [keyLoop_iff hk]
  constructor
  · rintro ⟨mki', hmki', hloop⟩
    obtain rfl := Option.some.inj (hmki.symm.trans hmki')
    obtain ⟨hfits, hnodup, hseen⟩ := (loop_iff hpos).mp hloop
    rw [hk]
    have hall : ∀ key ∈ first :: rest,
        Fits first.key.length first.salt.length mki.length key := by
      intro key hmem
      rcases List.mem_cons.mp hmem with rfl | hmem
      · exact ⟨rfl, rfl, mki, hmki, rfl⟩
      · exact hfits key hmem
    refine .of_fits hall (List.nodup_cons.mpr ⟨?_, hnodup⟩)
    show first.mki ∉ _
    rw [hmki]; exact hseen mki List.mem_cons_self
  · intro h
    rw [hk] at h
    have hn := h.distinct
    rw [List.map_cons, List.nodup_cons, hmki] at hn
    refine ⟨mki, hmki, (loop_iff hpos).mpr ⟨fun key hmem => ?_, hn.2, ?_⟩⟩
    · have hfit := h.fits key (List.mem_cons_of_mem _ hmem)
      rwa [hmki] at hfit
    · intro m hm
      rw [List.mem_singleton.mp hm]
      exact hn.1

open StreamConfig in
/-- With an empty MKI in front, the loop accepts what is consistent and not empty behind it. -/
theorem keyLoop_iff_of_empty {c : StreamConfig} {first second : MasterKey} {rest : List MasterKey}
    (hk : c.keys = first :: second :: rest) (hmki : first.mki = some []) :
    (∃ found, c.keyLoop = .ok found) ↔ Consistent (second :: rest) ∧
      (∀ key ∈ second :: rest, key.mki ≠ some []) ∧ ∀ key ∈ second :: rest,
        key.key.length = first.key.length ∧ key.salt.length = first.salt.length := by
  rw [keyLoop_iff hk]
  -- the second key sets the size of the MKIs
  have hsecond : (∃ mki, first.mki = some mki ∧ ∃ found, (second :: rest).foldlM
        (validateKey first.key.length first.salt.length) (mki.length, [mki]) = .ok found) ↔
      ∃ mki, second.mki = some mki ∧ mki ≠ [] ∧ second.key.length = first.key.length ∧
        second.salt.length = first.salt.length ∧ ∃ found, rest.foldlM
          (validateKey first.key.length first.salt.length) (mki.length, [mki, []]) = .ok found := by
    simp only [hmki, Option.some.injEq, List.foldlM_cons, bind_eq_ok, validateKey_iff,
      exists_eq_left', List.length_nil, List.mem_singleton, true_or, true_and]
    constructor
    · rintro ⟨found, _, ⟨mki, hm, hne, hkey, hsalt, rfl⟩, h⟩
      exact ⟨mki, hm, hne, hkey, hsalt, found, h⟩
    · rintro ⟨mki, hm, hne, hkey, hsalt, found, h⟩
      exact ⟨found, _, ⟨mki, hm, hne, hkey, hsalt, rfl⟩, h⟩
  rw [hsecond]
  constructor
  · rintro ⟨mki, hm, hne, hkey, hsalt, hloop⟩
    have hpos : 0 < mki.length := List.length_pos_iff.mpr hne
    obtain ⟨hfits, hnodup, hseen⟩ := (loop_iff hpos).mp hloop
    have hall : ∀ key ∈ second :: rest,
        Fits first.key.length first.salt.length mki.length key := by
      intro key hmem
      rcases List.mem_cons.mp hmem with rfl | hmem
      · exact ⟨hkey, hsalt, mki, hm, rfl⟩
      · exact hfits key hmem
    refine ⟨.of_fits hall (List.nodup_cons.mpr ⟨?_, hnodup⟩), fun key hmem hnil => ?_,
      fun key hmem => ⟨(hall key hmem).key, (hall key hmem).salt⟩⟩
    · show second.mki ∉ _
      rw [hm]; exact hseen mki List.mem_cons_self
    · obtain ⟨m, hm', hlen⟩ := (hall key hmem).mki
      obtain rfl := Option.some.inj (hm'.symm.trans hnil)
      exact absurd hlen (Nat.ne_of_lt hpos)
  · rintro ⟨hcons, hnonempty, hsizes⟩
    obtain ⟨mki, hm⟩ := Option.ne_none_iff_exists'.mp (hcons.mki second List.mem_cons_self)
    have hne : mki ≠ [] := fun h => hnonempty second List.mem_cons_self (h ▸ hm)
    obtain ⟨hkey, hsalt⟩ := hsizes second List.mem_cons_self
    have hn := hcons.distinct
    rw [List.map_cons, List.nodup_cons, hm] at hn
    refine ⟨mki, hm, hne, hkey, hsalt, (loop_iff (List.length_pos_iff.mpr hne)).mpr
      ⟨fun key hmem => ?_, hn.2, fun m hmem hin => ?_⟩⟩
    · have hfit := hcons.fits key (List.mem_cons_of_mem _ hmem)
      rwa [hkey, hsalt, hm] at hfit
    · rcases List.mem_cons.mp hmem with rfl | hmem
      · exact hn.1 hin
      · obtain ⟨key, hmem', heq⟩ := List.mem_map.mp hin
        rw [List.mem_singleton.mp hmem] at heq
        exact hnonempty key (List.mem_cons_of_mem _ hmem') heq

/-- Several keys that pass validation are consistent, and the other way round, except when the
first MKI is empty and all else is in order. -/
theorem mkiConsistency_iff (c : StreamConfig) (h2 : 2 ≤ c.keys.length) :
    MkiConsistency c ↔ ¬ ∃ first rest, EmptyMkiFirst c first rest := by
  obtain ⟨first, second, rest, hk⟩ : ∃ first second rest, c.keys = first :: second :: rest := by
    match hkeys : c.keys with
    | [] => rw [hkeys] at h2; simp at h2
    | [_] => rw [hkeys] at h2; simp at h2
    | first :: second :: rest => exact ⟨first, second, rest, rfl⟩
  have hvalid := StreamConfig.validate_iff hk
  have hnotConsistent : first.mki = some [] → ¬ Consistent c.keys := by
    intro hnil h
    rw [hk] at h
    exact h.mki_ne_nil hnil
  constructor
  · rintro hc ⟨first', rest', h⟩
    obtain ⟨rfl, rfl⟩ := List.cons.inj (hk.symm.trans h.keys)
    refine hnotConsistent h.empty (hc.sound (hvalid.mpr ⟨h.rtcpTag, h.profiles, fun _ => ?_⟩))
    exact (keyLoop_iff_of_empty hk h.empty).mpr ⟨h.others, h.nonempty, h.sizes⟩
  · intro hnot
    rcases hmki : first.mki with _ | (_ | ⟨b, bs⟩)
    · -- without an MKI the loop fails, and the keys are not consistent
      refine ⟨fun hv => ?_, fun h => absurd hmki (h.mki first (by rw [hk]; simp))⟩
      obtain ⟨_, hm, -⟩ := (StreamConfig.keyLoop_iff hk).mp ((hvalid.mp hv).2.2 (by simp))
      rw [hmki] at hm
      cases hm
    · refine ⟨fun hv => ?_, fun h => absurd h (hnotConsistent hmki)⟩
      obtain ⟨htag, hsizes, hloop⟩ := hvalid.mp hv
      obtain ⟨h1, h2, h3⟩ := (keyLoop_iff_of_empty hk hmki).mp (hloop (by simp))
      exact absurd ⟨first, _, hk, hmki, h1, h2, h3, htag, hsizes⟩ hnot
    · have hiff := keyLoop_iff_consistent hk hmki (by simp)
      exact ⟨fun hv => hiff.mp ((hvalid.mp hv).2.2 (by simp)), hiff.mpr⟩

section Example

open Vectors

/-- An empty MKI in front of one of one byte. -/
def emptyMkiFirst : StreamConfig :=
  config [key (some []) .default, { key (some [1]) .default with key := otherKey }]

/-- Two MKIs of one byte. -/
def twoMkis : StreamConfig :=
  config [key (some [1]) .default, { key (some [2]) .default with key := otherKey }]

theorem mkiConsistency_iff_two_mkis :
    MkiConsistency twoMkis ↔ ¬ ∃ first rest, EmptyMkiFirst twoMkis first rest :=
  mkiConsistency_iff twoMkis (by decide)

/-- `validate` accepts MKIs of the lengths zero and one. -/
theorem emptyMkiFirst_inconsistent :
    2 ≤ emptyMkiFirst.keys.length ∧ emptyMkiFirst.validate = .ok () ∧
      ¬ MkiConsistency emptyMkiFirst := by
  refine ⟨by decide, by decide, fun h => ?_⟩
  have hcons := h.sound (by decide)
  exact absurd (hcons.mkiLen _ (List.mem_cons_self) _ (List.mem_cons_of_mem _ List.mem_cons_self))
    (by decide)

end Example

/-! ## Streams -/

section Usable

variable [Crates]

/-- The streams of a configuration can be built, and spawned from a session that has it for its
template. -/
structure Usable (c : StreamConfig) : Prop where
  send (ssrc : UInt32) (handler : Option KeyLimitHandler) : ∃ s, SendStream.new ssrc c handler = .ok s
  recv (ssrc : UInt32) (handler : Option KeyLimitHandler) : ∃ s, RecvStream.new ssrc c handler = .ok s
  spawnSend {s : SendSession} {ssrc : UInt32} : s.templateConfig = some c →
    s.streams.lookup ssrc = none → ∃ stream, (s.getStream ssrc).1 = .ok (stream, true, true)
  spawnRecv {s : RecvSession} {ssrc : UInt32} : s.templateConfig = some c →
    s.streams.lookup ssrc = none → ∃ stream, (s.getStream ssrc).1 = .ok (stream, true, true)

/-- Both profiles are of AES-GCM, or neither is. -/
def SameFamily (c : StreamConfig) : Prop := c.rtpProfile.isAead = c.rtcpProfile.isAead

instance (c : StreamConfig) : Decidable (SameFamily c) := inferInstanceAs (Decidable (_ = _))

omit [Crates] in
/-- A valid configuration has keys of one of the sizes of AES. -/
theorem aesKeySize_of_validate {c : StreamConfig} (hv : c.validate = .ok ()) {key : MasterKey}
    (hk : key ∈ c.keys) : AesKeySize key.key.length ∧ c.FullRtcpTag := by
  have hvalid := StreamConfig.valid_of_validate hv
  obtain ⟨first, rest, hkeys⟩ := List.exists_cons_of_ne_nil hvalid.keys_ne
  obtain ⟨htag, hsizes, hloop⟩ := (StreamConfig.validate_iff hkeys).mp hv
  have hsame : key.key.length = first.key.length := by
    rw [hkeys] at hk
    rcases List.mem_cons.mp hk with rfl | hmem
    · rfl
    · obtain ⟨mki, -, found, hfold⟩ :=
        (StreamConfig.keyLoop_iff hkeys).mp (hloop (List.ne_nil_of_mem hmem))
      exact ((StreamConfig.validate_keys_eq_ok hfold).1 key hmem).1
  have hprofile : ∀ p : ProtectionProfile, p.keyLen ≠ 0 → AesKeySize p.keyLen := by
    intro p hp
    cases p <;> first | contradiction | (unfold AesKeySize; decide)
  refine ⟨?_, htag⟩
  rw [hsame]
  rcases hsizes.rtpKey with hr | hr
  · rcases hsizes.rtcpKey with hc | hc
    · exact hsizes.nullCiphers hr hc
    · by_cases h0 : c.rtcpProfile.keyLen = 0
      · exact hsizes.nullCiphers hr h0
      · exact hc ▸ hprofile _ h0
  · by_cases h0 : c.rtpProfile.keyLen = 0
    · -- the keys of this key would be empty, so the RTCP profile decides
      rcases hsizes.rtcpKey with hc | hc
      · exact hsizes.nullCiphers h0 hc
      · by_cases h0' : c.rtcpProfile.keyLen = 0
        · exact hsizes.nullCiphers h0 h0'
        · exact hc ▸ hprofile _ h0'
    · exact hr ▸ hprofile _ h0

theorem exists_newTransform [LawfulCrates] {c : StreamConfig} (hv : c.validate = .ok ())
    (hf : SameFamily c) {key : MasterKey} (hk : key ∈ c.keys) : ∃ t, newTransform c key = .ok t := by
  obtain ⟨hsize, htag⟩ := aesKeySize_of_validate hv hk
  have hs := (StreamConfig.valid_of_validate hv).salt key hk
  unfold newTransform
  cases hr : c.rtpProfile.isAead with
  | true =>
    have hc : c.rtcpProfile.isAead = true := hf.symm.trans hr
    obtain ⟨t, ht⟩ : ∃ t, AesGcm.new key.key key.salt key.mki c.rtpProfile c.rtcpProfile = .ok t :=
      AesGcm.exists_new hsize hs hr hc
    rw [ht]
    split
    · exact ⟨_, rfl⟩
    · exact ⟨_, rfl⟩
    · next h1 h2 =>
      cases hp : c.rtpProfile <;> rw [hp] at hr <;> contradiction
  | false =>
    have hc : c.rtcpProfile.isAead = false := hf.symm.trans hr
    have hfull : 10 ≤ c.rtcpProfile.tagLen := htag.resolve_right (by rw [hc]; simp)
    obtain ⟨t, ht⟩ : ∃ t, AesCmSha1.new key.key key.salt key.mki c.rtpProfile c.rtcpProfile = .ok t :=
      AesCmSha1.exists_new hsize hs hr hc hfull
    rw [ht]
    split
    · next h => rw [h] at hr; contradiction
    · next h => rw [h] at hr; contradiction
    · exact ⟨_, rfl⟩

/-- A transform serves two profiles of one family. -/
theorem sameFamily_of_newTransform {c : StreamConfig} (hv : c.validate = .ok ()) {key : MasterKey}
    (hk : key ∈ c.keys) {t : Transform} (h : newTransform c key = .ok t) : SameFamily c := by
  obtain ⟨hkeyed, -, hr, hc⟩ := keyed_newTransform (StreamConfig.valid_of_validate hv) hk h
  unfold SameFamily
  rw [← hr, ← hc]
  cases t with
  | aesCmSha1 t =>
    have hkeyed : t.Keyed := hkeyed
    exact hkeyed.rtp.not_aead.trans hkeyed.rtcp.not_aead.symm
  | aesGcm t =>
    have hkeyed : t.Keyed := hkeyed
    exact congrArg _ hkeyed.same.symm

/-- What builds the base of a stream builds the stream. -/
theorem usable_of_getTransforms {c : StreamConfig} (hv : c.validate = .ok ())
    {table : MkiIndexedTransform} (h : getTransforms c = .ok table) : Usable c := by
  obtain ⟨first, rest, hkeys⟩ :=
    List.exists_cons_of_ne_nil (StreamConfig.valid_of_validate hv).keys_ne
  have hbase : ∀ ssrc handler, ∃ b, BaseStream.new ssrc c handler = .ok b := by
    intro ssrc handler
    unfold BaseStream.new
    rw [h, ok_bind, hkeys]
    exact ⟨_, rfl⟩
  have hsend : ∀ ssrc handler, ∃ s, SendStream.new ssrc c handler = .ok s := by
    intro ssrc handler
    obtain ⟨b, hb⟩ := hbase ssrc handler
    exact ⟨⟨b, 0⟩, by unfold SendStream.new; rw [hb]; rfl⟩
  have hrecv : ∀ ssrc handler, ∃ s, RecvStream.new ssrc c handler = .ok s := by
    intro ssrc handler
    obtain ⟨b, hb⟩ := hbase ssrc handler
    exact ⟨⟨b, _, _, _⟩, by unfold RecvStream.new; rw [hb]; rfl⟩
  refine ⟨hsend, hrecv, fun {s ssrc} ht hl => ?_, fun {s ssrc} ht hl => ?_⟩
  · obtain ⟨stream, hnew⟩ := hsend ssrc s.keyLimitHandler
    exact ⟨stream, by rw [(Session.Target.spawned hl ht hnew).getStream]⟩
  · obtain ⟨stream, hnew⟩ := hrecv ssrc s.keyLimitHandler
    exact ⟨stream, by rw [(Session.Target.spawned hl ht hnew).getStream]⟩

theorem Usable.sameFamily {c : StreamConfig} (hv : c.validate = .ok ()) (h : Usable c) :
    SameFamily c := by
  have hvalid := StreamConfig.valid_of_validate hv
  obtain ⟨first, rest, hkeys⟩ := List.exists_cons_of_ne_nil hvalid.keys_ne
  have hfirst : first ∈ c.keys := by rw [hkeys]; exact List.mem_cons_self
  obtain ⟨s, hs⟩ := h.send 0 none
  obtain ⟨b, hb, -⟩ := bind_eq_ok.mp hs
  obtain ⟨table, _, _, htable, -, -⟩ := BaseStream.new_ok hb
  obtain ⟨t, ht, -⟩ := getTransforms_lookup_key hvalid htable hfirst
  exact sameFamily_of_newTransform hv hfirst ht

/-- The streams of a valid configuration can be built exactly when its two profiles are of the
same family. -/
theorem usable_iff_same_family [LawfulCrates] {c : StreamConfig} (hv : c.validate = .ok ()) :
    Usable c ↔ SameFamily c := by
  refine ⟨Usable.sameFamily hv, fun hf => ?_⟩
  obtain ⟨table, htable⟩ := exists_getTransforms fun key hk => exists_newTransform hv hf hk
  exact usable_of_getTransforms hv htable

end Usable

section Example

open Vectors

attribute [local instance] Vectors.crates Vectors.lawful

/-- AES-CM for RTP and AES-GCM for RTCP, without salt. -/
def mixedFamilies : StreamConfig :=
  .new [.new masterKey [] none] .aes128CmHmacSha180 .aeadAes128Gcm

theorem usable_iff_same_family_tests : Usable (config [key none .default]) :=
  (usable_iff_same_family (by decide)).mpr (by decide)

theorem mixedFamilies_not_usable : mixedFamilies.validate = .ok () ∧ ¬ Usable mixedFamilies :=
  ⟨by decide, fun h => absurd (h.sameFamily (by decide)) (by decide)⟩

end Example

end LibSrtp
