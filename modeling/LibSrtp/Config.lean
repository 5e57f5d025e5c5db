import LibSrtp.Error
import LibSrtp.ProtectionProfile

/-!
# Master keys and stream configurations

A master key carries the lives its session keys start with. The bounds on the lives are fields of
`KeysLifetime`: the library only builds one by default or through `setKeysLifetime`, which
checks them, and afterwards only lowers them.
-/

namespace LibSrtp

open Exec

def defaultReplayWindowSize : UInt16 := 128
def maxRtpSessionKeyLives : Nat := 2 ^ 48
def maxRtcpSessionKeyLives : Nat := 2 ^ 31
def defaultRtpSessionKeySoftLimit : Nat := 2 ^ 16
def defaultRtcpSessionKeySoftLimit : Nat := 2 ^ 16

/-- `KeysLifetime`: the lives left to a key, and the limits under which an alert is raised. -/
structure KeysLifetime where
  rtp : Nat
  rtpLimit : Nat
  rtcp : Nat
  rtcpLimit : Nat
  rtp_le : rtp ≤ maxRtpSessionKeyLives
  rtcp_le : rtcp ≤ maxRtcpSessionKeyLives
deriving DecidableEq

namespace KeysLifetime

def default : KeysLifetime where
  rtp := maxRtpSessionKeyLives
  rtpLimit := defaultRtpSessionKeySoftLimit
  rtcp := maxRtcpSessionKeyLives
  rtcpLimit := defaultRtcpSessionKeySoftLimit
  rtp_le := Nat.le_refl _
  rtcp_le := Nat.le_refl _

/-- The same limits with fewer lives. -/
def lower (l : KeysLifetime) (rtp rtcp : Nat) (hrtp : rtp ≤ l.rtp) (hrtcp : rtcp ≤ l.rtcp) :
    KeysLifetime where
  rtp := rtp
  rtpLimit := l.rtpLimit
  rtcp := rtcp
  rtcpLimit := l.rtcpLimit
  rtp_le := hrtp.trans l.rtp_le
  rtcp_le := hrtcp.trans l.rtcp_le

/-- No lives left for either component. -/
def killed (l : KeysLifetime) : KeysLifetime := l.lower 0 0 (Nat.zero_le _) (Nat.zero_le _)

/-- One life less; the last one takes those of the other component with it. The subtraction
panics when there is no life left. -/
def decreaseRtp (l : KeysLifetime) : Res KeysLifetime :=
  if 1 ≤ l.rtp then
    .ok (l.lower (l.rtp - 1) (if l.rtp - 1 = 0 then 0 else l.rtcp) (by omega) (by split <;> omega))
  else
    panicked

def decreaseRtcp (l : KeysLifetime) : Res KeysLifetime :=
  if 1 ≤ l.rtcp then
    .ok (l.lower (if l.rtcp - 1 = 0 then 0 else l.rtp) (l.rtcp - 1) (by split <;> omega) (by omega))
  else
    panicked

/-- The lives of one component, and its limit. -/
def lives (l : KeysLifetime) (isRtp : Bool) : Nat := if isRtp then l.rtp else l.rtcp

def limit (l : KeysLifetime) (isRtp : Bool) : Nat := if isRtp then l.rtpLimit else l.rtcpLimit

/-- `decreaseRtp` or `decreaseRtcp` -/
def decrease (l : KeysLifetime) (isRtp : Bool) : Res KeysLifetime :=
  if isRtp then l.decreaseRtp else l.decreaseRtcp

/-- What `decrease` leaves. -/
def spent (l : KeysLifetime) (isRtp : Bool) : KeysLifetime :=
  if isRtp then
    l.lower (l.rtp - 1) (if l.rtp - 1 = 0 then 0 else l.rtcp) (by omega) (by split <;> omega)
  else
    l.lower (if l.rtcp - 1 = 0 then 0 else l.rtp) (l.rtcp - 1) (by split <;> omega) (by omega)

theorem decrease_eq {l : KeysLifetime} {isRtp : Bool} (h : l.lives isRtp ≠ 0) :
    l.decrease isRtp = .ok (l.spent isRtp) := by
  cases isRtp
  · exact if_pos (Nat.one_le_iff_ne_zero.mpr h)
  · exact if_pos (Nat.one_le_iff_ne_zero.mpr h)

end KeysLifetime

/-- `MasterKey` -/
structure MasterKey where
  key : Bytes
  salt : Bytes
  mki : Mki
  lifetime : KeysLifetime
deriving DecidableEq

namespace MasterKey

def new (key salt : Bytes) (mki : Mki) : MasterKey := ⟨key, salt, mki, .default⟩

def setKeysLifetime (k : MasterKey) (rtp rtpLimit rtcp rtcpLimit : Nat) : Res MasterKey :=
  if h : rtp > maxRtpSessionKeyLives ∨ rtcp > maxRtcpSessionKeyLives then
    fail .invalidProfile
  else if rtp < rtpLimit ∨ rtcp < rtcpLimit then
    fail .invalidProfile
  else
    .ok { k with lifetime := ⟨rtp, rtpLimit, rtcp, rtcpLimit, by omega, by omega⟩ }

end MasterKey

/-- `StreamConfig` -/
structure StreamConfig where
  keys : List MasterKey
  rtpProfile : ProtectionProfile
  rtcpProfile : ProtectionProfile
  replayWindowSize : UInt16
  allowSendRepeat : Bool
deriving DecidableEq

namespace StreamConfig

def new (keys : List MasterKey) (rtpProfile rtcpProfile : ProtectionProfile) : StreamConfig :=
  ⟨keys, rtpProfile, rtcpProfile, defaultReplayWindowSize, false⟩

def setReplayWindowSize (c : StreamConfig) (size : UInt16) : StreamConfig :=
  { c with replayWindowSize := size }

def setAllowSendRepeat (c : StreamConfig) (allow : Bool) : StreamConfig :=
  { c with allowSendRepeat := allow }

/-- The same lives for every key. The arguments are refused at the first key or not at all. -/
def setKeysLifetime (c : StreamConfig) (rtp rtpLimit rtcp rtcpLimit : Nat) :
    Res StreamConfig := do
  let keys ← c.keys.mapM fun key => key.setKeysLifetime rtp rtpLimit rtcp rtcpLimit
  .ok { c with keys := keys }

/-- Set the lives of the first key of `keys` with this MKI. -/
def setFirstLifetime (rtp rtpLimit rtcp rtcpLimit : Nat) (mki : Mki) :
    List MasterKey → Res Unit × List MasterKey
  | [] => (fail .invalidMki, [])
  | key :: keys =>
    if key.mki = mki then
      match key.setKeysLifetime rtp rtpLimit rtcp rtcpLimit with
      | .ok key' => (.ok (), key' :: keys)
      | .error e => (.error e, key :: keys)
    else
      ((setFirstLifetime rtp rtpLimit rtcp rtcpLimit mki keys).1,
        key :: (setFirstLifetime rtp rtpLimit rtcp rtcpLimit mki keys).2)

def setKeysLifetimeMki (c : StreamConfig) (rtp rtpLimit rtcp rtcpLimit : Nat) (mki : Mki) :
    Answer StreamConfig Unit :=
  ⟨(setFirstLifetime rtp rtpLimit rtcp rtcpLimit mki c.keys).1,
    { c with keys := (setFirstLifetime rtp rtpLimit rtcp rtcpLimit mki c.keys).2 }, []⟩

/-! ## Validation -/

/-- One turn of the key loop of `validate`, with the MKI size found so far (`0` before the first)
and the MKIs seen. -/
def validateKey (keySize saltSize : Nat) (found : Nat × List Bytes) (key : MasterKey) :
    Res (Nat × List Bytes) :=
  match key.mki with
  | none => fail .invalidProfile
  | some mki => do
    let mkiSize ←
      if found.1 = 0 then .ok mki.length
      else if found.1 ≠ mki.length then fail .invalidProfile
      else .ok found.1
    if mki ∈ found.2 then
      fail .invalidProfile
    else if key.key.length ≠ keySize ∨ key.salt.length ≠ saltSize then
      fail .invalidProfile
    else
      .ok (mkiSize, mki :: found.2)

/-- The checks of `validate` on the profiles and the sizes of the keys and salts. -/
def validateSizes (c : StreamConfig) (keySize saltSize : Nat) : Res Unit :=
  if c.rtpProfile.keyLen > 0 ∧ c.rtpProfile.keyLen ≠ keySize then
    fail .invalidProfile
  else if c.rtcpProfile.keyLen > 0 ∧ c.rtcpProfile.keyLen ≠ keySize then
    fail .invalidProfile
  else if c.rtpProfile.keyLen = 0 ∧ c.rtcpProfile.keyLen = 0 ∧ keySize ≠ 16 ∧ keySize ≠ 24 ∧
      keySize ≠ 32 then
    fail .invalidProfile
  else if saltSize ≠ 0 ∧ c.rtpProfile.saltLen > 0 ∧ c.rtpProfile.saltLen ≠ saltSize then
    fail .invalidProfile
  else if saltSize ≠ 0 ∧ c.rtcpProfile.saltLen > 0 ∧ c.rtcpProfile.saltLen ≠ saltSize then
    fail .invalidProfile
  else
    .ok ()

def validate (c : StreamConfig) : Res Unit := do
  if c.rtcpProfile.tagLen < 10 ∧ c.rtcpProfile ≠ .aeadAes128Gcm ∧
      c.rtcpProfile ≠ .aeadAes256Gcm then
    fail .invalidProfile
  else
    match c.keys with
    | [] => fail .invalidProfile
    | first :: _ => do
      let keySize := first.key.length
      let saltSize := first.salt.length
      if c.keys.length > 1 then do
        let _ ← c.keys.foldlM (validateKey keySize saltSize) (0, [])
        c.validateSizes keySize saltSize
      else
        c.validateSizes keySize saltSize

theorem raises_validateKey (keySize saltSize : Nat) (found : Nat × List Bytes) (key : MasterKey) :
    Raises (· = .error .invalidProfile) (validateKey keySize saltSize found key) := by
  unfold validateKey
  split
  · exact raises_fail.mpr rfl
  · next mki _ =>
    have htail : ∀ mkiSize, Raises (· = .error .invalidProfile)
        (if mki ∈ found.2 then fail .invalidProfile
        else if key.key.length ≠ keySize ∨ key.salt.length ≠ saltSize then fail .invalidProfile
        else .ok (mkiSize, mki :: found.2) : Res (Nat × List Bytes)) := by
      intro mkiSize
      split
      · exact raises_fail.mpr rfl
      · split
        · exact raises_fail.mpr rfl
        · exact raises_ok
    dsimp only
    split
    · exact htail _
    · split
      · exact raises_fail.mpr rfl
      · exact htail _

theorem raises_validateSizes (c : StreamConfig) (keySize saltSize : Nat) :
    Raises (· = .error .invalidProfile) (c.validateSizes keySize saltSize) := by
  unfold validateSizes
  repeat' split
  all_goals first | exact raises_fail.mpr rfl | exact raises_ok

/-- A configuration is rejected with one error only. -/
theorem raises_validate (c : StreamConfig) : Raises (· = .error .invalidProfile) c.validate := by
  have hsizes := raises_validateSizes c
  unfold validate
  split
  · exact raises_fail.mpr rfl
  · split
    · exact raises_fail.mpr rfl
    · dsimp only
      split
      · exact (Raises.foldlM (fun key _ found => raises_validateKey _ _ found key) _).bind
          fun _ _ => hsizes _ _
      · exact hsizes _ _

/-! ## What a valid configuration guarantees -/

/-- The checks one key passes: it has an MKI, of the size found so far and not seen yet, and its key
and salt have the sizes of the first one. -/
theorem validateKey_eq_ok {keySize saltSize : Nat} {found found' : Nat × List Bytes}
    {key : MasterKey} (h : validateKey keySize saltSize found key = .ok found') :
    ∃ mki, key.mki = some mki ∧ (found.1 = 0 ∨ found.1 = mki.length) ∧ mki ∉ found.2 ∧
      key.key.length = keySize ∧ key.salt.length = saltSize ∧
      found' = (mki.length, mki :: found.2) := by
  unfold validateKey at h
  cases hmki : key.mki with
  | none => rw [hmki] at h; exact absurd h fail_ne_ok
  | some mki =>
    rw [hmki] at h
    dsimp only at h
    have hsize : found.1 = 0 ∨ found.1 = mki.length := by
      by_contra hne
      rw [if_neg (fun h0 => hne (.inl h0)), if_pos (fun h0 => hne (.inr h0))] at h
      simp [fail] at h
    have htail : (if mki ∈ found.2 then fail .invalidProfile
        else if key.key.length ≠ keySize ∨ key.salt.length ≠ saltSize then fail .invalidProfile
        else .ok (mki.length, mki :: found.2) : Res (Nat × List Bytes)) = .ok found' := by
      by_cases h0 : found.1 = 0
      · simpa [h0] using h
      · rw [if_neg h0, if_neg (not_not.mpr (hsize.resolve_left h0))] at h
        simpa [hsize.resolve_left h0] using h
    by_cases hseen : mki ∈ found.2
    · rw [if_pos hseen] at htail; exact absurd htail fail_ne_ok
    · rw [if_neg hseen] at htail
      by_cases hlen : key.key.length ≠ keySize ∨ key.salt.length ≠ saltSize
      · rw [if_pos hlen] at htail; exact absurd htail fail_ne_ok
      · rw [if_neg hlen] at htail
        rw [not_or, not_not, not_not] at hlen
        exact ⟨mki, rfl, hsize, hseen, hlen.1, hlen.2, (Except.ok.inj htail).symm⟩

/-- The checks all keys pass, after those that gave `found`. -/
theorem validate_keys_eq_ok {keySize saltSize : Nat} {keys : List MasterKey}
    {found found' : Nat × List Bytes}
    (h : keys.foldlM (validateKey keySize saltSize) found = .ok found') :
    (∀ key ∈ keys, key.key.length = keySize ∧ key.salt.length = saltSize ∧
      (∃ mki, key.mki = some mki ∧ mki ∉ found.2 ∧ (0 < found.1 → mki.length = found.1))) ∧
    (keys.map (·.mki)).Nodup := by
  induction keys generalizing found with
  | nil => simp
  | cons key keys ih =>
    rw [List.foldlM_cons, bind_eq_ok] at h
    obtain ⟨found₁, h₁, h⟩ := h
    obtain ⟨mki, hmki, hsize, hseen, hk, hs, rfl⟩ := validateKey_eq_ok h₁
    obtain ⟨hkeys, hnodup⟩ := ih h
    refine ⟨fun k hmem => ?_, ?_⟩
    · rcases List.mem_cons.mp hmem with rfl | hmem
      · exact ⟨hk, hs, mki, hmki, hseen, fun hpos => by omega⟩
      · obtain ⟨hk', hs', mki', hmki', hseen', hlen'⟩ := hkeys k hmem
        rw [List.mem_cons, not_or] at hseen'
        refine ⟨hk', hs', mki', hmki', hseen'.2, fun hpos => ?_⟩
        have := hlen' (by dsimp only; omega)
        dsimp only at this
        omega
    · refine List.nodup_cons.mpr ⟨fun hmem => ?_, hnodup⟩
      obtain ⟨k, hk', heq⟩ := List.mem_map.mp hmem
      obtain ⟨-, -, mki', hmki', hseen', -⟩ := hkeys k hk'
      dsimp only at heq
      rw [hmki', hmki, Option.some.injEq] at heq
      exact hseen' (heq ▸ List.mem_cons_self)

/-- What the rest of the library relies on in a validated configuration. -/
structure Valid (c : StreamConfig) : Prop where
  keys_ne : c.keys ≠ []
  rtpKey : ∀ key ∈ c.keys, 0 < c.rtpProfile.keyLen → key.key.length = c.rtpProfile.keyLen
  rtcpKey : ∀ key ∈ c.keys, 0 < c.rtcpProfile.keyLen → key.key.length = c.rtcpProfile.keyLen
  salt : ∀ key ∈ c.keys, key.salt.length ≤ 16
  mkis : (c.keys.map (·.mki)).Nodup
  mkiLen : (∀ key ∈ c.keys, key.mki ≠ some []) → ∀ key ∈ c.keys, ∀ key' ∈ c.keys,
    (mkiBytes key.mki).length = (mkiBytes key'.mki).length

theorem validateSizes_eq_ok {c : StreamConfig} {keySize saltSize : Nat}
    (h : c.validateSizes keySize saltSize = .ok ()) :
    (0 < c.rtpProfile.keyLen → keySize = c.rtpProfile.keyLen) ∧
    (0 < c.rtcpProfile.keyLen → keySize = c.rtcpProfile.keyLen) ∧ saltSize ≤ 16 := by
  have hsalt : 0 < c.rtpProfile.saltLen ∧ c.rtpProfile.saltLen ≤ 16 := by
    cases c.rtpProfile <;> decide
  unfold validateSizes at h
  split_ifs at h with h1 h2 h3 h4 h5 <;> first | exact absurd h fail_ne_ok | skip
  refine ⟨fun hp => ?_, fun hp => ?_, ?_⟩ <;> omega

theorem valid_of_validate {c : StreamConfig} (h : c.validate = .ok ()) : c.Valid := by
  unfold validate at h
  split at h
  · exact absurd h fail_ne_ok
  cases hkeys : c.keys with
  | nil => rw [hkeys] at h; exact absurd h fail_ne_ok
  | cons first rest =>
    simp only [hkeys] at h
    split at h
    · -- several keys
      obtain ⟨found, hfold, h⟩ := bind_eq_ok.mp h
      obtain ⟨hall, hnodup⟩ := validate_keys_eq_ok hfold
      obtain ⟨hrtp, hrtcp, hsalt⟩ := validateSizes_eq_ok h
      refine ⟨by simp [hkeys], ?_, ?_, ?_, ?_, ?_⟩ <;> rw [hkeys]
      · exact fun key hk hp => (hall key hk).1.trans (hrtp hp)
      · exact fun key hk hp => (hall key hk).1.trans (hrtcp hp)
      · exact fun key hk => (hall key hk).2.1.trans_le hsalt
      · exact hnodup
      · -- the first MKI is not empty, so all have its length
        rw [List.foldlM_cons, bind_eq_ok] at hfold
        obtain ⟨found₁, h₁, hrest⟩ := hfold
        obtain ⟨mki, hmki, -, -, -, -, rfl⟩ := validateKey_eq_ok h₁
        obtain ⟨hall', -⟩ := validate_keys_eq_ok hrest
        intro hne
        have hpos : 0 < mki.length := by
          have := hne first List.mem_cons_self
          rw [hmki] at this
          exact List.length_pos_iff.mpr fun h0 => this (by rw [h0])
        have hlen : ∀ key ∈ first :: rest, (mkiBytes key.mki).length = mki.length := by
          intro key hk
          rcases List.mem_cons.mp hk with rfl | hk
          · rw [hmki]; rfl
          · obtain ⟨-, -, mki', hmki', -, hl⟩ := hall' key hk
            rw [hmki']; exact hl hpos
        exact fun key hk key' hk' => (hlen key hk).trans (hlen key' hk').symm
    · -- one key
      next hone =>
      obtain rfl : rest = [] := by
        rw [List.length_cons] at hone
        exact List.length_eq_zero_iff.mp (by omega)
      obtain ⟨hrtp, hrtcp, hsalt⟩ := validateSizes_eq_ok h
      refine ⟨by simp [hkeys], ?_, ?_, ?_, ?_, ?_⟩ <;> rw [hkeys] <;>
        simp only [List.mem_singleton, forall_eq, List.map_cons, List.map_nil, List.nodup_cons,
          List.not_mem_nil, not_false_eq_true, List.nodup_nil, and_self, implies_true]
      · exact fun hp => hrtp hp
      · exact fun hp => hrtcp hp
      · exact hsalt

end StreamConfig

end LibSrtp
