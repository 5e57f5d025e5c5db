import LibSrtp.Stream

/-!
# The keys of a stream

What the operations of `BaseStream` do to its table of transforms and lives:

* `getTransforms_lookup`: the table of a configuration has one entry for each of its keys;
* `mergeTransforms_lookup`: an update only adds entries;
* `update_cases`, `useKey_cases`: the ways an update and the use of a key can end.
-/

namespace LibSrtp

open Exec

variable [Crates]

/-! ## The table of a configuration -/

/-- The transform of a valid key has session keys of the right sizes. -/
theorem keyed_newTransform {config : StreamConfig} (hv : config.Valid) {key : MasterKey}
    (hk : key ∈ config.keys) {t : Transform} (h : newTransform config key = .ok t) :
    t.Keyed ∧ t.mki = key.mki ∧ t.rtpProfile = config.rtpProfile ∧
      t.rtcpProfile = config.rtcpProfile := by
  have hrtp := hv.rtpKey key hk
  have hrtcp := hv.rtcpKey key hk
  unfold newTransform at h
  split at h <;> obtain ⟨t, ht, h⟩ := bind_eq_ok.mp h <;> obtain rfl := Except.ok.inj h
  · exact AesGcm.keyed_new hrtp hrtcp ht
  · exact AesGcm.keyed_new hrtp hrtcp ht
  · exact AesCmSha1.keyed_new hrtp hrtcp ht

theorem raises_newTransform {config : StreamConfig} (hv : config.Valid)
    {key : MasterKey} (hk : key ∈ config.keys) : Raises (CipherFault 32) (newTransform config key) := by
  have hs := hv.salt key hk
  unfold newTransform
  split
  · exact (AesGcm.raises_new hs).bind fun _ _ => raises_ok
  · exact (AesGcm.raises_new hs).bind fun _ _ => raises_ok
  · exact (AesCmSha1.raises_new hs).bind fun _ _ => raises_ok

theorem insertTransform_foldl_lookup {config : StreamConfig} {keys : List MasterKey}
    {m₀ m : MkiIndexedTransform} (h : keys.foldlM (insertTransform config) m₀ = .ok m) (mki : Mki) :
    (m.lookup mki = m₀.lookup mki ∧ ∀ key ∈ keys, key.mki ≠ mki) ∨
    ∃ key ∈ keys, key.mki = mki ∧
      ∃ t, newTransform config key = .ok t ∧ m.lookup mki = some (t, key.lifetime) := by
  induction keys generalizing m₀ with
  | nil =>
    obtain rfl := Except.ok.inj h
    exact .inl ⟨rfl, by simp⟩
  | cons key keys ih =>
    rw [List.foldlM_cons, bind_eq_ok] at h
    obtain ⟨m₁, h₁, h⟩ := h
    obtain ⟨t, ht, h₁⟩ := bind_eq_ok.mp h₁
    obtain rfl := Except.ok.inj h₁
    rcases ih h with ⟨heq, hne⟩ | ⟨k, hk, hmki, t', ht', hl⟩
    · by_cases hm : key.mki = mki
      · subst hm
        exact .inr ⟨key, by simp, rfl, t, ht, by simpa using heq⟩
      · refine .inl ⟨by rw [heq, Finmap.lookup_insert_of_ne _ (Ne.symm hm)], fun k hk => ?_⟩
        rcases List.mem_cons.mp hk with rfl | hk
        · exact hm
        · exact hne k hk
    · exact .inr ⟨k, by simp [hk], hmki, t', ht', hl⟩

/-- The entries of the table are those of the keys of the configuration. -/
theorem getTransforms_lookup {config : StreamConfig} {m : MkiIndexedTransform}
    (h : getTransforms config = .ok m) {mki : Mki} {t : Transform} {l : KeysLifetime}
    (hl : m.lookup mki = some (t, l)) :
    ∃ key ∈ config.keys, key.mki = mki ∧ key.lifetime = l ∧ newTransform config key = .ok t := by
  rcases insertTransform_foldl_lookup h mki with ⟨heq, -⟩ | ⟨key, hk, hmki, t', ht, heq⟩
  · rw [heq, Finmap.lookup_empty] at hl; simp at hl
  · rw [heq, Option.some.injEq, Prod.mk.injEq] at hl
    obtain ⟨rfl, rfl⟩ := hl
    exact ⟨key, hk, hmki, rfl, ht⟩

/-- Every key of a valid configuration has its entry. -/
theorem getTransforms_lookup_key {config : StreamConfig} (hv : config.Valid)
    {m : MkiIndexedTransform} (h : getTransforms config = .ok m) {key : MasterKey}
    (hk : key ∈ config.keys) :
    ∃ t, newTransform config key = .ok t ∧ m.lookup key.mki = some (t, key.lifetime) := by
  rcases insertTransform_foldl_lookup h key.mki with ⟨-, hne⟩ | ⟨key', hk', hmki, t, ht, heq⟩
  · exact absurd rfl (hne key hk)
  · obtain rfl := List.inj_on_of_nodup_map hv.mkis hk' hk hmki
    exact ⟨t, ht, heq⟩

theorem raises_getTransforms {config : StreamConfig} (hv : config.Valid) :
    Raises (CipherFault 32) (getTransforms config) :=
  Raises.foldlM (fun _ hk _ => (raises_newTransform hv hk).bind fun _ _ => raises_ok) _

theorem exists_getTransforms {config : StreamConfig}
    (h : ∀ key ∈ config.keys, ∃ t, newTransform config key = .ok t) :
    ∃ m, getTransforms config = .ok m := by
  have hfold : ∀ (keys : List MasterKey) (m : MkiIndexedTransform),
      (∀ key ∈ keys, ∃ t, newTransform config key = .ok t) →
      ∃ m', keys.foldlM (insertTransform config) m = .ok m' := by
    intro keys
    induction keys with
    | nil => exact fun m _ => ⟨m, rfl⟩
    | cons key keys ih =>
      intro m hkeys
      obtain ⟨t, ht⟩ := hkeys key List.mem_cons_self
      obtain ⟨m', hm'⟩ := ih (m.insert key.mki (t, key.lifetime))
        fun k hk => hkeys k (List.mem_cons_of_mem _ hk)
      exact ⟨m', by rw [List.foldlM_cons, insertTransform, ht, ok_bind, ok_bind, hm']⟩
  exact hfold _ _ h

namespace BaseStream

/-! ## Updates -/

omit [Crates] in
/-- Whether it fails or not, a merge keeps every entry, and what it adds comes from the new table. -/
theorem mergeTransforms_lookup {newTransforms transforms transforms' : MkiIndexedTransform}
    {order : List Mki} {r : Res Unit}
    (h : mergeTransforms newTransforms order transforms = (r, transforms')) (mki : Mki) :
    transforms'.lookup mki = transforms.lookup mki ∨
      transforms.lookup mki = none ∧ transforms'.lookup mki = newTransforms.lookup mki := by
  induction order generalizing transforms with
  | nil => obtain ⟨-, rfl⟩ := Prod.mk.inj h; exact .inl rfl
  | cons m order ih =>
    unfold mergeTransforms at h
    split at h
    · exact ih h
    · next nt lives hnew =>
      split at h
      · next hnone =>
        by_cases hm : mki = m
        · subst hm
          rcases ih h with heq | ⟨heq, -⟩
          · exact .inr ⟨hnone, by rw [heq, Finmap.lookup_insert, hnew]⟩
          · rw [Finmap.lookup_insert] at heq; simp at heq
        · have := ih h
          rwa [Finmap.lookup_insert_of_ne _ hm] at this
      · split at h
        · obtain ⟨-, rfl⟩ := Prod.mk.inj h; exact .inl rfl
        · exact ih h

omit [Crates] in
/-- After a complete walk every key of the new table is there. -/
theorem mergeTransforms_ok {newTransforms transforms transforms' : MkiIndexedTransform}
    {order : List Mki} (h : mergeTransforms newTransforms order transforms = (.ok (), transforms'))
    {mki : Mki} (hm : mki ∈ order) (hnew : newTransforms.lookup mki ≠ none) :
    transforms'.lookup mki ≠ none := by
  induction order generalizing transforms with
  | nil => simp at hm
  | cons m order ih =>
    unfold mergeTransforms at h
    -- an entry that is there stays there to the end of the walk
    have hkeep : ∀ {tr}, mergeTransforms newTransforms order tr = (.ok (), transforms') →
        tr.lookup mki ≠ none → transforms'.lookup mki ≠ none := by
      intro tr htr hne
      rcases mergeTransforms_lookup htr mki with heq | ⟨heq, -⟩
      · rwa [heq]
      · exact absurd heq hne
    rcases List.mem_cons.mp hm with rfl | hm
    · split at h
      · next hnone => exact absurd hnone hnew
      · split at h
        · exact hkeep h (by simp)
        · next hsome =>
          split at h
          · exact absurd (Prod.mk.inj h).1 fail_ne_ok
          · exact hkeep h (by rw [hsome]; simp)
    · split at h
      · exact ih h hm
      · split at h
        · exact ih h hm
        · split at h
          · exact absurd (Prod.mk.inj h).1 fail_ne_ok
          · exact ih h hm

/-- The MKIs of a configuration are of the size of those of the stream. -/
def Compatible (b : BaseStream) (config : StreamConfig) : Prop :=
  ∃ first rest, config.keys = first :: rest ∧ compatibleMki b.mkiLen first.mki = true

/-- How an update can end. -/
inductive UpdatedKeys (b : BaseStream) (config : StreamConfig) (order : List Mki) :
    Answer BaseStream Unit → Prop
  | incompatible : ¬ b.Compatible config →
      UpdatedKeys b config order ⟨fail .invalidProfile, b, []⟩
  | unbuildable {f : Fault SrtpError} : b.Compatible config → getTransforms config = .error f →
      UpdatedKeys b config order ⟨.error f, b, []⟩
  | torn {table transforms : MkiIndexedTransform} : b.Compatible config →
      getTransforms config = .ok table →
      mergeTransforms table order b.transforms = (fail .invalidProfile, transforms) →
      UpdatedKeys b config order ⟨fail .invalidProfile, { b with transforms := transforms }, []⟩
  | merged {table transforms : MkiIndexedTransform} : b.Compatible config →
      getTransforms config = .ok table →
      mergeTransforms table order b.transforms = (.ok (), transforms) →
      UpdatedKeys b config order
        ⟨.ok (), { b with
          transforms := transforms
          rtpIndex := b.rtpIndex.setWindowSize config.replayWindowSize
          allowSendRepeat := config.allowSendRepeat }, []⟩

omit [Crates] in
theorem mergeTransforms_error {table transforms transforms' : MkiIndexedTransform}
    {order : List Mki} {f : Fault SrtpError}
    (h : mergeTransforms table order transforms = (.error f, transforms')) :
    f = .error .invalidProfile := by
  induction order generalizing transforms with
  | nil => cases (Prod.mk.inj h).1
  | cons m order ih =>
    unfold mergeTransforms at h
    split at h
    · exact ih h
    · split at h
      · exact ih h
      · split at h
        · exact (Except.error.inj (Prod.mk.inj h).1).symm
        · exact ih h

theorem update_cases (b : BaseStream) {config : StreamConfig} (order : List Mki)
    (hkeys : config.keys ≠ []) : UpdatedKeys b config order (b.update config order) := by
  obtain ⟨first, rest, hk⟩ := List.exists_cons_of_ne_nil hkeys
  have hfirst : (index config.keys 0 : Res MasterKey) = .ok first := by rw [hk]; rfl
  unfold update
  rw [hfirst]
  dsimp only
  by_cases hc : compatibleMki b.mkiLen first.mki = true
  swap
  · rw [if_pos hc]
    refine .incompatible fun ⟨first', rest', hk', hc'⟩ => hc ?_
    rw [hk, List.cons.injEq] at hk'
    rwa [hk'.1]
  have hcomp : b.Compatible config := ⟨first, rest, hk, hc⟩
  rw [if_neg (not_not.mpr hc)]
  cases hg : getTransforms config with
  | error f => exact .unbuildable hcomp hg
  | ok table =>
    dsimp only
    cases hm : mergeTransforms table order b.transforms with
    | mk r transforms =>
      cases r with
      | error f => obtain rfl := mergeTransforms_error hm; exact .torn hcomp hg hm
      | ok u => exact .merged hcomp hg hm

/-! ## Use of a key -/

omit [Crates] in
/-- The handler calls of a use of a key with the lives `l`. -/
def alerts (b : BaseStream) (isRtp : Bool) (mki : Mki) (l : KeysLifetime) : List HandlerCall :=
  if l.lives isRtp ≤ l.limit isRtp then
    b.keyLimitHandler.toList.map fun handler =>
      ⟨handler, .keyLimit isRtp (decide (l.lives isRtp = 0)) mki b.ssrc⟩
  else []

/-- How the use of a key can end. -/
inductive UsedKey (b : BaseStream) (isRtp : Bool) (mki : Mki) (apply : Transform → Res Bytes) :
    Answer BaseStream Bytes → Prop
  | unknown : b.transforms.lookup mki = none →
      UsedKey b isRtp mki apply ⟨fail .invalidMki, b, []⟩
  | dead {t : Transform} {l : KeysLifetime} : b.transforms.lookup mki = some (t, l) →
      l.lives isRtp = 0 →
      UsedKey b isRtp mki apply
        ⟨fail (.keyLimit isRtp true mki b.ssrc), b, b.alerts isRtp mki l⟩
  | refused {t : Transform} {l : KeysLifetime} {e : Fault SrtpError} :
      b.transforms.lookup mki = some (t, l) → l.lives isRtp ≠ 0 → apply t = .error e →
      UsedKey b isRtp mki apply ⟨.error e, b, b.alerts isRtp mki l⟩
  | used {t : Transform} {l : KeysLifetime} {bytes : Bytes} :
      b.transforms.lookup mki = some (t, l) → l.lives isRtp ≠ 0 → apply t = .ok bytes →
      UsedKey b isRtp mki apply
        ⟨.ok bytes, { b with transforms := b.transforms.insert mki (t, l.spent isRtp) },
          b.alerts isRtp mki l⟩

omit [Crates] in
theorem useKey_cases (b : BaseStream) (isRtp : Bool) (mki : Mki) (apply : Transform → Res Bytes) :
    UsedKey b isRtp mki apply (b.useKey isRtp mki apply) := by
  unfold useKey checkKeyLimit
  cases hl : b.transforms.lookup mki with
  | none => exact .unknown hl
  | some entry =>
    obtain ⟨t, l⟩ := entry
    by_cases h0 : l.lives isRtp = 0
    · simp only [if_pos h0]
      exact .dead hl h0
    · simp only [if_neg h0]
      cases ha : apply t with
      | error e => exact .refused hl h0 ha
      | ok bytes =>
        simp only [KeysLifetime.decrease_eq h0]
        exact .used hl h0 ha

end BaseStream

end LibSrtp
