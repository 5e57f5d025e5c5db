import LibSrtp.SessionRun
import LibSrtp.Vectors

/-!
# Configurations that are refused half way

An update walks the keys of the new configuration and stops at the first one that clashes with a key
of the stream; the keys before it are in. The update of the template walks the streams in the same
way.

* `PacketStream.update_accepted`, `PacketStream.update_refused`: what an update leaves;
* `addStream_all_or_nothing`: when a refused configuration leaves the session as it was.
-/

namespace LibSrtp

open Exec PacketStream

/-! ## Merging tables -/

/-- Two tables have different transforms for this MKI. -/
def MkiIndexedTransform.ClashAt (table transforms : MkiIndexedTransform) (m : Mki) : Prop :=
  ∃ t l t' l', table.lookup m = some (t, l) ∧ transforms.lookup m = some (t', l') ∧ ¬ t.equals t'

open MkiIndexedTransform

namespace BaseStream

theorem mergeTransforms_of_clash {table transforms : MkiIndexedTransform} {order : List Mki} {m : Mki}
    (hm : m ∈ order) (h : ClashAt table transforms m) :
    ∃ tr, mergeTransforms table order transforms = (fail .invalidProfile, tr) := by
  obtain ⟨t, l, t', l', ht, ht', hne⟩ := h
  induction order generalizing transforms with
  | nil => cases hm
  | cons m' order ih =>
    unfold mergeTransforms
    rcases List.mem_cons.mp hm with rfl | hm
    · rw [ht]
      dsimp only
      rw [ht']
      exact ⟨transforms, if_pos hne⟩
    · split
      · exact ih hm ht'
      · split
        · next hnone =>
          refine ih hm ?_
          rw [Finmap.lookup_insert_of_ne _ ?_]
          · exact ht'
          · rintro rfl
            rw [ht'] at hnone
            cases hnone
        · split
          · exact ⟨transforms, rfl⟩
          · exact ih hm ht'

theorem mergeTransforms_of_no_clash {table transforms : MkiIndexedTransform} {order : List Mki}
    (horder : order.Nodup) (h : ∀ m ∈ order, ¬ ClashAt table transforms m) :
    ∃ tr, mergeTransforms table order transforms = (.ok (), tr) := by
  induction order generalizing transforms with
  | nil => exact ⟨transforms, rfl⟩
  | cons m order ih =>
    obtain ⟨hnot, horder⟩ := List.nodup_cons.mp horder
    have hrest := fun m' hm' => h m' (List.mem_cons_of_mem m hm')
    unfold mergeTransforms
    split
    · exact ih horder hrest
    · next t l ht =>
      split
      · -- the rest of the walk does not come back to what was added
        refine ih horder fun m' hm' hclash => hrest m' hm' ?_
        obtain ⟨t₁, l₁, t₂, l₂, h₁, h₂, hne⟩ := hclash
        rw [Finmap.lookup_insert_of_ne _ (ne_of_mem_of_not_mem hm' hnot)] at h₂
        exact ⟨t₁, l₁, t₂, l₂, h₁, h₂, hne⟩
      · next t' l' ht' =>
        split
        · next hne => exact absurd ⟨t, l, t', l', ht, ht', hne⟩ (h m List.mem_cons_self)
        · exact ih horder hrest

/-- The table has a key that is new to the stream. -/
def Extends (b : BaseStream) (table : MkiIndexedTransform) : Prop :=
  ∃ m, table.lookup m ≠ none ∧ b.transforms.lookup m = none

/-- The table has a key of the stream with another transform. -/
def Clashes (b : BaseStream) (table : MkiIndexedTransform) : Prop :=
  ∃ m, ClashAt table b.transforms m

theorem mergeTransforms_of_not_extends {b : BaseStream} {table transforms : MkiIndexedTransform}
    {order : List Mki} {r : Res Unit} (h : ¬ b.Extends table)
    (hm : mergeTransforms table order b.transforms = (r, transforms)) : transforms = b.transforms := by
  apply Finmap.ext_lookup
  intro m
  rcases mergeTransforms_lookup hm m with heq | ⟨hnone, heq⟩
  · exact heq
  · rw [heq, hnone]
    by_contra hne
    exact h ⟨m, hne, hnone⟩

/-- A new key first, then one that clashes. -/
theorem exists_torn_merge {b : BaseStream} {table : MkiIndexedTransform} (he : b.Extends table)
    (hc : b.Clashes table) : ∃ order transforms, table.Enumerates order ∧
      mergeTransforms table order b.transforms = (fail .invalidProfile, transforms) ∧
      transforms ≠ b.transforms := by
  obtain ⟨m, hm, hnone⟩ := he
  obtain ⟨m', hclash⟩ := hc
  obtain ⟨t, l, t', l', ht, ht', hne⟩ := hclash
  have hne' : m' ≠ m := by
    rintro rfl
    rw [hnone] at ht'
    cases ht'
  obtain ⟨entry, hentry⟩ := Option.ne_none_iff_exists'.mp hm
  have hfront : [m, m'].Nodup := by simpa using hne'.symm
  obtain ⟨back, horder⟩ := table.exists_enumeration_from hfront fun k hk => by
    rcases List.mem_pair.mp hk with rfl | rfl
    · exact Finmap.mem_of_lookup_eq_some hentry
    · exact Finmap.mem_of_lookup_eq_some ht
  refine ⟨_, b.transforms.insert m entry, horder, ?_, fun heq => ?_⟩
  · obtain ⟨u, lives⟩ := entry
    show mergeTransforms table (m :: m' :: back) b.transforms = _
    simp only [mergeTransforms, hentry, hnone, ht, Finmap.lookup_insert_of_ne _ hne', ht', if_pos hne]
  · have hlookup := congrArg (Finmap.lookup m) heq
    rw [Finmap.lookup_insert, hnone] at hlookup
    cases hlookup

variable [Crates]

/-- The stream takes the configuration. -/
def Accepts (b : BaseStream) (config : StreamConfig) : Prop :=
  b.Compatible config ∧ ∃ table, getTransforms config = .ok table ∧ ¬ b.Clashes table

/-- The configuration has both a key that is new to the stream and one that clashes. -/
def Tears (b : BaseStream) (config : StreamConfig) : Prop :=
  b.Compatible config ∧ ∃ table, getTransforms config = .ok table ∧ b.Extends table ∧ b.Clashes table

end BaseStream

/-- An order in which the hash map of the transforms of the configuration can be walked. -/
def Walks [Crates] (config : StreamConfig) (order : List Mki) : Prop :=
  ∀ table, getTransforms config = .ok table → table.Enumerates order

/-- The keys may be walked in the order of the configuration. -/
theorem walks_mkis [Crates] {config : StreamConfig} (hv : config.Valid) :
    Walks config (config.keys.map (·.mki)) := by
  refine fun table htable => ⟨hv.mkis, fun m => ?_⟩
  constructor
  · intro hm
    obtain ⟨key, hkey, rfl⟩ := List.mem_map.mp hm
    obtain ⟨t, -, hl⟩ := getTransforms_lookup_key hv htable hkey
    exact Finmap.mem_of_lookup_eq_some hl
  · intro hm
    obtain ⟨⟨t, l⟩, hl⟩ := Finmap.mem_iff.mp hm
    obtain ⟨key, hkey, hmki, -⟩ := getTransforms_lookup htable hl
    exact List.mem_map.mpr ⟨key, hkey, hmki⟩

theorem exists_walks [Crates] (config : StreamConfig) : ∃ order, Walks config order := by
  cases h : getTransforms config with
  | error f => exact ⟨[], fun table htable => by rw [h] at htable; cases htable⟩
  | ok table =>
    obtain ⟨order, horder⟩ := table.exists_enumeration
    refine ⟨order, fun table' htable' => ?_⟩
    obtain rfl := Except.ok.inj (h.symm.trans htable')
    exact horder

/-! ## Updates of a stream -/

namespace PacketStream

variable [Crates] {T : Type} [PacketStream T]

/-- An accepted configuration changes the stream: a key, the window size or the repeat flag. -/
def Changes (x : T) (config : StreamConfig) : Prop :=
  (base x).Accepts config ∧
    ((∃ table, getTransforms config = .ok table ∧ (base x).Extends table) ∨ resize x config ≠ x)

variable [LawfulStream T] {x : T} {config : StreamConfig} {order : List Mki}

theorem update_accepted (hkeys : config.keys ≠ []) (horder : Walks config order)
    (h : (base x).Accepts config) : (StreamInterface.update x config order).result = .ok () ∧
      ((StreamInterface.update x config order).state = x ↔ ¬ Changes x config) := by
  have haccepts := h
  obtain ⟨hcomp, table, htable, hclash⟩ := h
  obtain ⟨hnodup, hmem⟩ := horder table htable
  obtain ⟨tr, hmerge⟩ := BaseStream.mergeTransforms_of_no_clash hnodup
    fun m _ hat => hclash ⟨m, hat⟩
  have hu := LawfulStream.updated x order hkeys
  generalize StreamInterface.update x config order = r at hu
  cases hu with
  | incompatible hnot => exact absurd hcomp hnot
  | unbuildable _ hbuild =>
    rw [htable] at hbuild
    cases hbuild
  | torn _ htable' htorn =>
    obtain rfl := Except.ok.inj (htable.symm.trans htable')
    rw [hmerge] at htorn
    exact absurd (Prod.mk.inj htorn).1.symm fail_ne_ok
  | merged _ htable' hmerged =>
    obtain rfl := Except.ok.inj (htable.symm.trans htable')
    obtain rfl := (Prod.mk.inj (hmerge.symm.trans hmerged)).2
    refine ⟨rfl, ?_⟩
    show resize (withTransforms x tr) config = x ↔ _
    constructor
    · intro heq hchanges
      have htr : (base x).transforms = tr := by
        obtain ⟨db, hdb⟩ := LawfulStream.base_resize (withTransforms x tr) config
        have hbase := congrArg BaseStream.transforms hdb
        rwa [heq, LawfulStream.base_withTransforms] at hbase
      rcases hchanges.2 with ⟨table', htable', m, hm, hnone⟩ | hresize
      · obtain rfl := Except.ok.inj (htable.symm.trans htable')
        obtain ⟨entry, hentry⟩ := Option.ne_none_iff_exists'.mp hm
        have horder := (hmem m).mpr (Finmap.mem_of_lookup_eq_some hentry)
        exact BaseStream.mergeTransforms_ok hmerged horder hm (htr ▸ hnone)
      · rw [← htr, LawfulStream.withTransforms_base] at heq
        exact hresize heq
    · intro hnot
      obtain ⟨hextends, hresize⟩ := not_or.mp fun h => hnot ⟨haccepts, h⟩
      rw [BaseStream.mergeTransforms_of_not_extends (fun h => hextends ⟨table, htable, h⟩) hmerged,
        LawfulStream.withTransforms_base]
      exact not_not.mp hresize

theorem update_refused (hkeys : config.keys ≠ []) (horder : Walks config order)
    (h : ¬ (base x).Accepts config) :
    (∃ f, (StreamInterface.update x config order).result = .error f ∧
      (f = .error .invalidProfile ∨ getTransforms config = .error f)) ∧
      (¬ (base x).Tears config → (StreamInterface.update x config order).state = x) := by
  have hu := LawfulStream.updated x order hkeys
  generalize StreamInterface.update x config order = r at hu
  cases hu with
  | incompatible => exact ⟨⟨_, rfl, .inl rfl⟩, fun _ => rfl⟩
  | unbuildable _ hbuild => exact ⟨⟨_, rfl, .inr hbuild⟩, fun _ => rfl⟩
  | @torn table tr hcomp htable htorn =>
    refine ⟨⟨_, rfl, .inl rfl⟩, fun htears => ?_⟩
    have hclash : (base x).Clashes table := by
      by_contra hclash
      exact h ⟨hcomp, table, htable, hclash⟩
    show withTransforms x tr = x
    rw [BaseStream.mergeTransforms_of_not_extends
      (fun hextends => htears ⟨hcomp, table, htable, hextends, hclash⟩) htorn,
      LawfulStream.withTransforms_base]
  | @merged table tr hcomp htable hmerged =>
    refine absurd ⟨hcomp, table, htable, fun ⟨m, hclash⟩ => ?_⟩ h
    have ⟨t, l, _, _, ht, _⟩ := hclash
    have hm := ((horder table htable).2 m).mpr (Finmap.mem_of_lookup_eq_some ht)
    obtain ⟨tr', hfail⟩ := BaseStream.mergeTransforms_of_clash hm hclash
    rw [hmerged] at hfail
    exact fail_ne_ok (Prod.mk.inj hfail).1.symm

/-- Some order leaves a part of the configuration in the stream. -/
theorem update_torn (hkeys : config.keys ≠ []) (h : (base x).Tears config) :
    ∃ order, Walks config order ∧
      (StreamInterface.update x config order).result = fail .invalidProfile ∧
      (StreamInterface.update x config order).state ≠ x := by
  obtain ⟨hcomp, table, htable, hextends, hclash⟩ := h
  obtain ⟨order, tr, horder, hmerge, hne⟩ := BaseStream.exists_torn_merge hextends hclash
  refine ⟨order, fun table' htable' => ?_, ?_⟩
  · obtain rfl := Except.ok.inj (htable.symm.trans htable')
    exact horder
  have hu := LawfulStream.updated x order hkeys
  generalize StreamInterface.update x config order = r at hu
  cases hu with
  | incompatible hnot => exact absurd hcomp hnot
  | unbuildable _ hbuild =>
    rw [htable] at hbuild
    cases hbuild
  | torn _ htable' htorn =>
    obtain rfl := Except.ok.inj (htable.symm.trans htable')
    obtain rfl := (Prod.mk.inj (hmerge.symm.trans htorn)).2
    refine ⟨rfl, fun heq => hne ?_⟩
    have hbase := congrArg (fun y => (base y).transforms) heq
    dsimp only at hbase
    rwa [LawfulStream.base_withTransforms] at hbase
  | merged _ htable' hmerged =>
    obtain rfl := Except.ok.inj (htable.symm.trans htable')
    rw [hmerge] at hmerged
    exact absurd (Prod.mk.inj hmerged).1 fail_ne_ok

end PacketStream

/-! ## Sessions -/

namespace Session

variable [Crates] {T : Type} [PacketStream T]

/-- No stream that the call updates is torn by the configuration; and of the streams of the template
either all take it, or it changes none of them. -/
def TakesWhole (s : Session T) (config : StreamConfig) : Option UInt32 → Prop
  | some k => ∀ x fromTemplate, s.streams.lookup k = some (x, fromTemplate) → ¬ (base x).Tears config
  | none => (∀ k x, s.streams.lookup k = some (x, true) → ¬ (base x).Tears config) ∧
    ((∀ k x, s.streams.lookup k = some (x, true) → (base x).Accepts config) ∨
      ∀ k x, s.streams.lookup k = some (x, true) → ¬ Changes x config)

omit [Crates] [PacketStream T] in
theorem templated_or (streams : Streams T) (k : UInt32) :
    (∃ x, streams.lookup k = some (x, true)) ∨ ∀ x, streams.lookup k ≠ some (x, true) :=
  or_iff_not_imp_left.mpr fun h x hx => h ⟨x, hx⟩

variable {s : Session T} {config : StreamConfig} {streams : Streams T} {streamOrder : List UInt32}
  {keyOrder : UInt32 → List Mki} {k : UInt32} {x : T}

omit [Crates] in
theorem updateTemplated_cons (hl : streams.lookup k = some (x, true)) :
    updateTemplated config keyOrder (k :: streamOrder) streams =
      match (StreamInterface.update x config (keyOrder k)).result with
      | .error e => (.error e,
          streams.insert k ((StreamInterface.update x config (keyOrder k)).state, true))
      | .ok () => updateTemplated config keyOrder streamOrder
          (streams.insert k ((StreamInterface.update x config (keyOrder k)).state, true)) := by
  cases hr : (StreamInterface.update x config (keyOrder k)).result <;>
    simp only [updateTemplated, hl, hr]

omit [Crates] in
theorem updateTemplated_cons_other (hl : ∀ x, streams.lookup k ≠ some (x, true)) :
    updateTemplated config keyOrder (k :: streamOrder) streams =
      updateTemplated config keyOrder streamOrder streams := by
  rw [updateTemplated]
  split
  · next x h => exact absurd h (hl x)
  · rfl

omit [Crates] in
theorem updateTemplated_of_not_mem {j : UInt32} (hj : j ∉ streamOrder) :
    (updateTemplated config keyOrder streamOrder streams).2.lookup j = streams.lookup j := by
  induction streamOrder generalizing streams with
  | nil => rfl
  | cons k streamOrder ih =>
    have hne := List.ne_of_not_mem_cons hj
    have hj := List.not_mem_of_not_mem_cons hj
    rcases templated_or streams k with ⟨x, hl⟩ | hl
    · rw [updateTemplated_cons hl]
      split
      · exact Finmap.lookup_insert_of_ne _ hne
      · rw [ih hj, Finmap.lookup_insert_of_ne _ hne]
    · rw [updateTemplated_cons_other hl]
      exact ih hj

omit [Crates] in
variable (config keyOrder streams) in
/-- The loop updates a stream of the template at most once, and no other stream. -/
theorem updateTemplated_lookup (hnodup : streamOrder.Nodup) (j : UInt32) :
    (updateTemplated config keyOrder streamOrder streams).2.lookup j = streams.lookup j ∨
      ∃ x, streams.lookup j = some (x, true) ∧
        (updateTemplated config keyOrder streamOrder streams).2.lookup j =
          some ((StreamInterface.update x config (keyOrder j)).state, true) := by
  induction streamOrder generalizing streams with
  | nil => exact .inl rfl
  | cons k streamOrder ih =>
    obtain ⟨hnot, hnodup⟩ := List.nodup_cons.mp hnodup
    rcases templated_or streams k with ⟨x, hl⟩ | hl
    · rw [updateTemplated_cons hl]
      rcases eq_or_ne j k with rfl | hne
      · refine .inr ⟨x, hl, ?_⟩
        split
        · exact Finmap.lookup_insert _
        · rw [updateTemplated_of_not_mem hnot, Finmap.lookup_insert]
      · split
        · exact .inl (Finmap.lookup_insert_of_ne _ hne)
        · rw [← Finmap.lookup_insert_of_ne streams hne]
          exact ih _ hnodup
    · rw [updateTemplated_cons_other hl]
      exact ih _ hnodup

variable [LawfulStream T]

theorem updateTemplated_accepted (hkeys : config.keys ≠ []) (horder : ∀ k, Walks config (keyOrder k))
    (hnodup : streamOrder.Nodup)
    (h : ∀ k ∈ streamOrder, ∀ x, streams.lookup k = some (x, true) → (base x).Accepts config) :
    (updateTemplated config keyOrder streamOrder streams).1 = .ok () := by
  induction streamOrder generalizing streams with
  | nil => rfl
  | cons k streamOrder ih =>
    obtain ⟨hnot, hnodup⟩ := List.nodup_cons.mp hnodup
    have hrest := fun k' hk' => h k' (List.mem_cons_of_mem k hk')
    rcases templated_or streams k with ⟨x, hl⟩ | hl
    · obtain ⟨hresult, -⟩ := update_accepted hkeys (horder k) (h k List.mem_cons_self x hl)
      rw [updateTemplated_cons hl, hresult]
      refine ih hnodup fun k' hk' y hy => hrest k' hk' y ?_
      rwa [Finmap.lookup_insert_of_ne _ (ne_of_mem_of_not_mem hk' hnot)] at hy
    · rw [updateTemplated_cons_other hl]
      exact ih hnodup hrest

theorem accepts_of_updateTemplated_ok (hkeys : config.keys ≠ [])
    (horder : ∀ k, Walks config (keyOrder k)) (hnodup : streamOrder.Nodup)
    (h : (updateTemplated config keyOrder streamOrder streams).1 = .ok ()) (hk : k ∈ streamOrder)
    (hl : streams.lookup k = some (x, true)) : (base x).Accepts config := by
  induction streamOrder generalizing streams with
  | nil => cases hk
  | cons j streamOrder ih =>
    obtain ⟨hnot, hnodup⟩ := List.nodup_cons.mp hnodup
    rcases templated_or streams j with ⟨y, hy⟩ | hj
    · rw [updateTemplated_cons hy] at h
      have haccepts : (base y).Accepts config := by
        by_contra hrefuses
        obtain ⟨⟨f, hf, -⟩, -⟩ := update_refused hkeys (horder j) hrefuses
        rw [hf] at h
        cases h
      rcases List.mem_cons.mp hk with rfl | hk
      · obtain rfl := (Prod.mk.inj (Option.some.inj (hl.symm.trans hy))).1
        exact haccepts
      · rw [(update_accepted hkeys (horder j) haccepts).1] at h
        refine ih hnodup h hk ?_
        rwa [Finmap.lookup_insert_of_ne _ (ne_of_mem_of_not_mem hk hnot)]
    · rw [updateTemplated_cons_other hj] at h
      rcases List.mem_cons.mp hk with rfl | hk
      · exact absurd hl (hj x)
      · exact ih hnodup h hk hl

/-- An update that neither tears nor changes the stream leaves it as it was. -/
theorem update_unchanged (hkeys : config.keys ≠ []) {order : List Mki} (horder : Walks config order)
    (htears : ¬ (base x).Tears config) (hchanges : ¬ Changes x config) :
    (StreamInterface.update x config order).state = x := by
  rcases em ((base x).Accepts config) with h | h
  · exact (update_accepted hkeys horder h).2.mpr hchanges
  · exact (update_refused hkeys horder h).2 htears

theorem updateTemplated_unchanged (hkeys : config.keys ≠ [])
    (horder : ∀ k, Walks config (keyOrder k))
    (htears : ∀ k x, streams.lookup k = some (x, true) → ¬ (base x).Tears config)
    (hchanges : ∀ k x, streams.lookup k = some (x, true) → ¬ Changes x config) :
    (updateTemplated config keyOrder streamOrder streams).2 = streams := by
  induction streamOrder with
  | nil => rfl
  | cons k streamOrder ih =>
    rcases templated_or streams k with ⟨x, hl⟩ | hl
    · rw [updateTemplated_cons hl, update_unchanged hkeys (horder k) (htears k x hl) (hchanges k x hl),
        Finmap.insert_lookup_self hl]
      split
      · rfl
      · exact ih
    · rw [updateTemplated_cons_other hl]
      exact ih

/-- The condition is enough, in every order. -/
theorem TakesWhole.unchanged {ssrc : Option UInt32} (hv : config.validate = .ok ())
    (h : s.TakesWhole config ssrc) (hnodup : streamOrder.Nodup)
    (horder : ∀ k, Walks config (keyOrder k)) {f : Fault SrtpError}
    (hresult : (s.addStream ssrc config streamOrder keyOrder).result = .error f) :
    (s.addStream ssrc config streamOrder keyOrder).state = s := by
  have hkeys := (StreamConfig.valid_of_validate hv).keys_ne
  have ha := Session.added s ssrc config streamOrder keyOrder
  generalize s.addStream ssrc config streamOrder keyOrder = r at ha hresult
  cases ha with
  | invalid => rfl
  | @templateRefused f streams _ hu =>
    obtain ⟨htears, haccepts | hchanges⟩ := h
    · have hok : (updateTemplated config keyOrder streamOrder s.streams).1 = .ok () :=
        updateTemplated_accepted hkeys horder hnodup fun k _ x hl => haccepts k x hl
      rw [hu] at hok
      cases hok
    · have hsame : (updateTemplated config keyOrder streamOrder s.streams).2 = s.streams :=
        updateTemplated_unchanged hkeys horder htears hchanges
      rw [hu] at hsame
      exact congrArg (fun streams => { s with streams }) hsame
  | template => cases hresult
  | unbuilt => rfl
  | built => cases hresult
  | @refused k x x' fromTemplate f _ hl hu =>
    have hnot : ¬ (base x).Accepts config := by
      intro haccepts
      have hok := (update_accepted hkeys (horder k) haccepts).1
      rw [hu] at hok
      cases hok
    have hsame := (update_refused hkeys (horder k) hnot).2 (h x fromTemplate hl)
    rw [hu] at hsame
    obtain rfl : x' = x := hsame
    rw [Finmap.insert_lookup_self hl]
  | updated => cases hresult

omit [Crates] [LawfulStream T] in
theorem addStream_none_error (hv : config.validate = .ok ()) {f : Fault SrtpError}
    (hu : updateTemplated config keyOrder streamOrder s.streams = (.error f, streams)) :
    s.addStream none config streamOrder keyOrder = ⟨.error f, { s with streams }, []⟩ := by
  unfold addStream
  rw [hv]
  dsimp only
  rw [hu]

omit [Crates] [PacketStream T] [LawfulStream T] in
theorem streams_ne {y : T} {fromTemplate fromTemplate' : Bool}
    (hx : s.streams.lookup k = some (x, fromTemplate)) (hy : streams.lookup k = some (y, fromTemplate'))
    (hne : y ≠ x) : ({ s with streams } : Session T) ≠ s := by
  intro heq
  have hk := congrArg (fun s' : Session T => s'.streams.lookup k) heq
  dsimp only at hk
  rw [hx, hy, Option.some.injEq, Prod.mk.injEq] at hk
  exact hne hk.1

/-- Some order of the walks leaves a part of the refused configuration in the session. -/
def LeavesPart (s : Session T) (config : StreamConfig) (ssrc : Option UInt32) : Prop :=
  ∃ streamOrder keyOrder e, s.streams.Enumerates streamOrder ∧ (∀ k, Walks config (keyOrder k)) ∧
    (s.addStream ssrc config streamOrder keyOrder).result = .error (.error e) ∧
    (s.addStream ssrc config streamOrder keyOrder).state ≠ s

theorem leavesPart_of_tears {fromTemplate : Bool} (hv : config.validate = .ok ())
    (hl : s.streams.lookup k = some (x, fromTemplate)) (h : (base x).Tears config) :
    s.LeavesPart config (some k) := by
  have hkeys := (StreamConfig.valid_of_validate hv).keys_ne
  obtain ⟨order, horder, hresult, hstate⟩ := update_torn hkeys h
  obtain ⟨streamOrder, hstreams⟩ := s.streams.exists_enumeration
  refine ⟨streamOrder, fun _ => order, .invalidProfile, hstreams, fun _ => horder, ?_⟩
  unfold addStream
  rw [hv]
  dsimp only
  rw [hl]
  dsimp only
  rw [hresult]
  exact ⟨rfl, streams_ne hl (Finmap.lookup_insert _) hstate⟩

theorem leavesPart_of_templated_tears (hv : config.validate = .ok ())
    (hl : s.streams.lookup k = some (x, true)) (h : (base x).Tears config) :
    s.LeavesPart config none := by
  have hkeys := (StreamConfig.valid_of_validate hv).keys_ne
  obtain ⟨order, horder, hresult, hstate⟩ := update_torn hkeys h
  obtain ⟨back, hstreams⟩ := s.streams.exists_enumeration_from (List.nodup_singleton k)
    fun k' hk' => List.mem_singleton.mp hk' ▸ Finmap.mem_of_lookup_eq_some hl
  have hu : updateTemplated config (fun _ => order) (k :: back) s.streams = (fail .invalidProfile,
      s.streams.insert k ((StreamInterface.update x config order).state, true)) := by
    rw [updateTemplated_cons hl, hresult]
    rfl
  refine ⟨[k] ++ back, fun _ => order, .invalidProfile, hstreams, fun _ => horder, ?_⟩
  rw [List.singleton_append, addStream_none_error hv hu]
  exact ⟨rfl, streams_ne hl (Finmap.lookup_insert _) hstate⟩

/-- The stream that takes the configuration is walked first. -/
theorem leavesPart_of_mixed {k' : UInt32} {y : T} (hv : config.validate = .ok ())
    (hx : s.streams.lookup k = some (x, true)) (hrefuses : ¬ (base x).Accepts config)
    (hy : s.streams.lookup k' = some (y, true)) (hchanges : Changes y config) :
    s.LeavesPart config none := by
  have hkeys := (StreamConfig.valid_of_validate hv).keys_ne
  have hne : k ≠ k' := by
    rintro rfl
    obtain rfl := (Prod.mk.inj (Option.some.inj (hx.symm.trans hy))).1
    exact hrefuses hchanges.1
  obtain ⟨order, horder⟩ := exists_walks config
  obtain ⟨hok, hstate⟩ := update_accepted hkeys horder hchanges.1
  obtain ⟨⟨f, herr, hf⟩, -⟩ := update_refused hkeys horder hrefuses
  obtain rfl : f = .error .invalidProfile := by
    rcases hf with hf | hf
    · exact hf
    · obtain ⟨-, table, htable, -⟩ := hchanges.1
      rw [htable] at hf
      cases hf
  have hfront : [k', k].Nodup := by simpa using hne.symm
  obtain ⟨back, hstreams⟩ := s.streams.exists_enumeration_from hfront fun j hj => by
    rcases List.mem_pair.mp hj with rfl | rfl
    · exact Finmap.mem_of_lookup_eq_some hy
    · exact Finmap.mem_of_lookup_eq_some hx
  have hu : updateTemplated config (fun _ => order) (k' :: k :: back) s.streams =
      (fail .invalidProfile, (s.streams.insert k'
        ((StreamInterface.update y config order).state, true)).insert k
          ((StreamInterface.update x config order).state, true)) := by
    rw [updateTemplated_cons hy, hok]
    dsimp only
    rw [updateTemplated_cons ((Finmap.lookup_insert_of_ne _ hne).trans hx), herr]
    rfl
  refine ⟨[k', k] ++ back, fun _ => order, .invalidProfile, hstreams, fun _ => horder, ?_⟩
  rw [show [k', k] ++ back = k' :: k :: back from rfl, addStream_none_error hv hu]
  have hleft : ((s.streams.insert k' ((StreamInterface.update y config order).state, true)).insert k
      ((StreamInterface.update x config order).state, true)).lookup k' =
        some ((StreamInterface.update y config order).state, true) := by
    rw [Finmap.lookup_insert_of_ne _ hne.symm, Finmap.lookup_insert]
  exact ⟨rfl, streams_ne hy hleft fun heq => hstate.mp heq hchanges⟩

theorem leavesPart {ssrc : Option UInt32} (hv : config.validate = .ok ())
    (h : ¬ s.TakesWhole config ssrc) : s.LeavesPart config ssrc := by
  cases ssrc with
  | some k =>
    by_contra hnot
    exact h fun x fromTemplate hl htears => hnot (leavesPart_of_tears hv hl htears)
  | none =>
    by_contra hnot
    refine h ⟨fun k x hl htears => hnot (leavesPart_of_templated_tears hv hl htears), ?_⟩
    refine or_iff_not_imp_left.mpr fun hrefuses k' y hy hchanges => hrefuses fun k x hx => ?_
    by_contra hnone
    exact hnot (leavesPart_of_mixed hv hx hnone hy hchanges)

end Session

/-- Of sending and receiving sessions: whatever the order of the walks, a configuration that is refused
leaves the session as it was, exactly when it is invalid or no part of it can get in. -/
theorem addStream_all_or_nothing [Crates] :
    (∀ (s : SendSession) (ssrc : Option UInt32) (config : StreamConfig),
      (∀ streamOrder keyOrder, s.streams.Enumerates streamOrder → (∀ k, Walks config (keyOrder k)) →
        ∀ e, (s.addStream ssrc config streamOrder keyOrder).result = .error (.error e) →
          (s.addStream ssrc config streamOrder keyOrder).state = s) ↔
      (config.validate = .ok () → s.TakesWhole config ssrc)) ∧
    ∀ (s : RecvSession) (ssrc : Option UInt32) (config : StreamConfig),
      (∀ streamOrder keyOrder, s.streams.Enumerates streamOrder → (∀ k, Walks config (keyOrder k)) →
        ∀ e, (s.addStream ssrc config streamOrder keyOrder).result = .error (.error e) →
          (s.addStream ssrc config streamOrder keyOrder).state = s) ↔
      (config.validate = .ok () → s.TakesWhole config ssrc) := by
  have hiff : ∀ {T : Type} [PacketStream T] [LawfulStream T] (s : Session T) (ssrc : Option UInt32)
      (config : StreamConfig),
      (∀ streamOrder keyOrder, s.streams.Enumerates streamOrder → (∀ k, Walks config (keyOrder k)) →
        ∀ e, (s.addStream ssrc config streamOrder keyOrder).result = .error (.error e) →
          (s.addStream ssrc config streamOrder keyOrder).state = s) ↔
      (config.validate = .ok () → s.TakesWhole config ssrc) := by
    intro T _ _ s ssrc config
    constructor
    · intro h hv
      by_contra hnot
      obtain ⟨streamOrder, keyOrder, e, hstreams, hwalks, hresult, hstate⟩ :=
        Session.leavesPart hv hnot
      exact hstate (h streamOrder keyOrder hstreams hwalks e hresult)
    · intro h streamOrder keyOrder hstreams hwalks e hresult
      cases hv : config.validate with
      | error f =>
        unfold Session.addStream
        rw [hv]
      | ok u => exact (h hv).unchanged hv hstreams.1 hwalks hresult
  exact ⟨hiff, hiff⟩

section Example

open Vectors

attribute [local instance] Vectors.crates

/-- A session with one stream, which has one key. -/
def oneKeySession : SendSession :=
  (Session.addStream (T := SendStream) .new (some 0xcafebabe) (config [key (some [1]) .default]) []
    fun _ => []).state

/-- A second key for the stream, and another one in the place of the first. -/
def clashingConfig : StreamConfig :=
  config [key (some [2]) .default, ⟨otherKey, masterSalt, some [1], .default⟩]

theorem walks_clashingConfig : Walks clashingConfig [some [2], some [1]] :=
  walks_mkis (StreamConfig.valid_of_validate (by decide +kernel))

theorem oneKeySession_keeps_part : ¬ ∀ (s : SendSession) (ssrc : Option UInt32) (config : StreamConfig)
    (streamOrder : List UInt32) (keyOrder : UInt32 → List Mki) (e : SrtpError), s.Reachable →
    s.streams.Enumerates streamOrder → (∀ k, Walks config (keyOrder k)) →
    (s.addStream ssrc config streamOrder keyOrder).result = .error (.error e) →
    (s.addStream ssrc config streamOrder keyOrder).state = s := by
  intro h
  have hreach : oneKeySession.Reachable :=
    ⟨_, .single sessionStep Session.new
      (.addStream (some 0xcafebabe) (config [key (some [1]) .default]) [] fun _ => [])⟩
  obtain ⟨streamOrder, hstreams⟩ := oneKeySession.streams.exists_enumeration
  -- the order of the streams does not matter for an update of one
  have hany : oneKeySession.addStream (some 0xcafebabe) clashingConfig streamOrder
      (fun _ => [some [2], some [1]]) = oneKeySession.addStream (some 0xcafebabe) clashingConfig []
        (fun _ => [some [2], some [1]]) := rfl
  have hsame := h oneKeySession (some 0xcafebabe) clashingConfig streamOrder
    (fun _ => [some [2], some [1]]) .invalidProfile hreach hstreams (fun _ => walks_clashingConfig)
    (by rw [hany]; decide +kernel)
  rw [hany] at hsame
  have hkey := congrArg (fun s : SendSession => ((s.streams.lookup 0xcafebabe).bind
    fun entry => entry.1.base.transforms.lookup (some [2])).isSome) hsame
  exact absurd hkey (by decide +kernel)

end Example

end LibSrtp
