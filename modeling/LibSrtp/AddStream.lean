import LibSrtp.SessionStreams

/-!
# What adding a configuration does

`addStream` walks hash maps, in an order nobody chooses, and writes as it goes. When it succeeds
none of that shows: the keys of the configuration that a stream does not have are added to it, all at
once, and the keys that it has stay as they are, with the lives they have left.

* `addStream_iff_takes`: a configuration is taken exactly when it is valid and each stream that the
  call concerns accepts it; the session is then `Session.taking`, whatever the walks;
* `addStream_again`: to add a configuration again is to do nothing;
* `addStream_later`: nor does it give a stream anything later on, so no key gets its lives back.
-/

namespace LibSrtp

open Exec PacketStream MkiIndexedTransform

/-! ## One stream -/

namespace BaseStream

/-- After a complete walk the new table is below the old one. -/
theorem mergeTransforms_union {table transforms transforms' : MkiIndexedTransform} {order : List Mki}
    (horder : table.Enumerates order)
    (h : mergeTransforms table order transforms = (.ok (), transforms')) :
    transforms' = transforms ∪ table := by
  apply Finmap.ext_lookup
  intro m
  rw [Finmap.lookup_union_or]
  cases hl : transforms.lookup m with
  | some entry =>
    rcases mergeTransforms_lookup h m with heq | ⟨hnone, -⟩
    · rw [heq, hl, Option.some_or]
    · rw [hl] at hnone
      cases hnone
  | none =>
    rw [Option.none_or]
    rcases mergeTransforms_lookup h m with heq | ⟨-, heq⟩
    · rw [heq, hl]
      by_contra hnew
      obtain ⟨entry, hentry⟩ := Option.ne_none_iff_exists'.mp (Ne.symm hnew)
      have hm := (horder.2 m).mpr (Finmap.mem_of_lookup_eq_some hentry)
      exact mergeTransforms_ok h hm (Ne.symm hnew) (heq.trans hl)
    · exact heq

end BaseStream

/-- The same replay window and the same leave to repeat. -/
def StreamConfig.SameSettings (config config' : StreamConfig) : Prop :=
  config'.replayWindowSize = config.replayWindowSize ∧ config'.allowSendRepeat = config.allowSendRepeat

/-- The settings of a stream are those of the last configuration it took. -/
class LawfulResize (T : Type) [Crates] [PacketStream T] : Prop where
  resize_twice (x : T) (config : StreamConfig) : resize (resize x config) config = resize x config
  resize_congr (x : T) {config config' : StreamConfig} :
    config.SameSettings config' → resize x config' = resize x config
  resize_withTransforms (x : T) (tr : MkiIndexedTransform) (config : StreamConfig) :
    resize (withTransforms x tr) config = withTransforms (resize x config) tr
  resize_new {ssrc : UInt32} {config : StreamConfig} {handler : Option KeyLimitHandler} {x : T} :
    StreamInterface.new ssrc config handler = .ok x → resize x config = x
  resize_advance {x : T} {config : StreamConfig} (c : Call T) (i : Nat) :
    resize x config = x → resize (advance x c i) config = advance x c i
  resize_direct {x : T} {config : StreamConfig} (d : Direct T) :
    resize x config = x → resize (direct x d).state config = (direct x d).state

section Instances

variable [Crates]

omit [Crates] in
theorem RtcpReplayDb.added_windowMask (db : RtcpReplayDb) (i : ℕ) :
    (db.added i).windowMask = db.windowMask := by
  unfold added
  split <;> rfl

/-- A sender has the settings of the configuration. -/
theorem SendStream.resize_eq_self_iff {x : SendStream} {config : StreamConfig} :
    resize x config = x ↔ x.base.rtpIndex.windowMask = .ofSize config.replayWindowSize ∧
      x.base.allowSendRepeat = config.allowSendRepeat := by
  constructor
  · intro h
    exact ⟨congrArg (·.base.rtpIndex.windowMask) h.symm, congrArg (·.base.allowSendRepeat) h.symm⟩
  · obtain ⟨⟨ssrc, transforms, mkiLen, db, handler, allowSendRepeat⟩, rtcpIndex⟩ := x
    obtain ⟨index, pendingRoc, window, windowMask⟩ := db
    rintro ⟨rfl, rfl⟩
    rfl

theorem RecvStream.resize_eq_self_iff {x : RecvStream} {config : StreamConfig} :
    resize x config = x ↔ x.base.rtpIndex.windowMask = .ofSize config.replayWindowSize ∧
      x.base.allowSendRepeat = config.allowSendRepeat ∧
      x.rtcpIndex.windowMask = .ofSize config.replayWindowSize := by
  constructor
  · intro h
    exact ⟨congrArg (·.base.rtpIndex.windowMask) h.symm, congrArg (·.base.allowSendRepeat) h.symm,
      congrArg (·.rtcpIndex.windowMask) h.symm⟩
  · obtain ⟨⟨ssrc, transforms, mkiLen, db, handler, allowSendRepeat⟩, rtcpDb, rtpTagLen, rtcpTagLen⟩ :=
      x
    obtain ⟨index, pendingRoc, window, windowMask⟩ := db
    obtain ⟨index', window', windowMask'⟩ := rtcpDb
    rintro ⟨rfl, rfl, heq⟩
    obtain rfl : windowMask' = _ := heq
    rfl

instance : LawfulResize SendStream where
  resize_twice _ _ := rfl
  resize_congr x config config' h := by
    show ({ x with base := _ } : SendStream) = { x with base := _ }
    rw [h.1, h.2]
  resize_withTransforms _ _ _ := rfl
  resize_new h := by
    obtain ⟨b, hb, h⟩ := bind_eq_ok.mp h
    obtain rfl := Except.ok.inj h
    obtain ⟨_, _, _, _, _, rfl⟩ := BaseStream.new_ok hb
    rfl
  resize_advance c i h := by
    rw [SendStream.resize_eq_self_iff] at h ⊢
    cases c <;> exact h
  resize_direct d _ := d.elim

instance : LawfulResize RecvStream where
  resize_twice _ _ := rfl
  resize_congr x config config' h := by
    show ({ x with base := _, rtcpIndex := _ } : RecvStream) = { x with base := _, rtcpIndex := _ }
    rw [h.1, h.2]
  resize_withTransforms _ _ _ := rfl
  resize_new h := by
    obtain ⟨b, hb, h⟩ := bind_eq_ok.mp h
    obtain rfl := Except.ok.inj h
    obtain ⟨_, _, _, _, _, rfl⟩ := BaseStream.new_ok hb
    rfl
  resize_advance c i h := by
    rw [RecvStream.resize_eq_self_iff] at h ⊢
    cases c with
    | rtpUnprotect => exact h
    | rtcpUnprotect header cipher parsed =>
      rw [RecvStream.advance_rtcp]
      exact ⟨h.1, h.2.1, (RtcpReplayDb.added_windowMask _ i).trans h.2.2⟩
  resize_direct {x config} roc h := by
    rw [RecvStream.resize_eq_self_iff] at h ⊢
    have hsame : (x.setRoc roc).state.base.rtpIndex.windowMask = x.base.rtpIndex.windowMask ∧
        (x.setRoc roc).state.base.allowSendRepeat = x.base.allowSendRepeat ∧
        (x.setRoc roc).state.rtcpIndex = x.rtcpIndex := by
      unfold RecvStream.setRoc
      split <;> exact ⟨rfl, rfl, rfl⟩
    exact ⟨hsame.1.trans h.1, hsame.2.1.trans h.2.1, (congrArg _ hsame.2.2).trans h.2.2⟩

end Instances

namespace PacketStream

variable [Crates] {T : Type} [PacketStream T]

/-- The stream with the configuration taken in: its own keys, then those of the configuration. -/
def extended (config : StreamConfig) (x : T) : T :=
  match getTransforms config with
  | .ok table => resize (withTransforms x ((base x).transforms ∪ table)) config
  | .error _ => x

variable [LawfulStream T] {x : T} {config : StreamConfig} {order : List Mki}

omit [LawfulStream T] in
theorem extended_eq {table : MkiIndexedTransform} (h : getTransforms config = .ok table) (x : T) :
    extended config x = resize (withTransforms x ((base x).transforms ∪ table)) config := by
  unfold extended
  rw [h]

/-- An update that is accepted does not depend on the order of the walk. -/
theorem update_eq_extended (hkeys : config.keys ≠ []) (horder : Walks config order)
    (h : (base x).Accepts config) :
    StreamInterface.update x config order = ⟨.ok (), extended config x, []⟩ := by
  obtain ⟨hok, -⟩ := update_accepted hkeys horder h
  have hu := LawfulStream.updated x order hkeys
  generalize StreamInterface.update x config order = r at hu hok
  cases hu with
  | merged _ htable hmerged =>
    rw [BaseStream.mergeTransforms_union (horder _ htable) hmerged, extended_eq htable]
  | incompatible => exact absurd hok fail_ne_ok
  | unbuildable => cases hok
  | torn => exact absurd hok fail_ne_ok

theorem base_extended {table : MkiIndexedTransform} (h : getTransforms config = .ok table) (x : T) :
    ∃ db, base (extended config x) = { base x with
      transforms := (base x).transforms ∪ table
      rtpIndex := db
      allowSendRepeat := config.allowSendRepeat } := by
  obtain ⟨db, hdb⟩ := LawfulStream.base_resize
    (withTransforms x ((base x).transforms ∪ table)) config
  refine ⟨db, ?_⟩
  rw [extended_eq h, hdb, LawfulStream.base_withTransforms]

/-- The stream has the keys of the configuration, with any lives, and its settings. -/
structure Took (config : StreamConfig) (x : T) : Prop where
  compatible : (base x).Compatible config
  keys : ∃ table, getTransforms config = .ok table ∧ ∀ m t l, table.lookup m = some (t, l) →
    ∃ l', (base x).transforms.lookup m = some (t, l')
  settings : resize x config = x

namespace Took

omit [LawfulStream T] in
/-- A stream accepts again what it took. -/
theorem accepts (h : Took config x) : (base x).Accepts config := by
  obtain ⟨table, htable, hkeys⟩ := h.keys
  refine ⟨h.compatible, table, htable, ?_⟩
  rintro ⟨m, t, l, t', l', ht, ht', hne⟩
  obtain ⟨l'', hl⟩ := hkeys m t l ht
  obtain ⟨rfl, -⟩ := Prod.mk.inj (Option.some.inj (hl.symm.trans ht'))
  exact hne (decide_eq_true rfl)

/-- It has nothing to gain from it. -/
theorem extended_eq_self (h : Took config x) : extended config x = x := by
  obtain ⟨table, htable, hkeys⟩ := h.keys
  have hunion : (base x).transforms ∪ table = (base x).transforms := by
    apply Finmap.ext_lookup
    intro m
    rw [Finmap.lookup_union_or]
    rcases ht : table.lookup m with _ | ⟨t, l⟩
    · exact Option.or_none
    · obtain ⟨l', hl'⟩ := hkeys m t l ht
      rw [hl', Option.some_or]
  rw [extended_eq htable, hunion, LawfulStream.withTransforms_base, h.settings]

variable [LawfulResize T]

theorem extended (h : (base x).Accepts config) : Took config (extended config x) := by
  obtain ⟨hcompatible, table, htable, hclash⟩ := h
  obtain ⟨db, hbase⟩ := base_extended htable x
  refine ⟨?_, ⟨table, htable, fun m t l ht => ?_⟩, ?_⟩
  · rwa [hbase]
  · rw [hbase]
    show ∃ l', ((base x).transforms ∪ table).lookup m = some (t, l')
    rw [Finmap.lookup_union_or]
    rcases hl : (base x).transforms.lookup m with _ | ⟨t', l'⟩
    · exact ⟨l, ht⟩
    · have heq : t.equals t' := by
        by_contra hne
        exact hclash ⟨m, t, l, t', l', ht, hl, hne⟩
      obtain rfl := of_decide_eq_true heq
      exact ⟨l', rfl⟩
  · rw [extended_eq htable, LawfulResize.resize_twice]

theorem new {ssrc : UInt32} {handler : Option KeyLimitHandler}
    (h : StreamInterface.new ssrc config handler = .ok x) : Took config x := by
  obtain ⟨hb, -⟩ := LawfulStream.new_ok h
  obtain ⟨table, first, rest, htable, hkeys, hbase⟩ := BaseStream.new_ok hb
  refine ⟨⟨first, rest, hkeys, ?_⟩, ⟨table, htable, fun m t l ht => ⟨l, ?_⟩⟩,
    LawfulResize.resize_new h⟩
  · have hlen : (base x).mkiLen = (mkiBytes first.mki).length := by rw [hbase]
    rw [hlen]
    cases first.mki with
    | none => rfl
    | some m => exact decide_eq_true rfl
  · rwa [hbase]

/-- No operation takes a key away, and none but an update changes the settings. -/
theorem step (h : Took config x) (hx : InRange x) {op : StreamOp T}
    (hop : op.Takes config.SameSettings) : Took config (streamStep x op).2 := by
  refine ⟨?_, ?_, ?_⟩
  · obtain ⟨first, rest, hkeys, hmki⟩ := h.compatible
    exact ⟨first, rest, hkeys, by rwa [(same_step hx op).mkiLen]⟩
  · obtain ⟨table, htable, hkeys⟩ := h.keys
    refine ⟨table, htable, fun m t l ht => ?_⟩
    obtain ⟨l', hl'⟩ := hkeys m t l ht
    exact ⟨_, lookup_step hx op hl'⟩
  · cases op with
    | call c =>
      have hcalled := LawfulStream.called c hx
      show resize (call x c).state config = (call x c).state
      cases hr : (call x c).result with
      | error f => rw [hcalled.state_of_error hr, h.settings]
      | ok bytes =>
        obtain ⟨i, m, t, l, -, -, -, -, hstate⟩ := hcalled.of_ok hr
        rw [hstate, LawfulResize.resize_withTransforms, LawfulResize.resize_advance c i h.settings]
    | update config' valid order =>
      have hu := LawfulStream.updated x order (StreamConfig.valid_of_validate valid).keys_ne
      show resize (StreamInterface.update x config' order).state config =
        (StreamInterface.update x config' order).state
      generalize StreamInterface.update x config' order = r at hu
      cases hu with
      | incompatible => exact h.settings
      | unbuildable => exact h.settings
      | torn =>
        show resize (withTransforms x _) config = withTransforms x _
        rw [LawfulResize.resize_withTransforms, h.settings]
      | merged =>
        show resize (resize _ config') config = resize _ config'
        rw [LawfulResize.resize_congr _ (hop config' valid order rfl), LawfulResize.resize_twice]
    | kill m =>
      show resize (StreamInterface.killSessionKeys x m).state config =
        (StreamInterface.killSessionKeys x m).state
      cases hl : (base x).transforms.lookup m with
      | none =>
        rw [LawfulStream.killed_none hl]
        exact h.settings
      | some entry =>
        rw [LawfulStream.killed_some hl]
        show resize (withTransforms x _) config = withTransforms x _
        rw [LawfulResize.resize_withTransforms, h.settings]
    | direct d => exact LawfulResize.resize_direct d h.settings

theorem run (h : Took config x) (hx : InRange x) {es : List (StreamEvent T)} {x' : T}
    (ht : Trace streamStep x es x') (htakes : ∀ e ∈ es, e.input.Takes config.SameSettings) :
    Took config x' := by
  have hboth : InRange x' ∧ Took config x' := by
    refine ht.invariant_of (I := fun x : T => InRange x ∧ Took config x)
      (P := fun e => e.input.Takes config.SameSettings) htakes ⟨hx, h⟩ ?_
    rintro x op ⟨hx, h⟩ hop
    exact ⟨inRange_step hx op, h.step hx hop⟩
  exact hboth.2

end Took

end PacketStream

/-! ## The session -/

namespace Session

variable [Crates] {T : Type} [PacketStream T]

/-- A stream of the template takes the configuration, the others stay. -/
def extendTemplated (config : StreamConfig) : T × Bool → T × Bool
  | (x, true) => (extended config x, true)
  | (x, false) => (x, false)

/-- Each stream that the call concerns accepts the configuration, or can be built from it. -/
def Takes (s : Session T) (config : StreamConfig) : Option UInt32 → Prop
  | none => ∀ k x, s.streams.lookup k = some (x, true) → (base x).Accepts config
  | some k =>
    match s.streams.lookup k with
    | some (x, _) => (base x).Accepts config
    | none => ∃ x : T, StreamInterface.new k config s.keyLimitHandler = .ok x

/-- The session after it took the configuration. -/
def taking (s : Session T) (config : StreamConfig) : Option UInt32 → Session T
  | none => { s with
      streams := s.streams.mapVals (extendTemplated config)
      templateConfig := some config }
  | some k =>
    match s.streams.lookup k with
    | some (x, _) => { s with streams := s.streams.insert k (extended config x, false) }
    | none =>
      match StreamInterface.new k config s.keyLimitHandler with
      | .ok x => { s with streams := s.streams.insert k (x, false) }
      | .error _ => s

variable [LawfulStream T] {s : Session T} {config : StreamConfig} {streams : Streams T}
  {streamOrder : List UInt32} {keyOrder : UInt32 → List Mki}

/-- The loop over the streams of the template, when it gets to the end, has visited each of them. -/
theorem updateTemplated_taken (hkeys : config.keys ≠ []) (horder : ∀ k, Walks config (keyOrder k))
    (hnodup : streamOrder.Nodup)
    (h : ∀ k ∈ streamOrder, ∀ x, streams.lookup k = some (x, true) → (base x).Accepts config)
    {j : UInt32} (hj : j ∈ streamOrder) :
    (updateTemplated config keyOrder streamOrder streams).2.lookup j =
      (streams.lookup j).map (extendTemplated config) := by
  induction streamOrder generalizing streams with
  | nil => cases hj
  | cons k streamOrder ih =>
    obtain ⟨hnot, hnodup⟩ := List.nodup_cons.mp hnodup
    have hrest := fun k' hk' => h k' (List.mem_cons_of_mem k hk')
    rcases templated_or streams k with ⟨x, hl⟩ | hl
    · rw [updateTemplated_cons hl, update_eq_extended hkeys (horder k) (h k List.mem_cons_self x hl)]
      dsimp only
      rcases List.mem_cons.mp hj with rfl | hj
      · rw [updateTemplated_of_not_mem hnot, Finmap.lookup_insert, hl]
        rfl
      · have hne := ne_of_mem_of_not_mem hj hnot
        rw [← Finmap.lookup_insert_of_ne streams hne]
        refine ih hnodup (fun k' hk' y hy => hrest k' hk' y ?_) hj
        rwa [Finmap.lookup_insert_of_ne _ (ne_of_mem_of_not_mem hk' hnot)] at hy
    · rw [updateTemplated_cons_other hl]
      rcases List.mem_cons.mp hj with rfl | hj
      · rw [updateTemplated_of_not_mem hnot]
        -- there is no stream, or an explicit one
        rcases hentry : streams.lookup j with _ | ⟨x, fromTemplate⟩
        · rfl
        · cases fromTemplate with
          | true => exact absurd hentry (hl x)
          | false => rfl
      · exact ih hnodup hrest hj

theorem updateTemplated_eq (hkeys : config.keys ≠ []) (horder : ∀ k, Walks config (keyOrder k))
    (hstreams : streams.Enumerates streamOrder)
    (h : ∀ k x, streams.lookup k = some (x, true) → (base x).Accepts config) :
    updateTemplated config keyOrder streamOrder streams =
      (.ok (), streams.mapVals (extendTemplated config)) := by
  have hall : ∀ k ∈ streamOrder, ∀ x, streams.lookup k = some (x, true) →
      (base x).Accepts config := fun k _ => h k
  refine Prod.ext (updateTemplated_accepted hkeys horder hstreams.1 hall)
    (Finmap.ext_lookup fun j => ?_)
  rw [Finmap.lookup_mapVals]
  by_cases hj : j ∈ streamOrder
  · exact updateTemplated_taken hkeys horder hstreams.1 hall hj
  · have hnone : streams.lookup j = none :=
      Finmap.lookup_eq_none.mpr fun hmem => hj ((hstreams.2 j).mpr hmem)
    rw [updateTemplated_of_not_mem hj, hnone]
    rfl

omit [Crates] [LawfulStream T] in
/-- A stream is made of the configuration without a walk. -/
theorem addStream_fresh {k : UInt32} (hl : s.streams.lookup k = none) (config : StreamConfig)
    (streamOrder streamOrder' : List UInt32) (keyOrder keyOrder' : UInt32 → List Mki) :
    s.addStream (some k) config streamOrder keyOrder =
      s.addStream (some k) config streamOrder' keyOrder' := by
  simp only [addStream, hl]

theorem addStream_taken (hv : config.validate = .ok ()) {ssrc : Option UInt32}
    (h : s.Takes config ssrc) (hstreams : s.streams.Enumerates streamOrder)
    (horder : ∀ k, Walks config (keyOrder k)) :
    s.addStream ssrc config streamOrder keyOrder = ⟨.ok (), s.taking config ssrc, []⟩ := by
  have hkeys := (StreamConfig.valid_of_validate hv).keys_ne
  unfold addStream
  rw [hv]
  dsimp only
  cases ssrc with
  | none =>
    dsimp only
    rw [updateTemplated_eq hkeys horder hstreams h]
    rfl
  | some k =>
    unfold Takes at h
    unfold taking
    dsimp only at h ⊢
    rcases hl : s.streams.lookup k with _ | ⟨x, fromTemplate⟩
    · rw [hl] at h
      obtain ⟨x, hnew⟩ := h
      dsimp only
      rw [hnew]
    · rw [hl] at h
      dsimp only
      rw [update_eq_extended hkeys (horder k) h]

theorem takes_of_addStream_ok {ssrc : Option UInt32} (hstreams : s.streams.Enumerates streamOrder)
    (horder : ∀ k, Walks config (keyOrder k))
    (h : (s.addStream ssrc config streamOrder keyOrder).result = .ok ()) :
    config.validate = .ok () ∧ s.Takes config ssrc := by
  have ha := Session.added s ssrc config streamOrder keyOrder
  generalize s.addStream ssrc config streamOrder keyOrder = r at ha h
  cases ha with
  | invalid => cases h
  | templateRefused => cases h
  | @template streams hv hu =>
    have hkeys := (StreamConfig.valid_of_validate hv).keys_ne
    refine ⟨hv, fun k x hl => ?_⟩
    have hk := (hstreams.2 k).mpr (Finmap.mem_of_lookup_eq_some hl)
    exact accepts_of_updateTemplated_ok hkeys horder hstreams.1 (by rw [hu]) hk hl
  | unbuilt => cases h
  | @built k x hv hl hnew =>
    refine ⟨hv, ?_⟩
    unfold Takes
    dsimp only
    rw [hl]
    exact ⟨x, hnew⟩
  | refused => cases h
  | @updated k x x' fromTemplate hv hl hu =>
    have hkeys := (StreamConfig.valid_of_validate hv).keys_ne
    refine ⟨hv, ?_⟩
    unfold Takes
    dsimp only
    rw [hl]
    by_contra hrefuses
    obtain ⟨⟨f, hf, -⟩, -⟩ := update_refused hkeys (horder k) hrefuses
    rw [hu] at hf
    cases hf

variable [LawfulResize T]

omit [LawfulStream T] [LawfulResize T] in
theorem taking_some_eq {k : UInt32} {x : T} {fromTemplate : Bool}
    (hl : s.streams.lookup k = some (x, fromTemplate)) : s.taking config (some k) =
      { s with streams := s.streams.insert k (extended config x, false) } := by
  unfold taking
  dsimp only
  rw [hl]

omit [LawfulStream T] [LawfulResize T] in
theorem takes_some_iff {k : UInt32} {x : T} {fromTemplate : Bool}
    (hl : s.streams.lookup k = some (x, fromTemplate)) :
    s.Takes config (some k) ↔ (base x).Accepts config := by
  unfold Takes
  dsimp only
  rw [hl]

/-- The stream of the SSRC, after the call. -/
theorem exists_took {k : UInt32} (h : s.Takes config (some k)) :
    ∃ x, Took config x ∧
      s.taking config (some k) = { s with streams := s.streams.insert k (x, false) } := by
  rcases hl : s.streams.lookup k with _ | ⟨x, fromTemplate⟩
  · unfold Takes at h
    dsimp only at h
    rw [hl] at h
    obtain ⟨x, hnew⟩ := h
    refine ⟨x, .new hnew, ?_⟩
    unfold taking
    dsimp only
    rw [hl]
    dsimp only
    rw [hnew]
  · exact ⟨_, .extended ((takes_some_iff hl).mp h), taking_some_eq hl⟩

/-- A session takes again what it took, and stays as it is. -/
theorem takes_taking {ssrc : Option UInt32} (h : s.Takes config ssrc) :
    (s.taking config ssrc).Takes config ssrc ∧
      (s.taking config ssrc).taking config ssrc = s.taking config ssrc := by
  cases ssrc with
  | none =>
    constructor
    · intro k y hy
      have hmap : (s.streams.mapVals (extendTemplated config)).lookup k = some (y, true) := hy
      rw [Finmap.lookup_mapVals, Option.map_eq_some_iff] at hmap
      obtain ⟨⟨x, fromTemplate⟩, hx, heq⟩ := hmap
      cases fromTemplate with
      | true =>
        obtain ⟨rfl, -⟩ := Prod.mk.inj heq
        exact (Took.extended (h k x hx)).accepts
      | false => cases heq
    · refine ext_fields (Finmap.ext_lookup fun j => ?_) rfl rfl
      show ((s.streams.mapVals (extendTemplated config)).mapVals (extendTemplated config)).lookup j =
        (s.streams.mapVals (extendTemplated config)).lookup j
      rw [Finmap.lookup_mapVals, Finmap.lookup_mapVals]
      rcases hj : s.streams.lookup j with _ | ⟨x, fromTemplate⟩
      · rfl
      · cases fromTemplate with
        | true => exact congrArg (fun x => some (x, true)) (Took.extended (h j x hj)).extended_eq_self
        | false => rfl
  | some k =>
    obtain ⟨x, htook, htaking⟩ := exists_took h
    have hl : (s.taking config (some k)).streams.lookup k = some (x, false) := by
      rw [htaking]
      exact Finmap.lookup_insert _
    refine ⟨(takes_some_iff hl).mpr htook.accepts, ?_⟩
    rw [taking_some_eq hl, htook.extended_eq_self, Finmap.insert_lookup_self hl]

/-- To add a configuration again is to do nothing, whatever the order of the walks. -/
theorem addStream_again {ssrc : Option UInt32} (hstreams : s.streams.Enumerates streamOrder)
    (horder : ∀ k, Walks config (keyOrder k)) {s' : Session T}
    (h : s.addStream ssrc config streamOrder keyOrder = ⟨.ok (), s', []⟩) {streamOrder' : List UInt32}
    {keyOrder' : UInt32 → List Mki} (hstreams' : s'.streams.Enumerates streamOrder')
    (horder' : ∀ k, Walks config (keyOrder' k)) :
    s'.addStream ssrc config streamOrder' keyOrder' = ⟨.ok (), s', []⟩ := by
  obtain ⟨hv, htakes⟩ := takes_of_addStream_ok hstreams horder (congrArg (·.result) h)
  rw [addStream_taken hv htakes hstreams horder] at h
  obtain rfl : s.taking config ssrc = s' := congrArg (·.state) h
  obtain ⟨hagain, hsame⟩ := takes_taking htakes
  rw [addStream_taken hv hagain hstreams' horder', hsame]

/-- A configuration that was added for an SSRC can be added again at any later time, as long as the
stream is not removed and no other settings are given to it or to the template, and changes nothing
about it: whatever its keys were used for, or whether they died, none gets its lives back. -/
theorem addStream_later (hs : s.Sound) {k : UInt32} (hstreams : s.streams.Enumerates streamOrder)
    (horder : ∀ k, Walks config (keyOrder k)) {s₁ s₂ : Session T}
    (h : s.addStream (some k) config streamOrder keyOrder = ⟨.ok (), s₁, []⟩)
    {es : List (SessionEvent T)} (ht : Trace sessionStep s₁ es s₂)
    (hes : ∀ e ∈ es, e.input.Leaves k config.SameSettings) {streamOrder' : List UInt32}
    {keyOrder' : UInt32 → List Mki} (hstreams' : s₂.streams.Enumerates streamOrder')
    (horder' : ∀ k, Walks config (keyOrder' k)) :
    ∃ x fromTemplate, s₂.streams.lookup k = some (x, fromTemplate) ∧
      s₂.addStream (some k) config streamOrder' keyOrder' =
        ⟨.ok (), { s₂ with streams := s₂.streams.insert k (x, false) }, []⟩ := by
  obtain ⟨hv, htakes⟩ := takes_of_addStream_ok hstreams horder (congrArg (·.result) h)
  obtain ⟨x₁, htook, htaking⟩ := exists_took htakes
  have hs₁ : s₁.Sound := by
    have hstep := hs.step (.addStream (some k) config streamOrder keyOrder)
    rwa [show (sessionStep s (.addStream (some k) config streamOrder keyOrder)).2 = s₁ from
      congrArg (·.state) h] at hstep
  rw [addStream_taken hv htakes hstreams horder, htaking] at h
  have hl₁ : s₁.streams.lookup k = some (x₁, false) := by
    rw [← show _ = s₁ from congrArg (·.state) h]
    exact Finmap.lookup_insert _
  obtain ⟨xs, x, hrun, ⟨-, fromTemplate, hl⟩, htakes', -⟩ :=
    (simulates_stream k config.SameSettings).run ht hes ⟨hs₁, false, hl₁⟩
  have htook' := htook.run (hs₁.stream hl₁).1.inRange hrun htakes'
  refine ⟨x, fromTemplate, hl, ?_⟩
  rw [addStream_taken hv ((takes_some_iff hl).mpr htook'.accepts) hstreams' horder', taking_some_eq hl,
    htook'.extended_eq_self]

end Session

section Example

open Vectors

attribute [local instance] Vectors.crates

/-- The first configuration of a session. -/
theorem walks_oneKey : Walks (config [key (some [1]) .default]) [some [1]] :=
  walks_mkis (StreamConfig.valid_of_validate (by decide +kernel))

theorem enumerates_new : (Session.new : SendSession).streams.Enumerates [] :=
  Finmap.enumerates_of_keys List.nodup_nil rfl

/-- The session with one key. -/
theorem oneKeySession_eq : (Session.new : SendSession).addStream (some 0xcafebabe)
    (config [key (some [1]) .default]) [] (fun _ => [some [1]]) = ⟨.ok (), oneKeySession, []⟩ := by
  have hresult : ((Session.new : SendSession).addStream (some 0xcafebabe)
      (config [key (some [1]) .default]) [] fun _ => [some [1]]).result = .ok () := by decide +kernel
  obtain ⟨hv, htakes⟩ := Session.takes_of_addStream_ok enumerates_new (fun _ => walks_oneKey) hresult
  have heq := Session.addStream_taken hv htakes enumerates_new fun _ => walks_oneKey
  have hstate : (Session.new : SendSession).taking (config [key (some [1]) .default])
      (some 0xcafebabe) = oneKeySession := by
    rw [oneKeySession, Session.addStream_fresh rfl _ _ [] _ fun _ => [some [1]], heq]
  rw [heq, hstate]

/-- Two keys, the first of which the streams of `spawnedPair` have. -/
def pairKeys : StreamConfig :=
  config [key (some [1]) .default, ⟨otherKey, masterSalt, some [2], .default⟩]

/-- A template with two streams. -/
def spawnedPair : SendSession :=
  (runAll sessionStep (.new : SendSession)
    [.addStream none (config [key (some [1]) .default]) [] fun _ => [],
      .request (SendRequest.rtpProtectMki (rtpPacket 0xcafebabe 1) (some [1])),
      .request (SendRequest.rtpProtectMki (rtpPacket 0xdeadbeef 1) (some [1]))]).2

theorem walks_pairKeys {order : List Mki} (hnodup : order.Nodup)
    (hmem : ∀ m, m ∈ order ↔ m ∈ pairKeys.keys.map (·.mki)) : Walks pairKeys order := by
  have hv : pairKeys.Valid := StreamConfig.valid_of_validate (by decide +kernel)
  exact fun table htable => ⟨hnodup, fun m => (hmem m).trans ((walks_mkis hv table htable).2 m)⟩

theorem addStream_again_first : ∃ streamOrder, oneKeySession.addStream (some 0xcafebabe)
    (config [key (some [1]) .default]) streamOrder (fun _ => [some [1]]) =
      ⟨.ok (), oneKeySession, []⟩ := by
  obtain ⟨streamOrder, hstreams⟩ := oneKeySession.streams.exists_enumeration
  exact ⟨streamOrder, Session.addStream_again enumerates_new (fun _ => walks_oneKey) oneKeySession_eq
    hstreams fun _ => walks_oneKey⟩

/-- Two packets under the key. -/
def underOneKey : List (SessionOp SendStream) :=
  [.request (SendRequest.rtpProtectMki (rtpPacket 0xcafebabe 1) (some [1])),
    .request (SendRequest.rtpProtectMki (rtpPacket 0xcafebabe 2) (some [1]))]

theorem addStream_later_packets : ∃ streamOrder,
    ((runAll sessionStep oneKeySession underOneKey).2.addStream (some 0xcafebabe)
      (config [key (some [1]) .default]) streamOrder fun _ => [some [1]]).result = .ok () := by
  have hleaves : ∀ e ∈ (runAll sessionStep oneKeySession underOneKey).1,
      e.input.Leaves 0xcafebabe (config [key (some [1]) .default]).SameSettings := by
    intro e he
    have hmem := input_mem_of_runAll he
    refine ⟨⟨fun heq _ => ?_⟩, fun heq => ?_⟩ <;> (rw [heq] at hmem; simp [underOneKey] at hmem)
  obtain ⟨streamOrder, hstreams⟩ :=
    (runAll sessionStep oneKeySession underOneKey).2.streams.exists_enumeration
  obtain ⟨x, fromTemplate, -, heq⟩ := Session.addStream_later .new enumerates_new
    (fun _ => walks_oneKey) oneKeySession_eq (.runAll ..) hleaves hstreams fun _ => walks_oneKey
  exact ⟨streamOrder, congrArg (·.result) heq⟩

end Example

end LibSrtp
