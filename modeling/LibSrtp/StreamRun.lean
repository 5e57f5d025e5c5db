import LibSrtp.PacketStream
import LibSrtp.Support.Trace

/-!
# Runs of a stream

A stream as a machine: packet operations, updates with validated configurations, the end of a key,
and direct operations, in any order.

* `Sound`: what holds of every stream that was ever built, `Sound.step`;
* `lookup_step`: what one step does to the entry of an MKI;
* `Sound.safe_call`: no packet operation panics.
-/

namespace LibSrtp

open Exec PacketStream

/-- An operation of a stream. A session validates a configuration before it updates a stream. -/
inductive StreamOp (T : Type) [PacketStream T] where
  | call (c : Call T)
  | update (config : StreamConfig) (valid : config.validate = .ok ()) (order : List Mki)
  | kill (m : Mki)
  | direct (d : Direct T)

/-- What an operation returns. -/
inductive Outcome where
  | packet (r : Res Bytes)
  | unit (r : Res Unit)

variable {T : Type} [PacketStream T]

def streamStep (s : T) : StreamOp T → Outcome × T
  | .call c => (.packet (call s c).result, (call s c).state)
  | .update config _ order =>
    (.unit (StreamInterface.update s config order).result,
      (StreamInterface.update s config order).state)
  | .kill m =>
    (.unit (StreamInterface.killSessionKeys s m).result,
      (StreamInterface.killSessionKeys s m).state)
  | .direct d => (.unit (direct s d).result, (direct s d).state)

abbrev StreamEvent (T : Type) [PacketStream T] := Event T (StreamOp T) Outcome

namespace StreamEvent

/-- A packet operation of one component under the MKI `m` that succeeded. -/
def uses (e : StreamEvent T) (isRtp : Bool) (m : Mki) : Bool :=
  match e.input, e.answer with
  | .call c, .packet (.ok _) => decide (PacketStream.isRtp c = isRtp ∧ mki e.pre c = .ok m)
  | _, _ => false

/-- The end of the key `m`. -/
def kills (e : StreamEvent T) (m : Mki) : Bool :=
  match e.input with
  | .kill m' => decide (m' = m)
  | _ => false

/-- The lives of the key `m` after the event, if they were `l` before. -/
def livesAfter (e : StreamEvent T) (m : Mki) (l : KeysLifetime) : KeysLifetime :=
  if e.uses true m then l.spent true
  else if e.uses false m then l.spent false
  else if e.kills m then l.killed
  else l

end StreamEvent

variable [Crates] [LawfulStream T]

omit [Crates] in
/-- A `Called` answer without success leaves the stream as it was. -/
theorem Called.state_of_error {s : T} {c : Call T} {r : Answer T Bytes} (h : Called s c r)
    {f : Fault SrtpError} (hf : r.result = .error f) : r.state = s := by
  cases h with
  | done => cases hf
  | _ => rfl

omit [Crates] in
/-- A successful operation used the key of its MKI, which had lives left. -/
theorem Called.of_ok {s : T} {c : Call T} {r : Answer T Bytes} (h : Called s c r) {bytes : Bytes}
    (hb : r.result = .ok bytes) :
    ∃ i m t l, locate s c = .ok (i, m) ∧ (base s).transforms.lookup m = some (t, l) ∧
      l.lives (isRtp c) ≠ 0 ∧ apply s c i t = .ok bytes ∧
      r.state = withTransforms (advance s c i)
        ((base s).transforms.insert m (t, l.spent (isRtp c))) := by
  cases h with
  | @done i m t l _ hlocate hl h0 ha => exact ⟨i, m, t, l, hlocate, hl, h0, ha.trans hb, rfl⟩
  | rejected => cases hb
  | refused => cases hb
  | _ => exact absurd hb fail_ne_ok

/-- The answer of a packet operation, computed. -/
def answered (s : T) (c : Call T) : Answer T Bytes :=
  match locate s c with
  | .error f => ⟨.error f, s, []⟩
  | .ok (i, m) =>
    match (base s).transforms.lookup m with
    | none => ⟨fail .invalidMki, s, []⟩
    | some (t, l) =>
      if l.lives (isRtp c) = 0 then
        ⟨fail (.keyLimit (isRtp c) true m (base s).ssrc), s, (base s).alerts (isRtp c) m l⟩
      else
        match apply s c i t with
        | .error f => ⟨.error f, s, (base s).alerts (isRtp c) m l⟩
        | .ok bytes =>
          ⟨.ok bytes,
            withTransforms (advance s c i) ((base s).transforms.insert m (t, l.spent (isRtp c))),
            (base s).alerts (isRtp c) m l⟩

omit [Crates] in
/-- The ways a packet operation can end exclude each other. -/
theorem Called.eq_answered {s : T} {c : Call T} {r : Answer T Bytes} (h : Called s c r) :
    r = answered s c := by
  unfold answered
  cases h with
  | rejected hf => rw [hf]
  | unknown hi hl => rw [hi]; dsimp only; rw [hl]
  | dead hi hl h0 => rw [hi]; dsimp only; rw [hl]; dsimp only; rw [if_pos h0]
  | refused hi hl h0 ha =>
    rw [hi]; dsimp only; rw [hl]; dsimp only; rw [if_neg h0, ha]
  | done hi hl h0 ha =>
    rw [hi]; dsimp only; rw [hl]; dsimp only; rw [if_neg h0, ha]

/-- A packet that cannot be processed leaves the stream. -/
theorem call_rejected {s : T} (hs : InRange s) {c : Call T} {f : Fault SrtpError}
    (hlocate : locate s c = .error f) : call s c = ⟨.error f, s, []⟩ := by
  rw [(LawfulStream.called c hs).eq_answered, answered, hlocate]

/-- A packet that the transform accepts takes a life of its key. -/
theorem call_done {s : T} (hs : InRange s) {c : Call T} {i : Nat} {m : Mki} {t : Transform}
    {l : KeysLifetime} {bytes : Bytes} (hlocate : locate s c = .ok (i, m))
    (hl : (base s).transforms.lookup m = some (t, l)) (h0 : l.lives (isRtp c) ≠ 0)
    (ha : apply s c i t = .ok bytes) :
    call s c = ⟨.ok bytes,
      withTransforms (advance s c i) ((base s).transforms.insert m (t, l.spent (isRtp c))),
      (base s).alerts (isRtp c) m l⟩ := by
  rw [(LawfulStream.called c hs).eq_answered, answered, hlocate]
  dsimp only
  rw [hl]
  dsimp only
  rw [if_neg h0, ha]

/-- The counters stay in range. -/
theorem inRange_step {s : T} (h : InRange s) (op : StreamOp T) : InRange (streamStep s op).2 := by
  cases op with
  | call c =>
    show InRange (call s c).state
    have hc := LawfulStream.called c h
    generalize call s c = r at hc
    cases hc with
    | done hlocate =>
      exact LawfulStream.inRange_withTransforms (LawfulStream.inRange_advance h hlocate)
    | _ => exact h
  | update config valid order =>
    show InRange (StreamInterface.update s config order).state
    have hu := LawfulStream.updated s order (StreamConfig.valid_of_validate valid).keys_ne
    generalize StreamInterface.update s config order = r at hu
    cases hu with
    | incompatible => exact h
    | unbuildable => exact h
    | torn => exact LawfulStream.inRange_withTransforms h
    | merged => exact LawfulStream.inRange_resize (LawfulStream.inRange_withTransforms h)
  | kill m =>
    show InRange (StreamInterface.killSessionKeys s m).state
    cases hl : (base s).transforms.lookup m with
    | none => rw [LawfulStream.killed_none hl]; exact h
    | some entry => rw [LawfulStream.killed_some hl]; exact LawfulStream.inRange_withTransforms h
  | direct d => exact LawfulStream.inRange_direct h

/-- What holds of every stream that was ever built. -/
structure Sound (s : T) : Prop where
  inRange : InRange s
  keyed : ∀ {m : Mki} {t : Transform} {l : KeysLifetime},
    (base s).transforms.lookup m = some (t, l) → t.Keyed ∧ t.mki = m

namespace Sound

variable {s : T}

theorem keyed_table {config : StreamConfig} (hv : config.Valid) {table : MkiIndexedTransform}
    (h : getTransforms config = .ok table) {m : Mki} {t : Transform} {l : KeysLifetime}
    (hl : table.lookup m = some (t, l)) : t.Keyed ∧ t.mki = m := by
  obtain ⟨key, hk, rfl, -, ht⟩ := getTransforms_lookup h hl
  obtain ⟨hkeyed, hmki, -⟩ := keyed_newTransform hv hk ht
  exact ⟨hkeyed, hmki⟩

theorem new {ssrc : UInt32} {config : StreamConfig} (hv : config.Valid)
    {handler : Option KeyLimitHandler} (h : StreamInterface.new ssrc config handler = .ok s) :
    Sound s := by
  obtain ⟨hb, hr⟩ := LawfulStream.new_ok h
  obtain ⟨table, _, _, htable, _, heq⟩ := BaseStream.new_ok hb
  refine ⟨hr, fun hl => ?_⟩
  rw [heq] at hl
  exact keyed_table hv htable hl

theorem withTransforms (h : Sound s) {tr : MkiIndexedTransform}
    (htr : ∀ {m t l}, tr.lookup m = some (t, l) → t.Keyed ∧ t.mki = m) :
    Sound (withTransforms s tr) := by
  refine ⟨LawfulStream.inRange_withTransforms h.inRange, fun hl => ?_⟩
  rw [LawfulStream.base_withTransforms] at hl
  exact htr hl

omit [Crates] [LawfulStream T] in
/-- Other lives for a key that is there. -/
theorem insert (h : Sound s) {m : Mki} {t : Transform} {l : KeysLifetime}
    (hl : (base s).transforms.lookup m = some (t, l)) (l' : KeysLifetime) {m' : Mki}
    {t' : Transform} {l'' : KeysLifetime}
    (hl' : ((base s).transforms.insert m (t, l')).lookup m' = some (t', l'')) :
    t'.Keyed ∧ t'.mki = m' := by
  rcases Finmap.lookup_insert_cases hl' with ⟨rfl, heq⟩ | hl'
  · obtain ⟨rfl, -⟩ := Prod.mk.inj heq
    exact h.keyed hl
  · exact h.keyed hl'

theorem called {c : Call T} {r : Answer T Bytes} (h : Sound s) (hr : Called s c r) :
    Sound r.state := by
  cases hr with
  | @done i m t l bytes hlocate hl h0 ha =>
    refine ⟨LawfulStream.inRange_withTransforms (LawfulStream.inRange_advance h.inRange hlocate),
      fun hl' => ?_⟩
    rw [LawfulStream.base_withTransforms] at hl'
    exact h.insert hl _ hl'
  | _ => exact h

theorem updated {config : StreamConfig} {order : List Mki} {r : Answer T Unit} (h : Sound s)
    (hv : config.Valid) (hr : Updated s config order r) : Sound r.state := by
  have hmerge : ∀ {table tr res}, getTransforms config = .ok table →
      BaseStream.mergeTransforms table order (base s).transforms = (res, tr) →
      ∀ {m t l}, tr.lookup m = some (t, l) → t.Keyed ∧ t.mki = m := by
    intro table tr res hg hm m t l hl
    rcases BaseStream.mergeTransforms_lookup hm m with heq | ⟨-, heq⟩
    · exact h.keyed (heq ▸ hl)
    · exact keyed_table hv hg (heq ▸ hl)
  cases hr with
  | incompatible => exact h
  | unbuildable => exact h
  | torn _ hg hm => exact h.withTransforms (hmerge hg hm)
  | merged _ hg hm =>
    have hs := h.withTransforms (hmerge hg hm)
    refine ⟨LawfulStream.inRange_resize hs.inRange, fun hl => ?_⟩
    obtain ⟨db, hdb⟩ := LawfulStream.base_resize (PacketStream.withTransforms s _) config
    rw [hdb] at hl
    exact hs.keyed hl

theorem killed (h : Sound s) (m : Mki) :
    Sound (StreamInterface.killSessionKeys s m).state := by
  cases hl : (base s).transforms.lookup m with
  | none => rw [LawfulStream.killed_none hl]; exact h
  | some entry =>
    obtain ⟨t, l⟩ := entry
    rw [LawfulStream.killed_some hl]
    exact h.withTransforms fun hl' => h.insert hl _ hl'

theorem directed (h : Sound s) (d : Direct T) : Sound (direct s d).state := by
  refine ⟨LawfulStream.inRange_direct h.inRange, fun hl => ?_⟩
  obtain ⟨db, hdb⟩ := LawfulStream.base_direct s d
  rw [hdb] at hl
  exact h.keyed hl

theorem step (h : Sound s) (op : StreamOp T) : Sound (streamStep s op).2 := by
  cases op with
  | call c => exact h.called (LawfulStream.called c h.inRange)
  | update config valid order =>
    have hv := StreamConfig.valid_of_validate valid
    exact h.updated hv (LawfulStream.updated s order hv.keys_ne)
  | kill m => exact h.killed m
  | direct d => exact h.directed d

theorem run (h : Sound s) {es : List (StreamEvent T)} {s' : T} (ht : Trace streamStep s es s') :
    Sound s' := ht.invariant h fun _ op hs => hs.step op

/-- No packet operation panics. -/
theorem safe_call [LawfulCrates] (h : Sound s) (c : Call T) (hl : (packet c).length < 2 ^ 36) :
    Safe (call s c).result := by
  have hlocate := LawfulStream.raises_locate (c := c) h.inRange
  have hc := LawfulStream.called c h.inRange
  generalize call s c = r at hc ⊢
  cases hc with
  | rejected hf => exact raises_error.mpr (hlocate _ hf).1
  | unknown => exact raises_fail.mpr (by simp)
  | dead => exact raises_fail.mpr (by simp)
  | refused hi hlk h0 ha =>
    have hraise := LawfulStream.raises_apply h.inRange hi (h.keyed hlk).1
    exact raises_error.mpr ((hraise _ ha).ne_panic hl)
  | done => exact raises_ok

/-- A packet operation meets a key limit only on a key without lives. -/
theorem fault (h : Sound s) {c : Call T} {f : Fault SrtpError}
    (hf : (call s c).result = .error f) :
    OwnFault f ∨ ∃ m t l, mki s c = .ok m ∧ (base s).transforms.lookup m = some (t, l) ∧
      l.lives (isRtp c) = 0 ∧ f = .error (.keyLimit (isRtp c) true m (base s).ssrc) := by
  have hc := LawfulStream.called c h.inRange
  generalize call s c = r at hc hf
  cases hc with
  | rejected ha =>
    obtain rfl := Except.error.inj hf
    exact .inl (LawfulStream.raises_locate h.inRange _ ha).2
  | unknown => obtain rfl := Except.error.inj hf; exact .inl trivial
  | @dead i m t l hlocate hl h0 =>
    exact .inr ⟨m, t, l, LawfulStream.locate_mki h.inRange hlocate, hl, h0, (Except.error.inj hf).symm⟩
  | refused hlocate hl _ ha =>
    obtain rfl := Except.error.inj hf
    exact .inl (LawfulStream.raises_apply h.inRange hlocate (h.keyed hl).1 _ ha).ownFault
  | done => cases hf

end Sound

/-! ## What stays -/

theorem ssrc_new {ssrc : UInt32} {config : StreamConfig} {handler : Option KeyLimitHandler} {s : T}
    (h : StreamInterface.new ssrc config handler = .ok s) : (base s).ssrc = ssrc := by
  obtain ⟨hb, -⟩ := LawfulStream.new_ok h
  obtain ⟨_, _, _, _, _, heq⟩ := BaseStream.new_ok hb
  rw [heq]

theorem keyLimitHandler_new {ssrc : UInt32} {config : StreamConfig}
    {handler : Option KeyLimitHandler} {s : T}
    (h : StreamInterface.new ssrc config handler = .ok s) :
    (base s).keyLimitHandler = handler := by
  obtain ⟨hb, -⟩ := LawfulStream.new_ok h
  obtain ⟨_, _, _, _, _, heq⟩ := BaseStream.new_ok hb
  rw [heq]

/-- The entries of a fresh stream are those of the keys of its configuration. -/
theorem lookup_new {ssrc : UInt32} {config : StreamConfig} {handler : Option KeyLimitHandler}
    {s : T} (h : StreamInterface.new ssrc config handler = .ok s) {m : Mki} {t : Transform}
    {l : KeysLifetime} (hl : (base s).transforms.lookup m = some (t, l)) :
    ∃ key ∈ config.keys, key.mki = m ∧ key.lifetime = l ∧ newTransform config key = .ok t := by
  obtain ⟨hb, -⟩ := LawfulStream.new_ok h
  obtain ⟨table, _, _, htable, _, heq⟩ := BaseStream.new_ok hb
  rw [heq] at hl
  exact getTransforms_lookup htable hl

/-- Every key of its configuration has its entry in a fresh stream. -/
theorem lookup_new_key {ssrc : UInt32} {config : StreamConfig} {handler : Option KeyLimitHandler}
    {s : T} (hv : config.Valid) (h : StreamInterface.new ssrc config handler = .ok s)
    {key : MasterKey} (hk : key ∈ config.keys) :
    ∃ t, newTransform config key = .ok t ∧
      (base s).transforms.lookup key.mki = some (t, key.lifetime) := by
  obtain ⟨hb, -⟩ := LawfulStream.new_ok h
  obtain ⟨table, _, _, htable, _, heq⟩ := BaseStream.new_ok hb
  rw [heq]
  exact getTransforms_lookup_key hv htable hk

/-- An update keeps the entries there are, and those it adds are those of its configuration. -/
theorem lookup_update {s : T} {config : StreamConfig} {order : List Mki} {r : Answer T Unit}
    (h : Updated s config order r) {m : Mki} {t : Transform} {l : KeysLifetime}
    (hl : (base r.state).transforms.lookup m = some (t, l)) :
    (base s).transforms.lookup m = some (t, l) ∨
      (base s).transforms.lookup m = none ∧
      ∃ key ∈ config.keys, key.mki = m ∧ key.lifetime = l ∧ newTransform config key = .ok t := by
  have hmerge : ∀ {table tr res}, getTransforms config = .ok table →
      BaseStream.mergeTransforms table order (base s).transforms = (res, tr) →
      tr.lookup m = some (t, l) → (base s).transforms.lookup m = some (t, l) ∨
        (base s).transforms.lookup m = none ∧
        ∃ key ∈ config.keys, key.mki = m ∧ key.lifetime = l ∧ newTransform config key = .ok t := by
    intro table tr res hg hm hl
    rcases BaseStream.mergeTransforms_lookup hm m with heq | ⟨hnone, heq⟩
    · exact .inl (heq ▸ hl)
    · exact .inr ⟨hnone, getTransforms_lookup hg (heq ▸ hl)⟩
  cases h with
  | incompatible => exact .inl hl
  | unbuildable => exact .inl hl
  | torn _ hg hm =>
    rw [LawfulStream.base_withTransforms] at hl
    exact hmerge hg hm hl
  | merged _ hg hm =>
    obtain ⟨db, hdb⟩ := LawfulStream.base_resize (withTransforms s _) config
    rw [hdb, LawfulStream.base_withTransforms] at hl
    exact hmerge hg hm hl

/-- What no operation changes. -/
structure BaseStream.Same (b b' : BaseStream) : Prop where
  ssrc : b'.ssrc = b.ssrc
  mkiLen : b'.mkiLen = b.mkiLen
  keyLimitHandler : b'.keyLimitHandler = b.keyLimitHandler

theorem same_step {s : T} (h : InRange s) (op : StreamOp T) :
    (base s).Same (base (streamStep s op).2) := by
  have hrefl : ∀ b : BaseStream, b.Same b := fun b => ⟨rfl, rfl, rfl⟩
  cases op with
  | call c =>
    have hc := LawfulStream.called c h
    show (base s).Same (base (call s c).state)
    generalize call s c = r at hc
    cases hc with
    | @done i =>
      obtain ⟨db, hdb⟩ := LawfulStream.base_advance s c i
      rw [LawfulStream.base_withTransforms, hdb]
      exact ⟨rfl, rfl, rfl⟩
    | _ => exact hrefl _
  | update config valid order =>
    have hu := LawfulStream.updated s order (StreamConfig.valid_of_validate valid).keys_ne
    show (base s).Same (base (StreamInterface.update s config order).state)
    generalize StreamInterface.update s config order = r at hu
    cases hu with
    | incompatible => exact hrefl _
    | unbuildable => exact hrefl _
    | torn => rw [LawfulStream.base_withTransforms]; exact ⟨rfl, rfl, rfl⟩
    | merged =>
      obtain ⟨db, hdb⟩ := LawfulStream.base_resize (withTransforms s _) config
      rw [hdb, LawfulStream.base_withTransforms]
      exact ⟨rfl, rfl, rfl⟩
  | kill m =>
    show (base s).Same (base (StreamInterface.killSessionKeys s m).state)
    cases hl : (base s).transforms.lookup m with
    | none => rw [LawfulStream.killed_none hl]; exact hrefl _
    | some entry =>
      rw [LawfulStream.killed_some hl, LawfulStream.base_withTransforms]
      exact ⟨rfl, rfl, rfl⟩
  | direct d =>
    obtain ⟨db, hdb⟩ := LawfulStream.base_direct s d
    show (base s).Same (base (direct s d).state)
    rw [hdb]
    exact ⟨rfl, rfl, rfl⟩

/-- A stream stays with its SSRC. -/
theorem ssrc_step {s : T} (h : InRange s) (op : StreamOp T) :
    (base (streamStep s op).2).ssrc = (base s).ssrc := (same_step h op).ssrc

/-! ## The entry of one MKI -/

section Entry

variable {s : T} {m : Mki}

omit [Crates] [LawfulStream T] in
/-- A packet operation that returned bytes used one component and one MKI. -/
theorem StreamEvent.uses_call {c : Call T} {bytes : Bytes} {s' : T} (isRtp : Bool) :
    StreamEvent.uses ⟨s, .call c, .packet (.ok bytes), s'⟩ isRtp m =
      decide (PacketStream.isRtp c = isRtp ∧ mki s c = .ok m) := rfl

omit [Crates] [LawfulStream T] in
/-- An event that neither uses nor kills the key leaves its lives. -/
theorem StreamEvent.livesAfter_of_not {e : StreamEvent T} (hu : ∀ b, e.uses b m = false)
    (hk : e.kills m = false) (l : KeysLifetime) : e.livesAfter m l = l := by
  simp [livesAfter, hu, hk]

/-- What one step does to an entry: nothing, unless it uses or kills the key. -/
theorem lookup_step (h : InRange s) (op : StreamOp T) {t : Transform} {l : KeysLifetime}
    (hl : (base s).transforms.lookup m = some (t, l)) :
    (base (streamStep s op).2).transforms.lookup m =
      some (t, StreamEvent.livesAfter (.of streamStep s op) m l) := by
  cases op with
  | call c =>
    have hc := LawfulStream.called c h
    show (base (call s c).state).transforms.lookup m =
      some (t, StreamEvent.livesAfter ⟨s, .call c, .packet (call s c).result, (call s c).state⟩ m l)
    generalize call s c = r at hc ⊢
    cases hr : r.result with
    | error f =>
      rw [hc.state_of_error hr, StreamEvent.livesAfter_of_not (fun _ => rfl) rfl, hl]
    | ok bytes =>
      obtain ⟨i, m', t', l', hlocate, hl', -, -, hstate⟩ := hc.of_ok hr
      have hmki := LawfulStream.locate_mki h hlocate
      rw [hstate, LawfulStream.base_withTransforms, Finmap.lookup_insert_eq]
      by_cases hm : m = m'
      · subst hm
        obtain ⟨rfl, rfl⟩ := Prod.mk.inj (Option.some.inj (hl.symm.trans hl'))
        cases hb : isRtp c <;>
          simp [StreamEvent.livesAfter, StreamEvent.uses_call, hmki, hb]
      · have hne : ¬ mki s c = .ok m := by
          rw [hmki, Except.ok.injEq]; exact fun h => hm h.symm
        rw [if_neg hm, StreamEvent.livesAfter_of_not (fun b => ?_) rfl, hl]
        rw [StreamEvent.uses_call, decide_eq_false (fun h => hne h.2)]
  | update config valid order =>
    have hu := LawfulStream.updated s order (StreamConfig.valid_of_validate valid).keys_ne
    rw [StreamEvent.livesAfter_of_not (fun _ => rfl) rfl]
    show (base (StreamInterface.update s config order).state).transforms.lookup m = _
    generalize StreamInterface.update s config order = r at hu
    have hkeep : ∀ {table tr res},
        BaseStream.mergeTransforms table order (base s).transforms = (res, tr) →
        tr.lookup m = some (t, l) := by
      intro table tr res hm
      rcases BaseStream.mergeTransforms_lookup hm m with heq | ⟨hnone, -⟩
      · rw [heq, hl]
      · rw [hnone] at hl; cases hl
    cases hu with
    | incompatible => exact hl
    | unbuildable => exact hl
    | torn _ _ hm => rw [LawfulStream.base_withTransforms]; exact hkeep hm
    | merged _ _ hm =>
      obtain ⟨db, hdb⟩ := LawfulStream.base_resize (withTransforms s _) config
      rw [hdb, LawfulStream.base_withTransforms]
      exact hkeep hm
  | kill m' =>
    have hnot : ∀ b, StreamEvent.uses (.of streamStep s (.kill m')) b m = false := fun _ => rfl
    show (base (StreamInterface.killSessionKeys s m').state).transforms.lookup m = _
    by_cases hm : m' = m
    · subst hm
      have hkill : StreamEvent.kills (.of streamStep s (.kill m')) m' = true := decide_eq_true rfl
      rw [LawfulStream.killed_some hl, LawfulStream.base_withTransforms, Finmap.lookup_insert]
      simp [StreamEvent.livesAfter, hnot, hkill]
    · have hkill : StreamEvent.kills (.of streamStep s (.kill m')) m = false := decide_eq_false hm
      rw [StreamEvent.livesAfter_of_not hnot hkill]
      cases hl' : (base s).transforms.lookup m' with
      | none => rw [LawfulStream.killed_none hl']; exact hl
      | some entry =>
        rw [LawfulStream.killed_some hl', LawfulStream.base_withTransforms,
          Finmap.lookup_insert_of_ne _ (Ne.symm hm)]
        exact hl
  | direct d =>
    obtain ⟨db, hdb⟩ := LawfulStream.base_direct s d
    show (base (direct s d).state).transforms.lookup m = _
    rw [hdb, StreamEvent.livesAfter_of_not (fun _ => rfl) rfl]
    exact hl

/-- A step brings in no transform, unless it is an update that lists its key under a new MKI. -/
theorem transform_step (h : InRange s) (op : StreamOp T) {t : Transform} {l : KeysLifetime}
    (hl : (base (streamStep s op).2).transforms.lookup m = some (t, l)) :
    (∃ l', (base s).transforms.lookup m = some (t, l')) ∨
      ∃ config valid order, op = .update config valid order ∧
        (base s).transforms.lookup m = none ∧
        ∃ key ∈ config.keys, key.mki = m ∧ newTransform config key = .ok t := by
  cases hm : (base s).transforms.lookup m with
  | some entry =>
    -- an entry that is there keeps its transform
    obtain ⟨t', l'⟩ := entry
    rw [lookup_step h op hm] at hl
    obtain ⟨rfl, -⟩ := Prod.mk.inj (Option.some.inj hl)
    exact .inl ⟨l', rfl⟩
  | none =>
    refine .inr ?_
    have hinsert : ∀ {m' : Mki} {entry entry' : Transform × KeysLifetime},
        (base s).transforms.lookup m' = some entry →
        ((base s).transforms.insert m' entry').lookup m = none := by
      intro m' entry entry' hl'
      rw [Finmap.lookup_insert_of_ne, hm]
      rintro rfl
      rw [hm] at hl'
      cases hl'
    cases op with
    | call c =>
      have hc := LawfulStream.called c h
      change (base (call s c).state).transforms.lookup m = some (t, l) at hl
      cases hr : (call s c).result with
      | error f => rw [hc.state_of_error hr, hm] at hl; cases hl
      | ok bytes =>
        obtain ⟨i, m', t', l', -, hl', -, -, hstate⟩ := hc.of_ok hr
        rw [hstate, LawfulStream.base_withTransforms, hinsert hl'] at hl
        cases hl
    | update config valid order =>
      have hu := LawfulStream.updated s order (StreamConfig.valid_of_validate valid).keys_ne
      rcases lookup_update hu hl with hl' | ⟨-, key, hk, hmki, -, ht⟩
      · rw [hm] at hl'; cases hl'
      · exact ⟨config, valid, order, rfl, rfl, key, hk, hmki, ht⟩
    | kill m' =>
      change (base (StreamInterface.killSessionKeys s m').state).transforms.lookup m = some (t, l) at hl
      cases hl' : (base s).transforms.lookup m' with
      | none => rw [LawfulStream.killed_none hl', hm] at hl; cases hl
      | some entry =>
        rw [LawfulStream.killed_some hl', LawfulStream.base_withTransforms, hinsert hl'] at hl
        cases hl
    | direct d =>
      obtain ⟨db, hdb⟩ := LawfulStream.base_direct s d
      change (base (direct s d).state).transforms.lookup m = some (t, l) at hl
      rw [hdb] at hl
      change (base s).transforms.lookup m = some (t, l) at hl
      rw [hm] at hl
      cases hl

end Entry

/-- The transforms of the stream are those of the keys of one configuration. -/
def Configured (config : StreamConfig) (s : T) : Prop :=
  ∀ m t l, (base s).transforms.lookup m = some (t, l) →
    ∃ key ∈ config.keys, key.mki = m ∧ newTransform config key = .ok t

theorem Configured.new {config : StreamConfig} {ssrc : UInt32} {handler : Option KeyLimitHandler}
    {s : T} (h : StreamInterface.new ssrc config handler = .ok s) : Configured config s := by
  intro m t l hl
  obtain ⟨key, hk, hm, -, ht⟩ := lookup_new h hl
  exact ⟨key, hk, hm, ht⟩

/-- Only an update brings in other keys. -/
theorem Configured.step {config : StreamConfig} {s : T} (h : Configured config s) (hs : InRange s)
    {op : StreamOp T} (hop : ∀ config valid order, op ≠ .update config valid order) :
    Configured config (streamStep s op).2 := by
  intro m t l hl
  rcases transform_step hs op hl with ⟨l', hl'⟩ | ⟨config', valid, order, heq, -⟩
  · exact h m t l' hl'
  · exact absurd heq (hop config' valid order)

end LibSrtp
