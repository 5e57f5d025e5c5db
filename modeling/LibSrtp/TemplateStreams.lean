import LibSrtp.SessionRun
import LibSrtp.Vectors

/-!
# Streams spawned from the template

A stream that a packet spawns from the template and one that was added for its SSRC are given the
same packets. The spawned one comes and goes with failed first packets, and a dead key is killed on
it and in the template; the added one stays as it is.

* `KeysLifetime.Alike`: lives that no packet can tell apart;
* `called_alike`: a packet operation does not tell tables of such lives apart;
* `Session.Twins.step`: nor does a packet operation of a session;
* `template_stream_like_added`: so both sessions answer alike throughout.
-/

namespace LibSrtp

open Exec PacketStream

/-! ## Lives -/

namespace KeysLifetime

/-- Both components live or both are dead. -/
def Coupled (l : KeysLifetime) : Prop := l.rtp = 0 ↔ l.rtcp = 0

/-- The lives are the same, or there are none. -/
inductive Alike : KeysLifetime → KeysLifetime → Prop
  | same {l : KeysLifetime} : l.Coupled → Alike l l
  | dead {l l' : KeysLifetime} : (∀ isRtp, l.lives isRtp = 0) → (∀ isRtp, l'.lives isRtp = 0) →
      Alike l l'

variable {l l' : KeysLifetime} {isRtp : Bool}

theorem Coupled.dead (h : l.Coupled) (h0 : l.lives isRtp = 0) (b : Bool) : l.lives b = 0 := by
  cases isRtp with
  | true => cases b with
    | true => exact h0
    | false => exact h.mp h0
  | false => cases b with
    | true => exact h.mpr h0
    | false => exact h0

theorem Coupled.spent (h : l.Coupled) (h0 : l.lives isRtp ≠ 0) : (l.spent isRtp).Coupled := by
  have h : l.rtp = 0 ↔ l.rtcp = 0 := h
  cases isRtp with
  | true =>
    have h0 : l.rtp ≠ 0 := h0
    show l.rtp - 1 = 0 ↔ (if l.rtp - 1 = 0 then 0 else l.rtcp) = 0
    split <;> omega
  | false =>
    have h0 : l.rtcp ≠ 0 := h0
    show (if l.rtcp - 1 = 0 then 0 else l.rtp) = 0 ↔ l.rtcp - 1 = 0
    split <;> omega

theorem Alike.coupled (h : l.Alike l') : l.Coupled := by
  cases h with
  | same hc => exact hc
  | dead h0 => exact ⟨fun _ => h0 false, fun _ => h0 true⟩

theorem Alike.eq_of_alive (h : l.Alike l') (h0 : l.lives isRtp ≠ 0) : l = l' := by
  cases h with
  | same => rfl
  | dead hd => exact absurd (hd isRtp) h0

theorem Alike.dead_of_dead (h : l.Alike l') (h0 : l.lives isRtp = 0) (b : Bool) :
    l'.lives b = 0 := by
  cases h with
  | same hc => exact hc.dead h0 b
  | dead _ hd => exact hd b

theorem lives_killed (l : KeysLifetime) (b : Bool) : l.killed.lives b = 0 := by cases b <;> rfl

end KeysLifetime

/-! ## Tables -/

/-- The same transform with lives that no packet can tell apart, or no entry. -/
inductive EntriesAlike :
    Option (Transform × KeysLifetime) → Option (Transform × KeysLifetime) → Prop
  | absent : EntriesAlike none none
  | present {t : Transform} {l l' : KeysLifetime} : l.Alike l' →
      EntriesAlike (some (t, l)) (some (t, l'))

def MkiIndexedTransform.Alike (tr tr' : MkiIndexedTransform) : Prop :=
  ∀ m, EntriesAlike (tr.lookup m) (tr'.lookup m)

namespace MkiIndexedTransform.Alike

variable {tr tr' : MkiIndexedTransform} {m : Mki} {t : Transform} {l : KeysLifetime}

theorem lookup_none (h : MkiIndexedTransform.Alike tr tr') (hl : tr.lookup m = none) :
    tr'.lookup m = none := by
  have hm := h m
  rw [hl] at hm
  cases hm' : tr'.lookup m with
  | none => rfl
  | some entry => rw [hm'] at hm; cases hm

theorem lookup_some (h : MkiIndexedTransform.Alike tr tr') (hl : tr.lookup m = some (t, l)) :
    ∃ l', tr'.lookup m = some (t, l') ∧ l.Alike l' := by
  have hm := h m
  rw [hl] at hm
  cases hm' : tr'.lookup m with
  | none => rw [hm'] at hm; cases hm
  | some entry =>
    rw [hm'] at hm
    cases hm with
    | present ha => exact ⟨_, rfl, ha⟩

/-- The same change of one entry on both sides. -/
theorem insert (h : MkiIndexedTransform.Alike tr tr') (m : Mki) (t : Transform)
    {l : KeysLifetime} (hl : l.Coupled) :
    MkiIndexedTransform.Alike (tr.insert m (t, l)) (tr'.insert m (t, l)) := by
  intro m'
  rw [Finmap.lookup_insert_eq, Finmap.lookup_insert_eq]
  split
  · exact .present (.same hl)
  · exact h m'

/-- A key that is dead may be killed on one side. -/
theorem kill (h : MkiIndexedTransform.Alike tr tr') {isRtp : Bool}
    (hl : tr.lookup m = some (t, l)) (h0 : l.lives isRtp = 0) {tr₁ : MkiIndexedTransform}
    {l₁ : KeysLifetime} (h₁ : tr₁.lookup m = some (t, l₁)) (hdead : ∀ b, l₁.lives b = 0)
    (hrest : ∀ m', m' ≠ m → tr₁.lookup m' = tr.lookup m') :
    MkiIndexedTransform.Alike tr₁ tr' := by
  intro m'
  by_cases hm : m' = m
  · subst hm
    obtain ⟨l', hl', ha⟩ := h.lookup_some hl
    rw [h₁, hl']
    exact .present (.dead hdead (ha.dead_of_dead h0))
  · rw [hrest m' hm]
    exact h m'

end MkiIndexedTransform.Alike

section Refinement

variable [Crates]

/-! ## Packet operations of a stream -/

omit [Crates] in
/-- A dead key always raises the alert, whatever its limits. -/
theorem BaseStream.alerts_of_dead (b : BaseStream) {isRtp : Bool} (m : Mki) {l l' : KeysLifetime}
    (h : l.lives isRtp = 0) (h' : l'.lives isRtp = 0) : b.alerts isRtp m l = b.alerts isRtp m l' := by
  unfold alerts
  rw [h, h', if_pos (Nat.zero_le _), if_pos (Nat.zero_le _)]

section Generic

variable {T : Type} [PacketStream T] [LawfulStream T]

/-- Streams that only differ in lives that are alike answer alike, and still only differ so. -/
theorem called_alike {x : T} {tr : MkiIndexedTransform} (hx : InRange x)
    (ha : MkiIndexedTransform.Alike (base x).transforms tr) (c : Call T) :
    (call (withTransforms x tr) c).result = (call x c).result ∧
      (call (withTransforms x tr) c).calls = (call x c).calls ∧
      ∃ tr', (call (withTransforms x tr) c).state = withTransforms (call x c).state tr' ∧
        MkiIndexedTransform.Alike (base (call x c).state).transforms tr' := by
  have hy : InRange (withTransforms x tr) := LawfulStream.inRange_withTransforms hx
  have hlocate : locate (withTransforms x tr) c = locate x c :=
    LawfulStream.locate_withTransforms x tr c
  have hbase : base (withTransforms x tr) = { base x with transforms := tr } :=
    LawfulStream.base_withTransforms x tr
  have htable : (base (withTransforms x tr)).transforms = tr := congrArg _ hbase
  have halerts : ∀ b m l, (base (withTransforms x tr)).alerts b m l = (base x).alerts b m l := by
    intro b m l
    rw [hbase]
    rfl
  have hcall : ∀ {r}, Called (withTransforms x tr) c r → call (withTransforms x tr) c = r :=
    fun h => (LawfulStream.called c hy).eq_answered.trans h.eq_answered.symm
  have hc := LawfulStream.called c hx
  generalize call x c = r at hc
  cases hc with
  | rejected hf =>
    rw [hcall (.rejected (hlocate.trans hf))]
    exact ⟨rfl, rfl, tr, rfl, ha⟩
  | unknown hi hl =>
    rw [hcall (.unknown (hlocate.trans hi) (by rw [htable]; exact ha.lookup_none hl))]
    exact ⟨rfl, rfl, tr, rfl, ha⟩
  | @dead i m t l hi hl h0 =>
    obtain ⟨l', hl', hll⟩ := ha.lookup_some hl
    have h0' := hll.dead_of_dead h0 (isRtp c)
    rw [hcall (.dead (hlocate.trans hi) (by rw [htable]; exact hl') h0'), halerts]
    exact ⟨by rw [hbase], BaseStream.alerts_of_dead (base x) m h0' h0, tr, rfl, ha⟩
  | @refused i m t l f hi hl h0 hf =>
    obtain ⟨l', hl', hll⟩ := ha.lookup_some hl
    obtain rfl := hll.eq_of_alive h0
    rw [hcall (.refused (hlocate.trans hi) (by rw [htable]; exact hl') h0
      (by rw [LawfulStream.apply_withTransforms]; exact hf)), halerts]
    exact ⟨rfl, rfl, tr, rfl, ha⟩
  | @done i m t l bytes hi hl h0 hb =>
    obtain ⟨l', hl', hll⟩ := ha.lookup_some hl
    obtain rfl := hll.eq_of_alive h0
    rw [hcall (.done (hlocate.trans hi) (by rw [htable]; exact hl') h0
      (by rw [LawfulStream.apply_withTransforms]; exact hb)), halerts, htable,
      LawfulStream.advance_withTransforms, LawfulStream.withTransforms_twice]
    refine ⟨rfl, rfl, tr.insert m (t, l.spent (isRtp c)), ?_, ?_⟩
    · rw [LawfulStream.withTransforms_twice]
    · rw [LawfulStream.base_withTransforms]
      exact ha.insert m t (hll.coupled.spent h0)

/-! ## The template without a key -/

/-- A stream that is spawned after a dead key was taken from the template is the stream spawned
before, up to that key. -/
theorem new_disabled {config : StreamConfig} (hv : config.Valid) {ssrc : UInt32}
    {handler : Option KeyLimitHandler} {x : T}
    (hnew : StreamInterface.new ssrc config handler = .ok x) {m : Mki} {t : Transform}
    {l : KeysLifetime} (hl : (base x).transforms.lookup m = some (t, l)) :
    ∃ tr, (StreamInterface.new ssrc (config.disabled m) handler : Res T) =
        .ok (withTransforms x tr) ∧
      tr.lookup m = some (t, StreamConfig.disabledLifetime) ∧
      ∀ m', m' ≠ m → tr.lookup m' = (base x).transforms.lookup m' := by
  obtain ⟨hb, -⟩ := LawfulStream.new_ok hnew
  obtain ⟨table, first, rest, htable, hkeys, heq⟩ := BaseStream.new_ok hb
  have hlookup : (base x).transforms = table := congrArg _ heq
  rw [hlookup] at hl ⊢
  have hvd := hv.disabled m
  -- a key of the edited template has the transform of the key it comes from
  have hkey : ∀ key₀ key : MasterKey, key.key = key₀.key → key.salt = key₀.salt →
      key.mki = key₀.mki → newTransform (config.disabled m) key = newTransform config key₀ := by
    intro key₀ key h1 h2 h3
    unfold newTransform
    rw [h1, h2, h3]
    rfl
  obtain ⟨tr, htr⟩ : ∃ tr, getTransforms (config.disabled m) = .ok tr := by
    refine exists_getTransforms fun key hk => ?_
    obtain ⟨key₀, hk₀, h1, h2, h3⟩ := StreamConfig.of_mem_disabled hk
    obtain ⟨t₀, ht₀, -⟩ := getTransforms_lookup_key hv htable hk₀
    exact ⟨t₀, (hkey _ _ h1 h2 h3).trans ht₀⟩
  have hentry : ∀ {key₀}, key₀ ∈ config.keys → ∀ {t₀ l₀},
      table.lookup key₀.mki = some (t₀, l₀) → tr.lookup key₀.mki =
        some (t₀, if key₀.mki = m then StreamConfig.disabledLifetime else key₀.lifetime) := by
    intro key₀ hk₀ t₀ l₀ hl₀
    obtain ⟨t₁, ht₁, hl₁⟩ := getTransforms_lookup_key hv htable hk₀
    obtain ⟨rfl, -⟩ := Prod.mk.inj (Option.some.inj (hl₁.symm.trans hl₀))
    obtain ⟨t₂, ht₂, hl₂⟩ := getTransforms_lookup_key hvd htr
      (StreamConfig.mem_disabled.mpr ⟨key₀, hk₀, rfl⟩)
    split at ht₂
    · next hm =>
      rw [if_pos hm] at hl₂ ⊢
      have heq₂ := (hkey key₀ _ rfl rfl rfl).symm.trans ht₂
      obtain rfl := Except.ok.inj (ht₁.symm.trans heq₂)
      exact hl₂
    · next hm =>
      rw [if_neg hm] at hl₂ ⊢
      have heq₂ := (hkey key₀ _ rfl rfl rfl).symm.trans ht₂
      obtain rfl := Except.ok.inj (ht₁.symm.trans heq₂)
      exact hl₂
  refine ⟨tr, ?_, ?_, fun m' hm' => ?_⟩
  · obtain ⟨first', hindex, hmki⟩ : ∃ first', (index (config.disabled m).keys 0 : Res MasterKey) =
        .ok first' ∧ first'.mki = first.mki := by
      refine ⟨if first.mki = m then { first with lifetime := StreamConfig.disabledLifetime }
        else first, ?_, by split <;> rfl⟩
      unfold StreamConfig.disabled
      rw [hkeys]
      rfl
    refine LawfulStream.new_withTransforms hnew rfl rfl rfl ?_
    unfold BaseStream.new
    rw [htr, ok_bind, hindex, ok_bind, heq, hmki]
    rfl
  · obtain ⟨key, hk, rfl, -, -⟩ := getTransforms_lookup htable hl
    have he := hentry hk hl
    rwa [if_pos rfl] at he
  · cases hl' : table.lookup m' with
    | some entry =>
      obtain ⟨t', l'⟩ := entry
      obtain ⟨key, hk, rfl, rfl, -⟩ := getTransforms_lookup htable hl'
      have he := hentry hk hl'
      rwa [if_neg hm'] at he
    | none =>
      cases htr' : tr.lookup m' with
      | none => rfl
      | some entry =>
        obtain ⟨key, hk, hm₁, -, -⟩ := getTransforms_lookup htr htr'
        obtain ⟨key₀, hk₀, -, -, hm₂⟩ := StreamConfig.of_mem_disabled hk
        obtain ⟨t₀, -, hl₀⟩ := getTransforms_lookup_key hv htable hk₀
        rw [← hm₂, hm₁, hl'] at hl₀
        cases hl₀

/-! ## Sessions -/

namespace Session

variable {s a b : Session T} {k : UInt32}

omit [Crates] [LawfulStream T] in
theorem Target.unique {x x' : T} {fromTemplate fromTemplate' pending pending' : Bool}
    (h : Target s k x fromTemplate pending) (h' : Target s k x' fromTemplate' pending') :
    x = x' ∧ fromTemplate = fromTemplate' := by
  cases h with
  | present hl => cases h' with
    | present hl' => exact Prod.mk.inj (Option.some.inj (hl.symm.trans hl'))
    | spawned hl' => exact absurd (hl.symm.trans hl') (Option.some_ne_none _)
  | spawned hl ht hnew => cases h' with
    | present hl' => exact absurd (hl'.symm.trans hl) (Option.some_ne_none _)
    | spawned _ ht' hnew' =>
      obtain rfl := Option.some.inj (ht.symm.trans ht')
      exact ⟨Except.ok.inj (hnew.symm.trans hnew'), rfl⟩

/-- What a packet operation leaves, by the answer of the stream. -/
def afterCall (s : Session T) (k : UInt32) (x : T) (fromTemplate : Bool) (r : Answer T Bytes) :
    Session T :=
  match r.result with
  | .ok _ => { s with streams := s.streams.insert k (r.state, fromTemplate) }
  | .error .panic => { s with streams := s.streams.insert k (x, fromTemplate) }
  | .error (.error (.keyLimit _ _ m _)) => if fromTemplate then s.killTemplate m else s
  | .error (.error _) => s

omit [Crates] [LawfulStream T] in
/-- A packet operation answers as the stream does. -/
theorem Requested.of_target {q : Request T} {r : Answer (Session T) Bytes} (h : Requested s q r)
    {c : Call T} (hq : parse q = .ok c) {x : T} {fromTemplate pending : Bool}
    (ht : Target s (ssrc c) x fromTemplate pending) :
    r = ⟨(call x c).result, s.afterCall (ssrc c) x fromTemplate (call x c), (call x c).calls⟩ := by
  have hcall : ∀ {c' x' fromTemplate' pending'}, parse q = .ok c' →
      Target s (ssrc c') x' fromTemplate' pending' →
      c' = c ∧ x' = x ∧ fromTemplate' = fromTemplate := by
    intro c' x' fromTemplate' pending' hq' ht'
    obtain rfl := Except.ok.inj (hq'.symm.trans hq)
    obtain ⟨rfl, rfl⟩ := ht'.unique ht
    exact ⟨rfl, rfl, rfl⟩
  unfold afterCall
  cases h with
  | unparsed hq' => rw [hq] at hq'; cases hq'
  | missing hq' hl htemplate =>
    obtain rfl := Except.ok.inj (hq'.symm.trans hq)
    cases ht with
    | present hl' => rw [hl] at hl'; cases hl'
    | spawned _ ht' => rw [htemplate] at ht'; cases ht'
  | unspawned hq' hl htemplate hnew =>
    obtain rfl := Except.ok.inj (hq'.symm.trans hq)
    cases ht with
    | present hl' => rw [hl] at hl'; cases hl'
    | spawned _ ht' hnew' =>
      obtain rfl := Option.some.inj (htemplate.symm.trans ht')
      rw [hnew] at hnew'
      cases hnew'
  | @failed c' x' fromTemplate' pending' e hq' ht' hres he =>
    obtain ⟨rfl, rfl, rfl⟩ := hcall hq' ht'
    rw [hres]
    cases e with
    | keyLimit => exact he.elim
    | _ => rfl
  | died hq' ht' hres =>
    obtain ⟨rfl, rfl, rfl⟩ := hcall hq' ht'
    rw [hres]
    rfl
  | crashed hq' ht' hres =>
    obtain ⟨rfl, rfl, rfl⟩ := hcall hq' ht'
    rw [hres]
  | done hq' ht' hres =>
    obtain ⟨rfl, rfl, rfl⟩ := hcall hq' ht'
    rw [hres]

/-- The stream of an SSRC after a dead key was taken from the template. -/
theorem Target.killTemplate (hs : s.Sound) {x : T} {pending : Bool}
    (ht : Target s k x true pending) {tr : MkiIndexedTransform}
    (ha : MkiIndexedTransform.Alike (base x).transforms tr) {m : Mki} {t : Transform}
    {l : KeysLifetime} (hl : (base x).transforms.lookup m = some (t, l)) {isRtp : Bool}
    (h0 : l.lives isRtp = 0) :
    ∃ tr₁, Target (s.killTemplate m) k (withTransforms x tr₁) true pending ∧
      MkiIndexedTransform.Alike tr₁ tr := by
  cases ht with
  | present hx =>
    refine ⟨(base x).transforms.insert m (t, l.killed), .present ?_, ?_⟩
    · show (s.streams.mapVals (killTemplated m)).lookup k = _
      rw [Finmap.lookup_mapVals, hx]
      show some ((StreamInterface.killSessionKeys x m).state, true) = _
      rw [LawfulStream.killed_some hl]
    · exact ha.kill hl h0 (Finmap.lookup_insert _) l.lives_killed fun m' hm =>
        Finmap.lookup_insert_of_ne _ hm
  | spawned hx hconfig hnew =>
    obtain ⟨tr₁, hnew₁, hm, hrest⟩ := new_disabled (hs.template hconfig) hnew hl
    refine ⟨tr₁, .spawned ?_ (congrArg (Option.map _) hconfig) hnew₁, ?_⟩
    · show (s.streams.mapVals (killTemplated m)).lookup k = none
      rw [Finmap.lookup_mapVals, hx]
      rfl
    · exact ha.kill hl h0 hm (fun b => by cases b <;> rfl) hrest

/-- The session `a` has, or would spawn, a stream for the SSRC `k` like the one that was added to
the session `b`. -/
def Twins (k : UInt32) (a b : Session T) : Prop :=
  a.Sound ∧ b.Sound ∧ ∃ x tr pending, Target a k x true pending ∧
    b.streams.lookup k = some (withTransforms x tr, false) ∧
    MkiIndexedTransform.Alike (base x).transforms tr

/-- Packets of its SSRC do not tell the two streams apart. -/
theorem Twins.step (h : Twins k a b) {q : Request T} (hq : ∀ c, parse q = .ok c → ssrc c = k) :
    (sessionStep a (.request q)).1 = (sessionStep b (.request q)).1 ∧
      Twins k (sessionStep a (.request q)).2 (sessionStep b (.request q)).2 := by
  obtain ⟨hsa, hsb, x, tr, pending, hx, hy, ha⟩ := h
  have hsa' := hsa.step (.request q)
  have hsb' := hsb.step (.request q)
  cases hparse : parse q with
  | error f =>
    show SessionOutcome.packet (a.request q).result (a.request q).calls =
      .packet (b.request q).result (b.request q).calls ∧ Twins k (a.request q).state (b.request q).state
    rw [request_of_error hparse, request_of_error hparse]
    exact ⟨rfl, hsa, hsb, x, tr, pending, hx, hy, ha⟩
  | ok c =>
    obtain rfl := hq c hparse
    have hreqa := (Session.requested hsa q).of_target hparse hx
    have hreqb := (Session.requested hsb q).of_target hparse (.present hy)
    have hsound := (hx.sound hsa).1
    obtain ⟨hres, hcalls, tr', hstate, ha'⟩ := called_alike hsound.inRange ha c
    refine ⟨?_, hsa', hsb', ?_⟩
    · show SessionOutcome.packet (a.request q).result (a.request q).calls =
        .packet (b.request q).result (b.request q).calls
      rw [hreqa, hreqb, hres, hcalls]
    · show ∃ x tr pending, Target (a.request q).state _ x true pending ∧
        (b.request q).state.streams.lookup _ = some (withTransforms x tr, false) ∧
        MkiIndexedTransform.Alike (base x).transforms tr
      rw [hreqa, hreqb]
      unfold afterCall
      rw [hres]
      cases hr : (call x c).result with
      | ok bytes =>
        exact ⟨_, tr', false, .present (Finmap.lookup_insert _),
          by rw [hstate]; exact Finmap.lookup_insert _, ha'⟩
      | error f =>
        cases f with
        | panic =>
          exact ⟨x, tr, false, .present (Finmap.lookup_insert _), Finmap.lookup_insert _, ha⟩
        | error e =>
          rcases hsound.fault hr with hnot | ⟨m, t, l, -, hl, h0, heq⟩
          · refine ⟨x, tr, pending, ?_, ?_, ha⟩
            · cases e <;> first | exact hx | exact hnot.elim
            · cases e <;> exact hy
          · obtain rfl := Fault.error.inj heq
            obtain ⟨tr₁, hx₁, ha₁⟩ := hx.killTemplate hsa ha hl h0
            refine ⟨_, tr, pending, hx₁, ?_, by rwa [LawfulStream.base_withTransforms]⟩
            rw [LawfulStream.withTransforms_twice]
            exact hy

/-! ## One added to a fresh session -/

omit [Crates] [LawfulStream T] in
theorem updateTemplated_empty (config : StreamConfig) (streamOrder : List UInt32)
    (keyOrder : UInt32 → List Mki) :
    updateTemplated config keyOrder streamOrder (∅ : Streams T) = (.ok (), ∅) := by
  induction streamOrder with
  | nil => rfl
  | cons ssrc streamOrder ih =>
    unfold updateTemplated
    rw [Finmap.lookup_empty]
    exact ih

/-- The sessions that hold the configuration as their template, and for its one SSRC. -/
theorem Twins.start {config : StreamConfig} (hv : config.validate = .ok ())
    {handler : Option KeyLimitHandler} {x : T}
    (hnew : StreamInterface.new k config handler = .ok x)
    (hlives : ∀ key ∈ config.keys, key.lifetime.Coupled) (streamOrder : List UInt32)
    (keyOrder : UInt32 → List Mki) :
    Twins k ((⟨∅, none, handler⟩ : Session T).addStream none config streamOrder keyOrder).state
      ((⟨∅, none, handler⟩ : Session T).addStream (some k) config streamOrder keyOrder).state := by
  have hvalid := StreamConfig.valid_of_validate hv
  have ha : ((⟨∅, none, handler⟩ : Session T).addStream none config streamOrder keyOrder).state =
      ⟨∅, some config, handler⟩ := by
    unfold addStream
    rw [hv]
    dsimp only
    rw [updateTemplated_empty]
  have hb : ((⟨∅, none, handler⟩ : Session T).addStream (some k) config streamOrder keyOrder).state =
      ⟨Finmap.insert k (x, false) ∅, none, handler⟩ := by
    unfold addStream
    rw [hv]
    dsimp only
    rw [Finmap.lookup_empty]
    dsimp only
    rw [hnew]
  have hempty : ∀ template : Option StreamConfig, (∀ config, template = some config → config.Valid) →
      (⟨∅, template, handler⟩ : Session T).Sound := by
    intro template ht
    refine ⟨fun {ssrc stream fromTemplate} hl => ?_, fun {config} h => ht config h⟩
    exact absurd ((Finmap.lookup_empty ssrc).symm.trans hl) (Option.some_ne_none _).symm
  rw [ha, hb]
  refine ⟨hempty _ ?_, (hempty none (by rintro _ ⟨⟩)).insert (.new hvalid hnew) (ssrc_new hnew) false,
    x, (base x).transforms, true, .spawned (Finmap.lookup_empty _) rfl hnew, ?_, fun m => ?_⟩
  · rintro _ ⟨⟩
    exact hvalid
  · rw [LawfulStream.withTransforms_base]
    exact Finmap.lookup_insert _
  · cases hl : (base x).transforms.lookup m with
    | none => exact .absent
    | some entry =>
      obtain ⟨t, l⟩ := entry
      obtain ⟨key, hk, -, rfl, -⟩ := lookup_new hnew hl
      exact .present (.same (hlives key hk))

end Session

end Generic

/-- Of sending and receiving sessions: the session that holds a valid configuration only as its
template, and the one that holds it only for one SSRC, give the same answers to every sequence of
packet operations of that SSRC. -/
theorem template_stream_like_added {config : StreamConfig} (hv : config.validate = .ok ())
    (hlives : ∀ key ∈ config.keys, key.lifetime.rtp = 0 ↔ key.lifetime.rtcp = 0)
    (handler : Option KeyLimitHandler) (ssrc : UInt32) (streamOrder : List UInt32)
    (keyOrder : UInt32 → List Mki) :
    (∀ (stream : SendStream) (qs : List SendRequest),
      SendStream.new ssrc config handler = .ok stream →
      (∀ q ∈ qs, ∀ c, parse (T := SendStream) q = .ok c → PacketStream.ssrc c = ssrc) →
      (runAll sessionStep
          ((⟨∅, none, handler⟩ : SendSession).addStream none config streamOrder keyOrder).state
          (qs.map .request)).1.map (·.answer) =
        (runAll sessionStep
          ((⟨∅, none, handler⟩ : SendSession).addStream (some ssrc) config streamOrder keyOrder).state
          (qs.map .request)).1.map (·.answer)) ∧
    (∀ (stream : RecvStream) (qs : List RecvRequest),
      RecvStream.new ssrc config handler = .ok stream →
      (∀ q ∈ qs, ∀ c, parse (T := RecvStream) q = .ok c → PacketStream.ssrc c = ssrc) →
      (runAll sessionStep
          ((⟨∅, none, handler⟩ : RecvSession).addStream none config streamOrder keyOrder).state
          (qs.map .request)).1.map (·.answer) =
        (runAll sessionStep
          ((⟨∅, none, handler⟩ : RecvSession).addStream (some ssrc) config streamOrder keyOrder).state
          (qs.map .request)).1.map (·.answer)) := by
  have hrun : ∀ {T : Type} [PacketStream T] [LawfulStream T] (stream : T) (qs : List (Request T)),
      StreamInterface.new ssrc config handler = .ok stream →
      (∀ q ∈ qs, ∀ c, parse q = .ok c → PacketStream.ssrc c = ssrc) →
      (runAll sessionStep
          ((⟨∅, none, handler⟩ : Session T).addStream none config streamOrder keyOrder).state
          (qs.map .request)).1.map (·.answer) =
        (runAll sessionStep
          ((⟨∅, none, handler⟩ : Session T).addStream (some ssrc) config streamOrder keyOrder).state
          (qs.map .request)).1.map (·.answer) := by
    intro T _ _ stream qs hnew hq
    refine runAll_answers (R := Session.Twins ssrc)
      (P := fun op => ∃ q, op = .request q ∧ ∀ c, parse q = .ok c → PacketStream.ssrc c = ssrc)
      ?_ ?_ (Session.Twins.start hv hnew hlives streamOrder keyOrder)
    · rintro a b _ ⟨q, rfl, hc⟩ htwins
      exact htwins.step hc
    · intro op hop
      obtain ⟨q, hmem, rfl⟩ := List.mem_map.mp hop
      exact ⟨q, rfl, hq q hmem⟩
  exact ⟨hrun, hrun⟩

end Refinement

section Example

open Vectors

attribute [local instance] Vectors.crates

def oneLife : KeysLifetime := KeysLifetime.default.lower 1 1 (by decide) (by decide)

/-- A packet, the same packet again, and one for which the key has no life left. -/
def oneLifeRequests : List SendRequest :=
  [.rtpProtectMki (rtpPacket 0xcafebabe 1) none, .rtpProtectMki (rtpPacket 0xcafebabe 1) none,
    .rtpProtectMki (rtpPacket 0xcafebabe 2) none]

theorem template_stream_like_added_one_life :
    (runAll sessionStep ((⟨∅, none, none⟩ : SendSession).addStream none
        (config [key none oneLife]) [] fun _ => []).state
        (oneLifeRequests.map .request)).1.map (·.answer) =
      (runAll sessionStep ((⟨∅, none, none⟩ : SendSession).addStream (some 0xcafebabe)
        (config [key none oneLife]) [] fun _ => []).state
        (oneLifeRequests.map .request)).1.map (·.answer) := by
  have hssrc : ∀ seqNum, (∃ h, ssrc (T := SendStream) (protectCall seqNum none h) = 0xcafebabe) →
      ∀ c, parse (T := SendStream) (SendRequest.rtpProtectMki (rtpPacket 0xcafebabe seqNum) none) =
        .ok c → ssrc c = 0xcafebabe := by
    rintro seqNum ⟨h, hcall⟩ c hc
    obtain rfl := Except.ok.inj ((SendStream.parse_rtp (eq_ok_get h)).symm.trans hc)
    exact hcall
  obtain ⟨stream, hnew⟩ : ∃ stream, SendStream.new 0xcafebabe (config [key none oneLife]) none =
      .ok stream := ⟨sendStream (config [key none oneLife]) (by decide +kernel), eq_ok_get _⟩
  refine (template_stream_like_added (by decide +kernel) ?_ none 0xcafebabe [] fun _ => []).1
    stream oneLifeRequests hnew ?_
  · intro key hk
    rw [List.mem_singleton.mp hk]
    decide
  · simp only [oneLifeRequests, List.forall_mem_cons]
    exact ⟨hssrc 1 ⟨by decide +kernel, rfl⟩, hssrc 1 ⟨by decide +kernel, rfl⟩,
      hssrc 2 ⟨by decide +kernel, rfl⟩, List.forall_mem_nil _⟩

end Example

end LibSrtp
