import LibSrtp.PartialUpdate
import LibSrtp.KeyWarnings
import LibSrtp.TemplateStreams

/-!
# Dead keys

A hard limit on a stream of the template takes the lives of the key on every stream of the template,
and in the template. Only a configuration that offers the key again can give it lives, and only in
the cases of `Session.Revives`.

The streams do not keep their master keys. `origins` finds them in the history: an entry has the
master key of the configuration in force when the entry appeared.

* `Session.moved`: what an operation does to a stream of the template;
* `Dead.step`: a dead key stays dead in a step that does not revive it;
* `dead_key_stays_dead`: no packet uses it in the rest of the run.
-/

namespace LibSrtp

open Exec PacketStream

/-! ## Master keys -/

/-- A master key and its salt. -/
abbrev KeySalt := Bytes × Bytes

def MasterKey.keySalt (k : MasterKey) : KeySalt := (k.key, k.salt)

namespace StreamConfig

/-- The master key under an MKI. -/
def keyOf (config : StreamConfig) (m : Mki) : Option KeySalt :=
  (config.keys.find? fun key => decide (key.mki = m)).map (·.keySalt)

/-- The configuration has lives for a master key. -/
def Offers (config : StreamConfig) (m : Mki) (k : KeySalt) : Prop :=
  ∃ key ∈ config.keys, key.mki = m ∧ key.keySalt = k ∧ ∃ isRtp, key.lifetime.lives isRtp ≠ 0

theorem Valid.keyOf_eq {config : StreamConfig} (hv : config.Valid) {key : MasterKey}
    (hk : key ∈ config.keys) : config.keyOf key.mki = some key.keySalt := by
  unfold keyOf
  cases hfind : config.keys.find? fun k => decide (k.mki = key.mki) with
  | none => exact absurd (decide_eq_true rfl) (List.find?_eq_none.mp hfind key hk)
  | some k =>
    have hmki : k.mki = key.mki := by simpa using List.find?_some hfind
    obtain rfl := List.inj_on_of_nodup_map hv.mkis (List.mem_of_find?_eq_some hfind) hk hmki
    rfl

end StreamConfig

section Runs

variable {T : Type} [PacketStream T]

/-- The entry of an SSRC under an MKI. -/
def Session.entry (s : Session T) (k : UInt32) (m : Mki) : Option (Transform × KeysLifetime) :=
  (s.streams.lookup k).bind fun entry => (base entry.1).transforms.lookup m

/-- The configuration an operation takes keys from. -/
def SessionOp.source (s : Session T) : SessionOp T → Option StreamConfig
  | .addStream _ config _ _ => some config
  | .request _ => s.templateConfig
  | _ => none

/-- The master keys of the entries; of no meaning where there is no entry. -/
abbrev Origins := UInt32 → Mki → Option KeySalt

/-- An entry that is there before the event keeps its master key. -/
def SessionEvent.origins (e : SessionEvent T) (o : Origins) : Origins := fun k m =>
  if (e.pre.entry k m).isSome then o k m else (e.input.source e.pre).bind (·.keyOf m)

def origins (es : List (SessionEvent T)) : Origins :=
  es.foldl (fun o e => e.origins o) fun _ _ => none

theorem SessionEvent.origins_present {e : SessionEvent T} {k : UInt32} {m : Mki}
    (h : e.pre.entry k m ≠ none) (o : Origins) : e.origins o k m = o k m :=
  if_pos (Option.isSome_iff_ne_none.mpr h)

theorem SessionEvent.origins_absent {e : SessionEvent T} {k : UInt32} {m : Mki}
    (h : e.pre.entry k m = none) (o : Origins) :
    e.origins o k m = (e.input.source e.pre).bind (·.keyOf m) := by
  unfold SessionEvent.origins
  rw [h]
  rfl

theorem Session.entry_present {s : Session T} {k : UInt32} {x : T} {fromTemplate : Bool}
    (h : s.streams.lookup k = some (x, fromTemplate)) (m : Mki) :
    s.entry k m = (base x).transforms.lookup m := by
  unfold Session.entry
  rw [h]
  rfl

theorem origins_append (es : List (SessionEvent T)) (e : SessionEvent T) :
    origins (es ++ [e]) = e.origins (origins es) := by
  rw [origins, List.foldl_append]
  rfl

/-! ## Packets and configurations -/

/-- The event is a packet operation on this stream of the template. -/
def SessionEvent.OnTemplate (e : SessionEvent T) (c : Call T) (x : T) : Prop :=
  ∃ q pending, e.input = .request q ∧ parse q = .ok c ∧ e.pre.Target (ssrc c) x true pending

/-- It succeeds, with this master key. -/
def SessionEvent.Uses (e : SessionEvent T) (o : Origins) (m : Mki) (k : KeySalt) : Prop :=
  ∃ c x bytes calls, e.OnTemplate c x ∧ mki x c = .ok m ∧ o (ssrc c) m = some k ∧
    e.answer = .packet (.ok bytes) calls

variable [Crates]

/-- An update with this configuration may add the MKI. -/
def Receptive (x : T) (config : StreamConfig) (m : Mki) : Prop :=
  (base x).Compatible config ∧ (base x).transforms.lookup m = none

/-- Adding this configuration may give lives to a master key: it offers them, and either it becomes
the template, or the update of a stream of the template adds the MKI. -/
def Session.Revives (s : Session T) (m : Mki) (k : KeySalt) (ssrc : Option UInt32)
    (config : StreamConfig) : Prop :=
  config.validate = .ok () ∧ (∃ table, getTransforms config = .ok table) ∧ config.Offers m k ∧
    match ssrc with
    | some j => ∃ x, s.streams.lookup j = some (x, true) ∧ ¬ (base x).Accepts config ∧
        Receptive x config m
    | none => (∀ j x, s.streams.lookup j = some (x, true) → (base x).Accepts config) ∨
        ∃ j x, s.streams.lookup j = some (x, true) ∧ Receptive x config m

def SessionEvent.Revives (e : SessionEvent T) (m : Mki) (k : KeySalt) : Prop :=
  ∃ ssrc config streamOrder keyOrder, e.input = .addStream ssrc config streamOrder keyOrder ∧
    e.pre.Revives m k ssrc config

/-- The orders of the event are those of the hash maps it walks. -/
def SessionEvent.Walked (e : SessionEvent T) : Prop :=
  ∀ ssrc config streamOrder keyOrder, e.input = .addStream ssrc config streamOrder keyOrder →
    e.pre.streams.Enumerates streamOrder ∧ ∀ k, Walks config (keyOrder k)

/-! ## What an operation does to the template and its streams -/

namespace Session

/-- What a stream of the template comes from. -/
inductive Moved (s : Session T) (op : SessionOp T) (k : UInt32) : T → Prop
  | kept {x : T} {pending : Bool} : Target s k x true pending →
      (pending = true → ∃ q, op = .request q) → Moved s op k x
  | stepped {x : T} {pending : Bool} (sop : StreamOp T) : Target s k x true pending →
      (pending = true → ∃ q, op = .request q) →
      (∀ config valid order, sop ≠ .update config valid order) →
      Moved s op k (streamStep x sop).2
  | updated {x : T} {ssrc : Option UInt32} {config : StreamConfig} {streamOrder : List UInt32}
      {keyOrder : UInt32 → List Mki} : op = .addStream ssrc config streamOrder keyOrder →
      config.validate = .ok () → s.streams.lookup k = some (x, true) →
      (ssrc = none ∨ ssrc = some k ∧
        ∃ f, (StreamInterface.update x config (keyOrder k)).result = .error f) →
      Moved s op k (StreamInterface.update x config (keyOrder k)).state

/-- What a template comes from. -/
inductive MovedTemplate (s : Session T) (op : SessionOp T) : StreamConfig → Prop
  | kept {config : StreamConfig} : s.templateConfig = some config → MovedTemplate s op config
  | disabled {config : StreamConfig} (m : Mki) : s.templateConfig = some config →
      MovedTemplate s op (config.disabled m)
  | replaced {config : StreamConfig} {streamOrder : List UInt32} {keyOrder : UInt32 → List Mki} :
      op = .addStream none config streamOrder keyOrder → config.validate = .ok () →
      (updateTemplated config keyOrder streamOrder s.streams).1 = .ok () →
      MovedTemplate s op config

variable [LawfulStream T] {s : Session T}

theorem movedTemplate (hs : s.Sound) (op : SessionOp T) {config : StreamConfig}
    (h : (sessionStep s op).2.templateConfig = some config) : MovedTemplate s op config := by
  cases op with
  | setKeyLimitHandler handler =>
    change (s.setKeyLimitHandler handler).state.templateConfig = _ at h
    unfold setKeyLimitHandler at h
    split at h <;> exact .kept h
  | addStream ssrc config' streamOrder keyOrder =>
    have ha := Session.added s ssrc config' streamOrder keyOrder
    change (s.addStream ssrc config' streamOrder keyOrder).state.templateConfig = _ at h
    generalize s.addStream ssrc config' streamOrder keyOrder = r at ha h
    cases ha with
    | template hv hu =>
      obtain rfl := Option.some.inj h
      exact .replaced rfl hv (congrArg Prod.fst hu)
    | _ => exact .kept h
  | removeStream k =>
    change (s.removeStream k).state.templateConfig = _ at h
    unfold removeStream at h
    split at h <;> exact .kept h
  | getRoc k => exact .kept h
  | direct k d =>
    change (s.direct k d).state.templateConfig = _ at h
    unfold Session.direct at h
    split at h <;> exact .kept h
  | request q =>
    have hr := Session.requested hs q
    change (s.request q).state.templateConfig = _ at h
    generalize s.request q = r at hr h
    cases hr with
    | @died c x fromTemplate _ m _ _ _ =>
      cases fromTemplate with
      | false => exact .kept h
      | true =>
        obtain ⟨config₀, hc, rfl⟩ := Option.map_eq_some_iff.mp h
        exact .disabled m hc
    | _ => exact .kept h

theorem moved (hs : s.Sound) (op : SessionOp T) (hwalked : SessionEvent.Walked (.of sessionStep s op))
    {k : UInt32} {x : T} (h : (sessionStep s op).2.streams.lookup k = some (x, true)) :
    Moved s op k x := by
  have hkept : s.streams.lookup k = some (x, true) → Moved s op k x :=
    fun hl => .kept (.present hl) fun hp => absurd hp Bool.false_ne_true
  cases op with
  | setKeyLimitHandler handler =>
    change (s.setKeyLimitHandler handler).state.streams.lookup k = _ at h
    unfold setKeyLimitHandler at h
    split at h <;> exact hkept h
  | addStream ssrc config streamOrder keyOrder =>
    have hnodup := (hwalked _ _ _ _ rfl).1.1
    have hloop : ∀ {r streams}, config.validate = .ok () → ssrc = none →
        updateTemplated config keyOrder streamOrder s.streams = (r, streams) →
        streams.lookup k = some (x, true) →
        Moved s (.addStream ssrc config streamOrder keyOrder) k x := by
      intro r streams hv hnone hu hl
      obtain rfl : (updateTemplated config keyOrder streamOrder s.streams).2 = streams :=
        congrArg Prod.snd hu
      rcases updateTemplated_lookup config s.streams keyOrder hnodup k with heq | ⟨x₀, hx₀, heq⟩
      · exact hkept (heq ▸ hl)
      · obtain ⟨rfl, -⟩ := Prod.mk.inj (Option.some.inj (hl.symm.trans heq))
        exact .updated rfl hv hx₀ (.inl hnone)
    have ha := Session.added s ssrc config streamOrder keyOrder
    change (s.addStream ssrc config streamOrder keyOrder).state.streams.lookup k = _ at h
    generalize s.addStream ssrc config streamOrder keyOrder = r at ha h
    cases ha with
    | invalid => exact hkept h
    | templateRefused hv hu => exact hloop hv rfl hu h
    | template hv hu => exact hloop hv rfl hu h
    | unbuilt => exact hkept h
    | @built j stream hv hl hnew =>
      rcases Finmap.lookup_insert_cases h with ⟨-, ⟨⟩⟩ | h
      exact hkept h
    | @refused j stream stream' fromTemplate f hv hl hu =>
      rcases Finmap.lookup_insert_cases h with ⟨rfl, ⟨⟩⟩ | h
      · have hmoved : Moved s (.addStream (some k) config streamOrder keyOrder) k
            (StreamInterface.update stream config (keyOrder k)).state :=
          .updated rfl hv hl (.inr ⟨rfl, f, by rw [hu]⟩)
        rwa [hu] at hmoved
      · exact hkept h
    | @updated j stream stream' fromTemplate hv hl hu =>
      rcases Finmap.lookup_insert_cases h with ⟨-, ⟨⟩⟩ | h
      exact hkept h
  | removeStream j =>
    change (s.removeStream j).state.streams.lookup k = _ at h
    unfold removeStream at h
    split at h
    · exact hkept h
    · rw [Finmap.lookup_erase_eq] at h
      split at h
      · cases h
      · exact hkept h
  | getRoc j => exact hkept h
  | direct j d =>
    change (s.direct j d).state.streams.lookup k = _ at h
    unfold Session.direct at h
    split at h
    · exact hkept h
    · next stream fromTemplate hl =>
      rcases Finmap.lookup_insert_cases h with ⟨rfl, ⟨⟩⟩ | h
      · exact .stepped (.direct d) (.present hl) (fun hp => absurd hp Bool.false_ne_true)
          (fun _ _ _ => by rintro ⟨⟩)
      · exact hkept h
  | request q =>
    have hr := Session.requested hs q
    change (s.request q).state.streams.lookup k = _ at h
    generalize s.request q = r at hr h
    cases hr with
    | @died c y fromTemplate _ m _ _ _ =>
      cases fromTemplate with
      | false => exact hkept h
      | true =>
        have hmap : (s.streams.mapVals (killTemplated m)).lookup k = some (x, true) := h
        rw [Finmap.lookup_mapVals, Option.map_eq_some_iff] at hmap
        obtain ⟨⟨y, fromTemplate⟩, hy, heq⟩ := hmap
        cases fromTemplate with
        | false => cases (Prod.mk.inj heq).2
        | true =>
          obtain ⟨rfl, -⟩ := Prod.mk.inj heq
          exact .stepped (.kill m) (.present hy) (fun hp => absurd hp Bool.false_ne_true)
            (fun _ _ _ => by rintro ⟨⟩)
    | crashed _ ht =>
      rcases Finmap.lookup_insert_cases h with ⟨rfl, ⟨⟩⟩ | h
      · exact .kept ht fun _ => ⟨q, rfl⟩
      · exact hkept h
    | @done c y fromTemplate pending bytes hq ht hres =>
      rcases Finmap.lookup_insert_cases h with ⟨rfl, ⟨⟩⟩ | h
      · exact .stepped (.call c) ht (fun _ => ⟨q, rfl⟩) (fun _ _ _ => by rintro ⟨⟩)
      · exact hkept h
    | _ => exact hkept h

end Session

/-! ## Keys without lives -/

/-- No component has lives left. -/
def KeysLifetime.Over (l : KeysLifetime) : Prop := ∀ isRtp, l.lives isRtp = 0

omit [Crates] in
theorem KeysLifetime.Over.livesAfter {l : KeysLifetime} (h : l.Over) (e : StreamEvent T) (m : Mki) :
    (e.livesAfter m l).Over := by
  have hrtp : l.rtp = 0 := h true
  have hrtcp : l.rtcp = 0 := h false
  have hspent : ∀ isRtp, (l.spent isRtp).Over := by
    intro isRtp b
    cases isRtp <;> cases b <;> simp [KeysLifetime.spent, lives, lower, hrtp, hrtcp]
  unfold StreamEvent.livesAfter
  split
  · exact hspent true
  · split
    · exact hspent false
    · split
      · exact l.lives_killed
      · exact h

namespace StreamConfig

variable {config : StreamConfig} {m m' : Mki} {k : KeySalt}

omit [Crates] in
theorem over_of_not_offers (h : ¬ config.Offers m k) {key : MasterKey} (hk : key ∈ config.keys)
    (hm : key.mki = m) (hkey : key.keySalt = k) : key.lifetime.Over := by
  intro isRtp
  by_contra hlives
  exact h ⟨key, hk, hm, hkey, isRtp, hlives⟩

omit [Crates] in
theorem not_offers_disabled : ¬ (config.disabled m).Offers m k := by
  rintro ⟨key, hk, hm, -, isRtp, hlives⟩
  obtain ⟨key₀, -, rfl⟩ := mem_disabled.mp hk
  split at hlives
  · cases isRtp <;> exact hlives rfl
  · next hne =>
    rw [if_neg hne] at hm
    exact hne hm

omit [Crates] in
theorem offers_of_disabled (h : (config.disabled m').Offers m k) : config.Offers m k := by
  obtain ⟨key, hk, hm, hkey, isRtp, hlives⟩ := h
  obtain ⟨key₀, hk₀, rfl⟩ := mem_disabled.mp hk
  split at hlives
  · cases isRtp <;> exact absurd rfl hlives
  · next hne =>
    rw [if_neg hne] at hm hkey
    exact ⟨key₀, hk₀, hm, hkey, isRtp, hlives⟩

theorem built_of_disabled (hv : config.Valid) {table : MkiIndexedTransform}
    (h : getTransforms (config.disabled m) = .ok table) :
    ∃ table, getTransforms config = .ok table := by
  refine exists_getTransforms fun key hk => ?_
  obtain ⟨t, ht, -⟩ := getTransforms_lookup_key (hv.disabled m) h (mem_disabled.mpr ⟨key, hk, rfl⟩)
  refine ⟨t, ?_⟩
  -- a transform does not depend on the lifetime of its key
  rw [← ht]
  split <;> rfl

end StreamConfig

/-- No stream of the template has lives for a master key, nor has the template. -/
structure Dead (o : Origins) (m : Mki) (k : KeySalt) (s : Session T) : Prop where
  stream {j : UInt32} {x : T} {t : Transform} {l : KeysLifetime} :
    s.streams.lookup j = some (x, true) → (base x).transforms.lookup m = some (t, l) →
      o j m = some k → l.Over
  template {config : StreamConfig} {table : MkiIndexedTransform} : s.templateConfig = some config →
    getTransforms config = .ok table → ¬ config.Offers m k

/-- An update that adds an entry got as far as the merge. -/
theorem Updated.built_of_added {x : T} {config : StreamConfig} {order : List Mki} {r : Answer T Unit}
    (h : Updated x config order r) {m : Mki} (hnone : (base x).transforms.lookup m = none)
    (hadded : (base r.state).transforms.lookup m ≠ none) :
    (base x).Compatible config ∧ ∃ table, getTransforms config = .ok table := by
  cases h with
  | incompatible => exact absurd hnone hadded
  | unbuildable => exact absurd hnone hadded
  | torn hcomp htable => exact ⟨hcomp, _, htable⟩
  | merged hcomp htable => exact ⟨hcomp, _, htable⟩

namespace Dead

variable [LawfulStream T] {o : Origins} {m : Mki} {k : KeySalt} {s : Session T}

/-- The stream of a packet has no lives for the key, also if the packet spawns it. -/
theorem target (h : Dead o m k s) (hs : s.Sound) {op : SessionOp T} {j : UInt32} {x : T}
    {pending : Bool} (ht : s.Target j x true pending) (hp : pending = true → ∃ q, op = .request q)
    {t : Transform} {l : KeysLifetime} (hl : (base x).transforms.lookup m = some (t, l))
    (ho : SessionEvent.origins (.of sessionStep s op) o j m = some k) : l.Over := by
  cases ht with
  | present hx =>
    have hentry : s.entry j m ≠ none := by
      rw [Session.entry_present hx, hl]
      exact Option.some_ne_none _
    rw [SessionEvent.origins_present hentry] at ho
    exact h.stream hx hl ho
  | @spawned config hx htemplate hnew =>
    obtain ⟨q, rfl⟩ := hp rfl
    have hentry : s.entry j m = none := by
      unfold Session.entry
      rw [hx]
      rfl
    have hsource : SessionOp.source s (.request q) = some config := htemplate
    rw [SessionEvent.origins_absent hentry] at ho
    change (SessionOp.source s (.request q)).bind _ = _ at ho
    rw [hsource, Option.bind_some] at ho
    obtain ⟨key, hk, rfl, rfl, -⟩ := lookup_new hnew hl
    obtain ⟨table, -, -, htable, -⟩ := BaseStream.new_ok (LawfulStream.new_ok hnew).1
    rw [(hs.template htemplate).keyOf_eq hk, Option.some.injEq] at ho
    exact StreamConfig.over_of_not_offers (h.template htemplate htable) hk rfl ho

/-- A dead key stays dead in every step that does not revive it. -/
theorem step (h : Dead o m k s) (hs : s.Sound) {op : SessionOp T}
    (hwalked : SessionEvent.Walked (.of sessionStep s op))
    (hrevives : ¬ SessionEvent.Revives (.of sessionStep s op) m k) :
    Dead (SessionEvent.origins (.of sessionStep s op) o) m k (sessionStep s op).2 where
  stream {j x t l} hx hl ho := by
    cases Session.moved hs op hwalked hx with
    | kept ht hp => exact h.target hs ht hp hl ho
    | @stepped x₀ _ sop ht hp hnot =>
      have hrange := (ht.sound hs).1.inRange
      rcases transform_step hrange sop hl with ⟨l₀, hl₀⟩ | ⟨config, valid, order, heq, -⟩
      · have hlives := lookup_step hrange sop hl₀
        rw [hl, Option.some.injEq, Prod.mk.injEq] at hlives
        rw [hlives.2]
        exact (h.target hs ht hp hl₀ ho).livesAfter _ _
      · exact absurd heq (hnot config valid order)
    | @updated x₀ ssrc config streamOrder keyOrder hop hv hx₀ hcase =>
      have hvalid := StreamConfig.valid_of_validate hv
      have hu := LawfulStream.updated x₀ (keyOrder j) hvalid.keys_ne
      rcases lookup_update hu hl with hl₀ | ⟨hnone, key, hk, rfl, rfl, -⟩
      · exact h.target hs (.present hx₀) (fun hp => absurd hp Bool.false_ne_true) hl₀ ho
      · -- the entry is new, so its master key is the one of the configuration
        have hentry : s.entry j key.mki = none := by rw [Session.entry_present hx₀, hnone]
        rw [SessionEvent.origins_absent hentry, hop] at ho
        change config.keyOf key.mki = some k at ho
        rw [hvalid.keyOf_eq hk, Option.some.injEq] at ho
        intro isRtp
        by_contra hlives
        have hadded : (base (StreamInterface.update x₀ config (keyOrder j)).state).transforms.lookup
            key.mki ≠ none := by
          rw [hl]
          exact Option.some_ne_none _
        obtain ⟨hcomp, hbuilt⟩ := hu.built_of_added hnone hadded
        refine hrevives ⟨ssrc, config, streamOrder, keyOrder, hop, hv, hbuilt,
          ⟨key, hk, rfl, ho, isRtp, hlives⟩, ?_⟩
        rcases hcase with rfl | ⟨rfl, f, hf⟩
        · exact .inr ⟨j, x₀, hx₀, hcomp, hnone⟩
        · refine ⟨x₀, hx₀, fun haccepts => ?_, hcomp, hnone⟩
          rw [(update_accepted hvalid.keys_ne ((hwalked _ _ _ _ hop).2 j) haccepts).1] at hf
          cases hf
  template {config table} hc htable hoffers := by
    cases Session.movedTemplate hs op hc with
    | kept hc => exact h.template hc htable hoffers
    | @disabled config₀ m' hc₀ =>
      obtain ⟨table', htable'⟩ := StreamConfig.built_of_disabled (hs.template hc₀) htable
      exact h.template hc₀ htable' (StreamConfig.offers_of_disabled hoffers)
    | @replaced _ streamOrder keyOrder hop hv hok =>
      obtain ⟨hstreams, hwalks⟩ := hwalked _ _ _ _ hop
      have hkeys := (StreamConfig.valid_of_validate hv).keys_ne
      refine hrevives ⟨none, config, streamOrder, keyOrder, hop, hv, ⟨table, htable⟩, hoffers, .inl ?_⟩
      intro j x hx
      exact Session.accepts_of_updateTemplated_ok hkeys hwalks hstreams.1 hok
        ((hstreams.2 j).mpr (Finmap.mem_of_lookup_eq_some hx)) hx

/-- A hard limit leaves every master key under its MKI dead. -/
theorem of_dies (hs : s.Sound) {op : SessionOp T} {c : Call T} {x : T}
    (ht : SessionEvent.OnTemplate (.of sessionStep s op) c x)
    (hdies : SessionEvent.Dies (.of sessionStep s op) m) : Dead o m k (sessionStep s op).2 := by
  obtain ⟨q, pending, hq, hparse, ht⟩ := ht
  obtain rfl : op = .request q := hq
  obtain ⟨isRtp, ssrc, calls, hans⟩ := hdies
  obtain ⟨hres, -⟩ := SessionOutcome.packet.inj hans
  obtain ⟨c', x', fromTemplate, pending', hparse', ht', -, -, -, hstate⟩ := hs.died hres
  obtain rfl := Except.ok.inj (hparse.symm.trans hparse')
  obtain rfl := (ht.unique ht').2
  have hpost : (sessionStep s (.request q)).2 = s.killTemplate m := hstate
  rw [hpost]
  refine ⟨fun {j y t l} hy hl _ => ?_, fun {config table} hc _ => ?_⟩
  · have hmap : (s.streams.mapVals (Session.killTemplated m)).lookup j = some (y, true) := hy
    rw [Finmap.lookup_mapVals, Option.map_eq_some_iff] at hmap
    obtain ⟨⟨y₀, fromTemplate⟩, -, heq⟩ := hmap
    cases fromTemplate with
    | false => cases (Prod.mk.inj heq).2
    | true =>
      obtain ⟨rfl, -⟩ := Prod.mk.inj heq
      cases hl₀ : (base y₀).transforms.lookup m with
      | none =>
        rw [LawfulStream.killed_none hl₀, hl₀] at hl
        cases hl
      | some entry =>
        rw [LawfulStream.killed_some hl₀, LawfulStream.base_withTransforms, Finmap.lookup_insert] at hl
        obtain ⟨-, rfl⟩ := Prod.mk.inj (Option.some.inj hl)
        exact entry.2.lives_killed
  · obtain ⟨config₀, -, rfl⟩ := Option.map_eq_some_iff.mp hc
    exact StreamConfig.not_offers_disabled

/-- A packet that uses the key of its MKI needs lives. -/
theorem not_uses (h : Dead o m k s) (hs : s.Sound) (op : SessionOp T) :
    ¬ SessionEvent.Uses (.of sessionStep s op) (SessionEvent.origins (.of sessionStep s op) o) m k := by
  rintro ⟨c, x, bytes, calls, ⟨q, pending, hq, hparse, ht⟩, hmki, ho, hans⟩
  obtain rfl : op = .request q := hq
  obtain ⟨hres, -⟩ := SessionOutcome.packet.inj hans
  have hrange := (ht.sound hs).1.inRange
  rw [(Session.requested hs q).of_target hparse ht] at hres
  obtain ⟨i, m', t, l, hlocate, hl, hlives, -⟩ := (LawfulStream.called c hrange).of_ok hres
  obtain rfl := Except.ok.inj ((LawfulStream.locate_mki hrange hlocate).symm.trans hmki)
  exact hlives (h.target hs ht (fun _ => ⟨q, rfl⟩) hl ho (isRtp c))

end Dead

theorem dead_after_death [LawfulStream T] {pre mid : List (SessionEvent T)} {e e' : SessionEvent T}
    {s : Session T} {c : Call T} {x : T} {m : Mki} {k : KeySalt}
    (run : Trace sessionStep .new (pre ++ e :: (mid ++ [e'])) s) (ht : e.OnTemplate c x)
    (hdies : e.Dies m) (hmid : ∀ e' ∈ mid, SessionEvent.Walked e' ∧ ¬ SessionEvent.Revives e' m k) :
    ¬ e'.Uses (origins (pre ++ e :: (mid ++ [e']))) m k := by
  obtain ⟨hpre, he, hrest⟩ := run.split rfl
  obtain ⟨hrun, he', -⟩ := hrest.split (show mid ++ [e'] = mid ++ e' :: [] from rfl)
  have hsound := Session.Sound.new.run hpre
  rw [he] at ht hdies
  have hstart : e.post.Sound ∧ Dead (origins (pre ++ [e])) m k e.post := by
    rw [he]
    exact ⟨hsound.step _, Dead.of_dies hsound ht hdies⟩
  have hdead : e'.pre.Sound ∧ Dead (origins (pre ++ e :: mid)) m k e'.pre := by
    refine hrun.history_of (I := fun es s => s.Sound ∧ Dead (origins (pre ++ e :: es)) m k s) hmid
      hstart fun es s op h hop => ⟨h.1.step op, ?_⟩
    rw [← List.cons_append, ← List.append_assoc, origins_append]
    exact h.2.step h.1 hop.1 hop.2
  rw [← List.cons_append, ← List.append_assoc, origins_append, he']
  exact hdead.2.not_uses hdead.1 _

/-- Of sending and receiving sessions: once a packet operation on a stream of the template found the
key of its MKI dead, no later one on a stream of the template succeeds with a master key that was not
revived under this MKI in between. -/
theorem dead_key_stays_dead :
    (∀ {pre mid : List (SessionEvent SendStream)} {e e' : SessionEvent SendStream} {s : SendSession}
      {c : SendCall} {x : SendStream} {m : Mki} {k : KeySalt},
      Trace sessionStep .new (pre ++ e :: (mid ++ [e'])) s → e.OnTemplate c x → e.Dies m →
      (∀ e' ∈ mid, SessionEvent.Walked e' ∧ ¬ SessionEvent.Revives e' m k) →
      ¬ e'.Uses (origins (pre ++ e :: (mid ++ [e']))) m k) ∧
    (∀ {pre mid : List (SessionEvent RecvStream)} {e e' : SessionEvent RecvStream} {s : RecvSession}
      {c : RecvCall} {x : RecvStream} {m : Mki} {k : KeySalt},
      Trace sessionStep .new (pre ++ e :: (mid ++ [e'])) s → e.OnTemplate c x → e.Dies m →
      (∀ e' ∈ mid, SessionEvent.Walked e' ∧ ¬ SessionEvent.Revives e' m k) →
      ¬ e'.Uses (origins (pre ++ e :: (mid ++ [e']))) m k) :=
  ⟨dead_after_death, dead_after_death⟩

end Runs

section Example

open Vectors

attribute [local instance] Vectors.crates

/-- A template whose one key has one life, and the packet that takes it. -/
def oneLifeOps : List (SessionOp SendStream) :=
  [.addStream none (config [key none oneLife]) [] fun _ => [none],
    .request (.rtpProtectMki (rtpPacket 0xcafebabe 1) none)]

/-- The session afterwards. -/
def oneLifeSession : SendSession := (runAll sessionStep .new oneLifeOps).2

/-- The next packet, for which there is no life left. -/
def lastStraw : SessionEvent SendStream :=
  .of sessionStep oneLifeSession (.request (.rtpProtectMki (rtpPacket 0xcafebabe 2) none))

theorem lastStraw_dies : lastStraw.Dies none := by
  have hres : (oneLifeSession.request
      (SendRequest.rtpProtectMki (rtpPacket 0xcafebabe 2) none)).result =
        fail (.keyLimit true true none 0xcafebabe) := by decide +kernel
  exact ⟨true, 0xcafebabe, _, congrArg (SessionOutcome.packet · _) hres⟩

theorem lastStraw_onTemplate :
    ∃ x, lastStraw.OnTemplate (protectCall 2 none (by decide +kernel)) x := by
  have hflag : (oneLifeSession.streams.lookup 0xcafebabe).map (·.2) = some true := by decide +kernel
  obtain ⟨⟨x, fromTemplate⟩, hx, heq⟩ := Option.map_eq_some_iff.mp hflag
  obtain rfl : fromTemplate = true := heq
  exact ⟨x, _, false, rfl, SendStream.parse_rtp (eq_ok_get _), .present hx⟩

/-- Its stream is removed. -/
def removal : SessionEvent SendStream := .of sessionStep lastStraw.post (.removeStream 0xcafebabe)

/-- A packet on another SSRC spawns a stream with the same key. -/
def newSource : SessionEvent SendStream :=
  .of sessionStep removal.post (.request (.rtpProtectMki (rtpPacket 0xdeadbeef 1) none))

theorem dead_key_stays_dead_new_source :
    ¬ newSource.Uses (origins ((runAll sessionStep (Session.new : SendSession) oneLifeOps).1 ++
      lastStraw :: ([removal] ++ [newSource]))) none (masterKey, masterSalt) := by
  have run := (((Trace.runAll sessionStep (Session.new : SendSession) oneLifeOps).snoc
    lastStraw.input).snoc removal.input).snoc newSource.input
  rw [List.append_assoc, List.append_assoc] at run
  obtain ⟨x, hx⟩ := lastStraw_onTemplate
  refine dead_key_stays_dead.1 run hx lastStraw_dies fun e he => ?_
  rw [List.mem_singleton.mp he]
  constructor
  · rintro ssrc config streamOrder keyOrder ⟨⟩
  · rintro ⟨ssrc, config, streamOrder, keyOrder, ⟨⟩, -⟩

/-- The template is set again, as it was at first. -/
def sameTemplate : SessionEvent SendStream :=
  .of sessionStep lastStraw.post
    (.addStream none (config [key none oneLife]) [0xcafebabe] fun _ => [none])

def revived : SessionEvent SendStream :=
  .of sessionStep sameTemplate.post (.request (.rtpProtectMki (rtpPacket 0xdeadbeef 1) none))

theorem walks_oneLife : Walks (config [key none oneLife]) [none] :=
  walks_mkis (StreamConfig.valid_of_validate (by decide +kernel))

theorem sameTemplate_revives : ¬ ∀ (pre mid : List (SessionEvent SendStream))
    (e e' : SessionEvent SendStream) (s : SendSession) (c : SendCall) (x : SendStream) (m : Mki)
    (k : KeySalt), Trace sessionStep .new (pre ++ e :: (mid ++ [e'])) s →
    (∀ ev ∈ pre ++ e :: mid, SessionEvent.Walked ev) → e.OnTemplate c x → e.Dies m →
    origins (pre ++ [e]) (ssrc (T := SendStream) c) m = some k →
    ¬ e'.Uses (origins (pre ++ e :: (mid ++ [e']))) m k := by
  intro h
  have run := (((Trace.runAll sessionStep (Session.new : SendSession) oneLifeOps).snoc
    lastStraw.input).snoc sameTemplate.input).snoc revived.input
  rw [List.append_assoc, List.append_assoc] at run
  obtain ⟨x, hx⟩ := lastStraw_onTemplate
  refine h _ _ _ _ _ _ _ _ (masterKey, masterSalt) run ?_ hx lastStraw_dies (by decide +kernel) ?_
  · have hstreams : lastStraw.post.streams.Enumerates [0xcafebabe] :=
      Finmap.enumerates_of_keys (by decide) (by decide +kernel)
    have hempty : (Session.new : SendSession).streams.Enumerates [] :=
      Finmap.enumerates_of_keys (by decide) (by decide)
    intro ev hev
    simp only [oneLifeOps, runAll, List.cons_append, List.nil_append, List.mem_cons,
      List.not_mem_nil, or_false] at hev
    rcases hev with rfl | rfl | rfl | rfl
    · rintro ssrc config streamOrder keyOrder ⟨⟩
      exact ⟨hempty, fun _ => walks_oneLife⟩
    · rintro ssrc config streamOrder keyOrder ⟨⟩
    · rintro ssrc config streamOrder keyOrder ⟨⟩
    · rintro ssrc config streamOrder keyOrder ⟨⟩
      exact ⟨hstreams, fun _ => walks_oneLife⟩
  · have hnew : (SendStream.new 0xdeadbeef (config [key none oneLife])
        sameTemplate.post.keyLimitHandler).isOk = true := by decide +kernel
    have hres : (sameTemplate.post.request
        (SendRequest.rtpProtectMki (rtpPacket 0xdeadbeef 1) none)).result.isOk = true := by
      decide +kernel
    have hlookup : sameTemplate.post.streams.lookup 0xdeadbeef = none :=
      Option.isNone_iff_eq_none.mp (by decide +kernel)
    have htemplate : sameTemplate.post.templateConfig = some (config [key none oneLife]) := by
      decide +kernel
    exact ⟨_, _, _, _, ⟨_, true, rfl, SendStream.parse_rtp (eq_ok_get (by decide +kernel)),
      .spawned hlookup htemplate (eq_ok_get hnew)⟩, rfl, by decide +kernel,
      congrArg (SessionOutcome.packet · _) (eq_ok_get hres)⟩

end Example

end LibSrtp
