import LibSrtp.SessionRun
import LibSrtp.Vectors

/-!
# Warnings before a key dies

The last life of a key does not go unnoticed. A key whose lives and limits are all at least one is
`Provided`. It stays so until an operation takes its last life of one component, and before that
operation the count is one and so not above its limit: the handler is called.

* `Watched`: every key of a session is `Provided`, or its MKI was warned of;
* `Watched.step`: every operation keeps that, with the warnings it gives itself;
* `no_death_without_warning`: a key limit on a dead key comes after a warning for its MKI.
-/

namespace LibSrtp

open Exec PacketStream

/-- At least one life and a limit of at least one, for both components. -/
structure KeysLifetime.Provided (l : KeysLifetime) : Prop where
  lives (isRtp : Bool) : 1 ≤ l.lives isRtp
  limit (isRtp : Bool) : 1 ≤ l.limit isRtp

/-- One life less leaves a key provided, unless it was the last one. -/
theorem KeysLifetime.Provided.spent {l : KeysLifetime} (h : l.Provided) {isRtp : Bool}
    (h2 : 2 ≤ l.lives isRtp) : (l.spent isRtp).Provided := by
  have hl := h.lives
  have hlim := h.limit
  cases isRtp with
  | true =>
    have h2 : 2 ≤ l.rtp := h2
    have hne : ¬ l.rtp - 1 = 0 := by omega
    constructor <;> intro b <;> cases b <;>
      simp only [KeysLifetime.lives, KeysLifetime.limit, KeysLifetime.spent, KeysLifetime.lower, hne,
        if_true, if_false, Bool.false_eq_true]
    · exact hl false
    · omega
    · exact hlim false
    · exact hlim true
  | false =>
    have h2 : 2 ≤ l.rtcp := h2
    have hne : ¬ l.rtcp - 1 = 0 := by omega
    constructor <;> intro b <;> cases b <;>
      simp only [KeysLifetime.lives, KeysLifetime.limit, KeysLifetime.spent, KeysLifetime.lower, hne,
        if_true, if_false, Bool.false_eq_true]
    · omega
    · exact hl true
    · exact hlim false
    · exact hlim true

variable {T : Type} [PacketStream T]

/-! ## Warnings -/

/-- One of the handler calls is a warning for `m`: its key is not dead yet. -/
def Warns (handler : KeyLimitHandler) (m : Mki) (calls : List HandlerCall) : Prop :=
  ∃ isRtp ssrc, ⟨handler, .keyLimit isRtp false m ssrc⟩ ∈ calls

/-- The handler calls of an event. -/
def SessionEvent.calls (e : SessionEvent T) : List HandlerCall :=
  match e.answer with
  | .packet _ calls => calls
  | .unit _ calls => calls
  | .roc _ => []

/-- The handler was warned of the key `m`. -/
def Warned (handler : KeyLimitHandler) (m : Mki) (es : List (SessionEvent T)) : Prop :=
  ∃ e ∈ es, Warns handler m e.calls

/-- The event is a packet operation that fails because the key `m` is dead. -/
def SessionEvent.Dies (e : SessionEvent T) (m : Mki) : Prop :=
  ∃ isRtp ssrc calls, e.answer = .packet (fail (.keyLimit isRtp true m ssrc)) calls

/-- The handler stays the one there is, and the keys that are added are provided. -/
structure SessionEvent.Careful (handler : KeyLimitHandler) (e : SessionEvent T) : Prop where
  handler : e.post.keyLimitHandler = some handler
  keys {ssrc : Option UInt32} {config : StreamConfig} {streamOrder : List UInt32}
    {keyOrder : UInt32 → List Mki} : e.input = .addStream ssrc config streamOrder keyOrder →
      ∀ key ∈ config.keys, key.lifetime.Provided

theorem Warned.append {handler : KeyLimitHandler} {m : Mki} {es : List (SessionEvent T)}
    (h : Warned handler m es) (e : SessionEvent T) : Warned handler m (es ++ [e]) := by
  obtain ⟨e', he, hw⟩ := h
  exact ⟨e', List.mem_append_left _ he, hw⟩

theorem Warned.last {handler : KeyLimitHandler} {m : Mki} {es : List (SessionEvent T)}
    {e : SessionEvent T} (h : Warns handler m e.calls) : Warned handler m (es ++ [e]) :=
  ⟨e, by simp, h⟩

/-! ## Watched keys -/

/-- The stream calls the handler, and its keys are provided unless `W` holds of their MKI. -/
structure WatchedStream (handler : KeyLimitHandler) (W : Mki → Prop) (s : T) : Prop where
  handler : (base s).keyLimitHandler = some handler
  keys {m : Mki} {t : Transform} {l : KeysLifetime} :
    (base s).transforms.lookup m = some (t, l) → l.Provided ∨ W m

/-- The keys of the configuration are provided unless `W` holds of their MKI. -/
def WatchedKeys (W : Mki → Prop) (config : StreamConfig) : Prop :=
  ∀ key ∈ config.keys, key.lifetime.Provided ∨ W key.mki

/-- The handler of the session, and its keys, after the events `es`. -/
structure Watched (handler : KeyLimitHandler) (es : List (SessionEvent T)) (s : Session T) : Prop where
  all : s.All (fun _ entry => WatchedStream handler (Warned handler · es) entry.1)
    (WatchedKeys (Warned handler · es))
  handler : s.keyLimitHandler = some handler

section Watching

variable [Crates] [LawfulStream T]

omit [PacketStream T] [Crates] [LawfulStream T] in
theorem WatchedKeys.disabled {W : Mki → Prop} {config : StreamConfig} {m : Mki}
    (h : WatchedKeys W config) (hm : W m) : WatchedKeys W (config.disabled m) := by
  intro key hk
  obtain ⟨key₀, hk₀, rfl⟩ := StreamConfig.mem_disabled.mp hk
  split
  · next heq => exact .inr (heq ▸ hm)
  · exact h key₀ hk₀

namespace WatchedStream

variable {handler : KeyLimitHandler} {W W' : Mki → Prop} {s : T}

omit [Crates] [LawfulStream T] in
theorem mono (h : WatchedStream handler W s) (hW : ∀ m, W m → W' m) : WatchedStream handler W' s :=
  ⟨h.handler, fun hl => (h.keys hl).imp_right (hW _)⟩

theorem new {ssrc : UInt32} {config : StreamConfig} (hc : WatchedKeys W config)
    (h : StreamInterface.new ssrc config (some handler) = .ok s) : WatchedStream handler W s := by
  refine ⟨keyLimitHandler_new h, fun hl => ?_⟩
  obtain ⟨key, hk, rfl, rfl, -⟩ := lookup_new h hl
  exact hc key hk

theorem updated {config : StreamConfig} {order : List Mki} (h : WatchedStream handler W s)
    (hv : config.validate = .ok ()) (hs : InRange s) (hc : WatchedKeys W config) :
    WatchedStream handler W (StreamInterface.update s config order).state := by
  have hu := LawfulStream.updated s order (StreamConfig.valid_of_validate hv).keys_ne
  refine ⟨(same_step hs (.update config hv order)).keyLimitHandler.trans h.handler, fun hl => ?_⟩
  rcases lookup_update hu hl with hl | ⟨-, key, hk, rfl, rfl, -⟩
  · exact h.keys hl
  · exact hc key hk

theorem killed {m : Mki} (h : WatchedStream handler W s) (hs : InRange s) (hm : W m) :
    WatchedStream handler W (StreamInterface.killSessionKeys s m).state := by
  refine ⟨(same_step hs (.kill m)).keyLimitHandler.trans h.handler, fun {m' t l} hl => ?_⟩
  cases hm' : (base s).transforms.lookup m with
  | none =>
    rw [LawfulStream.killed_none hm'] at hl
    exact h.keys hl
  | some entry =>
    rw [LawfulStream.killed_some hm', LawfulStream.base_withTransforms] at hl
    rcases Finmap.lookup_insert_cases hl with ⟨rfl, -⟩ | hl
    · exact .inr hm
    · exact h.keys hl

theorem directed {d : Direct T} (h : WatchedStream handler W s) (hs : InRange s)
    (hW : ∀ m, W m → W' m) : WatchedStream handler W' (direct s d).state := by
  refine ⟨(same_step hs (.direct d)).keyLimitHandler.trans h.handler, fun hl => ?_⟩
  obtain ⟨db, hdb⟩ := LawfulStream.base_direct s d
  rw [hdb] at hl
  exact (h.keys hl).imp_right (hW _)

/-- The operation that takes the last life of a key warns of it. -/
theorem called {c : Call T} {bytes : Bytes} (h : WatchedStream handler W s) (hs : InRange s)
    (hok : (call s c).result = .ok bytes) (hW : ∀ m, W m → W' m)
    (hcalls : ∀ m, Warns handler m (call s c).calls → W' m) :
    WatchedStream handler W' (call s c).state := by
  refine ⟨(same_step hs (.call c)).keyLimitHandler.trans h.handler, ?_⟩
  have hc := LawfulStream.called c hs
  generalize call s c = r at hc hok hcalls
  intro m' t' l' hl'
  cases hc with
  | rejected => cases hok
  | unknown => cases hok
  | dead => cases hok
  | refused => cases hok
  | @done i m t l _ _ hl h0 _ =>
    rw [LawfulStream.base_withTransforms] at hl'
    rcases Finmap.lookup_insert_cases hl' with ⟨rfl, heq⟩ | hl'
    · obtain ⟨rfl, rfl⟩ := Prod.mk.inj heq
      rcases h.keys hl with hprov | hw
      · rcases Nat.lt_or_ge (l.lives (isRtp c)) 2 with hlast | hmore
        · -- one life left: not above the limit
          have hlim : l.lives (isRtp c) ≤ l.limit (isRtp c) := by
            have := hprov.limit (isRtp c)
            omega
          refine .inr (hcalls m' ⟨isRtp c, (base s).ssrc, ?_⟩)
          unfold BaseStream.alerts
          rw [if_pos hlim, h.handler, decide_eq_false h0]
          exact List.mem_cons_self
        · exact .inl (hprov.spent hmore)
      · exact .inr (hW m' hw)
    · exact (h.keys hl').imp_right (hW _)

/-- A key limit on a dead key is about a key that was warned of. -/
theorem dead {c : Call T} {m : Mki} {ssrc : UInt32} (h : WatchedStream handler W s)
    (hs : LibSrtp.Sound s) (hdead : (call s c).result = fail (.keyLimit (isRtp c) true m ssrc)) :
    W m := by
  rcases hs.fault hdead with hnot | ⟨m', t, l, -, hl, h0, heq⟩
  · exact hnot.elim
  · obtain ⟨-, -, rfl, -⟩ := SrtpError.keyLimit.inj (Fault.error.inj heq)
    refine (h.keys hl).resolve_left fun hprov => ?_
    have := hprov.lives (isRtp c)
    omega

end WatchedStream

namespace Watched

variable {handler : KeyLimitHandler} {es : List (SessionEvent T)} {s : Session T}

/-- Every operation keeps the keys watched. -/
theorem step (h : Watched handler es s) (hs : s.Sound) (op : SessionOp T)
    (hcare : SessionEvent.Careful handler (.of sessionStep s op)) :
    Watched handler (es ++ [.of sessionStep s op]) (sessionStep s op).2 := by
  have hW : ∀ m, Warned handler m es → Warned handler m (es ++ [.of sessionStep s op]) :=
    fun m hw => hw.append _
  have hkeys : ∀ {ssrc config streamOrder keyOrder}, op = .addStream ssrc config streamOrder keyOrder →
      WatchedKeys (Warned handler · (es ++ [.of sessionStep s op])) config :=
    fun hop key hk => .inl (hcare.keys hop key hk)
  refine ⟨h.all.step hs ?_, hcare.handler⟩
  exact {
    stay := fun hx => hx.mono hW
    stayTemplate := fun hc key hk => (hc key hk).imp_right (hW _)
    spawn := fun hc hnew => .new hc (h.handler ▸ hnew)
    setTemplate := fun hop _ => hkeys hop
    build := fun hop _ hnew => .new (hkeys hop) (h.handler ▸ hnew)
    update := fun _ hop hv hx hw => hw.updated hv hx.inRange (hkeys hop)
    direct := fun _ hx hw => hw.directed hx.inRange hW
    done := fun hop _ hx hcalls hw hok => by
      subst hop
      refine hw.called hx.inRange hok hW fun m hm => .last ?_
      rw [hcalls] at hm
      exact hm
    died := fun _ _ hx hw hdead =>
      ⟨fun hy hwy => (hwy.mono hW).killed hy.inRange (hW _ (hw.dead hx hdead)),
        fun hc => WatchedKeys.disabled (fun key hk => (hc key hk).imp_right (hW _))
          (hW _ (hw.dead hx hdead))⟩ }

end Watched

/-- A new session with this handler. -/
def startedWith (handler : KeyLimitHandler) : Session T :=
  (Session.new.setKeyLimitHandler handler).state

/-- All keys are watched in every session that a careful run leads to. -/
theorem watched_run {handler : KeyLimitHandler} {es : List (SessionEvent T)} {s : Session T}
    (run : Trace sessionStep (startedWith handler) es s)
    (hcare : ∀ e ∈ es, SessionEvent.Careful handler e) : Watched handler es s ∧ s.Sound := by
  have hstart : (startedWith handler : Session T).Sound :=
    Session.Sound.new.step (.setKeyLimitHandler handler)
  refine run.history_of (I := fun es s => Watched handler es s ∧ s.Sound) hcare ⟨?_, hstart⟩
    fun es s op h hop => ⟨h.1.step h.2 op hop, h.2.step op⟩
  refine ⟨⟨fun {k entry} hl => ?_, fun ht => by cases ht⟩, rfl⟩
  have hl : (∅ : Streams T).lookup k = some entry := hl
  rw [Finmap.lookup_empty] at hl
  cases hl

/-- A packet operation that fails because a key is dead comes after a warning for its MKI. -/
theorem warned_of_dies {handler : KeyLimitHandler} {es pre post : List (SessionEvent T)}
    {e : SessionEvent T} {s : Session T} {m : Mki}
    (run : Trace sessionStep (startedWith handler) es s)
    (hcare : ∀ e ∈ es, SessionEvent.Careful handler e) (hes : es = pre ++ e :: post)
    (hdies : e.Dies m) : Warned handler m pre := by
  obtain ⟨hpre, he, -⟩ := run.split hes
  obtain ⟨hwatched, hsound⟩ := watched_run hpre fun e' he' => hcare e' (by simp [hes, he'])
  obtain ⟨isRtp, ssrc, calls, hans⟩ := hdies
  rw [he] at hans
  revert hans
  cases e.input with
  | request q =>
    intro hans
    obtain ⟨hres, -⟩ := SessionOutcome.packet.inj hans
    obtain ⟨c, x, _, _, -, ht, rfl, rfl, hdead, -⟩ := hsound.died hres
    have hw : WatchedStream handler (Warned handler · pre) x := by
      cases ht with
      | present hl => exact hwatched.all.stream hl
      | spawned _ htemplate hnew =>
        exact .new (hwatched.all.template htemplate) (hwatched.handler ▸ hnew)
    exact hw.dead (ht.sound hsound).1 hdead
  | _ => intro hans; cases hans

/-- In a session that had its handler from the start, and whose keys all have lives and limits, the
handler is called before a key is found dead. -/
theorem no_death_without_warning :
    (∀ {handler : KeyLimitHandler} {es pre post : List (SessionEvent SendStream)}
      {e : SessionEvent SendStream} {s : SendSession} {m : Mki},
      Trace sessionStep (startedWith handler) es s → (∀ e ∈ es, SessionEvent.Careful handler e) →
        es = pre ++ e :: post → e.Dies m → ∃ e' ∈ pre, Warns handler m e'.calls) ∧
    (∀ {handler : KeyLimitHandler} {es pre post : List (SessionEvent RecvStream)}
      {e : SessionEvent RecvStream} {s : RecvSession} {m : Mki},
      Trace sessionStep (startedWith handler) es s → (∀ e ∈ es, SessionEvent.Careful handler e) →
        es = pre ++ e :: post → e.Dies m → ∃ e' ∈ pre, Warns handler m e'.calls) :=
  ⟨warned_of_dies, warned_of_dies⟩

end Watching

section Example

open Vectors

attribute [local instance] Vectors.crates

/-- Two lives, and a warning at the last one. -/
def twoLives : KeysLifetime :=
  { KeysLifetime.default.lower 2 2 (by decide) (by decide) with rtpLimit := 1, rtcpLimit := 1 }

/-- A template with a key of two lives, and as many packets. -/
def twoLivesOps : List (SessionOp SendStream) :=
  [.addStream none (config [key none twoLives]) [] fun _ => [none],
    .request (.rtpProtectMki (rtpPacket 0xcafebabe 1) none),
    .request (.rtpProtectMki (rtpPacket 0xcafebabe 2) none)]

theorem twoLives_provided : twoLives.Provided :=
  ⟨fun b => by cases b <;> decide, fun b => by cases b <;> decide⟩

/-- The third packet finds the key dead. -/
theorem no_death_without_warning_two_lives :
    ∃ e ∈ (runAll sessionStep (startedWith 7) twoLivesOps).1,
      Warns 7 none (SessionEvent.calls e) := by
  refine no_death_without_warning.1
    (Trace.snoc (.request (.rtpProtectMki (rtpPacket 0xcafebabe 10) none)) (.runAll ..)) ?_ rfl
    ⟨true, 0xcafebabe, [⟨7, .keyLimit true true none 0xcafebabe⟩], by rfl⟩
  simp only [twoLivesOps, runAll, List.cons_append, List.nil_append, List.forall_mem_cons]
  refine ⟨⟨by decide +kernel, ?_⟩, ⟨by decide +kernel, ?_⟩, ⟨by decide +kernel, ?_⟩,
    ⟨by decide +kernel, ?_⟩, List.forall_mem_nil _⟩ <;>
    intro ssrc config streamOrder keyOrder h <;> cases h
  intro key hk
  rw [List.mem_singleton.mp hk]
  exact twoLives_provided

end Example

end LibSrtp
