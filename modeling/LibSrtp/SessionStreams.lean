import LibSrtp.DeadKeys
import LibSrtp.Encipherment
import LibSrtp.StreamIsolation
import LibSrtp.Support.Simulation
import LibSrtp.Vectors
import Mathlib.Data.List.DropRight

/-!
# The streams of a session

What a session does to one SSRC, as long as its stream is not removed, is a run of that stream
alone: the packets of the SSRC and the operations on its counters, in their order and with their
answers, with updates in between where configurations were added and ends of keys where packets of
other SSRCs met dead keys. With a removal the SSRC starts again: only what came after it counts.

* `Session.simulates_stream`: the session simulates each of its streams, `Session.stream_run`;
* `session_stream_history`: what happened to a stream that is there, from the event that built it;
* `Session.target_run`: what happened since the last removal, to the stream of the next packet;
* `Session.pairwise_of_streams`: so what relates any two packets of a stream, and any two of
  different SSRCs, relates any two packets of a session.
-/

namespace LibSrtp

open Exec PacketStream

variable {T : Type} [PacketStream T]

/-- What an operation on one stream shows: a packet shows its index and MKI as well. -/
inductive Shown (T : Type) [PacketStream T] where
  | call (c : Call T) (located : Res (Nat × Mki)) (r : Res Bytes)
  | direct (d : Direct T) (r : Res Unit)

/-- The index and the MKI of a packet, on the stream that a session runs it on. -/
def Session.located (s : Session T) (c : Call T) : Res (Nat × Mki) :=
  match (s.getStream (ssrc c)).1 with
  | .ok (stream, _, _) => locate stream c
  | .error f => .error f

/-- Packets and operations on the counters show, updates and ends of keys do not. -/
def StreamEvent.shows (e : StreamEvent T) : List (Shown T) :=
  match e.input, e.answer with
  | .call c, .packet r => [.call c (locate e.pre c) r]
  | .direct d, .unit r => [.direct d r]
  | _, _ => []

/-- What an event of a session shows of one SSRC. -/
def SessionEvent.shows (k : UInt32) (e : SessionEvent T) : List (Shown T) :=
  match e.input, e.answer with
  | .request q, .packet r _ =>
    match parse q with
    | .ok c => if ssrc c = k then [.call c (e.pre.located c) r] else []
    | .error _ => []
  | .direct j d, .unit r _ => if j = k then [.direct d r] else []
  | _, _ => []

/-- A packet or an operation on the counters that succeeded. -/
def Shown.Done : Shown T → Prop
  | .call _ _ r => ∃ bytes, r = .ok bytes
  | .direct _ r => r = .ok ()

/-- The operation adds no other configurations than these for the SSRC or as a template. -/
structure SessionOp.Gives (k : UInt32) (C : StreamConfig → Prop) (op : SessionOp T) : Prop where
  adds {ssrc : Option UInt32} {config : StreamConfig} {streamOrder : List UInt32}
    {keyOrder : UInt32 → List Mki} : op = .addStream ssrc config streamOrder keyOrder →
      ssrc = none ∨ ssrc = some k → C config

/-- What the events of a run give, from its operations. -/
theorem gives_of_added [Crates] [LawfulStream T] {s : Session T} {ops : List (SessionOp T)}
    {k : UInt32} {C : StreamConfig → Prop} (h : ∀ {ssrc config streamOrder keyOrder},
      .addStream ssrc config streamOrder keyOrder ∈ ops → C config) :
    ∀ e ∈ (runAll sessionStep s ops).1, e.input.Gives k C :=
  fun _ he => ⟨fun heq _ => h (heq ▸ input_mem_of_runAll he)⟩

/-- As `Gives`, and the operation leaves the stream of the SSRC there. -/
structure SessionOp.Leaves (k : UInt32) (C : StreamConfig → Prop) (op : SessionOp T) : Prop
    extends op.Gives k C where
  removes : op ≠ .removeStream k

/-- The operation removes the stream of the SSRC, if there is one. -/
def SessionOp.removes (k : UInt32) : SessionOp T → Bool
  | .removeStream j => j == k
  | _ => false

theorem SessionOp.removes_iff {k : UInt32} {op : SessionOp T} :
    op.removes k = true ↔ op = .removeStream k := by
  cases op <;> simp [SessionOp.removes]

/-- What happened since the stream of the SSRC was last removed. -/
def sinceRemoved (k : UInt32) (es : List (SessionEvent T)) : List (SessionEvent T) :=
  es.rtakeWhile fun e => !e.input.removes k

theorem sinceRemoved_append {k : UInt32} (es : List (SessionEvent T)) {es' : List (SessionEvent T)}
    (h : ∀ e ∈ es', e.input ≠ .removeStream k) :
    sinceRemoved k (es ++ es') = sinceRemoved k es ++ es' := by
  have hkept : ∀ e ∈ es'.reverse, (!e.input.removes k) = true := by
    intro e he
    rw [Bool.not_eq_true', Bool.eq_false_iff, ne_eq, SessionOp.removes_iff]
    exact h e (List.mem_reverse.mp he)
  simp only [sinceRemoved, List.rtakeWhile, List.reverse_append]
  rw [List.takeWhile_append_of_pos hkept, List.reverse_append, List.reverse_reverse]

theorem sinceRemoved_eq_self {k : UInt32} {es : List (SessionEvent T)}
    (h : ∀ e ∈ es, e.input ≠ .removeStream k) : sinceRemoved k es = es := sinceRemoved_append [] h

theorem sinceRemoved_concat_removed {k : UInt32} (es : List (SessionEvent T)) {e : SessionEvent T}
    (h : e.input = .removeStream k) : sinceRemoved k (es ++ [e]) = [] := by
  refine List.rtakeWhile_concat_neg _ _ _ ?_
  simp [SessionOp.removes_iff.mpr h]

/-- The stream takes no other configurations than these. -/
def StreamOp.Takes (C : StreamConfig → Prop) (op : StreamOp T) : Prop :=
  ∀ config valid order, op = .update config valid order → C config

namespace Session

variable [Crates] [LawfulStream T] {s : Session T} {k : UInt32} {C : StreamConfig → Prop}

omit [Crates] [LawfulStream T] in
theorem Target.located {c : Call T} {x : T} {fromTemplate pending : Bool}
    (h : Target s (ssrc c) x fromTemplate pending) : s.located c = locate x c := by
  unfold Session.located
  rw [h.getStream]

/-- The stream of an SSRC, in a sound session. -/
def Holds (k : UInt32) (s : Session T) (x : T) : Prop :=
  s.Sound ∧ ∃ fromTemplate, s.streams.lookup k = some (x, fromTemplate)

/-- A run of the stream that shows nothing. -/
def Hidden (C : StreamConfig → Prop) (x x' : T) : Prop :=
  ∃ es, Trace streamStep x es x' ∧ (∀ e ∈ es, e.input.Takes C) ∧ es.flatMap StreamEvent.shows = []

omit [Crates] [LawfulStream T] in
theorem Hidden.refl (x : T) : Hidden C x x := ⟨[], .nil, by simp, rfl⟩

omit [Crates] [LawfulStream T] in
theorem Hidden.trans {x y z : T} (h : Hidden C x y) (h' : Hidden C y z) : Hidden C x z := by
  obtain ⟨es, ht, hC, hs⟩ := h
  obtain ⟨es', ht', hC', hs'⟩ := h'
  refine ⟨es ++ es', ht.trans ht', fun e he => (List.mem_append.mp he).elim (hC e) (hC' e), ?_⟩
  rw [List.flatMap_append, hs, hs', List.append_nil]

omit [Crates] [LawfulStream T] in
theorem Hidden.update (x : T) {config : StreamConfig} (hv : config.validate = .ok ())
    (hC : C config) (order : List Mki) :
    Hidden C x (StreamInterface.update x config order).state := by
  refine ⟨_, .single streamStep x (.update config hv order), fun e he => ?_, rfl⟩
  obtain rfl := List.mem_singleton.mp he
  intro config' valid order' heq
  cases heq
  exact hC

omit [Crates] [LawfulStream T] in
theorem Hidden.kill (x : T) (m : Mki) :
    Hidden C x (StreamInterface.killSessionKeys x m).state := by
  refine ⟨_, .single streamStep x (.kill m), fun e he => ?_, rfl⟩
  obtain rfl := List.mem_singleton.mp he
  intro config' valid order' heq
  cases heq

omit [Crates] in
/-- The loop over the streams of the template updates each of them some number of times. -/
theorem updateTemplated_hidden {config : StreamConfig} (hv : config.validate = .ok ())
    (hC : C config) (keyOrder : UInt32 → List Mki) (streamOrder : List UInt32) {streams : Streams T}
    {x : T} {fromTemplate : Bool} (hl : streams.lookup k = some (x, fromTemplate)) :
    ∃ x', (updateTemplated config keyOrder streamOrder streams).2.lookup k = some (x', fromTemplate) ∧
      Hidden C x x' := by
  induction streamOrder generalizing streams x with
  | nil => exact ⟨x, hl, .refl x⟩
  | cons j streamOrder ih =>
    rcases templated_or streams j with ⟨y, hy⟩ | hy
    · have hnext : ∃ x', (streams.insert j ((StreamInterface.update y config (keyOrder j)).state,
          true)).lookup k = some (x', fromTemplate) ∧ Hidden C x x' := by
        rw [Finmap.lookup_insert_eq]
        split
        · next hk =>
          obtain rfl := hk
          obtain ⟨rfl, rfl⟩ := Prod.mk.inj (Option.some.inj (hl.symm.trans hy))
          exact ⟨_, rfl, .update x hv hC _⟩
        · exact ⟨x, hl, .refl x⟩
      obtain ⟨x', hl', hhidden⟩ := hnext
      rw [updateTemplated_cons hy]
      split
      · exact ⟨x', hl', hhidden⟩
      · obtain ⟨x'', hl'', hhidden'⟩ := ih hl'
        exact ⟨x'', hl'', hhidden.trans hhidden'⟩
    · rw [updateTemplated_cons_other hy]
      exact ih hl

omit [Crates] [LawfulStream T] in
theorem shows_other {e : SessionEvent T} (h : e.input.ssrc ≠ some k) : e.shows k = [] := by
  obtain ⟨s, op, answer, s'⟩ := e
  cases op with
  | request q =>
    cases answer with
    | packet r calls =>
      unfold SessionEvent.shows
      dsimp only
      cases hq : parse q with
      | error f => rfl
      | ok c =>
        rw [SessionOp.ssrc_of_ok hq] at h
        exact if_neg fun heq => h (congrArg some heq)
    | _ => rfl
  | direct j d =>
    cases answer with
    | unit r calls => exact if_neg fun heq => h (congrArg some heq)
    | _ => rfl
  | _ => rfl

/-- An operation of the session is matched by a run of the stream that shows the same. -/
def Matched (k : UInt32) (C : StreamConfig → Prop) (s : Session T) (x : T) (op : SessionOp T) :
    Prop :=
  ∃ es x', Trace streamStep x es x' ∧ Holds k (sessionStep s op).2 x' ∧
    (∀ e ∈ es, e.input.Takes C) ∧
    es.flatMap StreamEvent.shows = SessionEvent.shows k (.of sessionStep s op)

section Matched

variable {x x' : T} {op : SessionOp T} {fromTemplate fromTemplate' : Bool}

/-- A step that shows nothing. -/
theorem Matched.hidden (hs : s.Sound)
    (hl : (sessionStep s op).2.streams.lookup k = some (x', fromTemplate)) (h : Hidden C x x')
    (hshows : SessionEvent.shows k (.of sessionStep s op) = []) : Matched k C s x op := by
  obtain ⟨es, ht, hC, hes⟩ := h
  exact ⟨es, x', ht, ⟨hs.step op, fromTemplate, hl⟩, hC, hes.trans hshows.symm⟩

theorem matched_addStream (hs : s.Sound) (hl : s.streams.lookup k = some (x, fromTemplate))
    {ssrc : Option UInt32} {config : StreamConfig} {streamOrder : List UInt32}
    {keyOrder : UInt32 → List Mki} (hC : ssrc = none ∨ ssrc = some k → C config) :
    Matched k C s x (.addStream ssrc config streamOrder keyOrder) := by
  have hloop : ∀ {res streams}, C config → config.validate = .ok () →
      Session.updateTemplated config keyOrder streamOrder s.streams = (res, streams) →
      ∃ x' fromTemplate', streams.lookup k = some (x', fromTemplate') ∧ Hidden C x x' := by
    intro res streams hC hv hu
    obtain ⟨x', hl', hx'⟩ := updateTemplated_hidden hv hC keyOrder streamOrder hl
    rw [hu] at hl'
    exact ⟨x', fromTemplate, hl', hx'⟩
  have hone : ∀ {j y r}, (some j = some k → C config) → config.validate = .ok () →
      s.streams.lookup j = some y → StreamInterface.update y.1 config (keyOrder j) = r →
      ∀ fromTemplate', ∃ x' b, (s.streams.insert j (r.state, fromTemplate')).lookup k =
        some (x', b) ∧ Hidden C x x' := by
    rintro j y r hC hv hy rfl fromTemplate'
    rw [Finmap.lookup_insert_eq]
    split
    · next hk =>
      obtain rfl := hk
      obtain rfl := Option.some.inj (hl.symm.trans hy)
      exact ⟨_, _, rfl, .update x hv (hC rfl) _⟩
    · exact ⟨x, fromTemplate, hl, .refl x⟩
  have hstays : ∃ x' fromTemplate', (s.addStream ssrc config streamOrder
      keyOrder).state.streams.lookup k = some (x', fromTemplate') ∧ Hidden C x x' := by
    have ha := added s ssrc config streamOrder keyOrder
    generalize s.addStream ssrc config streamOrder keyOrder = r at ha
    cases ha with
    | invalid => exact ⟨x, fromTemplate, hl, .refl x⟩
    | templateRefused hv hu => exact hloop (hC (.inl rfl)) hv hu
    | template hv hu => exact hloop (hC (.inl rfl)) hv hu
    | unbuilt => exact ⟨x, fromTemplate, hl, .refl x⟩
    | built hv hj hnew =>
      refine ⟨x, fromTemplate, ?_, .refl x⟩
      dsimp only
      rw [Finmap.lookup_insert_of_ne, hl]
      rintro rfl
      rw [hl] at hj
      cases hj
    | refused hv hj hu => exact hone (hC ∘ .inr) hv hj hu _
    | updated hv hj hu => exact hone (hC ∘ .inr) hv hj hu _
  obtain ⟨x', fromTemplate', hl', hx'⟩ := hstays
  exact .hidden hs hl' hx' rfl

theorem matched_direct (hs : s.Sound) (hl : s.streams.lookup k = some (x, fromTemplate))
    (j : UInt32) (d : Direct T) : Matched k C s x (.direct j d) := by
  by_cases hj : j = k
  · subst hj
    have hdirect : s.direct j d = ⟨(PacketStream.direct x d).result,
        { s with streams := s.streams.insert j ((PacketStream.direct x d).state, fromTemplate) },
        (PacketStream.direct x d).calls⟩ := by
      unfold Session.direct
      rw [hl]
    refine ⟨_, _, .single streamStep x (.direct d), ⟨hs.step _, fromTemplate, ?_⟩, ?_, ?_⟩
    · show (s.direct j d).state.streams.lookup j = _
      rw [hdirect]
      exact Finmap.lookup_insert _
    · intro e he config valid order heq
      obtain rfl := List.mem_singleton.mp he
      cases heq
    · show [Shown.direct d (PacketStream.direct x d).result] =
        if j = j then [Shown.direct d (s.direct j d).result] else []
      rw [if_pos rfl, hdirect]
  · have hkeep : (s.direct j d).state.streams.lookup k = some (x, fromTemplate) := by
      unfold Session.direct
      split
      · exact hl
      · dsimp only
        rw [Finmap.lookup_insert_of_ne _ (Ne.symm hj), hl]
    exact .hidden hs hkeep (.refl x) (if_neg hj)

/-- The packet of another SSRC shows nothing. -/
theorem Matched.other (hs : s.Sound) {q : Request T} {c : Call T} {r : Answer (Session T) Bytes}
    (hr : s.request q = r) (hq : parse q = .ok c) (hne : PacketStream.ssrc c ≠ k)
    (hl : r.state.streams.lookup k = some (x', fromTemplate)) (h : Hidden C x x') :
    Matched k C s x (.request q) := by
  subst hr
  refine .hidden hs hl h (shows_other ?_)
  show (SessionOp.request q).ssrc ≠ some k
  rw [SessionOp.ssrc_of_ok hq]
  exact fun heq => hne (Option.some.inj heq)

/-- A packet of the SSRC is a packet of the stream. -/
theorem Matched.own (hs : s.Sound) {q : Request T} {c : Call T} {r : Answer (Session T) Bytes}
    (hr : s.request q = r) (hq : parse q = .ok c) (hk : PacketStream.ssrc c = k)
    (hlocated : s.located c = locate x c)
    (hl : r.state.streams.lookup k = some (x', fromTemplate))
    (hres : (call x c).result = r.result) (h : Hidden C (call x c).state x') :
    Matched k C s x (.request q) := by
  subst hr
  obtain ⟨es, ht, hC, hes⟩ := h
  refine ⟨_, x', (Trace.single streamStep x (.call c)).trans ht, ⟨hs.step _, fromTemplate, hl⟩,
    fun e he => ?_, ?_⟩
  · rcases List.mem_append.mp he with he | he
    · obtain rfl := List.mem_singleton.mp he
      intro config valid order heq
      cases heq
    · exact hC e he
  · show [Shown.call c (locate x c) (call x c).result] ++ es.flatMap StreamEvent.shows =
      match parse q with
      | .ok c =>
        if PacketStream.ssrc c = k then [Shown.call c (s.located c) (s.request q).result] else []
      | .error _ => []
    rw [hes, hq, hres, ← hlocated]
    exact (if_pos hk).symm

omit [Crates] [LawfulStream T] in
/-- A dead key ends in the streams of the template. -/
theorem killTemplate_hidden (hl : s.streams.lookup k = some (x, fromTemplate)) (m : Mki)
    (onTemplate : Bool) : ∃ x', (if onTemplate then s.killTemplate m else s).streams.lookup k =
      some (x', fromTemplate) ∧ Hidden C x x' := by
  cases onTemplate with
  | false => exact ⟨x, hl, .refl x⟩
  | true =>
    have hlookup : (s.killTemplate m).streams.lookup k = some (killTemplated m (x, fromTemplate)) := by
      show (s.streams.mapVals (killTemplated m)).lookup k = _
      rw [Finmap.lookup_mapVals, hl]
      rfl
    cases fromTemplate with
    | false => exact ⟨x, hlookup, .refl x⟩
    | true => exact ⟨_, hlookup, .kill x m⟩

theorem matched_request (hs : s.Sound) (hl : s.streams.lookup k = some (x, fromTemplate))
    (q : Request T) : Matched k C s x (.request q) := by
  have hinr : InRange x := (hs.stream hl).1.inRange
  have htarget : ∀ {c : Call T} {y fromTemplate' pending}, PacketStream.ssrc c = k →
      Target s (PacketStream.ssrc c) y fromTemplate' pending →
        x = y ∧ fromTemplate = fromTemplate' := by
    rintro c y fromTemplate' pending rfl ht
    exact (Target.present hl).unique ht
  have hstate : ∀ {c : Call T} {f}, (call x c).result = .error f → (call x c).state = x := fun hf =>
    (LawfulStream.called _ hinr).state_of_error hf
  have hinserted : ∀ {j y fromTemplate'}, j ≠ k →
      (s.streams.insert j (y, fromTemplate')).lookup k = some (x, fromTemplate) := by
    intro j y fromTemplate' hne
    rw [Finmap.lookup_insert_of_ne _ (Ne.symm hne), hl]
  have hself : ∀ {j y fromTemplate'}, j = k →
      (s.streams.insert j (y, fromTemplate')).lookup k = some (y, fromTemplate') := by
    rintro j y fromTemplate' rfl
    exact Finmap.lookup_insert _
  have habsent : ∀ {j}, s.streams.lookup j = none → j ≠ k := by
    rintro j hnone rfl
    rw [hl] at hnone
    cases hnone
  have hr := requested hs q
  generalize hrq : s.request q = r at hr
  cases hr with
  | unparsed hq =>
    have hkeep : (s.request q).state.streams.lookup k = some (x, fromTemplate) := by rw [hrq, hl]
    refine .hidden hs hkeep (.refl x) (shows_other ?_)
    show (SessionOp.request q).ssrc ≠ some k
    rw [SessionOp.ssrc_of_error hq]
    exact nofun
  | missing hq hnone => exact .other hs hrq hq (habsent hnone) hl (.refl x)
  | unspawned hq hnone => exact .other hs hrq hq (habsent hnone) hl (.refl x)
  | @failed c _ _ _ _ hq ht hres =>
    by_cases hk : PacketStream.ssrc c = k
    · obtain ⟨rfl, rfl⟩ := htarget hk ht
      exact .own hs hrq hq hk ht.located hl hres (by rw [hstate hres]; exact .refl x)
    · exact .other hs hrq hq hk hl (.refl x)
  | @died c y onTemplate _ m hq ht hres =>
    obtain ⟨x', hl', hx'⟩ := killTemplate_hidden (C := C) hl m onTemplate
    by_cases hk : PacketStream.ssrc c = k
    · obtain ⟨rfl, rfl⟩ := htarget hk ht
      exact .own hs hrq hq hk ht.located hl' hres (by rw [hstate hres]; exact hx')
    · exact .other hs hrq hq hk hl' hx'
  | @crashed c y fromTemplate' _ hq ht hres =>
    by_cases hk : PacketStream.ssrc c = k
    · obtain ⟨rfl, rfl⟩ := htarget hk ht
      exact .own hs hrq hq hk ht.located (hself hk) hres (by rw [hstate hres]; exact .refl x)
    · exact .other hs hrq hq hk (hinserted hk) (.refl x)
  | @done c y fromTemplate' _ _ hq ht hres =>
    by_cases hk : PacketStream.ssrc c = k
    · obtain ⟨rfl, rfl⟩ := htarget hk ht
      exact .own hs hrq hq hk ht.located (hself hk) hres (.refl _)
    · exact .other hs hrq hq hk (hinserted hk) (.refl x)

end Matched

/-- The session simulates each of its streams. -/
theorem simulates_stream (k : UInt32) (C : StreamConfig → Prop) :
    Simulates (sessionStep (T := T)) streamStep (Holds k) (fun e => e.input.Leaves k C)
      (fun e => e.input.Takes C) (SessionEvent.shows k) StreamEvent.shows := by
  rintro s x op ⟨hs, fromTemplate, hl⟩ hleaves
  have hleaves : op.Leaves k C := hleaves
  show Matched k C s x op
  cases op with
  | setKeyLimitHandler handler =>
    have hkeep : (s.setKeyLimitHandler handler).state.streams.lookup k = some (x, fromTemplate) := by
      unfold setKeyLimitHandler
      split <;> exact hl
    exact .hidden hs hkeep (.refl x) rfl
  | addStream ssrc config streamOrder keyOrder => exact matched_addStream hs hl (hleaves.adds rfl)
  | removeStream j =>
    have hne : k ≠ j := by
      rintro rfl
      exact hleaves.removes rfl
    have hkeep : (s.removeStream j).state.streams.lookup k = some (x, fromTemplate) := by
      unfold removeStream
      split
      · exact hl
      · dsimp only
        rw [Finmap.lookup_erase_ne hne, hl]
    exact .hidden hs hkeep (.refl x) rfl
  | getRoc j => exact .hidden hs hl (.refl x) rfl
  | direct j d => exact matched_direct hs hl j d
  | request q => exact matched_request hs hl q

/-! ## How a stream comes to be there -/

omit [Crates] in
theorem updateTemplated_absent (config : StreamConfig) (keyOrder : UInt32 → List Mki)
    (streamOrder : List UInt32) {streams : Streams T} (hl : streams.lookup k = none) :
    (updateTemplated config keyOrder streamOrder streams).2.lookup k = none := by
  induction streamOrder generalizing streams with
  | nil => exact hl
  | cons j streamOrder ih =>
    rcases templated_or streams j with ⟨y, hy⟩ | hy
    · have hnext : (streams.insert j ((StreamInterface.update y config (keyOrder j)).state,
          true)).lookup k = none := by
        rw [Finmap.lookup_insert_of_ne, hl]
        rintro rfl
        rw [hl] at hy
        cases hy
      rw [updateTemplated_cons hy]
      split
      · exact hnext
      · exact ih hnext
    · rw [updateTemplated_cons_other hy]
      exact ih hl

/-- The stream was built from one of these configurations, and what was done to it since shows
this. -/
def Born (k : UInt32) (C : StreamConfig → Prop) (shown : List (Shown T)) (x : T) : Prop :=
  ∃ config handler x₀ es, config.Valid ∧ C config ∧
    StreamInterface.new k config handler = .ok x₀ ∧ Trace streamStep x₀ es x ∧
    (∀ e ∈ es, e.input.Takes C) ∧ es.flatMap StreamEvent.shows = shown

/-- A stream that is not there stays away, and nothing succeeds on it; or it is built. -/
def Arrives (k : UInt32) (C : StreamConfig → Prop) (s : Session T) (op : SessionOp T) : Prop :=
  ((sessionStep s op).2.streams.lookup k = none ∧
      ∀ w ∈ SessionEvent.shows k (.of sessionStep s op), ¬ w.Done) ∨
    ∃ x fromTemplate, (sessionStep s op).2.streams.lookup k = some (x, fromTemplate) ∧
      Born k C (SessionEvent.shows k (.of sessionStep s op)) x

section Arrives

variable {op : SessionOp T}

omit [Crates] [LawfulStream T] in
theorem Arrives.away (hl : (sessionStep s op).2.streams.lookup k = none)
    (hshows : SessionEvent.shows k (.of sessionStep s op) = []) : Arrives k C s op :=
  .inl ⟨hl, by simp [hshows]⟩

theorem arrives_addStream (hl : s.streams.lookup k = none) {ssrc : Option UInt32}
    {config : StreamConfig} {streamOrder : List UInt32} {keyOrder : UInt32 → List Mki}
    (hC : ssrc = none ∨ ssrc = some k → C config) :
    Arrives k C s (.addStream ssrc config streamOrder keyOrder) := by
  have hother : ∀ {j : UInt32} {y entry : T × Bool}, s.streams.lookup j = some y →
      (s.streams.insert j entry).lookup k = none := by
    intro j y entry hj
    rw [Finmap.lookup_insert_of_ne, hl]
    rintro rfl
    rw [hl] at hj
    cases hj
  have habsent := updateTemplated_absent config keyOrder streamOrder hl
  have ha := added s ssrc config streamOrder keyOrder
  generalize hr : s.addStream ssrc config streamOrder keyOrder = r at ha
  have haway : r.state.streams.lookup k = none →
      Arrives k C s (.addStream ssrc config streamOrder keyOrder) := by
    rintro hnone
    subst hr
    exact .away hnone rfl
  cases ha with
  | invalid => exact haway hl
  | templateRefused hv hu => exact haway (by rwa [hu] at habsent)
  | template hv hu => exact haway (by rwa [hu] at habsent)
  | unbuilt => exact haway hl
  | @built j y hv hj hnew =>
    by_cases hk : j = k
    · subst hk
      refine .inr ⟨y, false, ?_, config, s.keyLimitHandler, y, [], StreamConfig.valid_of_validate hv,
        hC (.inr rfl), hnew, .nil, by simp, rfl⟩
      show (s.addStream (some j) config streamOrder keyOrder).state.streams.lookup j = _
      rw [hr]
      exact Finmap.lookup_insert _
    · exact haway ((Finmap.lookup_insert_of_ne _ (Ne.symm hk)).trans hl)
  | refused hv hj hu => exact haway (hother hj)
  | updated hv hj hu => exact haway (hother hj)

omit [LawfulStream T] in
/-- A packet that builds its stream is the first packet of the stream. -/
theorem Arrives.spawned (hs : s.Sound) (hC : ∀ config, s.templateConfig = some config → C config)
    {q : Request T} {c : Call T} {r : Answer (Session T) Bytes} (hr : s.request q = r)
    (hq : parse q = .ok c) {x : T} {fromTemplate pending : Bool}
    (ht : Target s (PacketStream.ssrc c) x fromTemplate pending)
    (hnone : s.streams.lookup (PacketStream.ssrc c) = none)
    (hl : r.state.streams.lookup (PacketStream.ssrc c) = some ((call x c).state, fromTemplate))
    (hres : (call x c).result = r.result) :
    Arrives (PacketStream.ssrc c) C s (.request q) := by
  subst hr
  have hlocated := ht.located
  cases ht with
  | present hl' =>
    rw [hnone] at hl'
    cases hl'
  | spawned _ htemplate hnew =>
    refine .inr ⟨_, _, hl, _, s.keyLimitHandler, x, _, hs.template htemplate, hC _ htemplate,
      hnew, .single streamStep x (.call c), ?_, ?_⟩
    · intro e he config' valid order heq
      obtain rfl := List.mem_singleton.mp he
      cases heq
    · show [Shown.call c (locate x c) (call x c).result] =
        match parse q with
        | .ok c' => if PacketStream.ssrc c' = PacketStream.ssrc c then
            [Shown.call c' (s.located c') (s.request q).result] else []
        | .error _ => []
      rw [hq, hres, ← hlocated]
      exact (if_pos rfl).symm

omit [Crates] [LawfulStream T] in
theorem shows_request {q : Request T} {w : Shown T}
    (hw : w ∈ SessionEvent.shows k (.of sessionStep s (.request q))) :
    ∃ c, parse q = .ok c ∧ PacketStream.ssrc c = k ∧
      w = .call c (s.located c) (s.request q).result := by
  change w ∈ (match parse q with
    | .ok c =>
      if PacketStream.ssrc c = k then [Shown.call c (s.located c) (s.request q).result] else []
    | .error _ => []) at hw
  cases hq : parse q with
  | error f =>
    rw [hq] at hw
    cases hw
  | ok c =>
    rw [hq] at hw
    dsimp only at hw
    split at hw
    · next hk => exact ⟨c, rfl, hk, List.mem_singleton.mp hw⟩
    · cases hw

theorem arrives_request (hs : s.Sound) (hC : ∀ config, s.templateConfig = some config → C config)
    (hl : s.streams.lookup k = none) (q : Request T) : Arrives k C s (.request q) := by
  have hkilled : ∀ (m : Mki) (onTemplate : Bool),
      (if onTemplate then s.killTemplate m else s).streams.lookup k = none := by
    intro m onTemplate
    cases onTemplate with
    | false => exact hl
    | true =>
      show (s.streams.mapVals (killTemplated m)).lookup k = none
      rw [Finmap.lookup_mapVals, hl]
      rfl
  have hr := requested hs q
  generalize hrq : s.request q = r at hr
  have hfailed : ∀ {f}, r.result = .error f → r.state.streams.lookup k = none →
      Arrives k C s (.request q) := by
    rintro f hf hnone
    subst hrq
    refine .inl ⟨hnone, fun w hw => ?_⟩
    obtain ⟨c, -, -, rfl⟩ := shows_request hw
    rintro ⟨bytes, hbytes⟩
    rw [hf] at hbytes
    cases hbytes
  -- the stream of the packet is written
  have hwritten : ∀ {c : Call T} {x fromTemplate pending}, parse q = .ok c →
      Target s (PacketStream.ssrc c) x fromTemplate pending → (call x c).result = r.result →
      r.state.streams = s.streams.insert (PacketStream.ssrc c) ((call x c).state, fromTemplate) →
      Arrives k C s (.request q) := by
    intro c x fromTemplate pending hq ht hres hstate
    by_cases hk : PacketStream.ssrc c = k
    · subst hk
      refine .spawned hs hC hrq hq ht hl ?_ hres
      rw [hstate]
      exact Finmap.lookup_insert _
    · subst hrq
      refine .away ?_ (shows_other ?_)
      · show (s.request q).state.streams.lookup k = none
        rw [hstate, Finmap.lookup_insert_of_ne _ (Ne.symm hk), hl]
      · show (SessionOp.request q).ssrc ≠ some k
        rw [SessionOp.ssrc_of_ok hq]
        exact fun heq => hk (Option.some.inj heq)
  cases hr with
  | unparsed => exact hfailed rfl hl
  | missing => exact hfailed rfl hl
  | unspawned => exact hfailed rfl hl
  | failed => exact hfailed rfl hl
  | died => exact hfailed rfl (hkilled _ _)
  | crashed hq ht hres =>
    refine hwritten hq ht hres ?_
    rw [(LawfulStream.called _ (ht.sound hs).1.inRange).state_of_error hres]
  | done hq ht hres => exact hwritten hq ht hres rfl

end Arrives

theorem arrival (hs : s.Sound) (hC : ∀ config, s.templateConfig = some config → C config)
    {op : SessionOp T} (hgives : op.Gives k C) (hl : s.streams.lookup k = none) :
    Arrives k C s op := by
  cases op with
  | setKeyLimitHandler handler =>
    have hkeep : (s.setKeyLimitHandler handler).state.streams.lookup k = none := by
      unfold setKeyLimitHandler
      split <;> exact hl
    exact .away hkeep rfl
  | addStream => exact arrives_addStream hl (hgives.adds rfl)
  | removeStream j =>
    have hkeep : (s.removeStream j).state.streams.lookup k = none := by
      unfold removeStream
      split
      · exact hl
      · dsimp only
        rw [Finmap.lookup_erase_eq, hl, ite_self]
    exact .away hkeep rfl
  | getRoc j => exact .away hl rfl
  | direct j d =>
    by_cases hj : j = k
    · subst hj
      have hdirect : s.direct j d = ⟨fail .streamNotFound, s, []⟩ := by
        unfold Session.direct
        rw [hl]
      refine .inl ⟨?_, fun w hw => ?_⟩
      · show (s.direct j d).state.streams.lookup j = none
        rw [hdirect, hl]
      · change w ∈ if j = j then [Shown.direct d (s.direct j d).result] else [] at hw
        rw [if_pos rfl, hdirect] at hw
        obtain rfl := List.mem_singleton.mp hw
        exact fail_ne_ok
    · have hkeep : (s.direct j d).state.streams.lookup k = none := by
        unfold Session.direct
        split
        · exact hl
        · dsimp only
          rw [Finmap.lookup_insert_of_ne _ (Ne.symm hj), hl]
      exact .away hkeep (if_neg hj)
  | request q => exact arrives_request hs hC hl q

/-! ## The history of a stream -/

/-- What happened to the stream `x`: nothing succeeded on its SSRC up to the event that built it,
and what the session showed of it from that event on, the stream showed. -/
def History (k : UInt32) (C : StreamConfig → Prop) (es : List (SessionEvent T)) (x : T) : Prop :=
  ∃ pre post, es = pre ++ post ∧ (∀ e ∈ pre, ∀ w ∈ e.shows k, ¬ w.Done) ∧
    Born k C (post.flatMap (SessionEvent.shows k)) x

/-- What is known of the stream of an SSRC after some events. -/
structure Chronicle (k : UInt32) (C : StreamConfig → Prop) (es : List (SessionEvent T))
    (s : Session T) : Prop where
  sound : s.Sound
  template {config : StreamConfig} : s.templateConfig = some config → C config
  absent : s.streams.lookup k = none → ∀ e ∈ es, ∀ w ∈ SessionEvent.shows k e, ¬ w.Done
  present {x : T} {fromTemplate : Bool} :
    s.streams.lookup k = some (x, fromTemplate) → History k C es x

omit [LawfulStream T] in
theorem Chronicle.nil (hs : s.Sound) (h : ∀ {config}, s.templateConfig = some config → C config)
    (hl : s.streams.lookup k = none) : Chronicle k C [] s := by
  refine ⟨hs, h, by simp, fun hpresent => ?_⟩
  rw [hl] at hpresent
  cases hpresent

theorem movedTemplate_of_gives (hs : s.Sound)
    (hdisabled : ∀ config m, C config → C (config.disabled m))
    (h : ∀ {config}, s.templateConfig = some config → C config) {op : SessionOp T}
    (hgives : op.Gives k C) {config : StreamConfig}
    (hpost : (sessionStep s op).2.templateConfig = some config) : C config := by
  cases movedTemplate hs op hpost with
  | kept hc => exact h hc
  | disabled m hc => exact hdisabled _ m (h hc)
  | replaced hop => exact hgives.adds hop (.inl rfl)

theorem Chronicle.step (hdisabled : ∀ config m, C config → C (config.disabled m))
    {es : List (SessionEvent T)} (h : Chronicle k C es s) {op : SessionOp T}
    (hleaves : op.Leaves k C) :
    Chronicle k C (es ++ [.of sessionStep s op]) (sessionStep s op).2 := by
  have hshows : ∀ {es' : List (SessionEvent T)} {e : SessionEvent T},
      (es' ++ [e]).flatMap (SessionEvent.shows k) =
        es'.flatMap (SessionEvent.shows k) ++ e.shows k := by
    intro es' e
    simp only [List.flatMap_append, List.flatMap_cons, List.flatMap_nil, List.append_nil]
  have htemplate : ∀ {config}, (sessionStep s op).2.templateConfig = some config → C config :=
    movedTemplate_of_gives h.sound hdisabled h.template hleaves.toGives
  cases hl : s.streams.lookup k with
  | some entry =>
    obtain ⟨x, fromTemplate⟩ := entry
    obtain ⟨pre, post, rfl, hpre, config, handler, x₀, es₁, hv, hC, hnew, ht, htakes, hes⟩ :=
      h.present hl
    obtain ⟨es₂, x', ht', ⟨hsound, fromTemplate', hl'⟩, htakes', hes'⟩ :=
      simulates_stream k C ⟨h.sound, fromTemplate, hl⟩ hleaves
    refine ⟨hsound, htemplate, fun hnone => ?_, fun hl'' => ?_⟩
    · rw [hl'] at hnone
      cases hnone
    · obtain ⟨rfl, rfl⟩ := Prod.mk.inj (Option.some.inj (hl'.symm.trans hl''))
      refine ⟨pre, post ++ [.of sessionStep s op], by rw [List.append_assoc], hpre, config, handler, x₀,
        es₁ ++ es₂, hv, hC, hnew, ht.trans ht', fun e he => ?_, ?_⟩
      · exact (List.mem_append.mp he).elim (htakes e) (htakes' e)
      · rw [List.flatMap_append, hes, hes', hshows]
  | none =>
    have hbefore := h.absent hl
    rcases arrival h.sound (fun _ => h.template) hleaves.toGives hl with
      ⟨hnone, hdone⟩ | ⟨x, b, hl', hborn⟩
    · refine ⟨h.sound.step op, htemplate, fun _ e he => ?_, fun hl' => ?_⟩
      · rcases List.mem_append.mp he with he | he
        · exact hbefore e he
        · obtain rfl := List.mem_singleton.mp he
          exact hdone
      · rw [hnone] at hl'
        cases hl'
    · refine ⟨h.sound.step op, htemplate, fun hnone => ?_, fun hl'' => ?_⟩
      · rw [hl'] at hnone
        cases hnone
      · obtain ⟨rfl, rfl⟩ := Prod.mk.inj (Option.some.inj (hl'.symm.trans hl''))
        refine ⟨es, [.of sessionStep s op], rfl, hbefore, ?_⟩
        have hborn' := hborn
        rw [← List.nil_append (SessionEvent.shows k _), ← List.flatMap_nil, ← hshows] at hborn'
        exact hborn'

/-- A removal leaves nothing to tell of the SSRC. -/
theorem Chronicle.removed (hdisabled : ∀ config m, C config → C (config.disabled m))
    {es : List (SessionEvent T)} (h : Chronicle k C es s) {op : SessionOp T} (hgives : op.Gives k C)
    (hop : op = .removeStream k) : Chronicle k C [] (sessionStep s op).2 := by
  refine .nil (h.sound.step op)
    (movedTemplate_of_gives h.sound hdisabled h.template hgives) ?_
  subst hop
  show (s.removeStream k).state.streams.lookup k = none
  unfold removeStream
  split
  · next hnone => exact hnone
  · exact Finmap.lookup_erase _ _

/-- What is known of the stream of an SSRC after any run, from what happened since it was last
removed. -/
theorem Chronicle.since (hdisabled : ∀ config m, C config → C (config.disabled m))
    {es : List (SessionEvent T)} (ht : Trace sessionStep .new es s)
    (hgives : ∀ e ∈ es, e.input.Gives k C) : Chronicle k C (sinceRemoved k es) s := by
  refine ht.history_of (I := fun es => Chronicle k C (sinceRemoved k es)) hgives ?_ ?_
  · exact .nil .new nofun (Finmap.lookup_empty k)
  · intro es s op h hP
    rcases em (op = .removeStream k) with hop | hop
    · rw [sinceRemoved_concat_removed es hop]
      exact h.removed hdisabled hP hop
    · rw [sinceRemoved_append es (List.forall_mem_singleton.mpr hop)]
      exact h.step hdisabled ⟨hP, hop⟩

theorem Chronicle.run (hdisabled : ∀ config m, C config → C (config.disabled m))
    {es : List (SessionEvent T)} (ht : Trace sessionStep .new es s)
    (hleaves : ∀ e ∈ es, e.input.Leaves k C) : Chronicle k C es s := by
  have hsince := Chronicle.since hdisabled ht fun e he => (hleaves e he).toGives
  rwa [sinceRemoved_eq_self fun e he => (hleaves e he).removes] at hsince

end Session

/-- A stream that was never removed went through a run of its own: it was built, by hand or from the
template, from a configuration the session was given, up to the lives of dead keys; and from the
event that built it on, it answered exactly the packets and the operations on its counters that the
session was asked for, at the indices and under the MKIs the session used. Nothing succeeded on its
SSRC before. -/
theorem session_stream_history [Crates] [LawfulStream T] {k : UInt32} {C : StreamConfig → Prop}
    (hdisabled : ∀ config m, C config → C (config.disabled m)) {es : List (SessionEvent T)}
    {s : Session T} (ht : Trace sessionStep .new es s) (hleaves : ∀ e ∈ es, e.input.Leaves k C)
    {x : T} {fromTemplate : Bool} (hl : s.streams.lookup k = some (x, fromTemplate)) :
    Session.History k C es x :=
  (Session.Chronicle.run hdisabled ht hleaves).present hl

/-- The stream that takes the next packet of an SSRC, there or still to be built, went through a run
of its own: what the session showed of the SSRC since its last removal, up to packets that failed
before the stream was built. -/
theorem Session.target_run [Crates] [LawfulStream T] {k : UInt32} {C : StreamConfig → Prop}
    (hdisabled : ∀ config m, C config → C (config.disabled m)) {es : List (SessionEvent T)}
    {s : Session T} (ht : Trace sessionStep .new es s) (hgives : ∀ e ∈ es, e.input.Gives k C)
    {x : T} {fromTemplate pending : Bool} (htarget : Target s k x fromTemplate pending) :
    ∃ config handler x₀ es' failed, config.Valid ∧ C config ∧
      StreamInterface.new k config handler = .ok x₀ ∧ Trace streamStep x₀ es' x ∧
      (∀ e ∈ es', e.input.Takes C) ∧ (∀ w ∈ failed, ¬ w.Done) ∧
      (sinceRemoved k es).flatMap (SessionEvent.shows k) = failed ++ es'.flatMap StreamEvent.shows := by
  have hchronicle := Session.Chronicle.since hdisabled ht hgives
  have hfailed : ∀ {es' : List (SessionEvent T)}, (∀ e ∈ es', ∀ w ∈ SessionEvent.shows k e, ¬ w.Done) →
      ∀ w ∈ es'.flatMap (SessionEvent.shows k), ¬ w.Done := by
    intro es' hes' w hw
    obtain ⟨e, he, hw⟩ := List.mem_flatMap.mp hw
    exact hes' e he w hw
  cases htarget with
  | present hl =>
    obtain ⟨pre, post, hes, hpre, config, handler, x₀, es', hv, hC, hnew, ht', htakes, hshows⟩ :=
      hchronicle.present hl
    refine ⟨config, handler, x₀, es', _, hv, hC, hnew, ht', htakes, hfailed hpre, ?_⟩
    rw [hes, List.flatMap_append, hshows]
  | @spawned config hnone htemplate hnew =>
    refine ⟨config, s.keyLimitHandler, x, [], _, hchronicle.sound.template htemplate,
      hchronicle.template htemplate, hnew, .nil, by simp, hfailed (hchronicle.absent hnone), ?_⟩
    rw [List.flatMap_nil, List.append_nil]

/-! ## What the packets of a session have in common with those of its streams -/

section Readings

variable {α : Type}

/-- What `f` reads off a packet that succeeded, from the packet and its index. -/
def Shown.reading (f : Call T → Nat → Option α) : Shown T → Option α
  | .call c (.ok (index, _)) (.ok _) => f c index
  | _ => none

def SessionEvent.reading (f : Call T → Nat → Option α) (e : SessionEvent T) : Option α :=
  match e.input, e.answer with
  | .request q, .packet r _ =>
    match parse q with
    | .ok c => Shown.reading f (.call c (e.pre.located c) r)
    | .error _ => none
  | _, _ => none

/-- What is read off the packets of a session, in order. -/
def readings (f : Call T → Nat → Option α) (es : List (SessionEvent T)) : List α :=
  es.filterMap (SessionEvent.reading f)

/-- What is read off the packets of a stream, in order. -/
def streamReadings (f : Call T → Nat → Option α) (es : List (StreamEvent T)) : List α :=
  (es.flatMap StreamEvent.shows).filterMap (Shown.reading f)

theorem Shown.reading_call {f : Call T → Nat → Option α} {c : Call T} {located : Res (Nat × Mki)}
    {r : Res Bytes} {a : α} (h : Shown.reading f (.call c located r) = some a) :
    ∃ index, f c index = some a := by
  unfold Shown.reading at h
  split at h
  · next heq =>
    obtain ⟨rfl, -, -⟩ := Shown.call.inj heq
    exact ⟨_, h⟩
  · cases h

theorem Shown.reading_of_not_done {f : Call T → Nat → Option α} {w : Shown T} (h : ¬ w.Done) :
    w.reading f = none := by
  unfold Shown.reading
  split
  · exact absurd ⟨_, rfl⟩ h
  · rfl

/-- What is read off a packet is read off the packet that was processed. -/
theorem SessionEvent.reading_of_processed {e : SessionEvent T} {p : Processed T}
    (h : e.processed = some p) (f : Call T → Nat → Option α) : e.reading f = f p.call p.index := by
  obtain ⟨s, op, answer, s'⟩ := e
  unfold SessionEvent.processed at h
  dsimp only at h
  split at h
  · next q out calls =>
    unfold SessionEvent.reading Session.located
    dsimp only
    cases hq : parse q with
    | error => rw [hq] at h; cases h
    | ok c =>
      rw [hq] at h
      dsimp only at h ⊢
      cases hx : (s.getStream (ssrc c)).1 with
      | error => rw [hx] at h; cases h
      | ok found =>
        obtain ⟨x, fromTemplate, pending⟩ := found
        rw [hx] at h
        obtain ⟨m, l, hlocate, -, -, rfl, -⟩ := Processed.on_eq h
        dsimp only
        rw [hlocate]
        rfl
  · cases h

/-- What is read off a packet of a run is read off one that was processed. -/
theorem SessionEvent.processed_of_reading [Crates] [LawfulStream T] {es : List (SessionEvent T)}
    {s : Session T} (ht : Trace sessionStep .new es s) {e : SessionEvent T} (he : e ∈ es)
    {f : Call T → Nat → Option α} {a : α} (h : e.reading f = some a) :
    ∃ p, e.processed = some p ∧ f p.call p.index = some a ∧ p.Proper := by
  obtain ⟨pre, post, -, hpre, heq⟩ := ht.of_mem he
  have hanswer : ∃ out calls, e.answer = .packet (.ok out) calls := by
    unfold SessionEvent.reading at h
    split at h
    · next q r calls _ hanswer =>
      split at h
      · unfold Shown.reading at h
        split at h
        · next hcall =>
          obtain ⟨-, -, rfl⟩ := Shown.call.inj hcall
          exact ⟨_, _, hanswer⟩
        · cases h
      · cases h
    · cases h
  obtain ⟨out, calls, hanswer⟩ := hanswer
  have hdone : (sessionStep e.pre e.input).1 = .packet (.ok out) calls := by
    rw [← hanswer, heq]
    rfl
  obtain ⟨p, hp, hproper⟩ := (Session.Sound.new.run hpre).exists_processed hdone
  rw [← heq] at hp
  exact ⟨p, hp, (reading_of_processed hp f).symm.trans h, hproper⟩

variable {f : Call T → Nat → Option α} {group : α → UInt32}

/-- What is read off the events of a stream one by one. -/
theorem streamReadings_eq_filterMap {g : StreamEvent T → Option α}
    (h : ∀ e : StreamEvent T, e.shows.filterMap (Shown.reading f) = (g e).toList)
    (es : List (StreamEvent T)) : streamReadings f es = es.filterMap g := by
  induction es with
  | nil => rfl
  | cons e es ih =>
    unfold streamReadings at ih ⊢
    rw [List.flatMap_cons, List.filterMap_append, ih, h]
    cases hg : g e with
    | none => rw [List.filterMap_cons_none hg]; rfl
    | some a => rw [List.filterMap_cons_some hg]; rfl

/-- What is read off one event is shown under one SSRC. -/
theorem reading_shows (hgroup : ∀ c i a, f c i = some a → group a = ssrc c) (k : UInt32)
    (e : SessionEvent T) : (e.shows k).filterMap (Shown.reading f) =
      (e.reading f).toList.filter (group · = k) := by
  obtain ⟨s, op, answer, s'⟩ := e
  cases op with
  | request q =>
    cases answer with
    | packet r calls =>
      simp only [SessionEvent.shows, SessionEvent.reading]
      cases parse q with
      | error f => rfl
      | ok c =>
        dsimp only
        cases ha : Shown.reading f (.call c (s.located c) r) with
        | none => split <;> simp [ha]
        | some a =>
          obtain ⟨i, hi⟩ := Shown.reading_call ha
          rw [← hgroup c i a hi]
          split <;> simp_all
    | _ => rfl
  | direct j d =>
    cases answer with
    | unit r calls =>
      simp only [SessionEvent.shows, SessionEvent.reading]
      split <;> rfl
    | _ => rfl
  | _ => rfl

theorem readings_filter (hgroup : ∀ c i a, f c i = some a → group a = ssrc c) (k : UInt32)
    (es : List (SessionEvent T)) : (readings f es).filter (group · = k) =
      (es.flatMap (SessionEvent.shows k)).filterMap (Shown.reading f) := by
  induction es with
  | nil => rfl
  | cons e es ih =>
    rw [List.flatMap_cons, List.filterMap_append, ← ih, reading_shows hgroup]
    unfold readings
    cases ha : e.reading f with
    | none => rw [List.filterMap_cons_none ha]; rfl
    | some a =>
      rw [List.filterMap_cons_some ha, Option.toList_some, List.filter_cons, List.filter_cons]
      split <;> rfl

/-- What is read off a session on one SSRC is read off the stream that took its packets. -/
theorem readings_of_stream (hgroup : ∀ c i a, f c i = some a → group a = ssrc c) {k : UInt32}
    {es : List (SessionEvent T)} {es' : List (StreamEvent T)} {failed : List (Shown T)}
    (hfailed : ∀ w ∈ failed, ¬ w.Done)
    (hshows : es.flatMap (SessionEvent.shows k) = failed ++ es'.flatMap StreamEvent.shows) :
    (readings f es).filter (group · = k) = streamReadings f es' := by
  have hnone : failed.filterMap (Shown.reading f) = [] :=
    List.filterMap_eq_nil_iff.mpr fun w hw => Shown.reading_of_not_done (hfailed w hw)
  rw [readings_filter hgroup, hshows, List.filterMap_append, hnone]
  rfl

/-- The operation removes no stream, and adds no other configurations than these. -/
structure SessionOp.Steady (C : StreamConfig → Prop) (op : SessionOp T) : Prop where
  removes (k : UInt32) : op ≠ .removeStream k
  adds {ssrc : Option UInt32} {config : StreamConfig} {streamOrder : List UInt32}
    {keyOrder : UInt32 → List Mki} : op = .addStream ssrc config streamOrder keyOrder → C config

theorem SessionOp.Steady.leaves {C : StreamConfig → Prop} {op : SessionOp T} (h : op.Steady C)
    (k : UInt32) : op.Leaves k C := ⟨⟨fun hop _ => h.adds hop⟩, h.removes k⟩

/-- The rule: what relates any two packets of one stream, and any two packets of different SSRCs,
relates any two packets of a session that removes no stream. -/
theorem Session.pairwise_of_streams [Crates] [LawfulStream T] {C : StreamConfig → Prop}
    (hdisabled : ∀ config m, C config → C (config.disabled m)) {es : List (SessionEvent T)}
    {s : Session T} (ht : Trace sessionStep .new es s) (hsteady : ∀ e ∈ es, e.input.Steady C)
    {R : α → α → Prop} (hgroup : ∀ c i a, f c i = some a → group a = ssrc c)
    (hother : ∀ a b, group a ≠ group b → R a b)
    (hstream : ∀ k x fromTemplate, s.streams.lookup k = some (x, fromTemplate) →
      ∀ config handler x₀ es', config.Valid → C config →
        StreamInterface.new k config handler = .ok x₀ → Trace streamStep x₀ es' x →
        (∀ e ∈ es', e.input.Takes C) → (readings f es).filter (group · = k) = streamReadings f es' →
          (streamReadings f es').Pairwise R) :
    (readings f es).Pairwise R := by
  refine pairwise_of_groups group hother fun k => ?_
  have hleaves : ∀ e ∈ es, e.input.Leaves k C := fun e he => (hsteady e he).leaves k
  cases hl : s.streams.lookup k with
  | none =>
    have hfailed := (Session.Chronicle.run hdisabled ht hleaves).absent hl
    have hnone : (readings f es).filter (group · = k) = [] := by
      rw [readings_filter hgroup, List.filterMap_eq_nil_iff]
      intro w hw
      obtain ⟨e, he, hw⟩ := List.mem_flatMap.mp hw
      exact Shown.reading_of_not_done (hfailed e he w hw)
    rw [hnone]
    exact .nil
  | some entry =>
    obtain ⟨x, fromTemplate⟩ := entry
    obtain ⟨config, handler, x₀, es', failed, hv, hC, hnew, ht', htakes, hfailed, hshows⟩ :=
      Session.target_run hdisabled ht (fun e he => (hleaves e he).toGives) (.present hl)
    rw [sinceRemoved_eq_self fun e he => (hleaves e he).removes] at hshows
    have hread := readings_of_stream hgroup hfailed hshows
    rw [hread]
    exact hstream k x fromTemplate hl config handler x₀ es' hv hC hnew ht' htakes hread

end Readings

section Example

open Vectors

attribute [local instance] Vectors.crates

/-- A template, and two packets of one SSRC. -/
def templateOps : List (SessionOp SendStream) :=
  [.addStream none (config [key none .default]) [] fun _ => [none],
    .request (.rtpProtectMki (rtpPacket 0xcafebabe 1) none),
    .request (.rtpProtectMki (rtpPacket 0xcafebabe 2) none)]

theorem templateOps_leaves {C : StreamConfig → Prop} (hC : C (config [key none .default])) :
    ∀ e ∈ (runAll sessionStep (.new : SendSession) templateOps).1, e.input.Leaves 0xcafebabe C := by
  simp only [templateOps, runAll, List.forall_mem_cons]
  refine ⟨⟨⟨?_⟩, by rintro ⟨⟩⟩, ⟨⟨by rintro _ _ _ _ ⟨⟩⟩, by rintro ⟨⟩⟩,
    ⟨⟨by rintro _ _ _ _ ⟨⟩⟩, by rintro ⟨⟩⟩, List.forall_mem_nil _⟩
  rintro ssrc config streamOrder keyOrder heq -
  obtain ⟨-, rfl, -, -⟩ := SessionOp.addStream.inj heq
  exact hC

theorem session_stream_history_template : ∃ x, Session.History 0xcafebabe (fun _ => True)
    (runAll sessionStep (.new : SendSession) templateOps).1 x := by
  obtain ⟨⟨x, fromTemplate⟩, hx⟩ : ∃ entry, (runAll sessionStep (.new : SendSession)
      templateOps).2.streams.lookup 0xcafebabe = some entry :=
    Option.isSome_iff_exists.mp (by decide +kernel)
  exact ⟨x, session_stream_history (fun _ _ h => h) (.runAll ..) (templateOps_leaves trivial) hx⟩

end Example

end LibSrtp
