import LibSrtp.SessionRun
import LibSrtp.Support.Projection
import LibSrtp.Vectors

/-!
# Streams do not interfere

A session shares one map of streams and one template between all SSRCs. An operation on one SSRC
reads its entry, the template and the handler, and writes its entry; only a dead key of the template
reaches further. So the operations on one SSRC answer as if it were alone
(`streams_do_not_interfere`).
-/

namespace LibSrtp

open Exec PacketStream

variable {T : Type} [PacketStream T]

/-- What an operation on one SSRC depends on. -/
def Session.view (ssrc : UInt32) (s : Session T) :
    Option (T × Bool) × Option StreamConfig × Option KeyLimitHandler :=
  (s.streams.lookup ssrc, s.templateConfig, s.keyLimitHandler)

/-- The SSRC an operation is about: that of the packet, if it has a header. -/
def SessionOp.ssrc : SessionOp T → Option UInt32
  | .setKeyLimitHandler _ => none
  | .addStream ssrc .. => ssrc
  | .removeStream ssrc => some ssrc
  | .getRoc ssrc => some ssrc
  | .direct ssrc _ => some ssrc
  | .request q =>
    match parse q with
    | .ok c => some (PacketStream.ssrc c)
    | .error _ => none

theorem SessionOp.ssrc_of_ok {q : Request T} {c : Call T} (h : parse q = .ok c) :
    (SessionOp.request q).ssrc = some (PacketStream.ssrc c) := by
  simp only [SessionOp.ssrc, h]

theorem SessionOp.ssrc_of_error {q : Request T} {f : Fault SrtpError} (h : parse q = .error f) :
    (SessionOp.request q).ssrc = none := by
  simp only [SessionOp.ssrc, h]

/-- The operation is not about the session as a whole. -/
def SessionOp.OfStream : SessionOp T → Prop
  | .setKeyLimitHandler _ => False
  | .addStream ssrc .. => ssrc ≠ none
  | _ => True

/-- A packet operation that fails because a key is dead. -/
def SessionOutcome.HardLimit (o : SessionOutcome) : Prop :=
  ∃ isRtp m ssrc calls, o = .packet (fail (.keyLimit isRtp true m ssrc)) calls

namespace Session

variable {s s' : Session T} {k j : UInt32}

omit [PacketStream T] in
theorem view_eq_iff : view k s = view k s' ↔ s.streams.lookup k = s'.streams.lookup k ∧
    s.templateConfig = s'.templateConfig ∧ s.keyLimitHandler = s'.keyLimitHandler := by
  simp [view]

omit [PacketStream T] in
@[simp] theorem view_insert_self (entry : T × Bool) :
    view k { s with streams := s.streams.insert k entry } =
      (some entry, s.templateConfig, s.keyLimitHandler) := by
  simp [view]

omit [PacketStream T] in
theorem view_insert_of_ne (h : k ≠ j) (entry : T × Bool) :
    view k { s with streams := s.streams.insert j entry } = view k s := by
  simp [view, Finmap.lookup_insert_of_ne _ h]

omit [PacketStream T] in
theorem view_removeStream_self :
    view k (s.removeStream k).state = (none, s.templateConfig, s.keyLimitHandler) := by
  unfold removeStream
  cases h : s.streams.lookup k with
  | none => simp [view, h]
  | some entry => simp [view]

omit [PacketStream T] in
theorem view_removeStream_of_ne (h : k ≠ j) : view k (s.removeStream j).state = view k s := by
  unfold removeStream
  cases s.streams.lookup j with
  | none => rfl
  | some entry => simp [view, h]

/-- Short of a dead key, an error only removes a stream that was just spawned. -/
theorem handleStreamError_of_alive {e : SrtpError}
    (he : ∀ isRtp m ssrc, (.error (.error e) : Res Bytes) ≠ fail (.keyLimit isRtp true m ssrc))
    (s : Session T) (ssrc : UInt32) (fromTemplate pending : Bool) :
    s.handleStreamError e ssrc fromTemplate pending =
      if pending then (s.removeStream ssrc).state else s := by
  unfold handleStreamError
  dsimp only
  split
  · next isRtp m ssrc' => exact absurd rfl (he isRtp m ssrc')
  · rfl

/-- The entry that was written stays, or is removed again. -/
theorem view_handled {e : SrtpError}
    (he : ∀ isRtp m ssrc, (.error (.error e) : Res Bytes) ≠ fail (.keyLimit isRtp true m ssrc))
    (s : Session T) (x : T) (fromTemplate pending : Bool) :
    view k (({ s with streams := s.streams.insert k (x, fromTemplate) } :
        Session T).handleStreamError e k fromTemplate pending) =
      (if pending then none else some (x, fromTemplate), s.templateConfig, s.keyLimitHandler) := by
  rw [handleStreamError_of_alive he]
  cases pending with
  | true => exact view_removeStream_self
  | false => exact view_insert_self _

theorem view_handled_of_ne (h : k ≠ j) {e : SrtpError}
    (he : ∀ isRtp m ssrc, (.error (.error e) : Res Bytes) ≠ fail (.keyLimit isRtp true m ssrc))
    (s : Session T) (x : T) (fromTemplate pending : Bool) :
    view k (({ s with streams := s.streams.insert j (x, fromTemplate) } :
      Session T).handleStreamError e j fromTemplate pending) = view k s := by
  rw [handleStreamError_of_alive he]
  cases pending with
  | true => exact (view_removeStream_of_ne h).trans (view_insert_of_ne h _)
  | false => exact view_insert_of_ne h _

/-- What a packet operation returns and leaves depends on the view of its SSRC. -/
theorem onStream_own (op : T → Answer T Bytes) (hv : view k s = view k s') :
    (s.onStream k op).result = (s'.onStream k op).result ∧
      (s.onStream k op).calls = (s'.onStream k op).calls ∧
      ((∀ isRtp m ssrc, (s.onStream k op).result ≠ fail (.keyLimit isRtp true m ssrc)) →
        view k (s.onStream k op).state = view k (s'.onStream k op).state) := by
  obtain ⟨hl, ht, hh⟩ := view_eq_iff.mp hv
  unfold onStream getStream
  cases hl' : s'.streams.lookup k with
  | some entry =>
    obtain ⟨x, fromTemplate⟩ := entry
    simp only [hl.trans hl']
    rcases (op x).result with (e | _) | bytes
    · refine ⟨rfl, rfl, fun hres => ?_⟩
      rw [view_handled hres, view_handled hres, ht, hh]
    · refine ⟨rfl, rfl, fun _ => ?_⟩
      dsimp only
      rw [view_insert_self, view_insert_self, ht, hh]
    · refine ⟨rfl, rfl, fun _ => ?_⟩
      dsimp only
      rw [view_insert_self, view_insert_self, ht, hh]
  | none =>
    simp only [hl.trans hl', ht, hh]
    cases ht' : s'.templateConfig with
    | none => exact ⟨rfl, rfl, fun _ => hv⟩
    | some config =>
      dsimp only
      cases (StreamInterface.new k config s'.keyLimitHandler : Res T) with
      | error f => exact ⟨rfl, rfl, fun _ => hv⟩
      | ok x =>
        dsimp only
        rcases (op x).result with (e | _) | bytes
        · refine ⟨rfl, rfl, fun hres => ?_⟩
          -- the sessions with the stream just spawned
          have h := view_handled (k := k) hres
            ⟨s.streams.insert k (x, true), some config, s'.keyLimitHandler⟩ (op x).state true true
          have h' := view_handled (k := k) hres
            ⟨s'.streams.insert k (x, true), some config, s'.keyLimitHandler⟩ (op x).state true true
          exact h.trans h'.symm
        · refine ⟨rfl, rfl, fun _ => ?_⟩
          simp [view]
        · refine ⟨rfl, rfl, fun _ => ?_⟩
          simp [view]

/-- A packet operation on another SSRC does not show, unless it meets a dead key. -/
theorem onStream_other (op : T → Answer T Bytes) (h : k ≠ j)
    (hres : ∀ isRtp m ssrc, (s.onStream j op).result ≠ fail (.keyLimit isRtp true m ssrc)) :
    view k (s.onStream j op).state = view k s := by
  revert hres
  unfold onStream getStream
  cases s.streams.lookup j with
  | some entry =>
    obtain ⟨x, fromTemplate⟩ := entry
    dsimp only
    rcases (op x).result with (e | _) | bytes <;> intro hres
    · exact view_handled_of_ne h hres s (op x).state fromTemplate false
    · exact view_insert_of_ne h _
    · exact view_insert_of_ne h _
  | none =>
    dsimp only
    cases ht : s.templateConfig with
    | none => exact fun _ => rfl
    | some config =>
      dsimp only
      cases (StreamInterface.new j config s.keyLimitHandler : Res T) with
      | error f => exact fun _ => rfl
      | ok x =>
        have hspawned : view k (⟨s.streams.insert j (x, true), some config, s.keyLimitHandler⟩ :
            Session T) = view k s := by
          rw [← ht]
          exact view_insert_of_ne h _
        dsimp only
        rcases (op x).result with (e | _) | bytes <;> intro hres
        · exact (view_handled_of_ne h hres
            ⟨s.streams.insert j (x, true), some config, s.keyLimitHandler⟩ (op x).state true
            true).trans hspawned
        · refine Eq.trans ?_ hspawned
          exact view_insert_of_ne (s := ⟨s.streams.insert j (x, true), some config,
            s.keyLimitHandler⟩) h _
        · refine Eq.trans ?_ hspawned
          exact view_insert_of_ne (s := ⟨s.streams.insert j (x, true), some config,
            s.keyLimitHandler⟩) h _

/-! ## The other operations -/

theorem addStream_own (config : StreamConfig) (streamOrder : List UInt32)
    (keyOrder : UInt32 → List Mki) (hv : view k s = view k s') :
    (s.addStream (some k) config streamOrder keyOrder).result =
        (s'.addStream (some k) config streamOrder keyOrder).result ∧
      (s.addStream (some k) config streamOrder keyOrder).calls =
        (s'.addStream (some k) config streamOrder keyOrder).calls ∧
      view k (s.addStream (some k) config streamOrder keyOrder).state =
        view k (s'.addStream (some k) config streamOrder keyOrder).state := by
  obtain ⟨hl, ht, hh⟩ := view_eq_iff.mp hv
  unfold addStream
  cases config.validate with
  | error f => exact ⟨rfl, rfl, hv⟩
  | ok u =>
    cases hl' : s'.streams.lookup k with
    | none =>
      simp only [hl.trans hl', hl', hh]
      cases (StreamInterface.new k config s'.keyLimitHandler : Res T) with
      | error f => exact ⟨rfl, rfl, hv⟩
      | ok x => exact ⟨rfl, rfl, by simp [view, ht]⟩
    | some entry =>
      simp only [hl.trans hl', hl']
      cases (StreamInterface.update entry.1 config (keyOrder k)).result with
      | error f => exact ⟨rfl, rfl, by simp [view, ht, hh]⟩
      | ok u => exact ⟨rfl, rfl, by simp [view, ht, hh]⟩

theorem addStream_other (config : StreamConfig) (streamOrder : List UInt32)
    (keyOrder : UInt32 → List Mki) (h : k ≠ j) :
    view k (s.addStream (some j) config streamOrder keyOrder).state = view k s := by
  unfold addStream
  cases config.validate with
  | error f => rfl
  | ok u =>
    dsimp only
    cases s.streams.lookup j with
    | none =>
      dsimp only
      cases (StreamInterface.new j config s.keyLimitHandler : Res T) with
      | error f => rfl
      | ok x => exact view_insert_of_ne h _
    | some entry =>
      dsimp only
      cases (StreamInterface.update entry.1 config (keyOrder j)).result with
      | error f => exact view_insert_of_ne h _
      | ok u => exact view_insert_of_ne h _

omit [PacketStream T] in
theorem removeStream_own (hv : view k s = view k s') :
    (s.removeStream k).result = (s'.removeStream k).result ∧
      view k (s.removeStream k).state = view k (s'.removeStream k).state := by
  obtain ⟨hl, ht, hh⟩ := view_eq_iff.mp hv
  refine ⟨?_, by rw [view_removeStream_self, view_removeStream_self, ht, hh]⟩
  unfold removeStream
  rw [hl]
  cases s'.streams.lookup k <;> rfl

theorem direct_own (d : Direct T) (hv : view k s = view k s') :
    (s.direct k d).result = (s'.direct k d).result ∧
      (s.direct k d).calls = (s'.direct k d).calls ∧
      view k (s.direct k d).state = view k (s'.direct k d).state := by
  obtain ⟨hl, ht, hh⟩ := view_eq_iff.mp hv
  unfold Session.direct
  rw [hl]
  cases s'.streams.lookup k with
  | none => exact ⟨rfl, rfl, hv⟩
  | some entry =>
    refine ⟨rfl, rfl, ?_⟩
    dsimp only
    rw [view_insert_self, view_insert_self, ht, hh]

theorem direct_other (d : Direct T) (h : k ≠ j) : view k (s.direct j d).state = view k s := by
  unfold Session.direct
  cases s.streams.lookup j with
  | none => rfl
  | some entry => exact view_insert_of_ne h _

end Session

/-! ## Runs -/

/-- The operations of a session keep its streams apart until a key is dead. -/
theorem separated : Separated (sessionStep (T := T)) SessionOp.ssrc Session.view
    SessionOp.OfStream fun o => ¬ o.HardLimit where
  own {k op s s'} hop hv := by
    cases op with
    | setKeyLimitHandler handler => cases hop
    | addStream ssrc config streamOrder keyOrder =>
      obtain rfl : ssrc = some k := hop
      obtain ⟨hres, hcalls, hview⟩ := Session.addStream_own config streamOrder keyOrder hv
      exact ⟨congrArg₂ SessionOutcome.unit hres hcalls, fun _ => hview⟩
    | removeStream ssrc =>
      obtain rfl := Option.some.inj hop
      obtain ⟨hres, hview⟩ := Session.removeStream_own hv
      have hcalls : ∀ s : Session T, (s.removeStream ssrc).calls = [] := by
        intro s
        unfold Session.removeStream
        cases s.streams.lookup ssrc <;> rfl
      exact ⟨congrArg₂ SessionOutcome.unit hres ((hcalls s).trans (hcalls s').symm), fun _ => hview⟩
    | getRoc ssrc =>
      obtain rfl := Option.some.inj hop
      have hl := (Session.view_eq_iff.mp hv).1
      refine ⟨?_, fun _ => hv⟩
      show SessionOutcome.roc _ = SessionOutcome.roc _
      unfold Session.getRoc
      rw [hl]
    | direct ssrc d =>
      obtain rfl := Option.some.inj hop
      obtain ⟨hres, hcalls, hview⟩ := Session.direct_own d hv
      exact ⟨congrArg₂ SessionOutcome.unit hres hcalls, fun _ => hview⟩
    | request q =>
      cases hq : parse q with
      | error f => rw [SessionOp.ssrc_of_error hq] at hop; cases hop
      | ok c =>
        rw [SessionOp.ssrc_of_ok hq] at hop
        obtain rfl := Option.some.inj hop
        obtain ⟨hres, hcalls, hview⟩ := Session.onStream_own (fun x => call x c) hv
        rw [← Session.request_of_ok hq, ← Session.request_of_ok hq] at hres hcalls hview
        refine ⟨congrArg₂ SessionOutcome.packet hres hcalls, fun hgood => hview ?_⟩
        intro isRtp m ssrc heq
        exact hgood ⟨isRtp, m, ssrc, _, congrArg (SessionOutcome.packet · _) heq⟩
  other {k op s} hof hop hgood := by
    cases op with
    | setKeyLimitHandler handler => exact hof.elim
    | addStream ssrc config streamOrder keyOrder =>
      obtain ⟨j, rfl⟩ := Option.ne_none_iff_exists'.mp hof
      exact Session.addStream_other config streamOrder keyOrder fun h => hop (congrArg some h.symm)
    | removeStream ssrc => exact Session.view_removeStream_of_ne fun h => hop (congrArg some h.symm)
    | getRoc ssrc => rfl
    | direct ssrc d => exact Session.direct_other d fun h => hop (congrArg some h.symm)
    | request q =>
      show Session.view k (s.request q).state = _
      cases hq : parse q with
      | error f => rw [Session.request_of_error hq]
      | ok c =>
        have hne : k ≠ PacketStream.ssrc c := by
          rintro rfl
          exact hop (SessionOp.ssrc_of_ok hq)
        rw [Session.request_of_ok hq]
        refine Session.onStream_other _ hne fun isRtp m ssrc heq => ?_
        rw [← Session.request_of_ok hq] at heq
        exact hgood ⟨isRtp, m, ssrc, _, congrArg (SessionOutcome.packet · _) heq⟩

/-- Of sending and receiving sessions: in a run of operations on single streams in which no key is
found dead, the operations on one SSRC answer, and leave its stream, as when they are run alone from
the same session. -/
theorem streams_do_not_interfere [Crates] :
    (∀ (s : SendSession) (ops : List (SessionOp SendStream)) (ssrc : UInt32),
      (∀ op ∈ ops, op.OfStream) → (∀ e ∈ (runAll sessionStep s ops).1, ¬ e.answer.HardLimit) →
      ((runAll sessionStep s ops).1.filter (·.input.ssrc = some ssrc)).map (·.answer) =
          (runAll sessionStep s (ops.filter (·.ssrc = some ssrc))).1.map (·.answer) ∧
        (runAll sessionStep s ops).2.streams.lookup ssrc =
          (runAll sessionStep s (ops.filter (·.ssrc = some ssrc))).2.streams.lookup ssrc) ∧
    (∀ (s : RecvSession) (ops : List (SessionOp RecvStream)) (ssrc : UInt32),
      (∀ op ∈ ops, op.OfStream) → (∀ e ∈ (runAll sessionStep s ops).1, ¬ e.answer.HardLimit) →
      ((runAll sessionStep s ops).1.filter (·.input.ssrc = some ssrc)).map (·.answer) =
          (runAll sessionStep s (ops.filter (·.ssrc = some ssrc))).1.map (·.answer) ∧
        (runAll sessionStep s ops).2.streams.lookup ssrc =
          (runAll sessionStep s (ops.filter (·.ssrc = some ssrc))).2.streams.lookup ssrc) := by
  refine ⟨fun s ops ssrc hof hgood => ?_, fun s ops ssrc hof hgood => ?_⟩
  · obtain ⟨hanswers, hview⟩ := separated.run hof hgood (rfl : Session.view ssrc s = _)
    exact ⟨hanswers, (Session.view_eq_iff.mp hview).1⟩
  · obtain ⟨hanswers, hview⟩ := separated.run hof hgood (rfl : Session.view ssrc s = _)
    exact ⟨hanswers, (Session.view_eq_iff.mp hview).1⟩

section Example

open Vectors

attribute [local instance] Vectors.crates

/-- A packet operation that succeeded. -/
def SessionOutcome.returned : SessionOutcome → Bool
  | .packet (.ok _) _ => true
  | _ => false

theorem SessionOutcome.not_hardLimit {o : SessionOutcome} (h : o.returned = true) :
    ¬ o.HardLimit := by
  rintro ⟨isRtp, m, ssrc, calls, rfl⟩
  cases h

/-- Three packets on two SSRCs. -/
def twoSources : List (SessionOp SendStream) :=
  [.request (.rtpProtectMki (rtpPacket 0xcafebabe 1) none),
    .request (.rtpProtectMki (rtpPacket 0xdeadbeef 1) none),
    .request (.rtpProtectMki (rtpPacket 0xcafebabe 2) none)]

/-- A session that spawns a stream for each. -/
def spawningSession : SendSession := ⟨∅, some (config [key none .default]), none⟩

theorem streams_do_not_interfere_two_sources :
    ((runAll sessionStep spawningSession twoSources).1.filter
        (·.input.ssrc = some 0xdeadbeef)).map (·.answer) =
      (runAll sessionStep spawningSession
        (twoSources.filter (·.ssrc = some 0xdeadbeef))).1.map (·.answer) := by
  refine (streams_do_not_interfere.1 spawningSession twoSources 0xdeadbeef ?_ ?_).1
  · simp [twoSources, SessionOp.OfStream]
  · simp only [twoSources, runAll, List.forall_mem_cons]
    exact ⟨SessionOutcome.not_hardLimit (by decide +kernel),
      SessionOutcome.not_hardLimit (by decide +kernel),
      SessionOutcome.not_hardLimit (by decide +kernel), List.forall_mem_nil _⟩

end Example

end LibSrtp
