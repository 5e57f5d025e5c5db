import LibSrtp.SessionRun
import LibSrtp.Vectors

/-!
# Packets that fail

Whatever a session went through before, a packet operation that does not succeed does no harm:

* `packet_operations_do_not_panic`: it returns, with a result or an error;
* `failed_packet_leaves_session`: an error leaves the session as it was, but for the lives of a key
  that turned out dead;
* `rejected_packets_leave_no_trace`: so a run goes as if the packets it rejects had never come.
-/

namespace LibSrtp

open Exec PacketStream

variable {T : Type} [PacketStream T]

/-! ## No panic -/

namespace Session

variable [Crates] [LawfulStream T] {s : Session T}

theorem Sound.safe_request [LawfulCrates] (hs : s.Sound) (q : Request T)
    (hlen : (bytes q).length < 2 ^ 36) : Safe (s.request q).result := by
  have hr := Session.requested hs q
  generalize s.request q = r at hr
  cases hr with
  | unparsed hq =>
    rw [LawfulStream.raises_parse q _ hq]
    exact raises_error.mpr (by simp)
  | missing => exact raises_fail.mpr (by simp)
  | unspawned _ _ ht hnew =>
    have hfault := BaseStream.raises_new (hs.template ht) _ _ _ (LawfulStream.new_error hnew)
    exact raises_error.mpr (hfault.ne_panic (by omega))
  | failed => exact raises_error.mpr (by simp)
  | died => exact raises_fail.mpr (by simp)
  | @crashed c stream fromTemplate pending hq ht hpanic =>
    have hsafe := (ht.sound hs).1.safe_call c (LawfulStream.parse_ok hq ▸ hlen)
    exact absurd rfl (hsafe _ hpanic)
  | done => exact raises_ok

end Session

/-! ## A forged packet -/

section Forged

attribute [local instance] Vectors.crates

/-- A session whose template has the key of the tests. -/
def templateSession (T : Type) [PacketStream T] : Session T :=
  (sessionStep Session.new
    (.addStream none (Vectors.config [Vectors.key none .default]) [] fun _ => [none])).2

theorem templateSession_reachable {T : Type} [PacketStream T] : (templateSession T).Reachable :=
  ⟨_, .single sessionStep _ _⟩

/-- An RTCP packet with a tag of zeros. -/
def forgedRtcp : Bytes := Vectors.srtcpBody 0xcafebabe 0 ++ List.replicate 10 0

end Forged

section Panics

variable [Crates]

/-- No packet shorter than `2^36` bytes makes a session panic. -/
theorem packet_operations_do_not_panic [LawfulCrates] :
    (∀ (s : SendSession) (plain : Bytes) (mki : Mki), s.Reachable → plain.length < 2 ^ 36 →
      Safe (s.rtpProtectMki plain mki).result ∧ Safe (s.rtcpProtectMki plain mki).result) ∧
    (∀ (s : RecvSession) (cipher : Bytes), s.Reachable → cipher.length < 2 ^ 36 →
      Safe (s.rtpUnprotect cipher).result ∧ Safe (s.rtcpUnprotect cipher).result) := by
  refine ⟨fun s plain mki hs hlen => ⟨?_, ?_⟩, fun s cipher hs hlen => ⟨?_, ?_⟩⟩
  · rw [SendSession.rtpProtectMki_eq]; exact hs.sound.safe_request _ hlen
  · rw [SendSession.rtcpProtectMki_eq]; exact hs.sound.safe_request _ hlen
  · rw [RecvSession.rtpUnprotect_eq]; exact hs.sound.safe_request _ hlen
  · rw [RecvSession.rtcpUnprotect_eq]; exact hs.sound.safe_request _ hlen

end Panics

section Forged

attribute [local instance] Vectors.crates Vectors.lawful

theorem packet_operations_do_not_panic_forged :
    Safe (RecvSession.rtcpUnprotect (templateSession RecvStream) forgedRtcp).result :=
  (packet_operations_do_not_panic.2 _ _ templateSession_reachable (by decide)).2

end Forged

/-! ## What an error leaves -/

/-- The table of a stream with no lives left for the key `m`. -/
def MkiIndexedTransform.without (transforms : MkiIndexedTransform) (m : Mki) :
    MkiIndexedTransform :=
  match transforms.lookup m with
  | none => transforms
  | some (t, l) => transforms.insert m (t, l.killed)

/-- `s'` is `s` with the key `m` dead in the template and in the streams spawned from it. -/
structure KeyKilled (m : Mki) (s s' : Session T) : Prop where
  keyLimitHandler : s'.keyLimitHandler = s.keyLimitHandler
  template : s'.templateConfig = s.templateConfig.map (·.disabled m)
  absent {ssrc : UInt32} : s.streams.lookup ssrc = none → s'.streams.lookup ssrc = none
  own {ssrc : UInt32} {stream : T} : s.streams.lookup ssrc = some (stream, false) →
    s'.streams.lookup ssrc = some (stream, false)
  spawned {ssrc : UInt32} {stream : T} : s.streams.lookup ssrc = some (stream, true) →
    s'.streams.lookup ssrc =
      some (withTransforms stream ((base stream).transforms.without m), true)

/-- What an error of a packet operation leaves of the session `s`. -/
structure LeavesSession (s : Session T) (r : Answer (Session T) Bytes) : Prop where
  /-- any error other than a key limit -/
  unchanged {e : SrtpError} : r.result = .error (.error e) → NotKeyLimit (.error e) → r.state = s
  /-- a key limit on a stream that does not come from the template -/
  own {isRtp isDead : Bool} {m : Mki} {ssrc : UInt32} {stream : T} :
    r.result = fail (.keyLimit isRtp isDead m ssrc) →
      s.streams.lookup ssrc = some (stream, false) → r.state = s
  /-- a key limit on one that does, or that was spawned for the packet -/
  templated {isRtp isDead : Bool} {m : Mki} {ssrc : UInt32} :
    r.result = fail (.keyLimit isRtp isDead m ssrc) →
      (∀ stream, s.streams.lookup ssrc ≠ some (stream, false)) → KeyKilled m s r.state

namespace Session

variable [Crates] [LawfulStream T] {s : Session T}

theorem keyKilled_killTemplate (s : Session T) (m : Mki) : KeyKilled m s (s.killTemplate m) where
  keyLimitHandler := rfl
  template := rfl
  absent h := by
    show (s.streams.mapVals (killTemplated m)).lookup _ = none
    rw [Finmap.lookup_mapVals, h]; rfl
  own h := by
    show (s.streams.mapVals (killTemplated m)).lookup _ = _
    rw [Finmap.lookup_mapVals, h]; rfl
  spawned {ssrc stream} h := by
    show (s.streams.mapVals (killTemplated m)).lookup _ = _
    rw [Finmap.lookup_mapVals, h]
    show some ((StreamInterface.killSessionKeys stream m).state, true) = _
    unfold MkiIndexedTransform.without
    cases hl : (base stream).transforms.lookup m with
    | none => rw [LawfulStream.killed_none hl]; exact congrArg (fun x => some (x, true))
                (LawfulStream.withTransforms_base stream).symm
    | some entry => rw [LawfulStream.killed_some hl]

theorem Sound.leaves_request (hs : s.Sound) (q : Request T) : LeavesSession s (s.request q) := by
  have hr := Session.requested hs q
  generalize s.request q = r at hr
  have herror : ∀ {f : Fault SrtpError} {calls}, NotKeyLimit f →
      LeavesSession s ⟨.error f, s, calls⟩ := by
    intro f calls hf
    refine ⟨fun _ _ => rfl, fun _ _ => rfl, fun h _ => ?_⟩
    obtain rfl := Except.error.inj h
    exact hf.elim
  cases hr with
  | unparsed hq =>
    rw [LawfulStream.raises_parse q _ hq]
    exact herror trivial
  | missing => exact herror trivial
  | unspawned _ _ ht hnew =>
    exact herror
      (BaseStream.raises_new (hs.template ht) _ _ _ (LawfulStream.new_error hnew)).ownFault.notKeyLimit
  | failed _ _ _ hown => exact herror hown.notKeyLimit
  | @died c stream fromTemplate pending m hq ht hdied =>
    refine ⟨fun h hnot => ?_, fun h hown => ?_, fun h hnone => ?_⟩
    · obtain rfl := Fault.error.inj (Except.error.inj h)
      exact hnot.elim
    · obtain ⟨rfl, rfl, rfl, rfl⟩ := SrtpError.keyLimit.inj (Fault.error.inj (Except.error.inj h))
      cases ht with
      | present hl =>
        obtain ⟨-, rfl⟩ := Prod.mk.inj (Option.some.inj (hl.symm.trans hown))
        rfl
      | spawned hl => rw [hl] at hown; cases hown
    · obtain ⟨rfl, rfl, rfl, rfl⟩ := SrtpError.keyLimit.inj (Fault.error.inj (Except.error.inj h))
      cases fromTemplate with
      | true => exact keyKilled_killTemplate s m
      | false => cases ht with | present hl => exact absurd hl (hnone stream)
  | crashed => refine ⟨fun h => ?_, fun h => ?_, fun h => ?_⟩ <;> cases h
  | done => refine ⟨fun h => ?_, fun h => ?_, fun h => ?_⟩ <;> cases h

end Session

section Errors

variable [Crates]

/-- A packet operation that fails leaves the session as it was. Only when a key turned out dead on a
stream of the template, this key is dead in the whole template. -/
theorem failed_packet_leaves_session :
    (∀ (s : SendSession) (plain : Bytes) (mki : Mki), s.Reachable →
      LeavesSession s (s.rtpProtectMki plain mki) ∧
      LeavesSession s (s.rtcpProtectMki plain mki)) ∧
    (∀ (s : RecvSession) (cipher : Bytes), s.Reachable →
      LeavesSession s (s.rtpUnprotect cipher) ∧ LeavesSession s (s.rtcpUnprotect cipher)) := by
  refine ⟨fun s plain mki hs => ⟨?_, ?_⟩, fun s cipher hs => ⟨?_, ?_⟩⟩
  · rw [SendSession.rtpProtectMki_eq]; exact hs.sound.leaves_request _
  · rw [SendSession.rtcpProtectMki_eq]; exact hs.sound.leaves_request _
  · rw [RecvSession.rtpUnprotect_eq]; exact hs.sound.leaves_request _
  · rw [RecvSession.rtcpUnprotect_eq]; exact hs.sound.leaves_request _

end Errors

section Forged

attribute [local instance] Vectors.crates

theorem failed_packet_leaves_session_forged :
    (RecvSession.rtcpUnprotect (templateSession RecvStream) forgedRtcp).state =
      templateSession RecvStream :=
  (failed_packet_leaves_session.2 _ _ templateSession_reachable).2.unchanged
    (e := .authentication) (by decide +kernel) trivial

end Forged

/-! ## Runs without the rejected packets -/

/-- A packet that ended in an error, other than a dead key. -/
def SessionOutcome.Rejects : SessionOutcome → Prop
  | .packet (.error (.error e)) _ => NotKeyLimit (.error e)
  | _ => False

instance : DecidablePred SessionOutcome.Rejects
  | .packet (.error (.error e)) _ => by
    show Decidable (NotKeyLimit (.error e))
    cases e <;> first | exact isFalse id | exact isTrue trivial
  | .packet (.error .panic) _ => isFalse id
  | .packet (.ok _) _ => isFalse id
  | .unit _ _ => isFalse id
  | .roc _ => isFalse id

theorem Session.Sound.state_of_rejects [Crates] [LawfulStream T] {s : Session T} (hs : s.Sound)
    {op : SessionOp T} (h : (sessionStep s op).1.Rejects) : (sessionStep s op).2 = s := by
  cases op with
  | request q =>
    have hleaves := hs.leaves_request q
    show (s.request q).state = s
    change SessionOutcome.Rejects (.packet (s.request q).result (s.request q).calls) at h
    rcases hr : (s.request q).result with (e | _) | bytes
    · rw [hr] at h
      exact hleaves.unchanged hr h
    · rw [hr] at h
      exact h.elim
    · rw [hr] at h
      exact h.elim
  | _ => exact h.elim

/-- A run without the packets that it rejects is a run, with the same answers to everything else, and
ends in the same session: whoever can only send packets that are rejected, forged, replayed or
malformed ones, changes nothing about what others get. -/
theorem rejected_packets_leave_no_trace [Crates] [LawfulStream T] {s s' : Session T} (hs : s.Reachable)
    {es : List (SessionEvent T)} (ht : Trace sessionStep s es s') :
    Trace sessionStep s (es.filter fun e => ¬ e.answer.Rejects) s' := by
  refine ht.filter fun e he hrejects => ?_
  obtain ⟨pre, post, -, hpre, heq⟩ := ht.of_mem he
  have hsound := hs.sound.run hpre
  rw [heq] at hrejects ⊢
  exact hsound.state_of_rejects (not_not.mp hrejects)

section Forged

attribute [local instance] Vectors.crates

/-- A forged packet, and one that is genuine. -/
def forgedFirst : List (SessionOp RecvStream) :=
  [.request (RecvRequest.rtcpUnprotect forgedRtcp),
    .request (RecvRequest.rtpUnprotect (Vectors.srtpPacket 0xcafebabe 1))]

theorem rejected_packets_leave_no_trace_forged :
    ((runAll sessionStep (templateSession RecvStream) forgedFirst).1.filter
      fun e => ¬ e.answer.Rejects).length = 1 ∧
    Trace sessionStep (templateSession RecvStream)
      ((runAll sessionStep (templateSession RecvStream) forgedFirst).1.filter
        fun e => ¬ e.answer.Rejects)
      (runAll sessionStep (templateSession RecvStream) forgedFirst).2 :=
  ⟨by decide +kernel, rejected_packets_leave_no_trace templateSession_reachable (.runAll ..)⟩

end Forged

end LibSrtp
