import LibSrtp.Session
import LibSrtp.StreamRun

/-!
# Runs of a session

Senders and receivers share one session type, so their packet operations are one operation
(`Session.request`) on a request that is not parsed yet, and their sessions one machine.

* `Session.Requested`: how a packet operation can end, and what it leaves;
* `Session.Sound`: what holds in every reachable session, `Session.Sound.step`.
-/

namespace LibSrtp

open Exec PacketStream

variable {T : Type} [PacketStream T]

namespace StreamConfig

/-- A key that no packet may use, as the template keeps it. -/
def disabledLifetime : KeysLifetime := ⟨0, 0, 0, 0, Nat.zero_le _, Nat.zero_le _⟩

/-- The configuration with all lives and limits of the key `m` set to zero. -/
def disabled (c : StreamConfig) (m : Mki) : StreamConfig :=
  { c with keys := c.keys.map fun key =>
      if key.mki = m then { key with lifetime := disabledLifetime } else key }

theorem setFirstLifetime_zero {keys : List MasterKey} (hn : (keys.map (·.mki)).Nodup) (m : Mki) :
    (setFirstLifetime 0 0 0 0 m keys).2 = keys.map fun key =>
      if key.mki = m then { key with lifetime := disabledLifetime } else key := by
  induction keys with
  | nil => rfl
  | cons key keys ih =>
    rw [List.map_cons, List.nodup_cons] at hn
    rw [List.map_cons]
    unfold setFirstLifetime
    by_cases hm : key.mki = m
    · -- the MKIs are distinct, so the rest of the list is not concerned
      have hrest : ∀ k ∈ keys, ¬ k.mki = m := fun k hk h =>
        hn.1 (List.mem_map.mpr ⟨k, hk, h.trans hm.symm⟩)
      rw [if_pos hm, if_pos hm, List.map_congr_left fun k hk => if_neg (hrest k hk), List.map_id']
      rfl
    · rw [if_neg hm, if_neg hm, ih hn.2]

theorem Valid.setKeysLifetimeMki_zero {c : StreamConfig} (h : c.Valid) (m : Mki) :
    (c.setKeysLifetimeMki 0 0 0 0 m).state = c.disabled m := by
  unfold setKeysLifetimeMki disabled
  rw [setFirstLifetime_zero h.mkis]

theorem mem_disabled {c : StreamConfig} {m : Mki} {key : MasterKey} :
    key ∈ (c.disabled m).keys ↔ ∃ key₀ ∈ c.keys,
      key = if key₀.mki = m then { key₀ with lifetime := disabledLifetime } else key₀ := by
  unfold disabled
  simp only [List.mem_map, eq_comm]

/-- Apart from its lifetime, a key is what it was. -/
theorem of_mem_disabled {c : StreamConfig} {m : Mki} {key : MasterKey}
    (h : key ∈ (c.disabled m).keys) :
    ∃ key₀ ∈ c.keys, key.key = key₀.key ∧ key.salt = key₀.salt ∧ key.mki = key₀.mki := by
  obtain ⟨key₀, hk, rfl⟩ := mem_disabled.mp h
  refine ⟨key₀, hk, ?_⟩
  split <;> exact ⟨rfl, rfl, rfl⟩

theorem Valid.disabled {c : StreamConfig} (h : c.Valid) (m : Mki) : (c.disabled m).Valid := by
  have hmkis : (c.disabled m).keys.map (·.mki) = c.keys.map (·.mki) := by
    unfold StreamConfig.disabled
    rw [List.map_map]
    refine List.map_congr_left fun key _ => ?_
    simp only [Function.comp_apply]
    split <;> rfl
  refine ⟨?_, fun key hk => ?_, fun key hk => ?_, fun key hk => ?_, hmkis ▸ h.mkis, fun hne => ?_⟩
  · exact fun h0 => h.keys_ne (List.map_eq_nil_iff.mp h0)
  · obtain ⟨key₀, hk₀, heq, -, -⟩ := of_mem_disabled hk
    rw [heq]; exact h.rtpKey key₀ hk₀
  · obtain ⟨key₀, hk₀, heq, -, -⟩ := of_mem_disabled hk
    rw [heq]; exact h.rtcpKey key₀ hk₀
  · obtain ⟨key₀, hk₀, -, heq, -⟩ := of_mem_disabled hk
    rw [heq]; exact h.salt key₀ hk₀
  · have hne₀ : ∀ key ∈ c.keys, key.mki ≠ some [] := by
      intro key hk
      have := List.mem_map_of_mem (f := (·.mki)) hk
      rw [← hmkis] at this
      obtain ⟨key', hk', heq⟩ := List.mem_map.mp this
      exact heq ▸ hne key' hk'
    intro key hk key' hk'
    obtain ⟨key₀, hk₀, -, -, heq⟩ := of_mem_disabled hk
    obtain ⟨key₀', hk₀', -, -, heq'⟩ := of_mem_disabled hk'
    rw [heq, heq']
    exact h.mkiLen hne₀ key₀ hk₀ key₀' hk₀'

end StreamConfig

namespace Session

/-! ## One operation for all packets -/

/-- A packet operation. -/
def request (s : Session T) (q : Request T) : Answer (Session T) Bytes :=
  match parse q with
  | .error e => ⟨.error e, s, []⟩
  | .ok c => s.onStream (ssrc c) fun stream => call stream c

/-- An operation on the counters of one stream. -/
def direct (s : Session T) (ssrc : UInt32) (d : Direct T) : Answer (Session T) Unit :=
  match s.streams.lookup ssrc with
  | none => ⟨fail .streamNotFound, s, []⟩
  | some (stream, fromTemplate) =>
    let r := PacketStream.direct stream d
    ⟨r.result, { s with streams := s.streams.insert ssrc (r.state, fromTemplate) }, r.calls⟩

/-- The reaction of a session to a dead key: no lives left for it in any stream of the template,
nor in the template. -/
def killTemplate (s : Session T) (m : Mki) : Session T :=
  { s with
    streams := s.streams.mapVals (killTemplated m)
    templateConfig := s.templateConfig.map (·.disabled m) }

/-- The stream of a packet, whether it comes from the template, and whether it was just spawned. -/
inductive Target (s : Session T) (ssrc : UInt32) : T → Bool → Bool → Prop
  | present {stream : T} {fromTemplate : Bool} :
      s.streams.lookup ssrc = some (stream, fromTemplate) → Target s ssrc stream fromTemplate false
  | spawned {stream : T} {config : StreamConfig} : s.streams.lookup ssrc = none →
      s.templateConfig = some config →
      StreamInterface.new ssrc config s.keyLimitHandler = .ok stream → Target s ssrc stream true true

/-- How a packet operation can end. -/
inductive Requested (s : Session T) (q : Request T) : Answer (Session T) Bytes → Prop
  | unparsed {f : Fault SrtpError} : parse q = .error f → Requested s q ⟨.error f, s, []⟩
  | missing {c : Call T} : parse q = .ok c → s.streams.lookup (ssrc c) = none →
      s.templateConfig = none → Requested s q ⟨fail .streamNotFound, s, []⟩
  | unspawned {c : Call T} {config : StreamConfig} {f : Fault SrtpError} : parse q = .ok c →
      s.streams.lookup (ssrc c) = none → s.templateConfig = some config →
      (StreamInterface.new (ssrc c) config s.keyLimitHandler : Res T) = .error f →
      Requested s q ⟨.error f, s, []⟩
  | failed {c : Call T} {stream : T} {fromTemplate pending : Bool} {e : SrtpError} :
      parse q = .ok c → Target s (ssrc c) stream fromTemplate pending →
      (call stream c).result = .error (.error e) → OwnFault (.error e) →
      Requested s q ⟨.error (.error e), s, (call stream c).calls⟩
  | died {c : Call T} {stream : T} {fromTemplate pending : Bool} {m : Mki} : parse q = .ok c →
      Target s (ssrc c) stream fromTemplate pending →
      (call stream c).result = fail (.keyLimit (isRtp c) true m (ssrc c)) →
      Requested s q ⟨fail (.keyLimit (isRtp c) true m (ssrc c)),
        if fromTemplate then s.killTemplate m else s, (call stream c).calls⟩
  | crashed {c : Call T} {stream : T} {fromTemplate pending : Bool} : parse q = .ok c →
      Target s (ssrc c) stream fromTemplate pending → (call stream c).result = .error .panic →
      Requested s q ⟨.error .panic,
        { s with streams := s.streams.insert (ssrc c) (stream, fromTemplate) }, (call stream c).calls⟩
  | done {c : Call T} {stream : T} {fromTemplate pending : Bool} {bytes : Bytes} : parse q = .ok c →
      Target s (ssrc c) stream fromTemplate pending → (call stream c).result = .ok bytes →
      Requested s q ⟨.ok bytes,
        { s with streams := s.streams.insert (ssrc c) ((call stream c).state, fromTemplate) },
        (call stream c).calls⟩

/-- What holds in every session. -/
structure Sound [Crates] (s : Session T) : Prop where
  stream {ssrc : UInt32} {stream : T} {fromTemplate : Bool} :
    s.streams.lookup ssrc = some (stream, fromTemplate) →
      LibSrtp.Sound stream ∧ (base stream).ssrc = ssrc
  template {config : StreamConfig} : s.templateConfig = some config → config.Valid

end Session

/-! ## The operations of senders and receivers -/

theorem Session.request_of_error {s : Session T} {q : Request T} {f : Fault SrtpError}
    (h : parse q = .error f) : s.request q = ⟨.error f, s, []⟩ := by
  unfold request; rw [h]

theorem Session.request_of_ok {s : Session T} {q : Request T} {c : Call T} (h : parse q = .ok c) :
    s.request q = s.onStream (ssrc c) fun stream => call stream c := by
  unfold request; rw [h]

section Instances

variable [Crates]

theorem SendSession.rtpProtectMki_eq (s : SendSession) (plain : Bytes) (mki : Mki) :
    s.rtpProtectMki plain mki = s.request (SendRequest.rtpProtectMki plain mki) := by
  unfold rtpProtectMki
  cases h : RtpHeader.new plain with
  | error f => exact (Session.request_of_error (pmap_of_error h)).symm
  | ok header => exact (Session.request_of_ok (SendStream.parse_rtp h)).symm

theorem SendSession.rtcpProtectMki_eq (s : SendSession) (plain : Bytes) (mki : Mki) :
    s.rtcpProtectMki plain mki = s.request (SendRequest.rtcpProtectMki plain mki) := by
  unfold rtcpProtectMki
  cases h : RtcpHeader.new plain with
  | error f => exact (Session.request_of_error (pmap_of_error h)).symm
  | ok header => exact (Session.request_of_ok (SendStream.parse_rtcp h)).symm

theorem RecvSession.rtpUnprotect_eq (s : RecvSession) (cipher : Bytes) :
    s.rtpUnprotect cipher = s.request (RecvRequest.rtpUnprotect cipher) := by
  unfold rtpUnprotect
  cases h : RtpHeader.new cipher with
  | error f => exact (Session.request_of_error (pmap_of_error h)).symm
  | ok header => exact (Session.request_of_ok (RecvStream.parse_rtp h)).symm

theorem RecvSession.rtcpUnprotect_eq (s : RecvSession) (cipher : Bytes) :
    s.rtcpUnprotect cipher = s.request (RecvRequest.rtcpUnprotect cipher) := by
  unfold rtcpUnprotect
  cases h : RtcpHeader.new cipher with
  | error f => exact (Session.request_of_error (pmap_of_error h)).symm
  | ok header => exact (Session.request_of_ok (RecvStream.parse_rtcp h)).symm

theorem RecvSession.setRoc_eq (s : RecvSession) (ssrc roc : UInt32) :
    s.setRoc ssrc roc = Session.direct (T := RecvStream) s ssrc roc := by
  unfold setRoc Session.direct
  cases s.streams.lookup ssrc <;> rfl

end Instances

/-! ## How a packet operation ends -/

namespace Session

variable [Crates] [LawfulStream T] {s : Session T}

omit [PacketStream T] [Crates] [LawfulStream T] in
theorem ext_fields {s s' : Session T} (h1 : s.streams = s'.streams)
    (h2 : s.templateConfig = s'.templateConfig) (h3 : s.keyLimitHandler = s'.keyLimitHandler) :
    s = s' := by
  cases s; cases s'; cases h1; cases h2; cases h3; rfl

/-- A freshly built stream, or one of a sound session, is sound. -/
theorem Target.sound (hs : s.Sound) {ssrc : UInt32} {stream : T} {fromTemplate pending : Bool}
    (h : Target s ssrc stream fromTemplate pending) :
    LibSrtp.Sound stream ∧ (base stream).ssrc = ssrc := by
  cases h with
  | present hl => exact hs.stream hl
  | spawned _ ht hnew => exact ⟨.new (hs.template ht) hnew, ssrc_new hnew⟩

omit [Crates] [LawfulStream T] in
theorem Target.getStream {ssrc : UInt32} {stream : T} {fromTemplate pending : Bool}
    (h : Target s ssrc stream fromTemplate pending) : s.getStream ssrc =
      (.ok (stream, fromTemplate, pending), if pending then
        { s with streams := s.streams.insert ssrc (stream, true) } else s) := by
  cases h with
  | present hl => simp only [Session.getStream, hl, Bool.false_eq_true, if_false]
  | spawned hl ht hnew => simp only [Session.getStream, hl, ht, hnew, if_true]

omit [Crates] [LawfulStream T] in
/-- The operation runs on the stream in place, whether it was there or just spawned. -/
theorem Target.onStream {ssrc : UInt32} {stream : T} {fromTemplate pending : Bool}
    (h : Target s ssrc stream fromTemplate pending) (op : T → Answer T Bytes) :
    s.onStream ssrc op =
      let s' := { s with streams := s.streams.insert ssrc ((op stream).state, fromTemplate) }
      match (op stream).result with
      | .ok bytes => ⟨.ok bytes, s', (op stream).calls⟩
      | .error (.error e) =>
        ⟨.error (.error e), s'.handleStreamError e ssrc fromTemplate pending, (op stream).calls⟩
      | .error .panic => ⟨.error .panic, s', (op stream).calls⟩ := by
  have hinsert : ∀ stream', (if pending then { s with streams := s.streams.insert ssrc (stream, true) }
      else s : Session T).streams.insert ssrc (stream', fromTemplate) =
        s.streams.insert ssrc (stream', fromTemplate) := by
    intro stream'
    cases h with
    | present => rfl
    | spawned => exact Finmap.insert_insert _
  have hrest : ∀ streams, ({ (if pending then
      { s with streams := s.streams.insert ssrc (stream, true) } else s : Session T) with streams } :
        Session T) = { s with streams } := by
    intro streams
    cases pending <;> rfl
  unfold Session.onStream
  rw [h.getStream]
  dsimp only
  rcases (op stream).result with (e | _) | bytes <;> (dsimp only; rw [hinsert, hrest])

omit [Crates] [LawfulStream T] in
/-- A failed operation leaves the stream as it was; a stream that was just spawned goes again. -/
theorem Target.rolled_back {ssrc : UInt32} {stream : T} {fromTemplate pending : Bool}
    (h : Target s ssrc stream fromTemplate pending) :
    (if pending then ({ s with streams := s.streams.insert ssrc (stream, fromTemplate) } :
      Session T).removeStream ssrc |>.state
      else { s with streams := s.streams.insert ssrc (stream, fromTemplate) }) = s := by
  cases h with
  | present hl => rw [if_neg Bool.false_ne_true, Finmap.insert_lookup_self hl]
  | spawned hl =>
    rw [if_pos rfl]
    unfold removeStream
    rw [Finmap.lookup_insert]
    exact congrArg (fun streams => { s with streams }) (Finmap.erase_insert_of_absent hl)

omit [Crates] [LawfulStream T] in
theorem handleStreamError_of_notKeyLimit {e : SrtpError} (he : NotKeyLimit (.error e))
    (s : Session T) (ssrc : UInt32) (fromTemplate pending : Bool) :
    s.handleStreamError e ssrc fromTemplate pending =
      if pending then (s.removeStream ssrc).state else s := by
  unfold handleStreamError
  cases fromTemplate
  · rfl
  · cases e <;> first | rfl | exact he.elim

omit [LawfulStream T] in
theorem handleStreamError_keyLimit (hs : s.Sound) {isRtp : Bool} {m : Mki} {ssrc ssrc' : UInt32}
    {s' : Session T} {fromTemplate pending : Bool}
    (hback : (if pending then (s'.removeStream ssrc).state else s') = s) :
    s'.handleStreamError (.keyLimit isRtp true m ssrc') ssrc fromTemplate pending =
      if fromTemplate then s.killTemplate m else s := by
  unfold handleStreamError
  rw [hback]
  cases fromTemplate with
  | false => rfl
  | true =>
    refine ext_fields rfl ?_ rfl
    show Option.map _ s.templateConfig = Option.map _ s.templateConfig
    cases htemplate : s.templateConfig with
    | none => rfl
    | some config => exact congrArg some ((hs.template htemplate).setKeysLifetimeMki_zero m)

/-- Every packet operation of a sound session ends in one of the ways listed. -/
theorem requested (hs : s.Sound) (q : Request T) : Requested s q (s.request q) := by
  cases hq : parse q with
  | error f => rw [request_of_error hq]; exact .unparsed hq
  | ok c =>
    rw [request_of_ok hq]
    by_cases htarget : ∃ stream fromTemplate pending, Target s (ssrc c) stream fromTemplate pending
    · obtain ⟨stream, fromTemplate, pending, ht⟩ := htarget
      obtain ⟨hsound, hssrc⟩ := ht.sound hs
      have hc := LawfulStream.called c hsound.inRange
      rw [ht.onStream]
      dsimp only
      cases hr : (call stream c).result with
      | ok bytes => exact .done hq ht hr
      | error f =>
        have hstate := hc.state_of_error hr
        rw [hstate]
        cases f with
        | panic => exact .crashed hq ht hr
        | error e =>
          dsimp only
          rcases hsound.fault hr with hnot | ⟨m, t, l, -, -, -, heq⟩
          · rw [handleStreamError_of_notKeyLimit hnot.notKeyLimit, ht.rolled_back]
            exact .failed hq ht hr hnot
          · obtain rfl := Fault.error.inj heq
            rw [hssrc] at hr ⊢
            rw [handleStreamError_keyLimit hs ht.rolled_back]
            exact .died hq ht hr
    · unfold onStream getStream
      cases hl : s.streams.lookup (ssrc c) with
      | some entry => exact absurd ⟨entry.1, entry.2, false, .present hl⟩ htarget
      | none =>
        cases htemplate : s.templateConfig with
        | none => exact .missing hq hl htemplate
        | some config =>
          dsimp only
          cases hnew : (StreamInterface.new (ssrc c) config s.keyLimitHandler : Res T) with
          | error f => exact .unspawned hq hl htemplate hnew
          | ok stream => exact absurd ⟨stream, true, true, .spawned hl htemplate hnew⟩ htarget

/-- A key limit comes from a dead key of the stream of the packet. -/
theorem Sound.died (hs : s.Sound) {q : Request T} {isRtp : Bool} {m : Mki} {ssrc : UInt32}
    (h : (s.request q).result = fail (.keyLimit isRtp true m ssrc)) :
    ∃ c x fromTemplate pending, parse q = .ok c ∧
      Target s (PacketStream.ssrc c) x fromTemplate pending ∧ isRtp = PacketStream.isRtp c ∧
      ssrc = PacketStream.ssrc c ∧ (call x c).result = fail (.keyLimit isRtp true m ssrc) ∧
      (s.request q).state = if fromTemplate then s.killTemplate m else s := by
  have hr := Session.requested hs q
  generalize s.request q = r at hr h
  have hnot : ∀ {f : Fault SrtpError}, NotKeyLimit f →
      (.error f : Res Bytes) ≠ fail (.keyLimit isRtp true m ssrc) := by
    rintro f hf heq
    obtain rfl := Except.error.inj heq
    exact hf.elim
  cases hr with
  | unparsed hq =>
    rw [LawfulStream.raises_parse q _ hq] at h
    cases h
  | missing => cases h
  | unspawned _ _ ht hnew =>
    have hfault := BaseStream.raises_new (hs.template ht) _ _ _ (LawfulStream.new_error hnew)
    exact absurd h (hnot hfault.ownFault.notKeyLimit)
  | failed _ _ _ hown => exact absurd h (hnot hown.notKeyLimit)
  | @died c x fromTemplate pending m' hq ht hres =>
    obtain ⟨rfl, -, rfl, rfl⟩ := SrtpError.keyLimit.inj (Fault.error.inj (Except.error.inj h))
    exact ⟨c, x, fromTemplate, pending, hq, ht, rfl, rfl, hres, rfl⟩
  | crashed => cases h
  | done => cases h

/-! ## How a stream is added -/

omit [Crates] [LawfulStream T] in
/-- What every update of a stream keeps, the loop over the streams of the template keeps. -/
theorem updateTemplated_keeps {config : StreamConfig} {keyOrder : UInt32 → List Mki}
    {I : UInt32 → T × Bool → Prop}
    (hupdate : ∀ ssrc stream, I ssrc (stream, true) →
      I ssrc ((StreamInterface.update stream config (keyOrder ssrc)).state, true))
    {streamOrder : List UInt32} {streams : Streams T}
    (h : ∀ k entry, streams.lookup k = some entry → I k entry) :
    ∀ k entry, (updateTemplated config keyOrder streamOrder streams).2.lookup k = some entry →
      I k entry := by
  induction streamOrder generalizing streams with
  | nil => exact h
  | cons ssrc streamOrder ih =>
    unfold updateTemplated
    split
    · next stream hl =>
      have hstep : ∀ k entry, (streams.insert ssrc ((StreamInterface.update stream config
          (keyOrder ssrc)).state, true)).lookup k = some entry → I k entry := by
        intro k entry hk
        rcases Finmap.lookup_insert_cases hk with ⟨rfl, rfl⟩ | hk
        · exact hupdate k stream (h k _ hl)
        · exact h k entry hk
      dsimp only
      split
      · exact hstep
      · exact ih hstep
    · exact ih h

theorem raises_updateTemplated {config : StreamConfig} (hv : config.Valid)
    (keyOrder : UInt32 → List Mki) (streamOrder : List UInt32) (streams : Streams T) :
    Raises OwnFault (updateTemplated config keyOrder streamOrder streams).1 := by
  induction streamOrder generalizing streams with
  | nil => exact raises_ok
  | cons ssrc streamOrder ih =>
    unfold updateTemplated
    split
    · next stream hl =>
      have hupdated := LawfulStream.updated stream (keyOrder ssrc) hv.keys_ne
      dsimp only
      split
      · next hf => exact raises_error.mpr (hupdated.raises hv _ hf)
      · exact ih _
    · exact ih _

/-- How `addStream` can end. -/
inductive Added (s : Session T) (config : StreamConfig) (streamOrder : List UInt32)
    (keyOrder : UInt32 → List Mki) : Option UInt32 → Answer (Session T) Unit → Prop
  | invalid {ssrc : Option UInt32} {f : Fault SrtpError} : config.validate = .error f →
      Added s config streamOrder keyOrder ssrc ⟨.error f, s, []⟩
  | templateRefused {f : Fault SrtpError} {streams : Streams T} : config.validate = .ok () →
      updateTemplated config keyOrder streamOrder s.streams = (.error f, streams) →
      Added s config streamOrder keyOrder none ⟨.error f, { s with streams }, []⟩
  | template {streams : Streams T} : config.validate = .ok () →
      updateTemplated config keyOrder streamOrder s.streams = (.ok (), streams) →
      Added s config streamOrder keyOrder none
        ⟨.ok (), { s with streams, templateConfig := some config }, []⟩
  | unbuilt {ssrc : UInt32} {f : Fault SrtpError} : config.validate = .ok () →
      s.streams.lookup ssrc = none →
      (StreamInterface.new ssrc config s.keyLimitHandler : Res T) = .error f →
      Added s config streamOrder keyOrder (some ssrc) ⟨.error f, s, []⟩
  | built {ssrc : UInt32} {stream : T} : config.validate = .ok () →
      s.streams.lookup ssrc = none →
      StreamInterface.new ssrc config s.keyLimitHandler = .ok stream →
      Added s config streamOrder keyOrder (some ssrc)
        ⟨.ok (), { s with streams := s.streams.insert ssrc (stream, false) }, []⟩
  | refused {ssrc : UInt32} {stream stream' : T} {fromTemplate : Bool} {f : Fault SrtpError} :
      config.validate = .ok () → s.streams.lookup ssrc = some (stream, fromTemplate) →
      StreamInterface.update stream config (keyOrder ssrc) = ⟨.error f, stream', []⟩ →
      Added s config streamOrder keyOrder (some ssrc)
        ⟨.error f, { s with streams := s.streams.insert ssrc (stream', fromTemplate) }, []⟩
  | updated {ssrc : UInt32} {stream stream' : T} {fromTemplate : Bool} :
      config.validate = .ok () → s.streams.lookup ssrc = some (stream, fromTemplate) →
      StreamInterface.update stream config (keyOrder ssrc) = ⟨.ok (), stream', []⟩ →
      Added s config streamOrder keyOrder (some ssrc)
        ⟨.ok (), { s with streams := s.streams.insert ssrc (stream', false) }, []⟩

theorem added (s : Session T) (ssrc : Option UInt32) (config : StreamConfig)
    (streamOrder : List UInt32) (keyOrder : UInt32 → List Mki) :
    Added s config streamOrder keyOrder ssrc (s.addStream ssrc config streamOrder keyOrder) := by
  unfold addStream
  cases hv : config.validate with
  | error f => exact .invalid hv
  | ok u =>
    cases ssrc with
    | none =>
      dsimp only
      split
      · next hu => exact .templateRefused hv hu
      · next hu => exact .template hv hu
    | some ssrc =>
      dsimp only
      cases hl : s.streams.lookup ssrc with
      | none =>
        dsimp only
        cases hnew : (StreamInterface.new ssrc config s.keyLimitHandler : Res T) with
        | error f => exact .unbuilt hv hl hnew
        | ok stream => exact .built hv hl hnew
      | some entry =>
        obtain ⟨stream, fromTemplate⟩ := entry
        dsimp only
        have hkeys := (StreamConfig.valid_of_validate hv).keys_ne
        have hcalls := (LawfulStream.updated stream (keyOrder ssrc) hkeys).calls
        cases hu : StreamInterface.update stream config (keyOrder ssrc) with
        | mk result stream' calls =>
          rw [hu] at hcalls
          obtain rfl : calls = [] := hcalls
          cases result with
          | error f => exact .refused hv hl hu
          | ok u => exact .updated hv hl hu

/-! ## Runs -/

end Session

/-- An operation of a session. -/
inductive SessionOp (T : Type) [PacketStream T] where
  | setKeyLimitHandler (handler : KeyLimitHandler)
  | addStream (ssrc : Option UInt32) (config : StreamConfig) (streamOrder : List UInt32)
      (keyOrder : UInt32 → List Mki)
  | removeStream (ssrc : UInt32)
  | getRoc (ssrc : UInt32)
  | direct (ssrc : UInt32) (d : Direct T)
  | request (q : Request T)

/-- What an operation returns, and the handler calls it made. -/
inductive SessionOutcome where
  | packet (r : Res Bytes) (calls : List HandlerCall)
  | unit (r : Res Unit) (calls : List HandlerCall)
  | roc (r : Res UInt32)

def sessionStep (s : Session T) : SessionOp T → SessionOutcome × Session T
  | .setKeyLimitHandler handler =>
    let r := s.setKeyLimitHandler handler
    (.unit r.result r.calls, r.state)
  | .addStream ssrc config streamOrder keyOrder =>
    let r := s.addStream ssrc config streamOrder keyOrder
    (.unit r.result r.calls, r.state)
  | .removeStream ssrc =>
    let r := s.removeStream ssrc
    (.unit r.result r.calls, r.state)
  | .getRoc ssrc => (.roc (s.getRoc ssrc), s)
  | .direct ssrc d =>
    let r := s.direct ssrc d
    (.unit r.result r.calls, r.state)
  | .request q =>
    let r := s.request q
    (.packet r.result r.calls, r.state)

abbrev SessionEvent (T : Type) [PacketStream T] := Event (Session T) (SessionOp T) SessionOutcome

namespace Session

/-- A session that its public methods can lead to. -/
def Reachable (s : Session T) : Prop := ∃ es, Trace sessionStep (new : Session T) es s

variable [Crates] [LawfulStream T] {s : Session T}

namespace Sound

omit [LawfulStream T] in
theorem new : (new : Session T).Sound where
  stream h := by
    rw [show (Session.new : Session T).streams = ∅ from rfl, Finmap.lookup_empty] at h
    cases h
  template h := by cases h

omit [LawfulStream T] in
theorem insert (hs : s.Sound) {ssrc : UInt32} {stream : T} (h : LibSrtp.Sound stream)
    (hssrc : (base stream).ssrc = ssrc) (fromTemplate : Bool) :
    ({ s with streams := s.streams.insert ssrc (stream, fromTemplate) } : Session T).Sound where
  stream {k stream' fromTemplate'} hl := by
    rcases Finmap.lookup_insert_cases hl with ⟨rfl, heq⟩ | hl
    · obtain ⟨rfl, -⟩ := Prod.mk.inj heq
      exact ⟨h, hssrc⟩
    · exact hs.stream hl
  template := hs.template

/-- An update keeps a stream sound, and the SSRC it is for. -/
theorem updated {stream : T} {ssrc : UInt32} (h : LibSrtp.Sound stream ∧ (base stream).ssrc = ssrc)
    {config : StreamConfig} (hv : config.validate = .ok ()) (order : List Mki) :
    LibSrtp.Sound (StreamInterface.update stream config order).state ∧
      (base (StreamInterface.update stream config order).state).ssrc = ssrc :=
  ⟨h.1.step (.update config hv order), (ssrc_step h.1.inRange (.update config hv order)).trans h.2⟩

end Sound

/-! ## Properties of all streams -/

/-- A property of the streams of a session and one of its template. -/
structure All (s : Session T) (I : UInt32 → T × Bool → Prop) (J : StreamConfig → Prop) : Prop where
  stream {k : UInt32} {entry : T × Bool} : s.streams.lookup k = some entry → I k entry
  template {config : StreamConfig} : s.templateConfig = some config → J config

/-- What an operation has to keep for such a pair of properties to turn into another pair. -/
structure Keeps (s : Session T) (op : SessionOp T) (I I' : UInt32 → T × Bool → Prop)
    (J J' : StreamConfig → Prop) : Prop where
  stay {k : UInt32} {entry : T × Bool} : I k entry → I' k entry
  stayTemplate {config : StreamConfig} : J config → J' config
  spawn {k : UInt32} {config : StreamConfig} {x : T} : J config →
    StreamInterface.new k config s.keyLimitHandler = .ok x → I k (x, true)
  setTemplate {config : StreamConfig} {streamOrder : List UInt32} {keyOrder : UInt32 → List Mki} :
    op = .addStream none config streamOrder keyOrder → config.validate = .ok () → J' config
  build {k : UInt32} {config : StreamConfig} {streamOrder : List UInt32}
    {keyOrder : UInt32 → List Mki} {x : T} :
    op = .addStream (some k) config streamOrder keyOrder → config.validate = .ok () →
      StreamInterface.new k config s.keyLimitHandler = .ok x → I' k (x, false)
  update {k : UInt32} {ssrc : Option UInt32} {config : StreamConfig} {streamOrder : List UInt32}
    {keyOrder : UInt32 → List Mki} {x : T} {fromTemplate : Bool} (fromTemplate' : Bool) :
    op = .addStream ssrc config streamOrder keyOrder → config.validate = .ok () →
      LibSrtp.Sound x → I' k (x, fromTemplate) →
        I' k ((StreamInterface.update x config (keyOrder k)).state, fromTemplate')
  direct {k : UInt32} {d : Direct T} {x : T} {fromTemplate : Bool} : op = .direct k d →
    LibSrtp.Sound x → I k (x, fromTemplate) → I' k ((PacketStream.direct x d).state, fromTemplate)
  done {q : Request T} {c : Call T} {x : T} {fromTemplate : Bool} {bytes : Bytes} :
    op = .request q → parse q = .ok c → LibSrtp.Sound x → (call x c).calls = (s.request q).calls →
      I (ssrc c) (x, fromTemplate) → (call x c).result = .ok bytes →
        I' (ssrc c) ((call x c).state, fromTemplate)
  died {q : Request T} {c : Call T} {x : T} {m : Mki} : op = .request q → parse q = .ok c →
    LibSrtp.Sound x → I (ssrc c) (x, true) →
      (call x c).result = fail (.keyLimit (isRtp c) true m (ssrc c)) →
        (∀ {k y}, LibSrtp.Sound y → I k (y, true) →
          I' k ((StreamInterface.killSessionKeys y m).state, true)) ∧
        ∀ {config}, J config → J' (config.disabled m)

namespace All

variable {I I' : UInt32 → T × Bool → Prop} {J J' : StreamConfig → Prop} {op : SessionOp T}

omit [Crates] [LawfulStream T] in
theorem stay (h : s.All I J) (hk : Keeps s op I I' J J') : s.All I' J' :=
  ⟨fun hl => hk.stay (h.stream hl), fun ht => hk.stayTemplate (h.template ht)⟩

omit [PacketStream T] [Crates] [LawfulStream T] in
theorem insert (h : s.All I J) {k : UInt32} {entry : T × Bool} (hi : I k entry) :
    ({ s with streams := s.streams.insert k entry } : Session T).All I J where
  stream {k' entry'} hl := by
    rcases Finmap.lookup_insert_cases hl with ⟨rfl, rfl⟩ | hl
    · exact hi
    · exact h.stream hl
  template ht := h.template ht

omit [Crates] [LawfulStream T] in
theorem target (h : s.All I J) (hk : Keeps s op I I' J J') {k : UInt32} {x : T}
    {fromTemplate pending : Bool} (ht : Target s k x fromTemplate pending) :
    I k (x, fromTemplate) := by
  cases ht with
  | present hl => exact h.stream hl
  | spawned _ ht hnew => exact hk.spawn (h.template ht) hnew

/-- The rule: what an operation keeps of every stream and of the template, it keeps of the
session. -/
theorem step (hs : s.Sound) (h : s.All I J) (hk : Keeps s op I I' J J') :
    (sessionStep s op).2.All I' J' := by
  have hstay := h.stay hk
  cases op with
  | setKeyLimitHandler handler =>
    show (s.setKeyLimitHandler handler).state.All I' J'
    unfold setKeyLimitHandler
    split
    · exact hstay
    · exact ⟨hstay.stream, hstay.template⟩
  | addStream ssrc config streamOrder keyOrder =>
    have hloop : ∀ {res streams}, config.validate = .ok () →
        Session.updateTemplated config keyOrder streamOrder s.streams = (res, streams) →
        ∀ k entry, streams.lookup k = some entry → I' k entry := by
      intro res streams hv hu
      have hkeeps : ∀ k entry,
          (Session.updateTemplated config keyOrder streamOrder s.streams).2.lookup k = some entry →
            I' k entry ∧ LibSrtp.Sound entry.1 ∧ (base entry.1).ssrc = k :=
        updateTemplated_keeps
          (fun k x hx => ⟨hk.update true rfl hv hx.2.1 hx.1, Sound.updated hx.2 hv (keyOrder k)⟩)
          fun k ⟨_, _⟩ hl => ⟨hstay.stream hl, hs.stream hl⟩
      rw [hu] at hkeeps
      exact fun k entry hl => (hkeeps k entry hl).1
    have ha := Session.added s ssrc config streamOrder keyOrder
    show (s.addStream ssrc config streamOrder keyOrder).state.All I' J'
    generalize s.addStream ssrc config streamOrder keyOrder = r at ha
    cases ha with
    | invalid => exact hstay
    | templateRefused hv hu => exact ⟨fun hl => hloop hv hu _ _ hl, hstay.template⟩
    | template hv hu =>
      refine ⟨fun hl => hloop hv hu _ _ hl, fun ht => ?_⟩
      obtain rfl := Option.some.inj ht
      exact hk.setTemplate rfl hv
    | unbuilt => exact hstay
    | built hv hl hnew => exact hstay.insert (hk.build rfl hv hnew)
    | @refused k x _ fromTemplate _ hv hl hu =>
      have hup := hk.update fromTemplate rfl hv (hs.stream hl).1 (hstay.stream hl)
      rw [hu] at hup
      exact hstay.insert hup
    | @updated k x _ _ hv hl hu =>
      have hup := hk.update false rfl hv (hs.stream hl).1 (hstay.stream hl)
      rw [hu] at hup
      exact hstay.insert hup
  | removeStream k =>
    show (s.removeStream k).state.All I' J'
    unfold removeStream
    split
    · exact hstay
    · refine ⟨fun hl => ?_, hstay.template⟩
      rw [Finmap.lookup_erase_eq] at hl
      split at hl
      · cases hl
      · exact hstay.stream hl
  | getRoc k => exact hstay
  | direct k d =>
    show (s.direct k d).state.All I' J'
    unfold Session.direct
    split
    · exact hstay
    · next hl => exact hstay.insert (hk.direct rfl (hs.stream hl).1 (h.stream hl))
  | request q =>
    have hr := Session.requested hs q
    show (s.request q).state.All I' J'
    generalize hrq : s.request q = r at hr
    have hcalls : (s.request q).calls = r.calls := congrArg _ hrq
    cases hr with
    | unparsed => exact hstay
    | missing => exact hstay
    | unspawned => exact hstay
    | failed => exact hstay
    | @died c x fromTemplate _ m hq ht hres =>
      cases fromTemplate with
      | false => exact hstay
      | true =>
        obtain ⟨hkill, hdisable⟩ := hk.died rfl hq (ht.sound hs).1 (h.target hk ht) hres
        refine ⟨fun {k entry} hl => ?_, fun ht => ?_⟩
        · have hmap : (s.streams.mapVals (killTemplated m)).lookup k = some entry := hl
          rw [Finmap.lookup_mapVals, Option.map_eq_some_iff] at hmap
          obtain ⟨⟨y, fromTemplate⟩, hy, rfl⟩ := hmap
          cases fromTemplate with
          | true => exact hkill (hs.stream hy).1 (h.stream hy)
          | false => exact hstay.stream hy
        · obtain ⟨config, hc, rfl⟩ := Option.map_eq_some_iff.mp ht
          exact hdisable (h.template hc)
    | crashed _ ht => exact hstay.insert (hk.stay (h.target hk ht))
    | done hq ht hres =>
      exact hstay.insert (hk.done rfl hq (ht.sound hs).1 hcalls.symm (h.target hk ht) hres)

end All

namespace Sound

/-- Every stream of a session is sound and has its SSRC, and the template is valid: each operation
keeps both. -/
theorem keeps (s : Session T) (op : SessionOp T) :
    Keeps s op (fun k entry => LibSrtp.Sound entry.1 ∧ (base entry.1).ssrc = k)
      (fun k entry => LibSrtp.Sound entry.1 ∧ (base entry.1).ssrc = k) StreamConfig.Valid
      StreamConfig.Valid where
  stay hx := hx
  stayTemplate hv := hv
  spawn hv hnew := ⟨.new hv hnew, ssrc_new hnew⟩
  setTemplate _ hv := StreamConfig.valid_of_validate hv
  build _ hv hnew := ⟨.new (StreamConfig.valid_of_validate hv) hnew, ssrc_new hnew⟩
  update _ _ hv _ hx := updated hx hv _
  direct _ _ hx := ⟨hx.1.directed _, (ssrc_step hx.1.inRange (.direct _)).trans hx.2⟩
  done _ _ _ _ hx _ := ⟨hx.1.step (.call _), (ssrc_step hx.1.inRange (.call _)).trans hx.2⟩
  died _ _ _ _ _ :=
    ⟨fun _ hx => ⟨hx.1.killed _, (ssrc_step hx.1.inRange (.kill _)).trans hx.2⟩,
      fun hv => hv.disabled _⟩

/-- Every session operation keeps a session sound. -/
theorem step (hs : s.Sound) (op : SessionOp T) : (sessionStep s op).2.Sound := by
  have hall : s.All (fun k entry => LibSrtp.Sound entry.1 ∧ (base entry.1).ssrc = k)
      StreamConfig.Valid := ⟨fun hl => hs.stream hl, hs.template⟩
  have hstep := hall.step hs (keeps s op)
  exact ⟨fun hl => hstep.stream hl, hstep.template⟩

theorem run (hs : s.Sound) {es : List (SessionEvent T)} {s' : Session T}
    (ht : Trace sessionStep s es s') : s'.Sound := ht.invariant hs fun _ op hs => hs.step op

end Sound

theorem Reachable.sound (h : s.Reachable) : s.Sound := by
  obtain ⟨es, ht⟩ := h
  exact Sound.new.run ht

end Session

end LibSrtp
