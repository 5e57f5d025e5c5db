import LibSrtp.Stream

/-!
# Sessions

A session as the library computes it: streams by SSRC, and the template new streams are spawned
from. Hash maps are walked in an order the caller of `addStream` does not choose; here it is an
argument. The loop that kills the keys of the template walks one too, but each turn touches its own
stream only and its result is dropped, so no order shows there.
-/

namespace LibSrtp

open Exec

/-- The streams of a session by SSRC, with a flag set on those spawned from the template. -/
abbrev Streams (T : Type) := Finmap fun _ : UInt32 => T × Bool

/-- `Session` -/
structure Session (T : Type) where
  streams : Streams T
  templateConfig : Option StreamConfig
  keyLimitHandler : Option KeyLimitHandler

namespace Session

variable {T : Type}

def new : Session T := ⟨∅, none, none⟩

/-- The handler must be set before any stream is added. -/
def setKeyLimitHandler (s : Session T)
    (handler : KeyLimitHandler) : Answer (Session T) Unit :=
  if ¬ s.streams.keys = ∅ then
    ⟨fail .contextNotReady, s, []⟩
  else
    ⟨.ok (), { s with keyLimitHandler := some handler }, []⟩

variable [StreamInterface T]

/-- The loop of `addStream` over the streams spawned from the template, in the order
`streamOrder`. -/
def updateTemplated (config : StreamConfig) (keyOrder : UInt32 → List Mki) :
    List UInt32 → Streams T → Res Unit × Streams T
  | [], streams => (.ok (), streams)
  | ssrc :: streamOrder, streams =>
    match streams.lookup ssrc with
    | some (stream, true) =>
      let r := StreamInterface.update stream config (keyOrder ssrc)
      let streams := streams.insert ssrc (r.state, true)
      match r.result with
      | .error e => (.error e, streams)
      | .ok () => updateTemplated config keyOrder streamOrder streams
    | _ => updateTemplated config keyOrder streamOrder streams

/-- Add a stream, or update it. Without SSRC this is the template. -/
def addStream (s : Session T) (ssrc : Option UInt32) (config : StreamConfig)
    (streamOrder : List UInt32) (keyOrder : UInt32 → List Mki) : Answer (Session T) Unit :=
  match config.validate with
  | .error e => ⟨.error e, s, []⟩
  | .ok () =>
    match ssrc with
    | none =>
      match updateTemplated config keyOrder streamOrder s.streams with
      | (.error e, streams) => ⟨.error e, { s with streams }, []⟩
      | (.ok (), streams) => ⟨.ok (), { s with streams, templateConfig := some config }, []⟩
    | some ssrc =>
      match s.streams.lookup ssrc with
      | none =>
        match StreamInterface.new ssrc config s.keyLimitHandler with
        | .error e => ⟨.error e, s, []⟩
        | .ok stream => ⟨.ok (), { s with streams := s.streams.insert ssrc (stream, false) }, []⟩
      | some (stream, fromTemplate) =>
        let r := StreamInterface.update stream config (keyOrder ssrc)
        match r.result with
        | .error e =>
          ⟨.error e, { s with streams := s.streams.insert ssrc (r.state, fromTemplate) }, r.calls⟩
        | .ok () =>
          ⟨.ok (), { s with streams := s.streams.insert ssrc (r.state, false) }, r.calls⟩

omit [StreamInterface T] in
def removeStream (s : Session T) (ssrc : UInt32) : Answer (Session T) Unit :=
  match s.streams.lookup ssrc with
  | none => ⟨fail .streamNotFound, s, []⟩
  | some _ => ⟨.ok (), { s with streams := s.streams.erase ssrc }, []⟩

def getRoc (s : Session T) (ssrc : UInt32) : Res UInt32 := do
  let (stream, _) ← okOr (s.streams.lookup ssrc) .streamNotFound
  .ok (StreamInterface.getRoc stream)

/-- The stream of an SSRC, whether it comes from the template, and whether it was just spawned. -/
def getStream (s : Session T) (ssrc : UInt32) : Res (T × Bool × Bool) × Session T :=
  match s.streams.lookup ssrc with
  | some (stream, fromTemplate) => (.ok (stream, fromTemplate, false), s)
  | none =>
    match s.templateConfig with
    | none => (fail .streamNotFound, s)
    | some templateConfig =>
      match StreamInterface.new ssrc templateConfig s.keyLimitHandler with
      | .error e => (.error e, s)
      | .ok stream =>
        (.ok (stream, true, true), { s with streams := s.streams.insert ssrc (stream, true) })

/-- Kill the keys of one stream, if it comes from the template. -/
def killTemplated (mki : Mki) : T × Bool → T × Bool
  | (stream, true) => ((StreamInterface.killSessionKeys stream mki).state, true)
  | (stream, false) => (stream, false)

/-- A stream that was just spawned is removed again; a hard limit on a stream of the template kills
the key on all of them and in the template. -/
def handleStreamError (s : Session T) (e : SrtpError) (ssrc : UInt32)
    (fromTemplate pending : Bool) : Session T :=
  let s := if pending then (s.removeStream ssrc).state else s
  match fromTemplate, e with
  | true, .keyLimit _ true mki _ =>
    { s with
      streams := s.streams.mapVals (killTemplated mki)
      templateConfig := s.templateConfig.map fun cfg =>
        (cfg.setKeysLifetimeMki 0 0 0 0 mki).state }
  | _, _ => s

/-- What the four packet operations of a session do once the header is parsed: find or spawn the
stream, run `op` on it in place, and clean up when it fails. -/
def onStream (s : Session T) (ssrc : UInt32) (op : T → Answer T Bytes) :
    Answer (Session T) Bytes :=
  match s.getStream ssrc with
  | (.error e, s) => ⟨.error e, s, []⟩
  | (.ok (stream, fromTemplate, pending), s) =>
    let r := op stream
    let s := { s with streams := s.streams.insert ssrc (r.state, fromTemplate) }
    match r.result with
    | .ok bytes => ⟨.ok bytes, s, r.calls⟩
    | .error (.error e) =>
      ⟨.error (.error e), s.handleStreamError e ssrc fromTemplate pending, r.calls⟩
    | .error .panic => ⟨.error .panic, s, r.calls⟩

end Session

variable [Crates]

/-! ## Sender -/

abbrev SendSession := Session SendStream

namespace SendSession

def rtpProtectMki (s : SendSession) (plain : Bytes) (mki : Mki) : Answer SendSession Bytes :=
  match RtpHeader.new plain with
  | .error e => ⟨.error e, s, []⟩
  | .ok header => s.onStream header.ssrc fun stream => stream.rtpProtect header plain mki

def rtpProtect (s : SendSession) (plain : Bytes) : Answer SendSession Bytes :=
  rtpProtectMki s plain none

def rtcpProtectMki (s : SendSession) (plain : Bytes) (mki : Mki) : Answer SendSession Bytes :=
  match RtcpHeader.new plain with
  | .error e => ⟨.error e, s, []⟩
  | .ok header => s.onStream header.ssrc fun stream => stream.rtcpProtect header plain mki

def rtcpProtect (s : SendSession) (plain : Bytes) : Answer SendSession Bytes :=
  rtcpProtectMki s plain none

end SendSession

/-! ## Receiver -/

abbrev RecvSession := Session RecvStream

namespace RecvSession

omit [Crates] in
def setRoc (s : RecvSession) (ssrc : UInt32) (roc : UInt32) : Answer RecvSession Unit :=
  match s.streams.lookup ssrc with
  | none => ⟨fail .streamNotFound, s, []⟩
  | some (stream, fromTemplate) =>
    let r := stream.setRoc roc
    ⟨r.result, { s with streams := s.streams.insert ssrc (r.state, fromTemplate) }, r.calls⟩

def rtpUnprotect (s : RecvSession) (cipher : Bytes) : Answer RecvSession Bytes :=
  match RtpHeader.new cipher with
  | .error e => ⟨.error e, s, []⟩
  | .ok header => s.onStream header.ssrc fun stream => stream.rtpUnprotect header cipher

def rtcpUnprotect (s : RecvSession) (cipher : Bytes) : Answer RecvSession Bytes :=
  match RtcpHeader.new cipher with
  | .error e => ⟨.error e, s, []⟩
  | .ok header => s.onStream header.ssrc fun stream => stream.rtcpUnprotect header cipher

end RecvSession

end LibSrtp
