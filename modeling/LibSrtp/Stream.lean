import LibSrtp.Config
import LibSrtp.Replay
import LibSrtp.Transform
import LibSrtp.Support.Finmap

/-!
# Streams

`SendStream` and `RecvStream` as the library computes them. Each method answers with the stream it
leaves behind, also when it fails, and with the key limit handler calls it made.
-/

namespace LibSrtp

open Exec

/-- `MkiIndexedTransform` -/
abbrev MkiIndexedTransform := Finmap fun _ : Mki => Transform × KeysLifetime

/-- `BaseStream` -/
structure BaseStream where
  ssrc : UInt32
  transforms : MkiIndexedTransform
  mkiLen : Nat
  rtpIndex : RtpReplayDb
  keyLimitHandler : Option KeyLimitHandler
  allowSendRepeat : Bool

/-- `SendStream` -/
structure SendStream where
  base : BaseStream
  rtcpIndex : Nat

/-- `RecvStream` -/
structure RecvStream where
  base : BaseStream
  rtcpIndex : RtcpReplayDb
  rtpTagLen : Nat
  rtcpTagLen : Nat

variable [Crates]

/-! ## Transforms of a configuration -/

/-- The transform of one master key. -/
def newTransform (config : StreamConfig) (key : MasterKey) : Res Transform :=
  match config.rtpProfile with
  | .aeadAes128Gcm | .aeadAes256Gcm => do
    .ok (.aesGcm (← AesGcm.new key.key key.salt key.mki config.rtpProfile config.rtcpProfile))
  -- this module also provides the null cipher
  | _ => do
    .ok (.aesCmSha1
      (← AesCmSha1.new key.key key.salt key.mki config.rtpProfile config.rtcpProfile))

/-- One turn of the loop of `getTransforms`. -/
def insertTransform (config : StreamConfig) (transforms : MkiIndexedTransform) (key : MasterKey) :
    Res MkiIndexedTransform := do
  let transform ← newTransform config key
  .ok (transforms.insert key.mki (transform, key.lifetime))

def getTransforms (config : StreamConfig) : Res MkiIndexedTransform :=
  config.keys.foldlM (insertTransform config) ∅

/-! ## Base stream -/

namespace BaseStream

def new (ssrc : UInt32) (config : StreamConfig) (handler : Option KeyLimitHandler) :
    Res BaseStream := do
  let transforms ← getTransforms config
  let first ← index config.keys 0
  .ok { ssrc, transforms
        mkiLen := (mkiBytes first.mki).length
        rtpIndex := .new config.replayWindowSize
        keyLimitHandler := handler
        allowSendRepeat := config.allowSendRepeat }

/-- A configuration whose first key has this MKI may update a stream with MKIs of `mkiLen`
bytes. -/
def compatibleMki (mkiLen : Nat) : Mki → Bool
  | none => decide (¬ mkiLen > 0)
  | some mki => decide (mki.length = mkiLen)

omit [Crates] in
/-- The loop of `update`, which visits the new transforms in the order `order` of their MKIs: an
unknown MKI is added, a known one must have the same transform and keeps its lives. -/
def mergeTransforms (newTransforms : MkiIndexedTransform) :
    List Mki → MkiIndexedTransform → Res Unit × MkiIndexedTransform
  | [], transforms => (.ok (), transforms)
  | mki :: order, transforms =>
    match newTransforms.lookup mki with
    | none => mergeTransforms newTransforms order transforms
    | some (newTransform, lives) =>
      match transforms.lookup mki with
      | none =>
        mergeTransforms newTransforms order (transforms.insert mki (newTransform, lives))
      | some (transform, _) =>
        if ¬ newTransform.equals transform then
          (fail .invalidProfile, transforms)
        else
          mergeTransforms newTransforms order transforms

/-- `order` is the order in which the hash map of the new transforms is walked. -/
def update (b : BaseStream) (config : StreamConfig) (order : List Mki) : Answer BaseStream Unit :=
  match (index config.keys 0 : Res MasterKey) with
  | .error e => ⟨.error e, b, []⟩
  | .ok first =>
    if ¬ compatibleMki b.mkiLen first.mki then
      ⟨fail .invalidProfile, b, []⟩
    else
      match getTransforms config with
      | .error e => ⟨.error e, b, []⟩
      | .ok newTransforms =>
        match mergeTransforms newTransforms order b.transforms with
        | (.error e, transforms) => ⟨.error e, { b with transforms := transforms }, []⟩
        | (.ok (), transforms) =>
          ⟨.ok (), { b with
            transforms := transforms
            rtpIndex := b.rtpIndex.setWindowSize config.replayWindowSize
            allowSendRepeat := config.allowSendRepeat }, []⟩

omit [Crates] in
def getRoc (b : BaseStream) : UInt32 := b.rtpIndex.getRoc

omit [Crates] in
/-- The handler is called at the soft limit and below; a key without lives is an error. -/
def checkKeyLimit (b : BaseStream) (isRtp : Bool) (mki : Mki) : Res Unit × List HandlerCall :=
  match b.transforms.lookup mki with
  | none => (fail .invalidMki, [])
  | some (_, keysLifetime) =>
    let lifetime := keysLifetime.lives isRtp
    let error := SrtpError.keyLimit isRtp (decide (lifetime = 0)) mki b.ssrc
    let calls :=
      if lifetime ≤ keysLifetime.limit isRtp then
        b.keyLimitHandler.toList.map fun handler => ⟨handler, error⟩
      else []
    (if lifetime = 0 then fail (.keyLimit isRtp true mki b.ssrc) else .ok (), calls)

omit [Crates] in
def killSessionKeys (b : BaseStream) (mki : Mki) : Answer BaseStream Unit :=
  match b.transforms.lookup mki with
  | none => ⟨fail .invalidMki, b, []⟩
  | some (transform, keysLifetime) =>
    ⟨.ok (), { b with transforms := b.transforms.insert mki (transform, keysLifetime.killed) }, []⟩

omit [Crates] in
/-- What the four packet operations do between finding the MKI and updating the index: check the
lives of the key, apply its transform, and take one life. -/
def useKey (b : BaseStream) (isRtp : Bool) (mki : Mki) (apply : Transform → Res Bytes) :
    Answer BaseStream Bytes :=
  match b.checkKeyLimit isRtp mki with
  | (.error e, calls) => ⟨.error e, b, calls⟩
  | (.ok (), calls) =>
    match b.transforms.lookup mki with
    | none => ⟨fail .invalidMki, b, calls⟩
    | some (transform, keysLifetime) =>
      match apply transform with
      | .error e => ⟨.error e, b, calls⟩
      | .ok bytes =>
        match keysLifetime.decrease isRtp with
        | .error e => ⟨.error e, b, calls⟩
        | .ok keysLifetime =>
          ⟨.ok bytes, { b with transforms := b.transforms.insert mki (transform, keysLifetime) },
            calls⟩

end BaseStream

/-- `(index >> 16) as u32` -/
def rocOfIndex (index : Nat) : UInt32 := UInt32.ofNat (index >>> 16)

omit [Crates] in
theorem toNat_rocOfIndex {index : Nat} (h : index < 2 ^ 48) :
    (rocOfIndex index).toNat = index / 2 ^ 16 := by
  unfold rocOfIndex
  rw [Nat.shiftRight_eq_div_pow, UInt32.toNat_ofNat_of_lt' (Nat.div_lt_of_lt_mul h)]

/-! ## Sender -/

namespace SendStream

def new (ssrc : UInt32) (config : StreamConfig) (handler : Option KeyLimitHandler) :
    Res SendStream := do
  .ok { base := ← BaseStream.new ssrc config handler, rtcpIndex := 0 }

def update (s : SendStream) (config : StreamConfig) (order : List Mki) : Answer SendStream Unit :=
  let r := s.base.update config order
  ⟨r.result, { s with base := r.state }, r.calls⟩

omit [Crates] in
def killSessionKeys (s : SendStream) (mki : Mki) : Answer SendStream Unit :=
  let r := s.base.killSessionKeys mki
  ⟨r.result, { s with base := r.state }, r.calls⟩

/-- The replay check of `rtpProtect`: the index, if it may be used. -/
def rtpIndex (s : SendStream) (header : RtpHeader) : Res Nat := do
  let index ← s.base.rtpIndex.estimateIndex header.seqNum
  if ¬ s.base.allowSendRepeat then do
    let seen ← s.base.rtpIndex.seenIndex index
    if seen then fail .invalidPacketIndex else .ok index
  else
    .ok index

def rtpProtect (s : SendStream) (header : RtpHeader) (plain : Bytes) (mki : Mki) :
    Answer SendStream Bytes :=
  match s.rtpIndex header with
  | .error e => ⟨.error e, s, []⟩
  | .ok index =>
    let r := s.base.useKey true mki fun transform =>
      transform.rtpProtect plain header (rocOfIndex index)
    match r.result with
    | .error e => ⟨.error e, { s with base := r.state }, r.calls⟩
    | .ok cipher =>
      match r.state.rtpIndex.addIndex index with
      | .error e => ⟨.error e, { s with base := r.state }, r.calls⟩
      | .ok rtpIndex => ⟨.ok cipher, { s with base := { r.state with rtpIndex } }, r.calls⟩

def rtcpProtect (s : SendStream) (header : RtcpHeader) (plain : Bytes) (mki : Mki) :
    Answer SendStream Bytes :=
  let r := s.base.useKey false mki fun transform =>
    transform.rtcpProtect plain header (UInt32.ofNat s.rtcpIndex)
  match r.result with
  | .error e => ⟨.error e, { s with base := r.state }, r.calls⟩
  | .ok res =>
    match (add 32 s.rtcpIndex 1 : Res Nat) with
    | .error e => ⟨.error e, { s with base := r.state }, r.calls⟩
    | .ok next => ⟨.ok res, { base := r.state, rtcpIndex := next &&& 0x7fffffff }, r.calls⟩

end SendStream

/-! ## Receiver -/

namespace RecvStream

def new (ssrc : UInt32) (config : StreamConfig) (handler : Option KeyLimitHandler) :
    Res RecvStream := do
  .ok { base := ← BaseStream.new ssrc config handler
        rtcpIndex := .new config.replayWindowSize
        rtpTagLen := config.rtpProfile.tagLen
        rtcpTagLen := config.rtcpProfile.tagLen }

def update (s : RecvStream) (config : StreamConfig) (order : List Mki) : Answer RecvStream Unit :=
  let r := s.base.update config order
  match r.result with
  | .error e => ⟨.error e, { s with base := r.state }, r.calls⟩
  | .ok () =>
    ⟨.ok (), { s with
      base := r.state
      rtcpIndex := s.rtcpIndex.setWindowSize config.replayWindowSize }, r.calls⟩

omit [Crates] in
def killSessionKeys (s : RecvStream) (mki : Mki) : Answer RecvStream Unit :=
  let r := s.base.killSessionKeys mki
  ⟨r.result, { s with base := r.state }, r.calls⟩

/-- Extract the MKI from an encrypted packet. -/
def getMki (s : RecvStream) (cipher : Bytes) (headerLen : Nat) (isRtp : Bool) : Res Mki := do
  let mkiLen := s.base.mkiLen
  if mkiLen = 0 then
    .ok none
  else do
    let tagLen := if isRtp then s.rtpTagLen else s.rtcpTagLen
    if cipher.length < headerLen + mkiLen + tagLen then
      fail .invalidPacket
    else do
      let tagPos ← sub cipher.length tagLen
      .ok (some (← slice cipher (← sub tagPos mkiLen) tagPos))

omit [Crates] in
/-- A ROC may be forced, but not to a lower value. -/
def setRoc (s : RecvStream) (roc : UInt32) : Answer RecvStream Unit :=
  if roc < s.base.getRoc then
    ⟨fail .invalidPacketIndex, s, []⟩
  else
    ⟨.ok (), { s with base := { s.base with rtpIndex := s.base.rtpIndex.setRoc roc } }, []⟩

/-- The replay check of `rtpUnprotect` and the MKI of the packet. -/
def rtpIndexMki (s : RecvStream) (header : RtpHeader) (cipher : Bytes) : Res (Nat × Mki) := do
  let index ← s.base.rtpIndex.estimateIndex header.seqNum
  let seen ← s.base.rtpIndex.seenIndex index
  if seen then
    fail .invalidPacketIndex
  else
    .ok (index, ← s.getMki cipher header.len true)

def rtpUnprotect (s : RecvStream) (header : RtpHeader) (cipher : Bytes) :
    Answer RecvStream Bytes :=
  match s.rtpIndexMki header cipher with
  | .error e => ⟨.error e, s, []⟩
  | .ok (index, mki) =>
    let r := s.base.useKey true mki fun transform =>
      transform.rtpUnprotect cipher header (rocOfIndex index)
    match r.result with
    | .error e => ⟨.error e, { s with base := r.state }, r.calls⟩
    | .ok res =>
      match r.state.rtpIndex.addIndex index with
      | .error e => ⟨.error e, { s with base := r.state }, r.calls⟩
      | .ok rtpIndex => ⟨.ok res, { s with base := { r.state with rtpIndex } }, r.calls⟩

/-- The RTCP trailer: index (4 bytes), MKI, authentication tag. -/
def rtcpTrailerLen (s : RecvStream) : Nat := 4 + s.rtcpTagLen + s.base.mkiLen

/-- The index an RTCP packet carries, without the E flag. -/
def rtcpPacketIndex (s : RecvStream) (cipher : Bytes) : Res Nat := do
  if cipher.length < RtcpHeader.len + s.rtcpTrailerLen then
    fail .invalidPacket
  else do
    let pos ← sub cipher.length s.rtcpTrailerLen
    let b0 ← index cipher pos
    let b1 ← index cipher (pos + 1)
    let b2 ← index cipher (pos + 2)
    let b3 ← index cipher (pos + 3)
    .ok (u32FromBeBytes ⟨[b0, b1, b2, b3], rfl⟩ &&& 0x7fffffff).toNat

/-- The replay check of `rtcpUnprotect` and the MKI of the packet. -/
def rtcpIndexMki (s : RecvStream) (cipher : Bytes) : Res (Nat × Mki) := do
  let index ← s.rtcpPacketIndex cipher
  let seen ← s.rtcpIndex.seenIndex index
  if seen then
    fail .invalidPacketIndex
  else
    .ok (index, ← s.getMki cipher RtcpHeader.len false)

def rtcpUnprotect (s : RecvStream) (header : RtcpHeader) (cipher : Bytes) :
    Answer RecvStream Bytes :=
  match s.rtcpIndexMki cipher with
  | .error e => ⟨.error e, s, []⟩
  | .ok (index, mki) =>
    let r := s.base.useKey false mki fun transform =>
      transform.rtcpUnprotect cipher header (UInt32.ofNat index) s.rtcpTrailerLen
    match r.result with
    | .error e => ⟨.error e, { s with base := r.state }, r.calls⟩
    | .ok res =>
      match s.rtcpIndex.addIndex index with
      | .error e => ⟨.error e, { s with base := r.state }, r.calls⟩
      | .ok rtcpIndex => ⟨.ok res, { s with base := r.state, rtcpIndex }, r.calls⟩

end RecvStream

/-! ## Stream interface -/

/-- `StreamInterface`. The last argument of `update` is the order in which the hash map of the new
transforms is walked. -/
class StreamInterface (T : Type) where
  new : UInt32 → StreamConfig → Option KeyLimitHandler → Res T
  update : T → StreamConfig → List Mki → Answer T Unit
  getRoc : T → UInt32
  killSessionKeys : T → Mki → Answer T Unit

instance : StreamInterface SendStream where
  new := SendStream.new
  update := SendStream.update
  getRoc s := s.base.getRoc
  killSessionKeys := SendStream.killSessionKeys

instance : StreamInterface RecvStream where
  new := RecvStream.new
  update := RecvStream.update
  getRoc s := s.base.getRoc
  killSessionKeys := RecvStream.killSessionKeys

end LibSrtp
