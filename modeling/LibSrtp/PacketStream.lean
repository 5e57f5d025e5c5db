import LibSrtp.KeyTable

/-!
# Senders and receivers alike

The four packet operations follow one pattern: find the index and the MKI (`locate`), use the key,
and advance the counters (`advance`). `PacketStream` names the parts, and `LawfulStream` says how
they fit, once for both kinds of stream:

* `called`: how a packet operation can end, and what it leaves;
* `updated`: how an update can end, and what it leaves.

What only depends on the keys of a stream is proved from these two, for senders and receivers at
once.
-/

namespace LibSrtp

open Exec

/-- The limit of the RTP index: an estimate with the highest ROC may be raised by one. -/
def rtpIndexLimit : Nat := 2 ^ 48 + 2 ^ 16

/-- A packet operation of a sender, on a packet with this header. -/
inductive SendCall where
  | rtpProtect (header : RtpHeader) (plain : Bytes) (mki : Mki)
      (parsed : RtpHeader.new plain = .ok header)
  | rtcpProtect (header : RtcpHeader) (plain : Bytes) (mki : Mki)
      (parsed : RtcpHeader.new plain = .ok header)

/-- A packet operation of a receiver, on a packet with this header. -/
inductive RecvCall where
  | rtpUnprotect (header : RtpHeader) (cipher : Bytes) (parsed : RtpHeader.new cipher = .ok header)
  | rtcpUnprotect (header : RtcpHeader) (cipher : Bytes)
      (parsed : RtcpHeader.new cipher = .ok header)

/-- A packet operation of a sending session. -/
inductive SendRequest where
  | rtpProtectMki (plain : Bytes) (mki : Mki)
  | rtcpProtectMki (plain : Bytes) (mki : Mki)

/-- A packet operation of a receiving session. -/
inductive RecvRequest where
  | rtpUnprotect (cipher : Bytes)
  | rtcpUnprotect (cipher : Bytes)

/-- The parts of a kind of stream. -/
class PacketStream (T : Type) extends StreamInterface T where
  /-- a packet operation with its arguments -/
  Call : Type
  packet : Call → Bytes
  ssrc : Call → UInt32
  /-- the same before the header is parsed -/
  Request : Type
  bytes : Request → Bytes
  parse : Request → Res Call
  isRtp : Call → Bool
  base : T → BaseStream
  withTransforms : T → MkiIndexedTransform → T
  /-- the MKI of an operation: an argument, or found in the packet -/
  mki : T → Call → Res Mki
  /-- the index and the MKI, if the packet may be processed -/
  locate : T → Call → Res (Nat × Mki)
  /-- the work of the transform on a packet with this index -/
  apply : T → Call → Nat → Transform → Res Bytes
  /-- the stream with its counters past a packet with this index -/
  advance : T → Call → Nat → T
  call : T → Call → Answer T Bytes
  /-- the stream with the settings of a configuration other than its keys -/
  resize : T → StreamConfig → T
  /-- an operation on the counters -/
  Direct : Type
  direct : T → Direct → Answer T Unit
  /-- the counters are in range -/
  InRange : T → Prop

variable [Crates]

namespace SendStream

omit [Crates] in
def locate (s : SendStream) : SendCall → Res (Nat × Mki)
  | .rtpProtect header _ mki _ => do .ok (← s.rtpIndex header, mki)
  | .rtcpProtect _ _ mki _ => .ok (s.rtcpIndex, mki)

def advance (s : SendStream) : SendCall → Nat → SendStream
  | .rtpProtect .., index => { s with base := { s.base with rtpIndex := s.base.rtpIndex.added index } }
  | .rtcpProtect .., index => { s with rtcpIndex := (index + 1) % rtcpRollback }

instance : PacketStream SendStream where
  Call := SendCall
  packet
    | .rtpProtect _ plain _ _ => plain
    | .rtcpProtect _ plain _ _ => plain
  ssrc
    | .rtpProtect header .. => header.ssrc
    | .rtcpProtect header .. => header.ssrc
  Request := SendRequest
  bytes
    | .rtpProtectMki plain _ => plain
    | .rtcpProtectMki plain _ => plain
  parse
    | .rtpProtectMki plain mki =>
      pmap (RtpHeader.new plain) fun header parsed => .rtpProtect header plain mki parsed
    | .rtcpProtectMki plain mki =>
      pmap (RtcpHeader.new plain) fun header parsed => .rtcpProtect header plain mki parsed
  isRtp
    | .rtpProtect .. => true
    | .rtcpProtect .. => false
  base := SendStream.base
  withTransforms s transforms := { s with base := { s.base with transforms } }
  mki _
    | .rtpProtect _ _ mki _ => .ok mki
    | .rtcpProtect _ _ mki _ => .ok mki
  locate
  apply _
    | .rtpProtect header plain _ _, index => Transform.rtpProtect plain header (rocOfIndex index)
    | .rtcpProtect header plain _ _, index =>
      Transform.rtcpProtect plain header (UInt32.ofNat index)
  advance
  call s
    | .rtpProtect header plain mki _ => s.rtpProtect header plain mki
    | .rtcpProtect header plain mki _ => s.rtcpProtect header plain mki
  resize s config := { s with base := { s.base with
    rtpIndex := s.base.rtpIndex.setWindowSize config.replayWindowSize
    allowSendRepeat := config.allowSendRepeat } }
  Direct := Empty
  direct _ := Empty.elim
  InRange s := s.base.rtpIndex.index < rtpIndexLimit ∧ s.rtcpIndex < rtcpRollback

end SendStream

namespace RecvStream

def locate (s : RecvStream) : RecvCall → Res (Nat × Mki)
  | .rtpUnprotect header cipher _ => s.rtpIndexMki header cipher
  | .rtcpUnprotect _ cipher _ => s.rtcpIndexMki cipher

def advance (s : RecvStream) : RecvCall → Nat → RecvStream
  | .rtpUnprotect .., index =>
    { s with base := { s.base with rtpIndex := s.base.rtpIndex.added index } }
  | .rtcpUnprotect .., index => { s with rtcpIndex := s.rtcpIndex.added index }

instance : PacketStream RecvStream where
  Call := RecvCall
  packet
    | .rtpUnprotect _ cipher _ => cipher
    | .rtcpUnprotect _ cipher _ => cipher
  ssrc
    | .rtpUnprotect header .. => header.ssrc
    | .rtcpUnprotect header .. => header.ssrc
  Request := RecvRequest
  bytes
    | .rtpUnprotect cipher => cipher
    | .rtcpUnprotect cipher => cipher
  parse
    | .rtpUnprotect cipher =>
      pmap (RtpHeader.new cipher) fun header parsed => .rtpUnprotect header cipher parsed
    | .rtcpUnprotect cipher =>
      pmap (RtcpHeader.new cipher) fun header parsed => .rtcpUnprotect header cipher parsed
  isRtp
    | .rtpUnprotect .. => true
    | .rtcpUnprotect .. => false
  base := RecvStream.base
  withTransforms s transforms := { s with base := { s.base with transforms } }
  mki s
    | .rtpUnprotect header cipher _ => s.getMki cipher header.len true
    | .rtcpUnprotect _ cipher _ => s.getMki cipher RtcpHeader.len false
  locate
  apply s
    | .rtpUnprotect header cipher _, index =>
      Transform.rtpUnprotect cipher header (rocOfIndex index)
    | .rtcpUnprotect header cipher _, index =>
      Transform.rtcpUnprotect cipher header (UInt32.ofNat index) s.rtcpTrailerLen
  advance
  call s
    | .rtpUnprotect header cipher _ => s.rtpUnprotect header cipher
    | .rtcpUnprotect header cipher _ => s.rtcpUnprotect header cipher
  resize s config := { s with
    base := { s.base with
      rtpIndex := s.base.rtpIndex.setWindowSize config.replayWindowSize
      allowSendRepeat := config.allowSendRepeat }
    rtcpIndex := s.rtcpIndex.setWindowSize config.replayWindowSize }
  Direct := UInt32
  direct := RecvStream.setRoc
  InRange s := s.base.rtpIndex.index < rtpIndexLimit ∧ s.rtcpIndex.index < rtcpRollback

end RecvStream

open PacketStream

/-! ## What the operations do -/

/-- How a packet operation can end. -/
inductive Called {T : Type} [PacketStream T] (s : T) (c : Call T) : Answer T Bytes → Prop
  | rejected {f : Fault SrtpError} : locate s c = .error f → Called s c ⟨.error f, s, []⟩
  | unknown {i : Nat} {m : Mki} : locate s c = .ok (i, m) → (base s).transforms.lookup m = none →
      Called s c ⟨fail .invalidMki, s, []⟩
  | dead {i : Nat} {m : Mki} {t : Transform} {l : KeysLifetime} : locate s c = .ok (i, m) →
      (base s).transforms.lookup m = some (t, l) → l.lives (isRtp c) = 0 →
      Called s c ⟨fail (.keyLimit (isRtp c) true m (base s).ssrc), s,
        (base s).alerts (isRtp c) m l⟩
  | refused {i : Nat} {m : Mki} {t : Transform} {l : KeysLifetime} {f : Fault SrtpError} :
      locate s c = .ok (i, m) → (base s).transforms.lookup m = some (t, l) → l.lives (isRtp c) ≠ 0 →
      apply s c i t = .error f → Called s c ⟨.error f, s, (base s).alerts (isRtp c) m l⟩
  | done {i : Nat} {m : Mki} {t : Transform} {l : KeysLifetime} {bytes : Bytes} :
      locate s c = .ok (i, m) → (base s).transforms.lookup m = some (t, l) → l.lives (isRtp c) ≠ 0 →
      apply s c i t = .ok bytes →
      Called s c ⟨.ok bytes,
        withTransforms (advance s c i) ((base s).transforms.insert m (t, l.spent (isRtp c))),
        (base s).alerts (isRtp c) m l⟩

/-- How an update can end. -/
inductive Updated {T : Type} [PacketStream T] (s : T) (config : StreamConfig) (order : List Mki) :
    Answer T Unit → Prop
  | incompatible : ¬ (base s).Compatible config → Updated s config order ⟨fail .invalidProfile, s, []⟩
  | unbuildable {f : Fault SrtpError} : (base s).Compatible config → getTransforms config = .error f →
      Updated s config order ⟨.error f, s, []⟩
  | torn {table transforms : MkiIndexedTransform} : (base s).Compatible config →
      getTransforms config = .ok table →
      BaseStream.mergeTransforms table order (base s).transforms =
        (fail .invalidProfile, transforms) →
      Updated s config order ⟨fail .invalidProfile, withTransforms s transforms, []⟩
  | merged {table transforms : MkiIndexedTransform} : (base s).Compatible config →
      getTransforms config = .ok table →
      BaseStream.mergeTransforms table order (base s).transforms = (.ok (), transforms) →
      Updated s config order ⟨.ok (), resize (withTransforms s transforms) config, []⟩

/-- How the parts of a kind of stream fit. -/
class LawfulStream (T : Type) [PacketStream T] : Prop where
  base_withTransforms (s : T) (tr : MkiIndexedTransform) :
    base (withTransforms s tr) = { base s with transforms := tr }
  withTransforms_base (s : T) : withTransforms s (base s).transforms = s
  withTransforms_twice (s : T) (tr tr' : MkiIndexedTransform) :
    withTransforms (withTransforms s tr) tr' = withTransforms s tr'
  locate_withTransforms (s : T) (tr : MkiIndexedTransform) (c : Call T) :
    locate (withTransforms s tr) c = locate s c
  apply_withTransforms (s : T) (tr : MkiIndexedTransform) (c : Call T) :
    apply (withTransforms s tr) c = apply s c
  advance_withTransforms (s : T) (tr : MkiIndexedTransform) (c : Call T) (i : Nat) :
    advance (withTransforms s tr) c i = withTransforms (advance s c i) tr
  base_advance (s : T) (c : Call T) (i : Nat) :
    ∃ db, base (advance s c i) = { base s with rtpIndex := db }
  base_resize (s : T) (config : StreamConfig) :
    ∃ db, base (resize s config) =
      { base s with rtpIndex := db, allowSendRepeat := config.allowSendRepeat }
  base_direct (s : T) (d : Direct T) :
    ∃ db, base (direct s d).state = { base s with rtpIndex := db }
  parse_ok {q : Request T} {c : Call T} : parse q = .ok c → packet c = bytes q
  raises_parse (q : Request T) : Raises (· = .error .invalidPacket) (parse q)
  new_ok {ssrc : UInt32} {config : StreamConfig} {handler : Option KeyLimitHandler} {s : T} :
    StreamInterface.new ssrc config handler = .ok s →
      BaseStream.new ssrc config handler = .ok (base s) ∧ InRange s
  new_error {ssrc : UInt32} {config : StreamConfig} {handler : Option KeyLimitHandler}
    {f : Fault SrtpError} : (StreamInterface.new ssrc config handler : Res T) = .error f →
      BaseStream.new ssrc config handler = .error f
  new_withTransforms {ssrc : UInt32} {config config' : StreamConfig}
    {handler : Option KeyLimitHandler} {s : T} {tr : MkiIndexedTransform} :
    StreamInterface.new ssrc config handler = .ok s → config'.rtpProfile = config.rtpProfile →
      config'.rtcpProfile = config.rtcpProfile →
      config'.replayWindowSize = config.replayWindowSize →
      BaseStream.new ssrc config' handler = .ok { base s with transforms := tr } →
      StreamInterface.new ssrc config' handler = .ok (withTransforms s tr)
  killed_none {s : T} {m : Mki} : (base s).transforms.lookup m = none →
    StreamInterface.killSessionKeys s m = ⟨fail .invalidMki, s, []⟩
  killed_some {s : T} {m : Mki} {t : Transform} {l : KeysLifetime} :
    (base s).transforms.lookup m = some (t, l) → StreamInterface.killSessionKeys s m =
      ⟨.ok (), withTransforms s ((base s).transforms.insert m (t, l.killed)), []⟩
  called {s : T} (c : Call T) : InRange s → Called s c (call s c)
  updated (s : T) {config : StreamConfig} (order : List Mki) : config.keys ≠ [] →
    Updated s config order (StreamInterface.update s config order)
  raises_direct (s : T) (d : Direct T) : Raises OwnFault (direct s d).result
  inRange_advance {s : T} {c : Call T} {i : Nat} {m : Mki} :
    InRange s → locate s c = .ok (i, m) → InRange (advance s c i)
  inRange_withTransforms {s : T} {tr : MkiIndexedTransform} : InRange s → InRange (withTransforms s tr)
  inRange_resize {s : T} {config : StreamConfig} : InRange s → InRange (resize s config)
  inRange_direct {s : T} {d : Direct T} : InRange s → InRange (direct s d).state
  locate_mki {s : T} {c : Call T} {i : Nat} {m : Mki} : InRange s → locate s c = .ok (i, m) →
    mki s c = .ok m
  raises_locate {s : T} {c : Call T} : InRange s →
    Raises (fun f => f ≠ .panic ∧ OwnFault f) (locate s c)
  raises_apply {s : T} {c : Call T} {i : Nat} {m : Mki} {t : Transform} :
    InRange s → locate s c = .ok (i, m) → t.Keyed →
      Raises (CipherFault (packet c).length) (apply s c i t)

/-! ## The two kinds -/

omit [Crates] in
/-- The pattern of the packet operations once the index is found. -/
theorem Called.of_usedKey {T : Type} [PacketStream T] {s : T} {c : Call T} {i : Nat} {m : Mki}
    {r : Answer BaseStream Bytes} {answer : Answer T Bytes} (hlocate : locate s c = .ok (i, m))
    (hr : (base s).UsedKey (isRtp c) m (apply s c i) r)
    (herr : ∀ f, r.result = .error f → r.state = base s → answer = ⟨.error f, s, r.calls⟩)
    (hok : ∀ bytes tr, r.result = .ok bytes → r.state = { base s with transforms := tr } →
      answer = ⟨.ok bytes, withTransforms (advance s c i) tr, r.calls⟩) :
    Called s c answer := by
  cases hr with
  | unknown h => rw [herr _ rfl rfl]; exact .unknown hlocate h
  | dead h h0 => rw [herr _ rfl rfl]; exact .dead hlocate h h0
  | refused h h0 ha => rw [herr _ rfl rfl]; exact .refused hlocate h h0 ha
  | used h h0 ha => rw [hok _ _ rfl rfl]; exact .done hlocate h h0 ha

/-- The pattern of `update`. -/
theorem Updated.of_base {T : Type} [PacketStream T] {s : T} {config : StreamConfig}
    {order : List Mki} {r : Answer BaseStream Unit} {answer : Answer T Unit}
    (hr : (base s).UpdatedKeys config order r) (hself : withTransforms s (base s).transforms = s)
    (herr : ∀ f tr, r.result = .error f → r.state = { base s with transforms := tr } →
      answer = ⟨.error f, withTransforms s tr, []⟩)
    (hok : ∀ tr, r.result = .ok () → r.state = { base s with
        transforms := tr
        rtpIndex := (base s).rtpIndex.setWindowSize config.replayWindowSize
        allowSendRepeat := config.allowSendRepeat } →
      answer = ⟨.ok (), resize (withTransforms s tr) config, []⟩) :
    Updated s config order answer := by
  cases hr with
  | incompatible h => rw [herr _ (base s).transforms rfl rfl, hself]; exact .incompatible h
  | unbuildable h hg => rw [herr _ (base s).transforms rfl rfl, hself]; exact .unbuildable h hg
  | torn h hg hm => rw [herr _ _ rfl rfl]; exact .torn h hg hm
  | merged h hg hm => rw [hok _ rfl rfl]; exact .merged h hg hm

theorem Updated.calls {T : Type} [PacketStream T] {s : T} {config : StreamConfig} {order : List Mki}
    {r : Answer T Unit} (h : Updated s config order r) : r.calls = [] := by
  cases h <;> rfl

theorem Updated.raises {T : Type} [PacketStream T] {s : T} {config : StreamConfig} {order : List Mki}
    {r : Answer T Unit} (hv : config.Valid) (h : Updated s config order r) :
    Raises OwnFault r.result := by
  cases h with
  | incompatible => exact raises_fail.mpr trivial
  | unbuildable _ hf => exact raises_error.mpr (raises_getTransforms hv _ hf).ownFault
  | torn => exact raises_fail.mpr trivial
  | merged => exact raises_ok

omit [Crates] in
theorem mask_31 (n : Nat) : n &&& 0x7fffffff = n % rtcpRollback :=
  Nat.and_two_pow_sub_one_eq_mod n 31

theorem BaseStream.new_ok {ssrc : UInt32} {config : StreamConfig}
    {handler : Option KeyLimitHandler} {b : BaseStream} (h : new ssrc config handler = .ok b) :
    ∃ table first rest, getTransforms config = .ok table ∧ config.keys = first :: rest ∧
      b = { ssrc, transforms := table, mkiLen := (mkiBytes first.mki).length,
            rtpIndex := .new config.replayWindowSize, keyLimitHandler := handler,
            allowSendRepeat := config.allowSendRepeat } := by
  obtain ⟨table, htable, h⟩ := bind_eq_ok.mp h
  obtain ⟨first, hfirst, h⟩ := bind_eq_ok.mp h
  obtain rfl := Except.ok.inj h
  cases hk : config.keys with
  | nil => rw [hk] at hfirst; cases hfirst
  | cons first' rest =>
    rw [hk] at hfirst
    obtain rfl := Except.ok.inj hfirst
    exact ⟨table, first', rest, htable, rfl, rfl⟩

/-- A stream that cannot be built is refused with an error of its own. -/
theorem BaseStream.raises_new {config : StreamConfig} (hv : config.Valid) (ssrc : UInt32)
    (handler : Option KeyLimitHandler) : Raises (CipherFault 32) (new ssrc config handler) := by
  obtain ⟨first, rest, hk⟩ := List.exists_cons_of_ne_nil hv.keys_ne
  refine (raises_getTransforms hv).bind fun _ _ => Raises.bind ?_ fun _ _ => raises_ok
  rw [hk]
  exact raises_ok

namespace SendStream

variable {s : SendStream}

theorem parse_rtp {header : RtpHeader} {plain : Bytes} {mki : Mki}
    (h : RtpHeader.new plain = .ok header) :
    parse (T := SendStream) (SendRequest.rtpProtectMki plain mki) =
      .ok (SendCall.rtpProtect header plain mki h) := pmap_of_ok h

theorem parse_rtcp {header : RtcpHeader} {plain : Bytes} {mki : Mki}
    (h : RtcpHeader.new plain = .ok header) :
    parse (T := SendStream) (SendRequest.rtcpProtectMki plain mki) =
      .ok (SendCall.rtcpProtect header plain mki h) := pmap_of_ok h

omit [Crates] in
theorem rtpIndex_eq (h : s.base.rtpIndex.index < rtpIndexLimit) (header : RtpHeader) :
    s.rtpIndex header =
      if s.base.allowSendRepeat = false ∧
          s.base.rtpIndex.seen (s.base.rtpIndex.estimate header.seqNum) = true then
        fail .invalidPacketIndex
      else .ok (s.base.rtpIndex.estimate header.seqNum) := by
  have hlim : rtpIndexLimit = 2 ^ 48 + 2 ^ 16 := rfl
  unfold rtpIndex
  rw [RtpReplayDb.estimateIndex_eq (by omega), ok_bind]
  cases s.base.allowSendRepeat
  · simp
  · simp

theorem called (hs : InRange s) (c : SendCall) : Called s c (call s c) := by
  obtain ⟨hrtp, hrtcp⟩ := hs
  cases c with
  | rtpProtect header plain mki parsed =>
    show Called s _ (s.rtpProtect header plain mki)
    unfold rtpProtect
    cases hi : s.rtpIndex header with
    | error f =>
      refine .rejected ?_
      show (do .ok (← s.rtpIndex header, mki) : Res (Nat × Mki)) = _
      rw [hi, error_bind]
    | ok i =>
      have hlocate : PacketStream.locate s (SendCall.rtpProtect header plain mki parsed) =
          .ok (i, mki) := by
        show (do .ok (← s.rtpIndex header, mki) : Res (Nat × Mki)) = _
        rw [hi, ok_bind]
      have hu := BaseStream.useKey_cases s.base true mki fun transform =>
        transform.rtpProtect plain header (rocOfIndex i)
      dsimp only
      generalize s.base.useKey true mki _ = r at hu ⊢
      refine .of_usedKey hlocate hu (fun f hf hr => ?_) fun bytes tr hb hr => ?_
      · simp only [hf, hr]; rfl
      · simp only [hb, hr, RtpReplayDb.addIndex_eq]; rfl
  | rtcpProtect header plain mki parsed =>
    show Called s _ (s.rtcpProtect header plain mki)
    have hR : rtcpRollback = 2 ^ 31 := rfl
    have hu := BaseStream.useKey_cases s.base false mki fun transform =>
      transform.rtcpProtect plain header (UInt32.ofNat s.rtcpIndex)
    unfold rtcpProtect
    dsimp only
    generalize s.base.useKey false mki _ = r at hu ⊢
    refine .of_usedKey (i := s.rtcpIndex) rfl hu (fun f hf hr => ?_) fun bytes tr hb hr => ?_
    · simp only [hf, hr]; rfl
    · have hadd : (add 32 s.rtcpIndex 1 : Res Nat) = .ok (s.rtcpIndex + 1) := add_eq (by omega)
      simp only [hb, hr, hadd, mask_31]; rfl

theorem updated (s : SendStream) {config : StreamConfig} (order : List Mki)
    (hkeys : config.keys ≠ []) : Updated s config order (s.update config order) := by
  have hu := s.base.update_cases order hkeys
  unfold update
  generalize s.base.update config order = r at hu ⊢
  have hcalls : r.calls = [] := by cases hu <;> rfl
  refine .of_base hu rfl (fun f tr hf hr => ?_) fun tr hf hr => ?_
  · simp only [hf, hr, hcalls]; rfl
  · simp only [hf, hr, hcalls]; rfl

theorem inRange_advance {c : SendCall} {i : Nat} {m : Mki} (hs : InRange s)
    (hlocate : PacketStream.locate s c = .ok (i, m)) : InRange (PacketStream.advance s c i) := by
  obtain ⟨hrtp, hrtcp⟩ := hs
  have hR : rtcpRollback = 2 ^ 31 := rfl
  have hlim : rtpIndexLimit = 2 ^ 48 + 2 ^ 16 := rfl
  cases c with
  | rtpProtect header plain mki parsed =>
    obtain ⟨j, hj, h⟩ := bind_eq_ok.mp hlocate
    obtain ⟨rfl, -⟩ := Prod.mk.inj (Except.ok.inj h)
    rw [rtpIndex_eq hrtp] at hj
    split at hj
    · exact absurd hj fail_ne_ok
    · obtain rfl := Except.ok.inj hj
      have := s.base.rtpIndex.estimate_lt header.seqNum
      exact ⟨Nat.max_lt.mpr ⟨hrtp, by omega⟩, hrtcp⟩
  | rtcpProtect header plain mki parsed => exact ⟨hrtp, Nat.mod_lt _ (by omega)⟩

theorem raises_locate {c : SendCall} (hs : InRange s) :
    Raises (fun f => f ≠ .panic ∧ OwnFault f) (PacketStream.locate s c) := by
  cases c with
  | rtpProtect header plain mki parsed =>
    refine Raises.bind (x := s.rtpIndex header) ?_ fun _ _ => raises_ok
    rw [rtpIndex_eq hs.1]
    split
    · exact raises_fail.mpr ⟨by simp, trivial⟩
    · exact raises_ok
  | rtcpProtect header plain mki parsed => exact raises_ok

instance : LawfulStream SendStream where
  base_withTransforms _ _ := rfl
  withTransforms_base _ := rfl
  withTransforms_twice _ _ _ := rfl
  locate_withTransforms s tr c := by cases c <;> rfl
  apply_withTransforms s tr c := by cases c <;> rfl
  advance_withTransforms s tr c i := by cases c <;> rfl
  base_advance s c i := by cases c <;> exact ⟨_, rfl⟩
  base_resize _ _ := ⟨_, rfl⟩
  base_direct _ d := d.elim
  raises_direct _ d := d.elim
  parse_ok {q c} h := by
    cases q with
    | rtpProtectMki plain mki => obtain ⟨header, parsed, rfl⟩ := pmap_eq_ok.mp h; rfl
    | rtcpProtectMki plain mki => obtain ⟨header, parsed, rfl⟩ := pmap_eq_ok.mp h; rfl
  raises_parse q := by
    cases q with
    | rtpProtectMki plain mki => exact (RtpHeader.raises_new plain).pmap
    | rtcpProtectMki plain mki => exact (RtcpHeader.raises_new plain).pmap
  new_ok h := by
    obtain ⟨b, hb, h⟩ := bind_eq_ok.mp h
    obtain rfl := Except.ok.inj h
    obtain ⟨_, _, _, _, _, rfl⟩ := BaseStream.new_ok hb
    exact ⟨hb, Nat.two_pow_pos 48 |>.trans_le (Nat.le_add_right _ _), Nat.two_pow_pos 31⟩
  new_error h := by
    rcases bind_eq_error.mp h with h | ⟨_, _, h⟩
    · exact h
    · cases h
  new_withTransforms {ssrc config config' handler s tr} h _ _ _ hb := by
    obtain ⟨b, -, h⟩ := bind_eq_ok.mp h
    obtain rfl := Except.ok.inj h
    show SendStream.new ssrc config' handler = _
    unfold SendStream.new
    rw [hb]
    rfl
  killed_none {s m} h := by
    show s.killSessionKeys m = _
    have h : s.base.transforms.lookup m = none := h
    simp only [killSessionKeys, BaseStream.killSessionKeys, h]
  killed_some {s m t l} h := by
    show s.killSessionKeys m = _
    have h : s.base.transforms.lookup m = some (t, l) := h
    simp only [killSessionKeys, BaseStream.killSessionKeys, h]
    rfl
  called c hs := called hs c
  updated s _ order hkeys := updated s order hkeys
  inRange_advance := inRange_advance
  inRange_withTransforms h := h
  inRange_resize h := h
  inRange_direct {_ d} := d.elim
  locate_mki {s c i m} _ h := by
    cases c with
    | rtpProtect header plain mki parsed =>
      obtain ⟨_, _, h⟩ := bind_eq_ok.mp h
      obtain ⟨-, rfl⟩ := Prod.mk.inj (Except.ok.inj h)
      rfl
    | rtcpProtect header plain mki parsed =>
      obtain ⟨-, rfl⟩ := Prod.mk.inj (Except.ok.inj h)
      rfl
  raises_locate := raises_locate
  raises_apply {s c i m t} _ _ ht := by
    cases c with
    | rtpProtect header plain mki parsed =>
      exact Transform.raises_rtpProtect ht (RtpHeader.len_le parsed).2
    | rtcpProtect header plain mki parsed =>
      exact Transform.raises_rtcpProtect ht (RtcpHeader.len_le parsed)

end SendStream

namespace RecvStream

variable {s : RecvStream}

theorem parse_rtp {header : RtpHeader} {cipher : Bytes} (h : RtpHeader.new cipher = .ok header) :
    parse (T := RecvStream) (RecvRequest.rtpUnprotect cipher) =
      .ok (RecvCall.rtpUnprotect header cipher h) := pmap_of_ok h

theorem parse_rtcp {header : RtcpHeader} {cipher : Bytes} (h : RtcpHeader.new cipher = .ok header) :
    parse (T := RecvStream) (RecvRequest.rtcpUnprotect cipher) =
      .ok (RecvCall.rtcpUnprotect header cipher h) := pmap_of_ok h

/-- The tag length of a component. -/
def componentTagLen (s : RecvStream) (isRtp : Bool) : Nat := if isRtp then s.rtpTagLen else s.rtcpTagLen

/-- The bytes in front of the tag, where the MKI is. -/
def mkiOf (s : RecvStream) (cipher : Bytes) (isRtp : Bool) : Bytes :=
  (cipher.take (cipher.length - s.componentTagLen isRtp)).drop
    (cipher.length - s.componentTagLen isRtp - s.base.mkiLen)

omit [Crates] in
theorem getMki_eq (s : RecvStream) (cipher : Bytes) (headerLen : Nat) (isRtp : Bool) :
    s.getMki cipher headerLen isRtp =
      if s.base.mkiLen = 0 then .ok none
      else if cipher.length < headerLen + s.base.mkiLen + s.componentTagLen isRtp then
        fail .invalidPacket
      else .ok (some (s.mkiOf cipher isRtp)) := by
  unfold getMki mkiOf
  dsimp only
  change (if _ then _ else if cipher.length < headerLen + s.base.mkiLen + s.componentTagLen isRtp
    then _ else do
      let tagPos ← sub cipher.length (s.componentTagLen isRtp)
      .ok (some (← slice cipher (← sub tagPos s.base.mkiLen) tagPos)) : Res Mki) = _
  split
  · rfl
  · split
    · rfl
    · next h =>
      rw [sub_eq (by omega), ok_bind, sub_eq (by omega), ok_bind, slice_eq (by omega) (by omega),
        ok_bind]

omit [Crates] in
theorem raises_getMki (cipher : Bytes) (headerLen : Nat) (isRtp : Bool) :
    Raises (fun f => f ≠ .panic ∧ OwnFault f) (s.getMki cipher headerLen isRtp) := by
  rw [getMki_eq]
  split
  · exact raises_ok
  · split
    · exact raises_fail.mpr ⟨by simp, trivial⟩
    · exact raises_ok

omit [Crates] in
theorem rtpIndexMki_eq (h : s.base.rtpIndex.index < rtpIndexLimit) (header : RtpHeader)
    (cipher : Bytes) : s.rtpIndexMki header cipher =
      if s.base.rtpIndex.seen (s.base.rtpIndex.estimate header.seqNum) = true then
        fail .invalidPacketIndex
      else (do
        .ok (s.base.rtpIndex.estimate header.seqNum, ← s.getMki cipher header.len true)) := by
  have hlim : rtpIndexLimit = 2 ^ 48 + 2 ^ 16 := rfl
  unfold rtpIndexMki
  rw [RtpReplayDb.estimateIndex_eq (by omega), ok_bind, RtpReplayDb.seenIndex_eq, ok_bind]

/-- The four bytes of the trailer with the E flag and the index. -/
def trailerWord (s : RecvStream) (cipher : Bytes) : UInt32 :=
  let pos := cipher.length - s.rtcpTrailerLen
  u32FromBeBytes ⟨[cipher.getD pos 0, cipher.getD (pos + 1) 0, cipher.getD (pos + 2) 0,
    cipher.getD (pos + 3) 0], rfl⟩

/-- The index in the trailer of an SRTCP packet. -/
def trailerIndex (s : RecvStream) (cipher : Bytes) : Nat :=
  (s.trailerWord cipher &&& 0x7fffffff).toNat

omit [Crates] in
theorem trailerIndex_lt (s : RecvStream) (cipher : Bytes) : s.trailerIndex cipher < rtcpRollback := by
  unfold trailerIndex
  rw [UInt32.toNat_and]
  exact Nat.and_lt_two_pow _ (by decide)

omit [Crates] in
theorem rtcpPacketIndex_eq (s : RecvStream) (cipher : Bytes) : s.rtcpPacketIndex cipher =
    if cipher.length < RtcpHeader.len + s.rtcpTrailerLen then fail .invalidPacket
    else .ok (s.trailerIndex cipher) := by
  have hmin : RtcpHeader.len = 8 := rfl
  have htrailer : 4 ≤ s.rtcpTrailerLen := by unfold rtcpTrailerLen; omega
  have hget : ∀ k, k < cipher.length → (index cipher k : Res UInt8) = .ok (cipher.getD k 0) := by
    intro k hk
    rw [index_eq hk, List.getD_eq_getElem _ _ hk]
  unfold rtcpPacketIndex
  split
  · rfl
  · next h =>
    rw [sub_eq (by omega), ok_bind, hget _ (by omega), ok_bind, hget _ (by omega), ok_bind,
      hget _ (by omega), ok_bind, hget _ (by omega), ok_bind]
    rfl

omit [Crates] in
theorem rtcpIndexMki_eq (h : s.rtcpIndex.index < rtcpRollback) (cipher : Bytes) :
    s.rtcpIndexMki cipher =
      if cipher.length < RtcpHeader.len + s.rtcpTrailerLen then fail .invalidPacket
      else if s.rtcpIndex.seen (s.trailerIndex cipher) = true then fail .invalidPacketIndex
      else (do .ok (s.trailerIndex cipher, ← s.getMki cipher RtcpHeader.len false)) := by
  unfold rtcpIndexMki
  rw [rtcpPacketIndex_eq]
  split
  · rfl
  · rw [ok_bind, RtcpReplayDb.seenIndex_eq h (s.trailerIndex_lt cipher), ok_bind]

/-- What a receiver has checked when it uses a key. -/
theorem rtp_located (hs : InRange s) {header : RtpHeader} {cipher : Bytes}
    {parsed : RtpHeader.new cipher = .ok header} {i : Nat} {m : Mki}
    (h : PacketStream.locate s (RecvCall.rtpUnprotect header cipher parsed) = .ok (i, m)) :
    i = s.base.rtpIndex.estimate header.seqNum ∧ s.base.rtpIndex.seen i = false ∧
      s.getMki cipher header.len true = .ok m := by
  have h : s.rtpIndexMki header cipher = .ok (i, m) := h
  rw [rtpIndexMki_eq hs.1] at h
  split at h
  · exact absurd h fail_ne_ok
  · next hseen =>
    obtain ⟨m', hm, h⟩ := bind_eq_ok.mp h
    obtain ⟨rfl, rfl⟩ := Prod.mk.inj (Except.ok.inj h)
    exact ⟨rfl, Bool.eq_false_iff.mpr hseen, hm⟩

theorem rtcp_located (hs : InRange s) {header : RtcpHeader} {cipher : Bytes}
    {parsed : RtcpHeader.new cipher = .ok header} {i : Nat} {m : Mki}
    (h : PacketStream.locate s (RecvCall.rtcpUnprotect header cipher parsed) = .ok (i, m)) :
    RtcpHeader.len + s.rtcpTrailerLen ≤ cipher.length ∧ i = s.trailerIndex cipher ∧
      s.rtcpIndex.seen i = false ∧ s.getMki cipher RtcpHeader.len false = .ok m := by
  have h : s.rtcpIndexMki cipher = .ok (i, m) := h
  rw [rtcpIndexMki_eq hs.2] at h
  split at h
  · exact absurd h fail_ne_ok
  · next hlen =>
    split at h
    · exact absurd h fail_ne_ok
    · next hseen =>
      obtain ⟨m', hm, h⟩ := bind_eq_ok.mp h
      obtain ⟨rfl, rfl⟩ := Prod.mk.inj (Except.ok.inj h)
      exact ⟨Nat.not_lt.mp hlen, rfl, Bool.eq_false_iff.mpr hseen, hm⟩

theorem rtcp_located_lt (hs : InRange s) {header : RtcpHeader} {cipher : Bytes}
    {parsed : RtcpHeader.new cipher = .ok header} {i : Nat} {m : Mki}
    (h : PacketStream.locate s (RecvCall.rtcpUnprotect header cipher parsed) = .ok (i, m)) :
    i < rtcpRollback := by
  obtain ⟨-, hi, -, -⟩ := rtcp_located hs h
  rw [hi]
  exact s.trailerIndex_lt cipher

-- Stated apart so that no proof below has to unfold the step of the replay database.
theorem advance_rtcp (s : RecvStream) (header : RtcpHeader) (cipher : Bytes)
    (parsed : RtcpHeader.new cipher = .ok header) (i : Nat) :
    PacketStream.advance s (RecvCall.rtcpUnprotect header cipher parsed) i =
      { s with rtcpIndex := s.rtcpIndex.added i } := rfl

theorem called (hs : InRange s) (c : RecvCall) : Called s c (call s c) := by
  cases c with
  | rtpUnprotect header cipher parsed =>
    show Called s _ (s.rtpUnprotect header cipher)
    unfold rtpUnprotect
    cases hi : s.rtpIndexMki header cipher with
    | error f => exact .rejected hi
    | ok im =>
      obtain ⟨i, m⟩ := im
      have hu := BaseStream.useKey_cases s.base true m fun transform =>
        transform.rtpUnprotect cipher header (rocOfIndex i)
      dsimp only
      generalize s.base.useKey true m _ = r at hu ⊢
      refine .of_usedKey hi hu (fun f hf hr => ?_) fun bytes tr hb hr => ?_
      · simp only [hf, hr]; rfl
      · simp only [hb, hr, RtpReplayDb.addIndex_eq]; rfl
  | rtcpUnprotect header cipher parsed =>
    show Called s _ (s.rtcpUnprotect header cipher)
    unfold rtcpUnprotect
    cases hi : s.rtcpIndexMki cipher with
    | error f => exact .rejected hi
    | ok im =>
      obtain ⟨i, m⟩ := im
      have hlocate : PacketStream.locate s (RecvCall.rtcpUnprotect header cipher parsed) =
          .ok (i, m) := hi
      have hlt := rtcp_located_lt hs hlocate
      have hu := BaseStream.useKey_cases s.base false m fun transform =>
        transform.rtcpUnprotect cipher header (UInt32.ofNat i) s.rtcpTrailerLen
      dsimp only
      generalize s.base.useKey false m _ = r at hu ⊢
      refine .of_usedKey hi hu (fun f hf hr => ?_) fun bytes tr hb hr => ?_
      · simp only [hf, hr]; rfl
      · simp only [hb, hr, RtcpReplayDb.addIndex_eq hs.2 hlt, advance_rtcp]; rfl

theorem updated (s : RecvStream) {config : StreamConfig} (order : List Mki)
    (hkeys : config.keys ≠ []) : Updated s config order (s.update config order) := by
  have hu := s.base.update_cases order hkeys
  unfold update
  generalize s.base.update config order = r at hu ⊢
  have hcalls : r.calls = [] := by cases hu <;> rfl
  refine .of_base hu rfl (fun f tr hf hr => ?_) fun tr hf hr => ?_
  · simp only [hf, hr, hcalls]; rfl
  · simp only [hf, hr, hcalls]; rfl

theorem inRange_advance {c : RecvCall} {i : Nat} {m : Mki} (hs : InRange s)
    (hlocate : PacketStream.locate s c = .ok (i, m)) : InRange (PacketStream.advance s c i) := by
  have hlim : rtpIndexLimit = 2 ^ 48 + 2 ^ 16 := rfl
  cases c with
  | rtpUnprotect header cipher parsed =>
    obtain ⟨rfl, -, -⟩ := rtp_located hs hlocate
    have := s.base.rtpIndex.estimate_lt header.seqNum
    exact ⟨Nat.max_lt.mpr ⟨hs.1, by omega⟩, hs.2⟩
  | rtcpUnprotect header cipher parsed =>
    rw [advance_rtcp]
    exact ⟨hs.1, RtcpReplayDb.added_index_lt hs.2 (rtcp_located_lt hs hlocate)⟩

theorem raises_locate {c : RecvCall} (hs : InRange s) :
    Raises (fun f => f ≠ .panic ∧ OwnFault f) (PacketStream.locate s c) := by
  cases c with
  | rtpUnprotect header cipher parsed =>
    show Raises _ (s.rtpIndexMki header cipher)
    rw [rtpIndexMki_eq hs.1]
    split
    · exact raises_fail.mpr ⟨by simp, trivial⟩
    · exact (raises_getMki _ _ _).bind fun _ _ => raises_ok
  | rtcpUnprotect header cipher parsed =>
    show Raises _ (s.rtcpIndexMki cipher)
    rw [rtcpIndexMki_eq hs.2]
    split
    · exact raises_fail.mpr ⟨by simp, trivial⟩
    · split
      · exact raises_fail.mpr ⟨by simp, trivial⟩
      · exact (raises_getMki _ _ _).bind fun _ _ => raises_ok

-- The two sides only differ in the transforms, which neither looks at; by the equations, so that no
-- proof has to unfold the replay database.
theorem locate_withTransforms (s : RecvStream) (tr : MkiIndexedTransform) (c : RecvCall) :
    PacketStream.locate (withTransforms s tr) c = PacketStream.locate s c := by
  have hmki : ∀ cipher headerLen isRtp, getMki { s with base := { s.base with transforms := tr } }
      cipher headerLen isRtp = s.getMki cipher headerLen isRtp := fun _ _ _ => rfl
  have hindex : ∀ cipher, rtcpPacketIndex { s with base := { s.base with transforms := tr } } cipher =
      s.rtcpPacketIndex cipher := by
    intro cipher
    rw [rtcpPacketIndex_eq, rtcpPacketIndex_eq]
    rfl
  cases c with
  | rtpUnprotect header cipher parsed =>
    show rtpIndexMki { s with base := { s.base with transforms := tr } } header cipher =
      s.rtpIndexMki header cipher
    unfold rtpIndexMki
    simp only [hmki]
  | rtcpUnprotect header cipher parsed =>
    show rtcpIndexMki { s with base := { s.base with transforms := tr } } cipher =
      s.rtcpIndexMki cipher
    unfold rtcpIndexMki
    simp only [hmki, hindex]

theorem apply_withTransforms (s : RecvStream) (tr : MkiIndexedTransform) (c : RecvCall) :
    PacketStream.apply (withTransforms s tr) c = PacketStream.apply s c := by
  cases c with
  | rtpUnprotect header cipher parsed => rfl
  | rtcpUnprotect header cipher parsed =>
    funext i t
    show Transform.rtcpUnprotect cipher header (UInt32.ofNat i)
      (rtcpTrailerLen { s with base := { s.base with transforms := tr } }) t =
        Transform.rtcpUnprotect cipher header (UInt32.ofNat i) s.rtcpTrailerLen t
    simp only [rtcpTrailerLen]

theorem advance_withTransforms (s : RecvStream) (tr : MkiIndexedTransform) (c : RecvCall) (i : Nat) :
    PacketStream.advance (withTransforms s tr) c i =
      withTransforms (PacketStream.advance s c i) tr := by
  cases c with
  | rtpUnprotect header cipher parsed => rfl
  | rtcpUnprotect header cipher parsed => rw [advance_rtcp, advance_rtcp]; rfl

omit [Crates] in
/-- A ROC is set if it is not below that of the stream. -/
theorem setRoc_ok {s : RecvStream} {roc : UInt32} (h : (s.setRoc roc).result = .ok ()) :
    s.base.getRoc ≤ roc ∧ (s.setRoc roc).state =
      { s with base := { s.base with rtpIndex := s.base.rtpIndex.setRoc roc } } := by
  unfold setRoc at h ⊢
  split at h
  · exact absurd h fail_ne_ok
  · next hroc => exact ⟨UInt32.not_lt.mp hroc, by rw [if_neg hroc]⟩

omit [Crates] in
theorem setRoc_error {s : RecvStream} {roc : UInt32} {f : Fault SrtpError}
    (h : (s.setRoc roc).result = .error f) : (s.setRoc roc).state = s := by
  unfold setRoc at h ⊢
  split at h
  · next hroc => rw [if_pos hroc]
  · cases h

instance : LawfulStream RecvStream where
  base_withTransforms _ _ := rfl
  withTransforms_base _ := rfl
  withTransforms_twice _ _ _ := rfl
  locate_withTransforms := locate_withTransforms
  apply_withTransforms := apply_withTransforms
  advance_withTransforms := advance_withTransforms
  base_advance s c i := by cases c <;> exact ⟨_, rfl⟩
  base_resize _ _ := ⟨_, rfl⟩
  base_direct s d := by
    show ∃ db, (s.setRoc d).state.base = _
    unfold setRoc
    split <;> exact ⟨_, rfl⟩
  raises_direct s d := by
    show Raises OwnFault (s.setRoc d).result
    unfold setRoc
    split
    · exact raises_fail.mpr trivial
    · exact raises_ok
  parse_ok {q c} h := by
    cases q with
    | rtpUnprotect cipher => obtain ⟨header, parsed, rfl⟩ := pmap_eq_ok.mp h; rfl
    | rtcpUnprotect cipher => obtain ⟨header, parsed, rfl⟩ := pmap_eq_ok.mp h; rfl
  raises_parse q := by
    cases q with
    | rtpUnprotect cipher => exact (RtpHeader.raises_new cipher).pmap
    | rtcpUnprotect cipher => exact (RtcpHeader.raises_new cipher).pmap
  new_ok h := by
    obtain ⟨b, hb, h⟩ := bind_eq_ok.mp h
    obtain rfl := Except.ok.inj h
    obtain ⟨_, _, _, _, _, rfl⟩ := BaseStream.new_ok hb
    exact ⟨hb, Nat.two_pow_pos 48 |>.trans_le (Nat.le_add_right _ _), Nat.two_pow_pos 31⟩
  new_error h := by
    rcases bind_eq_error.mp h with h | ⟨_, _, h⟩
    · exact h
    · cases h
  new_withTransforms {ssrc config config' handler s tr} h hr hc hw hb := by
    obtain ⟨b, -, h⟩ := bind_eq_ok.mp h
    obtain rfl := Except.ok.inj h
    show RecvStream.new ssrc config' handler = _
    unfold RecvStream.new
    rw [hb, hr, hc, hw]
    rfl
  killed_none {s m} h := by
    show s.killSessionKeys m = _
    have h : s.base.transforms.lookup m = none := h
    simp only [killSessionKeys, BaseStream.killSessionKeys, h]
  killed_some {s m t l} h := by
    show s.killSessionKeys m = _
    have h : s.base.transforms.lookup m = some (t, l) := h
    simp only [killSessionKeys, BaseStream.killSessionKeys, h]
    rfl
  called c hs := called hs c
  updated s _ order hkeys := updated s order hkeys
  inRange_advance := inRange_advance
  inRange_withTransforms h := h
  inRange_resize h := h
  inRange_direct {s d} h := by
    show InRange (s.setRoc d).state
    unfold setRoc
    split <;> exact h
  locate_mki {s c i m} hs h := by
    cases c with
    | rtpUnprotect header cipher parsed => exact (rtp_located hs h).2.2
    | rtcpUnprotect header cipher parsed => exact (rtcp_located hs h).2.2.2
  raises_locate := raises_locate
  raises_apply {s c i m t} hs h ht := by
    cases c with
    | rtpUnprotect header cipher parsed => exact Transform.raises_rtpUnprotect ht
    | rtcpUnprotect header cipher parsed =>
      have htrailer : 4 ≤ s.rtcpTrailerLen := by unfold rtcpTrailerLen; omega
      exact Transform.raises_rtcpUnprotect ht htrailer (rtcp_located hs h).1

end RecvStream

end LibSrtp
