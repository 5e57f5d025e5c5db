import LibSrtp.SessionRun

/-!
# What a packet was enciphered with

A packet that was processed, with the stream, the index and the transform it was processed under. A
sender puts the payload into it, enciphered under the IV of the header and the index, and the index
itself, if it is an SRTCP packet.

* `Transform.rtpEnciphers_of_protect`, `Transform.rtcpEnciphers_of_protect`: the bytes that a
  transform makes;
* `Processed.Proper.enciphers`: the bytes that a sender answers;
* `Sound.exists_processed`, `Session.Sound.exists_processed`: a packet operation that succeeds
  processed its packet.
-/

namespace LibSrtp

open Exec PacketStream

/-! ## The bytes -/

section Bytes

variable [Crates]

/-- The header, and the payload under the keystream of the IV; the packet itself under the null
cipher. -/
def AesCmSha1.Enciphers (profile : ProtectionProfile) (keys : CmSessionKeys)
    (iv : ByteArr 14 → ByteArr 16) (plain : Bytes) (start : Nat) (body : Bytes) : Prop :=
  if 0 < profile.keyLen then
    ∃ key salt, keys.key = some key ∧ keys.salt = some salt ∧
      body = plain.take start ++ Bytes.xorStream (Crates.keystream key (iv salt)) (plain.drop start)
  else body = plain

theorem AesCmSha1.enciphers_of_cipher {profile : ProtectionProfile} {keys : CmSessionKeys}
    (hfit : Fit keys profile) {iv : ByteArr 14 → ByteArr 16} {plain body : Bytes} {start : Nat}
    (h : cipher profile keys iv plain start = .ok body) :
    Enciphers profile keys iv plain start body := by
  unfold Enciphers
  split
  · next hlen =>
    obtain ⟨key, salt, hkey, -, hsalt⟩ := hfit.cipher hlen
    unfold cipher at h
    rw [hkey, hsalt] at h
    dsimp only at h
    rw [if_pos hlen] at h
    obtain ⟨-, -, -, hbody⟩ := aesCtrFrom_eq_ok.mp h
    exact ⟨key, salt, hkey, hsalt, hbody⟩
  · next hlen =>
    rw [cipher_null hlen] at h
    exact (Except.ok.inj h).symm

namespace Transform

/-- The SRTP packet is `plain`, enciphered under the IV of the header and the ROC, and the MKI. -/
def RtpEnciphers (plain : Bytes) (header : RtpHeader) (roc : UInt32) (packet : Bytes) :
    Transform → Prop
  | aesCmSha1 t => ∃ body tag, packet = body ++ mkiBytes t.mki ++ tag ∧
      AesCmSha1.Enciphers t.rtpProfile t.rtpKey (AesCmSha1.rtpIv · header roc) plain header.len body
  | aesGcm t => ∃ payload tag,
      Crates.gcmEncrypt t.rtpKey.key (AesGcm.rtpIv t.rtpKey.salt header roc) (plain.take header.len)
        (plain.drop header.len) = some (payload, tag) ∧
      packet = plain.take header.len ++ payload ++ tag.1 ++ mkiBytes t.mki

/-- The SRTCP packet is `plain`, enciphered under the IV of the header and the index, the index with
its flag, and the MKI. -/
def RtcpEnciphers (plain : Bytes) (header : RtcpHeader) (index : UInt32) (packet : Bytes) :
    Transform → Prop
  | aesCmSha1 t => ∃ body tag,
      packet = body ++ Bytes.toBe 4 (t.esrtcp index).toNat ++ mkiBytes t.mki ++ tag ∧
      AesCmSha1.Enciphers t.rtcpProfile t.rtcpKey (AesCmSha1.rtcpIv · header index) plain
        RtcpHeader.len body
  | aesGcm t => ∃ payload tag,
      Crates.gcmEncrypt t.rtcpKey.key (AesGcm.rtcpIv t.rtcpKey.salt header index)
        (plain.take RtcpHeader.len ++ Bytes.toBe 4 (index ||| 0x80000000).toNat)
        (plain.drop RtcpHeader.len) = some (payload, tag) ∧
      packet = plain.take RtcpHeader.len ++ payload ++ tag.1 ++
        Bytes.toBe 4 (index ||| 0x80000000).toNat ++ mkiBytes t.mki

variable {t : Transform} {plain packet : Bytes}

theorem rtpEnciphers_of_protect (h : t.Keyed) {header : RtpHeader} {roc : UInt32}
    (hlen : header.len ≤ plain.length) (hp : t.rtpProtect plain header roc = .ok packet) :
    t.RtpEnciphers plain header roc packet := by
  cases t with
  | aesCmSha1 t =>
    have hp : t.rtpProtect plain header roc = .ok packet := hp
    rw [AesCmSha1.Keyed.rtpProtect_eq h, bind_eq_ok] at hp
    obtain ⟨body, hbody, hp⟩ := hp
    exact ⟨body, _, (Except.ok.inj hp).symm, AesCmSha1.enciphers_of_cipher h.rtp hbody⟩
  | aesGcm t =>
    have hp : t.rtpProtect plain header roc = .ok packet := hp
    rw [AesGcm.Keyed.rtpProtect_eq h roc hlen] at hp
    obtain ⟨⟨payload, tag⟩, henc, hp⟩ := bind_eq_ok.mp hp
    exact ⟨payload, tag, okOr_eq_ok.mp henc, (Except.ok.inj hp).symm⟩

theorem rtcpEnciphers_of_protect (h : t.Keyed) {header : RtcpHeader} {index : UInt32}
    (hlen : RtcpHeader.len ≤ plain.length) (hp : t.rtcpProtect plain header index = .ok packet) :
    t.RtcpEnciphers plain header index packet := by
  cases t with
  | aesCmSha1 t =>
    have hp : t.rtcpProtect plain header index = .ok packet := hp
    rw [AesCmSha1.Keyed.rtcpProtect_eq h, bind_eq_ok] at hp
    obtain ⟨body, hbody, hp⟩ := hp
    exact ⟨body, _, (Except.ok.inj hp).symm, AesCmSha1.enciphers_of_cipher h.rtcp hbody⟩
  | aesGcm t =>
    have hp : t.rtcpProtect plain header index = .ok packet := hp
    rw [AesGcm.Keyed.rtcpProtect_eq h index hlen] at hp
    obtain ⟨⟨payload, tag⟩, henc, hp⟩ := bind_eq_ok.mp hp
    exact ⟨payload, tag, okOr_eq_ok.mp henc, (Except.ok.inj hp).symm⟩

end Transform

end Bytes

/-! ## Packets that were processed -/

/-- A packet that was processed: on which stream, under which index and transform, and what came
out. -/
structure Processed (T : Type) [PacketStream T] where
  stream : T
  call : Call T
  index : Nat
  transform : Transform
  out : Bytes

variable {T : Type} [PacketStream T]

def Processed.on (x : T) (c : Call T) (out : Bytes) : Option (Processed T) :=
  match locate x c with
  | .error _ => none
  | .ok (i, m) => ((base x).transforms.lookup m).map fun entry => ⟨x, c, i, entry.1, out⟩

def StreamEvent.processed (e : StreamEvent T) : Option (Processed T) :=
  match e.input, e.answer with
  | .call c, .packet (.ok out) => Processed.on e.pre c out
  | _, _ => none

def SessionEvent.processed (e : SessionEvent T) : Option (Processed T) :=
  match e.input, e.answer with
  | .request q, .packet (.ok out) _ =>
    match parse q with
    | .error _ => none
    | .ok c =>
      match (e.pre.getStream (ssrc c)).1 with
      | .error _ => none
      | .ok (x, _, _) => Processed.on x c out
  | _, _ => none

theorem Processed.on_eq {x : T} {c : Call T} {out : Bytes} {p : Processed T}
    (h : Processed.on x c out = some p) : ∃ m l, locate x c = .ok (p.index, m) ∧
      (base x).transforms.lookup m = some (p.transform, l) ∧ p.stream = x ∧ p.call = c ∧
      p.out = out := by
  unfold Processed.on at h
  split at h
  · cases h
  · next i m hlocate =>
    obtain ⟨⟨t, l⟩, hl, rfl⟩ := Option.map_eq_some_iff.mp h
    exact ⟨m, l, hlocate, hl, rfl, rfl, rfl⟩

/-- What holds of a packet that was processed. -/
structure Processed.Proper [Crates] (p : Processed T) : Prop where
  sound : Sound p.stream
  located : ∃ m, locate p.stream p.call = .ok (p.index, m)
  keyed : p.transform.Keyed
  applied : apply p.stream p.call p.index p.transform = .ok p.out

section Runs

variable [Crates] [LawfulStream T]

theorem Sound.exists_processed {x : T} (hs : Sound x) {c : Call T} {out : Bytes}
    (hr : (call x c).result = .ok out) : ∃ p, Processed.on x c out = some p ∧ p.Proper := by
  obtain ⟨i, m, t, l, hlocate, hl, -, happly, -⟩ := (LawfulStream.called c hs.inRange).of_ok hr
  refine ⟨⟨x, c, i, t, out⟩, ?_, hs, ⟨m, hlocate⟩, (hs.keyed hl).1, happly⟩
  unfold Processed.on
  rw [hlocate]
  dsimp only
  rw [hl]
  rfl

theorem Session.Sound.exists_processed {s : Session T} (hs : s.Sound) {op : SessionOp T}
    {out : Bytes} {calls : List HandlerCall} (h : (sessionStep s op).1 = .packet (.ok out) calls) :
    ∃ p, SessionEvent.processed (.of sessionStep s op) = some p ∧ p.Proper := by
  cases op with
  | request q =>
    have hr := Session.requested hs q
    change SessionOutcome.packet (s.request q).result (s.request q).calls = _ at h
    show ∃ p, SessionEvent.processed ⟨s, .request q,
      .packet (s.request q).result (s.request q).calls, (s.request q).state⟩ = some p ∧ p.Proper
    generalize s.request q = r at hr h
    cases hr with
    | @done c x fromTemplate pending out hq ht hres =>
      obtain ⟨p, hp, hproper⟩ := (ht.sound hs).1.exists_processed hres
      refine ⟨p, ?_, hproper⟩
      unfold SessionEvent.processed
      dsimp only
      rw [hq]
      dsimp only
      rw [ht.getStream]
      exact hp
    | _ => cases h
  | addStream => cases h
  | _ => cases h

theorem Session.Sound.proper {s : Session T} (hs : s.Sound) {op : SessionOp T} {p : Processed T}
    (h : SessionEvent.processed (.of sessionStep s op) = some p) : p.Proper := by
  have hanswer : ∃ out calls, (sessionStep s op).1 = .packet (.ok out) calls := by
    change SessionEvent.processed ⟨s, op, (sessionStep s op).1, _⟩ = some p at h
    unfold SessionEvent.processed at h
    dsimp only at h
    split at h
    · next hanswer => exact ⟨_, _, hanswer⟩
    · cases h
  obtain ⟨out, calls, hanswer⟩ := hanswer
  obtain ⟨p', hp', hproper⟩ := hs.exists_processed hanswer
  obtain rfl := Option.some.inj (h.symm.trans hp')
  exact hproper

end Runs

/-! ## Packets that a sender protected -/

section Sender

variable [Crates]

/-- The bytes of the packet are its plain text, enciphered by the transform under its index. -/
def Processed.Enciphers (p : Processed SendStream) : Prop :=
  match p.call with
  | .rtpProtect header plain _ _ => p.transform.RtpEnciphers plain header (rocOfIndex p.index) p.out
  | .rtcpProtect header plain _ _ =>
    p.transform.RtcpEnciphers plain header (UInt32.ofNat p.index) p.out

theorem Processed.Proper.enciphers {p : Processed SendStream} (h : p.Proper) : p.Enciphers := by
  obtain ⟨x, c, i, t, out⟩ := p
  cases c with
  | rtpProtect header plain mki parsed =>
    exact Transform.rtpEnciphers_of_protect h.keyed (RtpHeader.len_le parsed).2 h.applied
  | rtcpProtect header plain mki parsed =>
    exact Transform.rtcpEnciphers_of_protect h.keyed (RtcpHeader.len_le parsed) h.applied

end Sender

end LibSrtp
