import LibSrtp.StreamRun
import LibSrtp.Vectors

/-!
# Where the trailer is

A receiver finds the MKI and the SRTCP index at the end of a packet, with the tag lengths of the
configuration it was built from and the MKI length of its first key. An update may bring in
transforms of other profiles.

* `RecvStream.Fits`: the lengths of a transform are those of the stream;
* `RecvStream.Fits.reads`: the stream then reads what the transform wrote;
* `trailer_agrees_iff`: this lasts exactly as long as the updates keep the tag lengths.
-/

namespace LibSrtp

open Exec PacketStream

namespace RecvStream

/-! ## Reading the trailer -/

variable {s : RecvStream}

theorem getMki_append {front mki last : Bytes} {headerLen : Nat} {isRtp : Bool}
    (hfront : headerLen ≤ front.length) (hmki : mki.length = s.base.mkiLen)
    (hlast : last.length = s.componentTagLen isRtp) :
    s.getMki (front ++ mki ++ last) headerLen isRtp =
      .ok (if s.base.mkiLen = 0 then none else some mki) := by
  have hl : (front ++ mki ++ last).length - s.componentTagLen isRtp = (front ++ mki).length := by
    rw [List.length_append, hlast, Nat.add_sub_cancel]
  have hmkiOf : s.mkiOf (front ++ mki ++ last) isRtp = mki := by
    unfold mkiOf
    rw [hl, List.take_left, List.length_append, hmki, Nat.add_sub_cancel, List.drop_left]
  rw [getMki_eq, hmkiOf]
  split
  · rfl
  · rw [if_neg]
    simp only [List.length_append, hmki, hlast, Nat.not_lt]
    exact Nat.add_le_add_right (Nat.add_le_add_right hfront _) _

theorem trailerIndex_eq (s : RecvStream) (cipher : Bytes) :
    s.trailerIndex cipher = (s.trailerWord cipher &&& 0x7fffffff).toNat := rfl

theorem trailerWord_append (front : Bytes) (word : UInt32) {mki last : Bytes}
    (hmki : mki.length = s.base.mkiLen) (hlast : last.length = s.rtcpTagLen) :
    s.trailerWord (front ++ Bytes.toBe 4 word.toNat ++ mki ++ last) = word := by
  have hpos : (front ++ Bytes.toBe 4 word.toNat ++ mki ++ last).length - s.rtcpTrailerLen =
      front.length := by
    unfold rtcpTrailerLen
    simp only [List.length_append, Bytes.length_toBe, hmki, hlast]
    omega
  have hget : ∀ k < 4, (front ++ Bytes.toBe 4 word.toNat ++ mki ++ last).getD (front.length + k) 0 =
      (Bytes.toBe 4 word.toNat).getD k 0 := by
    intro k hk
    rw [List.append_assoc, List.append_assoc, List.getD_append_right _ _ _ _ (Nat.le_add_right _ _),
      Nat.add_sub_cancel_left, List.getD_append _ _ _ _ (by rwa [Bytes.length_toBe])]
  have hword : u32FromBeBytes ⟨Bytes.toBe 4 word.toNat, Bytes.length_toBe _ _⟩ = word := by
    unfold u32FromBeBytes
    rw [Bytes.fromBe_toBe, show 256 ^ 4 = 2 ^ 32 from rfl, Nat.mod_eq_of_lt word.toNat_lt,
      UInt32.ofNat_toNat]
  unfold trailerWord
  dsimp only
  rw [hpos]
  have h0 := hget 0 (by decide)
  have h1 := hget 1 (by decide)
  have h2 := hget 2 (by decide)
  have h3 := hget 3 (by decide)
  rw [Nat.add_zero] at h0
  simp only [h0, h1, h2, h3]
  exact hword

theorem rtcpPacketIndex_append {front : Bytes} (hfront : RtcpHeader.len ≤ front.length)
    (word : UInt32) {mki last : Bytes} (hmki : mki.length = s.base.mkiLen)
    (hlast : last.length = s.rtcpTagLen) :
    s.rtcpPacketIndex (front ++ Bytes.toBe 4 word.toNat ++ mki ++ last) =
      .ok (word &&& 0x7fffffff).toNat := by
  rw [rtcpPacketIndex_eq, trailerIndex_eq, trailerWord_append front word hmki hlast, if_neg]
  unfold rtcpTrailerLen
  simp only [List.length_append, Bytes.length_toBe, hmki, hlast]
  omega

end RecvStream

section Agreement

variable [Crates]

namespace RecvStream

variable {s : RecvStream} {t : Transform}

/-- The lengths of the trailer. -/
def trailerShape (s : RecvStream) : Nat × Nat × Nat := (s.rtpTagLen, s.rtcpTagLen, s.base.mkiLen)

/-- The trailer of a transform has the lengths the stream looks for. -/
structure Fits (s : RecvStream) (t : Transform) : Prop where
  rtpTag : t.rtpProfile.tagLen = s.rtpTagLen
  rtcpTag : t.rtcpProfile.tagLen = s.rtcpTagLen
  mkiLen : (mkiBytes t.mki).length = s.base.mkiLen
  mki_ne : t.mki ≠ some []

/-- The trailer of a transform has the lengths the stream looks for, and the stream reads the MKI and
the index that the transform wrote. -/
structure Reads (s : RecvStream) (t : Transform) : Prop where
  rtpTag : t.rtpProfile.tagLen = s.rtpTagLen
  rtcpTag : t.rtcpProfile.tagLen = s.rtcpTagLen
  mkiLen : (mkiBytes t.mki).length = s.base.mkiLen
  rtp {plain packet : Bytes} {header : RtpHeader} {roc : UInt32} : RtpHeader.new plain = .ok header →
    t.rtpProtect plain header roc = .ok packet → s.getMki packet header.len true = .ok t.mki
  rtcp {plain packet : Bytes} {header : RtcpHeader} {index : UInt32} :
    RtcpHeader.new plain = .ok header → t.rtcpProtect plain header index = .ok packet →
      s.getMki packet RtcpHeader.len false = .ok t.mki ∧
        s.rtcpPacketIndex packet = .ok (index &&& 0x7fffffff).toNat

omit [Crates] in
/-- An MKI of the length of the stream is found again, unless it is empty. -/
theorem Fits.mki_eq (h : s.Fits t) :
    (if s.base.mkiLen = 0 then none else some (mkiBytes t.mki) : Mki) = t.mki := by
  have hlen := h.mkiLen
  have hne := h.mki_ne
  cases hm : t.mki with
  | none =>
    rw [hm] at hlen
    exact if_pos hlen.symm
  | some bytes =>
    rw [hm] at hlen hne
    exact if_neg fun h0 => hne (congrArg some (List.length_eq_zero_iff.mp (hlen.trans h0)))

theorem Fits.reads (h : s.Fits t) (ht : t.Keyed) : s.Reads t where
  rtpTag := h.rtpTag
  rtcpTag := h.rtcpTag
  mkiLen := h.mkiLen
  rtp {plain packet header roc} hn hp := by
    obtain ⟨front, last, rfl, hlast, hfront, -⟩ := Transform.rtp_layout ht (RtpHeader.len_le hn).2 hp
    have hlast' : last.length = s.componentTagLen true := hlast.trans h.rtpTag
    rw [getMki_append hfront h.mkiLen hlast', h.mki_eq]
  rtcp {plain packet header index} hn hp := by
    obtain ⟨front, last, rfl, hlast, hfront, -⟩ := Transform.rtcp_layout ht (RtcpHeader.len_le hn) hp
    have hlast' : last.length = s.componentTagLen false := hlast.trans h.rtcpTag
    rw [rtcpPacketIndex_append hfront _ h.mkiLen hlast', t.esrtcp_index]
    refine ⟨?_, rfl⟩
    rw [getMki_append (by rw [List.length_append]; omega) h.mkiLen hlast', h.mki_eq]

omit [Crates] in
theorem Fits.of_shape {s' : RecvStream} (h : s.Fits t) (hs : s'.trailerShape = s.trailerShape) :
    s'.Fits t := by
  obtain ⟨h1, hs⟩ := Prod.mk.inj hs
  obtain ⟨h2, h3⟩ := Prod.mk.inj hs
  exact ⟨h1 ▸ h.rtpTag, h2 ▸ h.rtcpTag, h3 ▸ h.mkiLen, h.mki_ne⟩

/-! ## Runs -/

theorem trailerShape_step (s : RecvStream) (op : StreamOp RecvStream) (hs : InRange s) :
    (streamStep s op).2.trailerShape = s.trailerShape := by
  have hlen := (same_step hs op).mkiLen
  have htags : ((streamStep s op).2.rtpTagLen, (streamStep s op).2.rtcpTagLen) =
      (s.rtpTagLen, s.rtcpTagLen) := by
    cases op with
    | call c =>
      have hc := LawfulStream.called c hs
      show ((PacketStream.call s c).state.rtpTagLen, (PacketStream.call s c).state.rtcpTagLen) = _
      cases hr : (PacketStream.call s c).result with
      | error f => rw [hc.state_of_error hr]
      | ok bytes =>
        obtain ⟨i, m, t, l, -, -, -, -, hstate⟩ := hc.of_ok hr
        rw [hstate]
        cases c with
        | rtpUnprotect header cipher parsed => rfl
        | rtcpUnprotect header cipher parsed => rw [advance_rtcp]; rfl
    | update config valid order =>
      show ((s.update config order).state.rtpTagLen, (s.update config order).state.rtcpTagLen) = _
      unfold RecvStream.update
      dsimp only
      cases (s.base.update config order).result <;> rfl
    | kill m => rfl
    | direct roc =>
      show ((s.setRoc roc).state.rtpTagLen, (s.setRoc roc).state.rtcpTagLen) = _
      unfold setRoc
      split <;> rfl
  obtain ⟨h1, h2⟩ := Prod.mk.inj htags
  exact Prod.ext h1 (Prod.ext h2 hlen)

/-- All transforms of the stream have trailers of its lengths. -/
def AllFit (s : RecvStream) : Prop :=
  ∀ {m t l}, s.base.transforms.lookup m = some (t, l) → s.Fits t

/-- The stream reads the trailers of all its transforms. -/
def ReadsTrailers (s : RecvStream) : Prop :=
  ∀ m t l, s.base.transforms.lookup m = some (t, l) → s.Reads t

theorem allFit_new {config : StreamConfig} (hv : config.Valid)
    (hmki : ∀ key ∈ config.keys, key.mki ≠ some []) {ssrc : UInt32}
    {handler : Option KeyLimitHandler} (hnew : RecvStream.new ssrc config handler = .ok s) :
    s.AllFit ∧ s.rtpTagLen = config.rtpProfile.tagLen ∧ s.rtcpTagLen = config.rtcpProfile.tagLen := by
  obtain ⟨b, hb, h⟩ := bind_eq_ok.mp hnew
  obtain rfl := Except.ok.inj h
  refine ⟨fun {m t l} hl => ?_, rfl, rfl⟩
  obtain ⟨key, hk, -, -, ht⟩ := lookup_new (T := RecvStream) hnew hl
  obtain ⟨-, hm, hr, hc⟩ := keyed_newTransform hv hk ht
  obtain ⟨_, first, rest, -, hkeys, rfl⟩ := BaseStream.new_ok hb
  refine ⟨congrArg _ hr, congrArg _ hc, ?_, hm ▸ hmki key hk⟩
  rw [hm]
  exact hv.mkiLen hmki key hk first (hkeys ▸ List.mem_cons_self)

/-- Updates have no empty MKI, visit all their keys, and succeed. -/
def Rekeying (e : StreamEvent RecvStream) : Prop :=
  ∀ config valid order, e.input = .update config valid order →
    e.answer = .unit (.ok ()) ∧ ∀ key ∈ config.keys, key.mki ≠ some [] ∧ key.mki ∈ order

/-- An update that brings in a new MKI has profiles with the tag lengths of `config₀`. -/
def KeepsTags (config₀ : StreamConfig) (e : StreamEvent RecvStream) : Prop :=
  ∀ config valid order, e.input = .update config valid order → ∀ key ∈ config.keys,
    e.pre.base.transforms.lookup key.mki = none →
      config.rtpProfile.tagLen = config₀.rtpProfile.tagLen ∧
        config.rtcpProfile.tagLen = config₀.rtcpProfile.tagLen

omit [Crates] in
/-- The keys of an update have MKIs of the length of the stream. -/
theorem mkiLen_of_compatible {config : StreamConfig} (hv : config.Valid)
    (hmki : ∀ key ∈ config.keys, key.mki ≠ some []) (hc : s.base.Compatible config)
    {key : MasterKey} (hk : key ∈ config.keys) : (mkiBytes key.mki).length = s.base.mkiLen := by
  obtain ⟨first, rest, hkeys, hc⟩ := hc
  rw [hv.mkiLen hmki key hk first (hkeys ▸ List.mem_cons_self)]
  cases hm : first.mki with
  | none =>
    rw [hm] at hc
    exact (Nat.eq_zero_of_not_pos (of_decide_eq_true hc)).symm
  | some bytes =>
    rw [hm] at hc
    exact of_decide_eq_true hc

/-- What one operation keeps. -/
theorem AllFit.step (h : s.AllFit) (hs : Sound s) (op : StreamOp RecvStream)
    (hop : ∀ config valid order, op = .update config valid order → ∀ key ∈ config.keys,
      key.mki ≠ some [] ∧ (s.base.transforms.lookup key.mki = none →
        config.rtpProfile.tagLen = s.rtpTagLen ∧ config.rtcpProfile.tagLen = s.rtcpTagLen)) :
    (streamStep s op).2.AllFit := by
  intro m t l hl
  refine Fits.of_shape ?_ (trailerShape_step s op hs.inRange)
  rcases transform_step hs.inRange op hl with
    ⟨l', hl'⟩ | ⟨config, valid, order, rfl, hnone, key, hk, rfl, ht⟩
  · exact h hl'
  · have hv := StreamConfig.valid_of_validate valid
    have hmki : ∀ key ∈ config.keys, key.mki ≠ some [] :=
      fun key hk => (hop config valid order rfl key hk).1
    obtain ⟨-, hm, hr, hc⟩ := keyed_newTransform hv hk ht
    obtain ⟨hrtp, hrtcp⟩ := (hop config valid order rfl key hk).2 hnone
    have hcomp : s.base.Compatible config := by
      have hu := LawfulStream.updated s order hv.keys_ne
      change (PacketStream.base (StreamInterface.update s config order).state).transforms.lookup
        key.mki = some (t, l) at hl
      generalize StreamInterface.update s config order = r at hu hl
      cases hu with
      | incompatible =>
        rw [show (PacketStream.base s).transforms.lookup key.mki = none from hnone] at hl
        cases hl
      | unbuildable hcomp => exact hcomp
      | torn hcomp => exact hcomp
      | merged hcomp => exact hcomp
    exact ⟨(congrArg _ hr).trans hrtp, (congrArg _ hc).trans hrtcp,
      hm ▸ mkiLen_of_compatible hv hmki hcomp hk, hm ▸ hmki key hk⟩

/-- After an update every key it lists has its entry. -/
theorem lookup_after_update {config : StreamConfig} (hv : config.Valid) {order : List Mki}
    (hok : (StreamInterface.update s config order).result = .ok ()) {key : MasterKey}
    (hk : key ∈ config.keys) (hm : key.mki ∈ order)
    (hnone : s.base.transforms.lookup key.mki = none) :
    ∃ t l, newTransform config key = .ok t ∧
      (PacketStream.base (StreamInterface.update s config order).state).transforms.lookup key.mki =
        some (t, l) := by
  have hu := LawfulStream.updated s order hv.keys_ne
  generalize StreamInterface.update s config order = r at hu hok
  cases hu with
  | incompatible => exact absurd hok fail_ne_ok
  | unbuildable => cases hok
  | torn => exact absurd hok fail_ne_ok
  | @merged table tr _ hg hmerge =>
    obtain ⟨t, ht, hl⟩ := getTransforms_lookup_key hv hg hk
    obtain ⟨db, hdb⟩ := LawfulStream.base_resize (withTransforms s tr) config
    refine ⟨t, key.lifetime, ht, ?_⟩
    rw [hdb, LawfulStream.base_withTransforms]
    show tr.lookup key.mki = _
    rcases BaseStream.mergeTransforms_lookup hmerge key.mki with heq | ⟨-, heq⟩
    · exact absurd (heq.trans hnone)
        (BaseStream.mergeTransforms_ok hmerge hm (by rw [hl]; exact Option.some_ne_none _))
    · rw [heq, hl]

end RecvStream

open RecvStream

/-- A receiver built from a valid configuration, whose updates succeed, reads the trailers of all
its transforms in every state exactly when no update brings in a new MKI under profiles with other
tag lengths. -/
theorem trailer_agrees_iff {config : StreamConfig} (hv : config.validate = .ok ())
    (hmki : ∀ key ∈ config.keys, key.mki ≠ some []) {ssrc : UInt32}
    {handler : Option KeyLimitHandler} {s₀ s : RecvStream}
    (hnew : RecvStream.new ssrc config handler = .ok s₀) {es : List (StreamEvent RecvStream)}
    (ht : Trace streamStep s₀ es s) (hes : ∀ e ∈ es, Rekeying e) :
    (s₀.ReadsTrailers ∧ ∀ e ∈ es, e.post.ReadsTrailers) ↔ ∀ e ∈ es, KeepsTags config e := by
  have hvalid := StreamConfig.valid_of_validate hv
  have hsound : Sound s₀ := .new hvalid hnew
  obtain ⟨hfit, hrtp, hrtcp⟩ := allFit_new hvalid hmki hnew
  have hshape : ∀ {pre : List (StreamEvent RecvStream)} {s' : RecvStream},
      Trace streamStep s₀ pre s' → Sound s' ∧ s'.trailerShape = s₀.trailerShape := fun hpre =>
    hpre.invariant (I := fun s => Sound s ∧ s.trailerShape = s₀.trailerShape) ⟨hsound, rfl⟩
      fun s op h => ⟨h.1.step op, (trailerShape_step s op h.1.inRange).trans h.2⟩
  have htags : ∀ {s' : RecvStream}, s'.trailerShape = s₀.trailerShape →
      s'.rtpTagLen = config.rtpProfile.tagLen ∧ s'.rtcpTagLen = config.rtcpProfile.tagLen := by
    intro s' h
    obtain ⟨h1, h⟩ := Prod.mk.inj h
    exact ⟨h1.trans hrtp, (Prod.mk.inj h).1.trans hrtcp⟩
  constructor
  · rintro ⟨-, hreads⟩ e he config' valid order hinput key hk hnone
    obtain ⟨pre, post, -, hpre, heq⟩ := ht.of_mem he
    obtain ⟨hs, hsh⟩ := hshape hpre
    obtain ⟨hok, hkeys⟩ := hes e he config' valid order hinput
    have hread := hreads e he
    rw [heq, hinput] at hok hread
    have hv' := StreamConfig.valid_of_validate valid
    obtain ⟨t, l, ht, hl⟩ := lookup_after_update hv'
      (Outcome.unit.inj hok) hk (hkeys key hk).2 hnone
    obtain ⟨-, -, hr, hc⟩ := keyed_newTransform hv' hk ht
    have hfits := hread key.mki t l hl
    have hsh' := (trailerShape_step e.pre (.update config' valid order) hs.inRange).trans hsh
    obtain ⟨h1, h2⟩ := htags hsh'
    rw [← hr, ← hc]
    exact ⟨hfits.rtpTag.trans h1, hfits.rtcpTag.trans h2⟩
  · intro hkeeps
    have hall : ∀ {s' : RecvStream}, Sound s' → s'.AllFit → s'.ReadsTrailers :=
      fun hs h m t l hl => (h hl).reads (hs.keyed hl).1
    refine ⟨hall hsound hfit, fun e he => ?_⟩
    have hpost := ht.forall_post_of
      (I := fun s => Sound s ∧ s.trailerShape = s₀.trailerShape ∧ s.AllFit)
      (P := fun e => KeepsTags config e ∧ Rekeying e) (fun e he => ⟨hkeeps e he, hes e he⟩)
      ⟨hsound, rfl, @hfit⟩ ?_ e he
    · exact hall hpost.1 hpost.2.2
    · rintro s op ⟨hs, hsh, hf⟩ ⟨hk, hr⟩
      refine ⟨hs.step op, (trailerShape_step s op hs.inRange).trans hsh, hf.step hs op ?_⟩
      rintro config' valid order rfl key hkey
      obtain ⟨h1, h2⟩ := htags hsh
      refine ⟨((hr config' valid order rfl).2 key hkey).1, fun hnone => ?_⟩
      rw [h1, h2]
      exact hk config' valid order rfl key hkey hnone

end Agreement

section Example

open Vectors

attribute [local instance] Vectors.crates

/-- The second key of a stream, under a profile whose tag has this length. -/
def rekeyed (rtpProfile : ProtectionProfile) : StreamConfig :=
  { config [key (some [2]) .default] with rtpProfile }

/-- A receiver with a first key and tags of ten bytes. -/
def firstKeyReceiver : RecvStream := recvStream (config [key (some [1]) .default]) (by decide +kernel)

theorem trailer_agrees_iff_rekeyed :
    firstKeyReceiver.ReadsTrailers ∧ ∀ e ∈ (runAll streamStep firstKeyReceiver
      [.update (rekeyed .aes128CmHmacSha180) (by decide +kernel) [some [2]]]).1,
      e.post.ReadsTrailers := by
  have hv : (config [key (some [1]) .default]).validate = .ok () := by decide +kernel
  refine (trailer_agrees_iff hv ?_ (recvStream_eq _ _) (.runAll ..) ?_).mpr ?_
  · decide
  · rintro e he config valid order hinput
    obtain rfl := List.mem_singleton.mp he
    obtain ⟨rfl, rfl⟩ := StreamOp.update.inj hinput
    have hok : (firstKeyReceiver.update (rekeyed .aes128CmHmacSha180) [some [2]]).result = .ok () := by
      decide +kernel
    exact ⟨congrArg Outcome.unit hok, by decide⟩
  · rintro e he config valid order hinput key hk hnone
    obtain rfl := List.mem_singleton.mp he
    obtain ⟨rfl, rfl⟩ := StreamOp.update.inj hinput
    exact ⟨rfl, rfl⟩

/-- The update with a second key under a profile with a tag of four bytes succeeds. -/
theorem shortTag_rekeying_misreads :
    (firstKeyReceiver.update (rekeyed .aes128CmHmacSha132) [some [2]]).result = .ok () ∧
      ¬ (firstKeyReceiver.update (rekeyed .aes128CmHmacSha132) [some [2]]).state.ReadsTrailers := by
  refine ⟨by decide +kernel, fun h => ?_⟩
  have htag : ((firstKeyReceiver.update (rekeyed .aes128CmHmacSha132) [some [2]]).state.base
      |>.transforms.lookup (some [2])).map (·.1.rtpProfile.tagLen) = some 4 := by decide +kernel
  obtain ⟨⟨t, l⟩, hl, ht⟩ := Option.map_eq_some_iff.mp htag
  have hten :
      (firstKeyReceiver.update (rekeyed .aes128CmHmacSha132) [some [2]]).state.rtpTagLen = 10 := by
    decide +kernel
  have heq : 4 = 10 := ht.symm.trans ((h _ t l hl).rtpTag.trans hten)
  exact absurd heq (by decide)

end Example

end LibSrtp
