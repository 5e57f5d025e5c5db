import LibSrtp.Encipherment
import LibSrtp.ReplayWindow
import LibSrtp.Lifetimes

/-!
# IVs are used once

Under one session key a sender must not use an IV twice.

* `AesCmSha1.rtpIv_inj` and the like: an IV tells what it was made of;
* `srtp_ivs_distinct`: a sender that does not allow repeats enciphers no two SRTP packets under one
  IV.
-/

namespace LibSrtp

open Exec PacketStream SlidingWindow Bytes

/-! ## What an IV is made of -/

theorem toBe_u32_inj {x y : UInt32} (h : toBe 4 x.toNat = toBe 4 y.toNat) : x = y :=
  UInt32.toNat_inj.mp (toBe_inj x.toNat_lt y.toNat_lt h)

theorem toBe_u16_inj {x y : UInt16} (h : toBe 2 x.toNat = toBe 2 y.toNat) : x = y :=
  UInt16.toNat_inj.mp (toBe_inj x.toNat_lt y.toNat_lt h)

theorem length_toBe_eq (k x y : ℕ) : (toBe k x).length = (toBe k y).length := by
  rw [length_toBe, length_toBe]

/-- The layout of the SRTP IVs: three fields, in order. -/
theorem xorArr_rtp_inj {n ssrcAt rocAt seqAt : ℕ} (h₁ : ssrcAt + 4 ≤ rocAt) (h₂ : rocAt + 4 ≤ seqAt)
    (h₃ : seqAt + 2 ≤ n) {salt : ByteArr n} {header header' : RtpHeader} {roc roc' : UInt32}
    (h : xorArr (field seqAt (toBe 2 header.seqNum.toNat)) (xorArr (field rocAt (toBe 4 roc.toNat))
        (xorArr (field ssrcAt (toBe 4 header.ssrc.toNat)) salt)) =
      xorArr (field seqAt (toBe 2 header'.seqNum.toNat)) (xorArr (field rocAt (toBe 4 roc'.toNat))
        (xorArr (field ssrcAt (toBe 4 header'.ssrc.toNat)) salt))) :
    header.ssrc = header'.ssrc ∧ roc = roc' ∧ header.seqNum = header'.seqNum := by
  have hsalt : AgreeFrom ssrcAt salt.1 salt.1 := fun _ _ => rfl
  have hssrc : AgreeFrom rocAt (xorStream (field ssrcAt (toBe 4 header.ssrc.toNat)) salt.1)
      (xorStream (field ssrcAt (toBe 4 header'.ssrc.toNat)) salt.1) :=
    hsalt.field (length_toBe_eq ..) rfl (by rwa [length_toBe])
  have hroc : AgreeFrom seqAt
      (xorStream (field rocAt (toBe 4 roc.toNat))
        (xorStream (field ssrcAt (toBe 4 header.ssrc.toNat)) salt.1))
      (xorStream (field rocAt (toBe 4 roc'.toNat))
        (xorStream (field ssrcAt (toBe 4 header'.ssrc.toNat)) salt.1)) :=
    hssrc.field (length_toBe_eq ..) (by simp only [length_xorStream]) (by rwa [length_toBe])
  obtain ⟨hseq, h⟩ := hroc.peel (length_toBe_eq ..) (by simp only [length_xorStream])
    (by simp only [length_xorStream, length_toBe, salt.2]; omega) (congrArg Subtype.val h)
  obtain ⟨hs, hr⟩ := two_fields (length_toBe_eq ..) (length_toBe_eq ..) (by rwa [length_toBe])
    (by rw [length_toBe, salt.2]; omega) h
  exact ⟨toBe_u32_inj hs, toBe_u32_inj hr, toBe_u16_inj hseq⟩

/-- The layout of the SRTCP IVs: two fields, in order. -/
theorem xorArr_rtcp_inj {n ssrcAt indexAt : ℕ} (h₁ : ssrcAt + 4 ≤ indexAt) (h₂ : indexAt + 4 ≤ n)
    {salt : ByteArr n} {header header' : RtcpHeader} {i i' : UInt32}
    (h : xorArr (field indexAt (toBe 4 i.toNat))
        (xorArr (field ssrcAt (toBe 4 header.ssrc.toNat)) salt) =
      xorArr (field indexAt (toBe 4 i'.toNat))
        (xorArr (field ssrcAt (toBe 4 header'.ssrc.toNat)) salt)) :
    header.ssrc = header'.ssrc ∧ i = i' := by
  obtain ⟨hs, hi⟩ := two_fields (length_toBe_eq ..) (length_toBe_eq ..) (by rwa [length_toBe])
    (by rwa [length_toBe, salt.2]) (congrArg Subtype.val h)
  exact ⟨toBe_u32_inj hs, toBe_u32_inj hi⟩

theorem AesCmSha1.rtpIv_inj {salt : ByteArr 14} {header header' : RtpHeader} {roc roc' : UInt32}
    (h : rtpIv salt header roc = rtpIv salt header' roc') :
    header.ssrc = header'.ssrc ∧ roc = roc' ∧ header.seqNum = header'.seqNum :=
  xorArr_rtp_inj (by decide) (by decide) (by decide) h

theorem AesCmSha1.rtcpIv_inj {salt : ByteArr 14} {header header' : RtcpHeader} {i i' : UInt32}
    (h : rtcpIv salt header i = rtcpIv salt header' i') : header.ssrc = header'.ssrc ∧ i = i' :=
  xorArr_rtcp_inj (by decide) (by decide) h

theorem AesGcm.rtpIv_inj {salt : ByteArr 12} {header header' : RtpHeader} {roc roc' : UInt32}
    (h : rtpIv salt header roc = rtpIv salt header' roc') :
    header.ssrc = header'.ssrc ∧ roc = roc' ∧ header.seqNum = header'.seqNum :=
  xorArr_rtp_inj (by decide) (by decide) (by decide) h

theorem AesGcm.rtcpIv_inj {salt : ByteArr 12} {header header' : RtcpHeader} {i i' : UInt32}
    (h : rtcpIv salt header i = rtcpIv salt header' i') : header.ssrc = header'.ssrc ∧ i = i' :=
  xorArr_rtcp_inj (by decide) (by decide) h

/-! ## SRTP -/

section Runs

variable [Crates]

/-- A packet that was protected, by its header and the index it was protected under. -/
structure SrtpUse where
  header : RtpHeader
  index : ℕ

/-- The header and the index of an SRTP packet. -/
def SendCall.srtp : SendCall → Nat → Option SrtpUse
  | .rtpProtect header _ _ _, index => some ⟨header, index⟩
  | .rtcpProtect .., _ => none

/-- A successful `rtpProtect`. -/
def StreamEvent.rtpUse (e : StreamEvent SendStream) : Option SrtpUse :=
  match e.input, e.answer with
  | .call (.rtpProtect header _ _ _), .packet (.ok _) =>
    match e.pre.rtpIndex header with
    | .ok index => some ⟨header, index⟩
    | .error _ => none
  | _, _ => none

/-- The successful `rtpProtect` calls of a run, in order. -/
def rtpUses (es : List (StreamEvent SendStream)) : List SrtpUse := es.filterMap StreamEvent.rtpUse

theorem rtpUses_append (es : List (StreamEvent SendStream)) (e : StreamEvent SendStream) :
    rtpUses (es ++ [e]) = rtpUses es ++ e.rtpUse.toList := by
  rw [rtpUses, rtpUses, List.filterMap_append]
  cases h : e.rtpUse <;> simp [h]

/-- The packet of a use was enciphered under it. -/
theorem StreamEvent.enciphers_of_rtpUse {s : SendStream} (hs : Sound s) {op : StreamOp SendStream}
    {u : SrtpUse} (h : StreamEvent.rtpUse (.of streamStep s op) = some u) :
    ∃ p ∈ StreamEvent.processed (.of streamStep s op),
      SendCall.srtp p.call p.index = some u ∧ p.Enciphers := by
  cases op with
  | call c =>
    change StreamEvent.rtpUse ⟨s, .call c, .packet (call s c).result, _⟩ = some u at h
    show ∃ p ∈ StreamEvent.processed ⟨s, .call c, .packet (call s c).result, (call s c).state⟩, _
    cases hr : (call s c).result with
    | error f =>
      rw [hr] at h
      cases c <;> cases h
    | ok bytes =>
      rw [hr] at h
      obtain ⟨p, hp, hproper⟩ := hs.exists_processed hr
      refine ⟨p, hp, ?_, hproper.enciphers⟩
      obtain ⟨m, l, hlocate, -, -, hcall, -⟩ := Processed.on_eq hp
      rw [hcall]
      cases c with
      | rtpProtect header plain mki parsed =>
        obtain ⟨i, hi, heq⟩ := bind_eq_ok.mp hlocate
        obtain ⟨hindex, -⟩ := Prod.mk.inj (Except.ok.inj heq)
        unfold rtpUse at h
        dsimp only at h
        rw [hi] at h
        rw [← hindex]
        exact h
      | rtcpProtect => cases h
  | direct d => exact d.elim
  | _ => cases h

/-- Neither construction gives the two packets the same IV, whatever the session salt. -/
def SrtpUse.IvsDiffer (u v : SrtpUse) : Prop :=
  (∀ salt, AesCmSha1.rtpIv salt u.header (rocOfIndex u.index) ≠
    AesCmSha1.rtpIv salt v.header (rocOfIndex v.index)) ∧
  ∀ salt, AesGcm.rtpIv salt u.header (rocOfIndex u.index) ≠
    AesGcm.rtpIv salt v.header (rocOfIndex v.index)

/-- The index ends in the sequence number, and its ROC has 32 bits. -/
def SrtpUse.Fits (u : SrtpUse) : Prop :=
  u.index % 2 ^ 16 = u.header.seqNum.toNat ∧ u.index < 2 ^ 48

omit [Crates] in
/-- An IV tells the index. -/
theorem SrtpUse.ivsDiffer {u v : SrtpUse} (hu : u.Fits) (hv : v.Fits) (h : u.index ≠ v.index) :
    u.IvsDiffer v := by
  obtain ⟨hseq, hlt⟩ := hu
  obtain ⟨hseq', hlt'⟩ := hv
  have hinj : rocOfIndex u.index = rocOfIndex v.index → u.header.seqNum = v.header.seqNum → False := by
    intro hroc hnum
    have hroc := congrArg UInt32.toNat hroc
    unfold rocOfIndex at hroc
    rw [Nat.shiftRight_eq_div_pow, Nat.shiftRight_eq_div_pow, UInt32.toNat_ofNat_of_lt',
      UInt32.toNat_ofNat_of_lt'] at hroc
    · rw [hnum, ← hseq'] at hseq
      exact h (by omega)
    · exact Nat.div_lt_of_lt_mul (by omega)
    · exact Nat.div_lt_of_lt_mul (by omega)
  constructor
  · intro salt heq
    obtain ⟨-, hroc, hnum⟩ := AesCmSha1.rtpIv_inj heq
    exact hinj hroc hnum
  · intro salt heq
    obtain ⟨-, hroc, hnum⟩ := AesGcm.rtpIv_inj heq
    exact hinj hroc hnum

/-- A sender that does not allow repeats, after the packets `uses`. -/
structure UsedOnce (uses : List SrtpUse) (s : SendStream) : Prop where
  sound : Sound s
  noRepeat : s.base.allowSendRepeat = false
  tracks : s.base.rtpIndex.Tracks (uses.map (·.index)).toFinset
  fits : ∀ u ∈ uses, u.Fits
  nodup : (uses.map (·.index)).Nodup

/-- The stream is as it was but for its keys. -/
theorem UsedOnce.congr {uses : List SrtpUse} {s s' : SendStream} (h : UsedOnce uses s)
    (hs : Sound s') (hdb : s'.base.rtpIndex = s.base.rtpIndex)
    (hr : s'.base.allowSendRepeat = s.base.allowSendRepeat) : UsedOnce uses s' :=
  ⟨hs, hr.trans h.noRepeat, hdb ▸ h.tracks, h.fits, h.nodup⟩

/-- A packet that is protected uses a new index. -/
theorem UsedOnce.protect {uses : List SrtpUse} {s : SendStream} (h : UsedOnce uses s)
    {header : RtpHeader} {plain bytes : Bytes} {mki : Mki} {parsed : RtpHeader.new plain = .ok header}
    (hb : (call s (SendCall.rtpProtect header plain mki parsed)).result = .ok bytes)
    (hlimit :
      (call s (SendCall.rtpProtect header plain mki parsed)).state.base.rtpIndex.index < 2 ^ 48) :
    ∃ i, s.rtpIndex header = .ok i ∧ UsedOnce (uses ++ [⟨header, i⟩])
      (call s (SendCall.rtpProtect header plain mki parsed)).state := by
  have hsound := h.sound.step (.call (SendCall.rtpProtect header plain mki parsed))
  have hsound : Sound (call s (SendCall.rtpProtect header plain mki parsed)).state := hsound
  obtain ⟨i, m, t, l, hlocate, -, -, -, hstate⟩ :=
    (LawfulStream.called (SendCall.rtpProtect header plain mki parsed) h.sound.inRange).of_ok hb
  obtain ⟨j, hj, heq⟩ := bind_eq_ok.mp hlocate
  obtain ⟨rfl, rfl⟩ := Prod.mk.inj (Except.ok.inj heq)
  have hindex := hj
  rw [SendStream.rtpIndex_eq h.sound.inRange.1] at hindex
  split at hindex
  · exact absurd hindex fail_ne_ok
  · next hseen =>
    obtain rfl := Except.ok.inj hindex
    have hnew : ¬ Seen s.base.rtpIndex.windowSize (uses.map (·.index)).toFinset
        (s.base.rtpIndex.estimate header.seqNum) := by
      rw [← h.tracks.seen_iff]
      exact fun hs => hseen ⟨h.noRepeat, hs⟩
    have hfresh : s.base.rtpIndex.estimate header.seqNum ∉ uses.map (·.index) :=
      fun hmem => hnew (seen_of_mem (List.mem_toFinset.mpr hmem))
    refine ⟨_, hj, hsound, ?_, ?_, ?_, ?_⟩
    · rw [hstate]
      exact h.noRepeat
    · rw [hstate, List.map_append, List.toFinset_append, Finset.union_comm]
      exact h.tracks.added _
    · intro u hu
      rcases List.mem_append.mp hu with hu | hu
      · exact h.fits u hu
      · obtain rfl := List.mem_singleton.mp hu
        rw [hstate] at hlimit
        have hmax : max s.base.rtpIndex.index (s.base.rtpIndex.estimate header.seqNum) < 2 ^ 48 :=
          hlimit
        exact ⟨RtpReplayDb.estimate_mod _ _, (le_max_right _ _).trans_lt hmax⟩
    · rw [List.map_append, List.nodup_append]
      refine ⟨h.nodup, List.nodup_singleton _, ?_⟩
      rintro a ha b hb rfl
      obtain rfl := List.mem_singleton.mp hb
      exact hfresh ha

/-- What an event adds to the uses, if it is no update. -/
theorem UsedOnce.step {uses : List SrtpUse} {s : SendStream} (h : UsedOnce uses s)
    {op : StreamOp SendStream} (hop : ∀ config valid order, op ≠ .update config valid order)
    (hlimit : (streamStep s op).2.base.rtpIndex.index < 2 ^ 48) :
    UsedOnce (uses ++ (StreamEvent.rtpUse (.of streamStep s op)).toList) (streamStep s op).2 := by
  have hsound := h.sound.step op
  cases op with
  | call c =>
    have hcalled := LawfulStream.called c h.sound.inRange
    cases hr : (call s c).result with
    | error f =>
      have hnone : StreamEvent.rtpUse (.of streamStep s (.call c)) = none := by
        show StreamEvent.rtpUse ⟨s, .call c, .packet (call s c).result, _⟩ = none
        rw [hr]
        cases c <;> rfl
      rw [hnone]
      show UsedOnce (uses ++ []) (call s c).state
      rwa [List.append_nil, hcalled.state_of_error hr]
    | ok bytes =>
      cases c with
      | rtpProtect header plain mki parsed =>
        obtain ⟨i, hi, hused⟩ := h.protect hr hlimit
        have huse : StreamEvent.rtpUse (.of streamStep s
            (.call (SendCall.rtpProtect header plain mki parsed))) = some ⟨header, i⟩ := by
          show StreamEvent.rtpUse ⟨s, .call (SendCall.rtpProtect header plain mki parsed),
            .packet (call s (SendCall.rtpProtect header plain mki parsed)).result, _⟩ = _
          rw [hr]
          unfold StreamEvent.rtpUse
          dsimp only
          rw [hi]
        rw [huse]
        exact hused
      | rtcpProtect header plain mki parsed =>
        obtain ⟨_, _, _, _, -, -, -, -, hstate⟩ := hcalled.of_ok hr
        have hnone : StreamEvent.rtpUse (.of streamStep s
            (.call (SendCall.rtcpProtect header plain mki parsed))) = none := by
          show StreamEvent.rtpUse ⟨s, .call (SendCall.rtcpProtect header plain mki parsed),
            .packet (call s (SendCall.rtcpProtect header plain mki parsed)).result, _⟩ = none
          rw [hr]
          rfl
        rw [hnone]
        show UsedOnce (uses ++ []) (call s (SendCall.rtcpProtect header plain mki parsed)).state
        rw [List.append_nil]
        refine h.congr hsound ?_ ?_
        · rw [hstate]; rfl
        · rw [hstate]; rfl
  | update config valid order => exact absurd rfl (hop config valid order)
  | kill m =>
    show UsedOnce (uses ++ []) (StreamInterface.killSessionKeys s m).state
    rw [List.append_nil]
    cases hl : (PacketStream.base s).transforms.lookup m with
    | none => rwa [LawfulStream.killed_none hl]
    | some entry =>
      refine h.congr hsound ?_ ?_
      · rw [LawfulStream.killed_some hl]; rfl
      · rw [LawfulStream.killed_some hl]; rfl
  | direct d => exact d.elim

/-- A sender that does not allow repeats, built from a valid configuration and not updated since,
never uses an SRTP IV twice, under any session salt. The IVs are those that its packets are enciphered
under. -/
theorem srtp_ivs_distinct {config : StreamConfig} (hv : config.validate = .ok ())
    (hrepeat : config.allowSendRepeat = false) {ssrc : UInt32} {handler : Option KeyLimitHandler}
    {s₀ s : SendStream} (hnew : SendStream.new ssrc config handler = .ok s₀)
    {es : List (StreamEvent SendStream)} (ht : Trace streamStep s₀ es s)
    (hfixed : ∀ e ∈ es, ∀ config valid order, e.input ≠ .update config valid order)
    (hlimit : ∀ e ∈ es, e.post.base.rtpIndex.index < 2 ^ 48) :
    (rtpUses es).Pairwise SrtpUse.IvsDiffer ∧
      ∀ e ∈ es, ∀ u ∈ e.rtpUse, ∃ p ∈ e.processed,
        SendCall.srtp p.call p.index = some u ∧ p.Enciphers := by
  have hsound : Sound s₀ := .new (StreamConfig.valid_of_validate hv) hnew
  have hstart : UsedOnce [] s₀ := by
    obtain ⟨b, hb, h⟩ := bind_eq_ok.mp hnew
    obtain rfl := Except.ok.inj h
    obtain ⟨_, _, _, _, _, rfl⟩ := BaseStream.new_ok hb
    exact ⟨hsound, hrepeat, RtpReplayDb.tracks_new _, by simp, List.nodup_nil⟩
  have hused : UsedOnce (rtpUses es) s := by
    refine ht.history_of (I := fun es s => UsedOnce (rtpUses es) s)
      (P := fun e => (∀ config valid order, e.input ≠ .update config valid order) ∧
        e.post.base.rtpIndex.index < 2 ^ 48)
      (fun e he => ⟨hfixed e he, hlimit e he⟩) hstart ?_
    rintro es s op h ⟨hop, hpost⟩
    rw [rtpUses_append]
    exact h.step hop hpost
  have hindices := List.pairwise_map.mp hused.nodup
  constructor
  · exact hindices.imp_of_mem fun hu hv hne => SrtpUse.ivsDiffer (hused.fits _ hu) (hused.fits _ hv) hne
  · intro e he u hu
    obtain ⟨pre, post, -, hpre, heq⟩ := ht.of_mem he
    rw [heq] at hu ⊢
    exact StreamEvent.enciphers_of_rtpUse (hsound.run hpre) hu

end Runs

section Example

open Vectors

attribute [local instance] Vectors.crates

/-- Two RTP packets in the wrong order, with an RTCP packet in between. -/
def reordered : List (StreamOp SendStream) :=
  [.call (protectCall 8 none (by decide)), .call (protectRtcpCall none),
    .call (protectCall 7 none (by decide))]

theorem srtp_ivs_distinct_reordered :
    (rtpUses (runAll streamStep plainSender reordered).1).length = 2 ∧
      (rtpUses (runAll streamStep plainSender reordered).1).Pairwise SrtpUse.IvsDiffer ∧
      ∀ e ∈ (runAll streamStep plainSender reordered).1, ∀ u ∈ StreamEvent.rtpUse e,
        ∃ p ∈ StreamEvent.processed e, SendCall.srtp p.call p.index = some u ∧ p.Enciphers := by
  have hcalls : ∀ e ∈ (runAll streamStep plainSender reordered).1, ∀ config valid order,
      e.input ≠ .update config valid order := by
    intro e he
    simp only [reordered, runAll, List.mem_cons, List.not_mem_nil, or_false] at he
    rcases he with rfl | rfl | rfl <;> intro _ _ _ h <;> cases h
  have hnew : SendStream.new 0xcafebabe (config [key none .default]) none = .ok plainSender :=
    sendStream_eq _ _
  exact ⟨by decide +kernel,
    srtp_ivs_distinct (by decide) rfl hnew (.runAll ..) hcalls (by decide +kernel)⟩

end Example

end LibSrtp
