import LibSrtp.Lifetimes
import LibSrtp.SessionStreams

/-!
# The lives of a key in a session

The lives of a key are counted per stream. As long as a stream is not removed, neither updates, nor
other streams, nor the template give it more of them.

* `used_le_of_given`: a stream uses a key no more often than a configuration gives it lives;
* `session_lives_bound`: nor does a session under one SSRC.
-/

namespace LibSrtp

open Exec PacketStream

variable {T : Type} [PacketStream T]

/-- The configuration gives the key `m` no more lives than this. -/
def StreamConfig.GivesAtMost (isRtp : Bool) (m : Mki) (limit : ℕ) (config : StreamConfig) : Prop :=
  ∀ key ∈ config.keys, key.mki = m → key.lifetime.lives isRtp ≤ limit

/-- A packet of one component that was processed under the MKI `m`. -/
def Shown.uses (isRtp : Bool) (m : Mki) : Shown T → Bool
  | .call c (.ok (_, m')) (.ok _) => decide (PacketStream.isRtp c = isRtp ∧ m' = m)
  | _ => false

/-- The packets of one component that a session processed for an SSRC under the MKI `m`. -/
def sessionUsed (isRtp : Bool) (m : Mki) (k : UInt32) (es : List (SessionEvent T)) : ℕ :=
  (es.flatMap (SessionEvent.shows k)).countP (Shown.uses isRtp m)

theorem Shown.done_of_uses {isRtp : Bool} {m : Mki} {w : Shown T} (h : w.uses isRtp m = true) :
    w.Done := by
  unfold Shown.uses at h
  split at h
  · exact ⟨_, rfl⟩
  · cases h

section Stream

variable {isRtp : Bool} {m : Mki} {limit : ℕ}

theorem StreamConfig.GivesAtMost.disabled {config : StreamConfig} (h : config.GivesAtMost isRtp m limit)
    (m' : Mki) : (config.disabled m').GivesAtMost isRtp m limit := by
  intro key hkey hm
  obtain ⟨key₀, hkey₀, rfl⟩ := StreamConfig.mem_disabled.mp hkey
  split
  · cases isRtp <;> exact Nat.zero_le _
  · next hne =>
    rw [if_neg hne] at hm
    exact h key₀ hkey₀ hm

variable [Crates] [LawfulStream T]

/-- What an event shows of the key is its use. -/
theorem countP_shows {s : T} (hs : InRange s) (op : StreamOp T) :
    (StreamEvent.shows (.of streamStep s op)).countP (Shown.uses isRtp m) =
      if StreamEvent.uses (.of streamStep s op) isRtp m then 1 else 0 := by
  cases op with
  | call c =>
    have hcalled := LawfulStream.called c hs
    show [Shown.call c (locate s c) (call s c).result].countP (Shown.uses isRtp m) =
      if StreamEvent.uses ⟨s, .call c, .packet (call s c).result, (call s c).state⟩ isRtp m then 1
      else 0
    rw [List.countP_singleton]
    cases hr : (call s c).result with
    | error f => cases locate s c <;> rfl
    | ok bytes =>
      obtain ⟨i, m', t, l, hlocate, -⟩ := hcalled.of_ok hr
      have hmki := LawfulStream.locate_mki hs hlocate
      rw [hlocate, StreamEvent.uses_call, hmki]
      simp only [Shown.uses, Except.ok.injEq]
      congr
  | _ => rfl

theorem countP_flatMap_shows {s₀ s : T} (hs : InRange s₀) {es : List (StreamEvent T)}
    (ht : Trace streamStep s₀ es s) :
    (es.flatMap StreamEvent.shows).countP (Shown.uses isRtp m) = used isRtp m es := by
  have hboth : InRange s ∧ (es.flatMap StreamEvent.shows).countP (Shown.uses isRtp m) =
      used isRtp m es := by
    refine ht.history_of (P := fun _ => True) (I := fun (es : List (StreamEvent T)) s => InRange s ∧
      (es.flatMap StreamEvent.shows).countP (Shown.uses isRtp m) = used isRtp m es)
      (fun _ _ => trivial) ⟨hs, rfl⟩ ?_
    rintro es s op ⟨hrange, heq⟩ -
    refine ⟨inRange_step hrange op, ?_⟩
    rw [List.flatMap_append, List.countP_append, heq, List.flatMap_cons, List.flatMap_nil,
      List.append_nil, countP_shows hrange]
    cases hu : StreamEvent.uses (.of streamStep s op) isRtp m with
    | true => rw [used_append_of_uses hu, if_pos rfl]
    | false => rw [used_append_of_not hu, if_neg Bool.false_ne_true, Nat.add_zero]
  exact hboth.2

/-- A packet that was processed had its key. -/
theorem not_uses_of_absent {s : T} (hs : InRange s) {op : StreamOp T}
    (hl : (base s).transforms.lookup m = none) :
    StreamEvent.uses (.of streamStep s op) isRtp m = false := by
  cases op with
  | call c =>
    have hcalled := LawfulStream.called c hs
    show StreamEvent.uses ⟨s, .call c, .packet (call s c).result, (call s c).state⟩ isRtp m = false
    cases hr : (call s c).result with
    | error f => rfl
    | ok bytes =>
      obtain ⟨i, m', t, l, hlocate, hl', -⟩ := hcalled.of_ok hr
      rw [StreamEvent.uses_call, LawfulStream.locate_mki hs hlocate, decide_eq_false_iff_not]
      rintro ⟨-, heq⟩
      obtain rfl := Except.ok.inj heq
      rw [hl] at hl'
      cases hl'
  | _ => rfl

omit [Crates] [LawfulStream T] in
theorem livesAfter_of_uses {e : StreamEvent T} (h : e.uses isRtp m = true) (l : KeysLifetime) :
    e.livesAfter m l = l.spent isRtp := by
  have hother := (StreamEvent.uses_exclusive h).1
  unfold StreamEvent.livesAfter
  cases isRtp with
  | true => rw [if_pos h]
  | false => rw [if_neg (by rw [show e.uses true m = false from hother]; simp), if_pos h]

omit [PacketStream T] [Crates] [LawfulStream T] in
theorem KeysLifetime.lives_le {l l' : KeysLifetime} (hrtp : l'.rtp ≤ l.rtp) (hrtcp : l'.rtcp ≤ l.rtcp)
    (isRtp : Bool) : l'.lives isRtp ≤ l.lives isRtp := by
  cases isRtp
  · exact hrtcp
  · exact hrtp

omit [PacketStream T] [Crates] [LawfulStream T] in
theorem KeysLifetime.spent_lives_le (l : KeysLifetime) (b isRtp : Bool) :
    (l.spent b).lives isRtp ≤ l.lives isRtp := by
  have hzero : ∀ (p : Prop) [Decidable p] (n : ℕ), (if p then 0 else n) ≤ n := by
    intro p _ n
    split
    · exact Nat.zero_le n
    · exact le_rfl
  cases b
  · exact lives_le (hzero ..) (Nat.sub_le ..) isRtp
  · exact lives_le (Nat.sub_le ..) (hzero ..) isRtp

omit [Crates] [LawfulStream T] in
/-- The lives of a key never grow. -/
theorem livesAfter_lives_le (e : StreamEvent T) (m : Mki) (l : KeysLifetime) (isRtp : Bool) :
    (e.livesAfter m l).lives isRtp ≤ l.lives isRtp := by
  unfold StreamEvent.livesAfter
  split_ifs
  · exact l.spent_lives_le true isRtp
  · exact l.spent_lives_le false isRtp
  · exact KeysLifetime.lives_le (Nat.zero_le _) (Nat.zero_le _) isRtp
  · exact le_rfl

/-- The uses of a key, and the lives it has left, are within the limit. -/
structure WithinLimit (isRtp : Bool) (m : Mki) (limit : ℕ) (es : List (StreamEvent T)) (s : T) :
    Prop where
  range : InRange s
  unused : (base s).transforms.lookup m = none → used isRtp m es = 0
  left {t : Transform} {l : KeysLifetime} : (base s).transforms.lookup m = some (t, l) →
    used isRtp m es + l.lives isRtp ≤ limit

theorem WithinLimit.step {es : List (StreamEvent T)} {s : T} (h : WithinLimit isRtp m limit es s)
    {op : StreamOp T} (hop : op.Takes (·.GivesAtMost isRtp m limit)) :
    WithinLimit isRtp m limit (es ++ [.of streamStep s op]) (streamStep s op).2 := by
  refine ⟨inRange_step h.range op, fun hnone => ?_, fun {t l} hl => ?_⟩
  · -- a key that is not there was not there before, so the event did not use it
    cases hbefore : (base s).transforms.lookup m with
    | some entry =>
      rw [lookup_step h.range op hbefore] at hnone
      cases hnone
    | none => rw [used_append_of_not (not_uses_of_absent h.range hbefore), h.unused hbefore]
  · cases hbefore : (base s).transforms.lookup m with
    | some entry =>
      obtain ⟨t', l'⟩ := entry
      rw [lookup_step h.range op hbefore] at hl
      obtain ⟨-, rfl⟩ := Prod.mk.inj (Option.some.inj hl)
      have hleft := h.left hbefore
      cases hu : StreamEvent.uses (.of streamStep s op) isRtp m with
      | true =>
        have hspent := KeysLifetime.spent_lives (lives_of_uses h.range hbefore hu)
        rw [used_append_of_uses hu, livesAfter_of_uses hu]
        omega
      | false =>
        rw [used_append_of_not hu]
        exact (Nat.add_le_add_left (livesAfter_lives_le _ _ _ _) _).trans hleft
    | none =>
      rw [used_append_of_not (not_uses_of_absent h.range hbefore), h.unused hbefore, Nat.zero_add]
      rcases transform_step h.range op hl with ⟨l', hl'⟩ | ⟨config, valid, order, rfl, -⟩
      · rw [hbefore] at hl'
        cases hl'
      · have hu := LawfulStream.updated s order (StreamConfig.valid_of_validate valid).keys_ne
        rcases lookup_update hu hl with hl' | ⟨-, key, hkey, hm, rfl, -⟩
        · rw [hbefore] at hl'
          cases hl'
        · exact hop config valid order rfl key hkey hm

/-- A stream uses a key no more often than its configurations give it lives. -/
theorem used_le_of_given {config : StreamConfig} (hC : config.GivesAtMost isRtp m limit) {k : UInt32}
    {handler : Option KeyLimitHandler} {s₀ s : T} (hnew : StreamInterface.new k config handler = .ok s₀)
    {es : List (StreamEvent T)} (ht : Trace streamStep s₀ es s)
    (htakes : ∀ e ∈ es, e.input.Takes (·.GivesAtMost isRtp m limit)) : used isRtp m es ≤ limit := by
  have hlimit : WithinLimit isRtp m limit es s := by
    refine ht.history_of (I := WithinLimit isRtp m limit)
      (P := fun e => e.input.Takes (·.GivesAtMost isRtp m limit)) htakes ?_
      fun es s op h hop => h.step hop
    refine ⟨(LawfulStream.new_ok hnew).2, fun _ => rfl, fun {t l} hl => ?_⟩
    obtain ⟨key, hkey, hm, rfl, -⟩ := lookup_new hnew hl
    rw [show used isRtp m [] = 0 from rfl, Nat.zero_add]
    exact hC key hkey hm
  cases hl : (base s).transforms.lookup m with
  | none => exact (hlimit.unused hl).trans_le (Nat.zero_le _)
  | some entry => exact (Nat.le_add_right _ _).trans (hlimit.left hl)

end Stream

/-- In a session that does not remove the stream of an SSRC, whatever becomes of the others, and
whether the stream follows the template or not, a key is used on the SSRC no more often than a
configuration for the SSRC or for the template ever gave it lives. -/
theorem session_lives_bound [Crates] [LawfulStream T] {isRtp : Bool} {m : Mki} {k : UInt32} {limit : ℕ}
    {es : List (SessionEvent T)} {s : Session T} (ht : Trace sessionStep .new es s)
    (hleaves : ∀ e ∈ es, e.input.Leaves k (·.GivesAtMost isRtp m limit)) :
    sessionUsed isRtp m k es ≤ limit := by
  have hchronicle := Session.Chronicle.run (fun _ m' h => h.disabled m') ht hleaves
  have hzero : ∀ {es : List (SessionEvent T)}, (∀ e ∈ es, ∀ w ∈ SessionEvent.shows k e, ¬ w.Done) →
      (es.flatMap (SessionEvent.shows k)).countP (Shown.uses isRtp m) = 0 := by
    intro es hes
    refine List.countP_eq_zero.mpr fun w hw huses => ?_
    obtain ⟨e, he, hw⟩ := List.mem_flatMap.mp hw
    exact hes e he w hw (Shown.done_of_uses huses)
  unfold sessionUsed
  cases hl : s.streams.lookup k with
  | none => exact (hzero (hchronicle.absent hl)).trans_le (Nat.zero_le _)
  | some entry =>
    obtain ⟨x, fromTemplate⟩ := entry
    obtain ⟨pre, post, rfl, hpre, config, handler, x₀, es', hv, hC, hnew, ht', htakes, hshows⟩ :=
      hchronicle.present hl
    rw [List.flatMap_append, List.countP_append, hzero hpre, Nat.zero_add, ← hshows,
      countP_flatMap_shows (LawfulStream.new_ok hnew).2 ht']
    exact used_le_of_given hC hnew ht' htakes

section Example

open Vectors

attribute [local instance] Vectors.crates

/-- Two lives, three packets, and the configuration once more in between. -/
def refillOps : List (SessionOp SendStream) :=
  [.addStream (some 0xcafebabe) (config [key none fewLives]) [] fun _ => [none],
    .request (SendRequest.rtpProtectMki (rtpPacket 0xcafebabe 1) none),
    .addStream (some 0xcafebabe) (config [key none fewLives]) [] fun _ => [none],
    .request (SendRequest.rtpProtectMki (rtpPacket 0xcafebabe 2) none),
    .request (SendRequest.rtpProtectMki (rtpPacket 0xcafebabe 3) none)]

theorem session_lives_bound_refill :
    sessionUsed true none 0xcafebabe (runAll sessionStep (.new : SendSession) refillOps).1 ≤ 2 := by
  refine session_lives_bound (.runAll ..) fun e he => ?_
  have hgives : (config [key none fewLives]).GivesAtMost true none 2 := by
    intro k hk _
    obtain rfl := List.mem_singleton.mp hk
    exact le_rfl
  have hmem := input_mem_of_runAll he
  refine ⟨⟨fun heq _ => ?_⟩, fun heq => ?_⟩
  · rw [heq] at hmem
    obtain ⟨-, rfl, -⟩ : _ ∧ _ = config [key none fewLives] ∧ _ := by simpa [refillOps] using hmem
    exact hgives
  · rw [heq] at hmem
    simp [refillOps] at hmem

end Example

end LibSrtp
