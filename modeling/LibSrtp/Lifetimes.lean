import LibSrtp.StreamRun
import LibSrtp.Vectors

/-!
# The lives of a key

A key is installed with some lives for RTP and some for RTCP. `Account` relates the lives it has
later to the operations that used it in between: until one of the two counts is used up, or the key
is killed, the lives are exactly those left; from then on there are none.

* `Account.step`: one step keeps the account;
* `lifetime_accounting`: what follows for every run of a stream.
-/

namespace LibSrtp

open Exec PacketStream

variable {T : Type} [PacketStream T]

/-- The successful operations of one component under `m`. -/
def used (isRtp : Bool) (m : Mki) (es : List (StreamEvent T)) : Nat := es.countP (·.uses isRtp m)

/-- The key `m`, installed with the lives `l`, has no lives left: one component has used up its own,
or the key was killed. -/
def Exhausted (l : KeysLifetime) (m : Mki) (es : List (StreamEvent T)) : Prop :=
  used true m es = l.rtp ∨ used false m es = l.rtcp ∨ ∃ e ∈ es, e.kills m = true

/-- The lives `l'` of the key `m` after the events `es`, if it started with `l`. -/
inductive Account (l : KeysLifetime) (m : Mki) (es : List (StreamEvent T)) (l' : KeysLifetime) : Prop
  | alive : l'.rtp + used true m es = l.rtp → l'.rtcp + used false m es = l.rtcp →
      0 < l'.rtp → 0 < l'.rtcp → (∀ e ∈ es, e.kills m = false) → Account l m es l'
  | dead : l'.rtp = 0 → l'.rtcp = 0 → used true m es ≤ l.rtp → used false m es ≤ l.rtcp →
      Exhausted l m es → Account l m es l'

section Events

variable {m : Mki} {es : List (StreamEvent T)} {e : StreamEvent T} {b : Bool}

theorem used_append_of_uses (h : e.uses b m = true) : used b m (es ++ [e]) = used b m es + 1 := by
  simp [used, h]

theorem used_append_of_not (h : e.uses b m = false) : used b m (es ++ [e]) = used b m es := by
  simp [used, h]

/-- An event uses one component only, and is not the end of a key then. -/
theorem StreamEvent.uses_exclusive (h : e.uses b m = true) :
    e.uses (!b) m = false ∧ e.kills m = false := by
  obtain ⟨s, input, answer, s'⟩ := e
  unfold uses at h ⊢
  unfold kills
  cases input <;> simp only [Bool.false_eq_true] at h
  split at h
  · next heq =>
    cases heq
    obtain ⟨hb, -⟩ := of_decide_eq_true h
    subst hb
    exact ⟨decide_eq_false fun h => by simp at h, rfl⟩
  · exact absurd h Bool.false_ne_true

theorem Exhausted.append (e : StreamEvent T) {l : KeysLifetime} (h : Exhausted l m es)
    (hu : ∀ b, e.uses b m = false) : Exhausted l m (es ++ [e]) := by
  unfold Exhausted
  rw [used_append_of_not (hu true), used_append_of_not (hu false)]
  rcases h with h | h | ⟨e', he, h⟩
  · exact .inl h
  · exact .inr (.inl h)
  · exact .inr (.inr ⟨e', by simp [he], h⟩)

end Events

namespace Account

variable {l l' : KeysLifetime} {m : Mki} {es : List (StreamEvent T)}

theorem init (hr : 1 ≤ l.rtp) (hc : 1 ≤ l.rtcp) : Account l m ([] : List (StreamEvent T)) l :=
  .alive rfl rfl hr hc (by simp)

theorem used_le (h : Account l m es l') : used true m es ≤ l.rtp ∧ used false m es ≤ l.rtcp := by
  cases h with
  | alive hr hc => omega
  | dead _ _ hr hc => exact ⟨hr, hc⟩

/-- The key has no lives left exactly when it is exhausted. -/
theorem exhausted_iff (h : Account l m es l') (b : Bool) : Exhausted l m es ↔ l'.lives b = 0 := by
  cases h with
  | alive hr hc hr0 hc0 hk =>
    refine iff_of_false ?_ (by cases b <;> simp [KeysLifetime.lives] <;> omega)
    rintro (h | h | ⟨e, he, h⟩)
    · omega
    · omega
    · rw [hk e he] at h; cases h
  | dead hr hc _ _ hx => exact iff_of_true hx (by cases b <;> simp [KeysLifetime.lives, hr, hc])

/-- One step keeps the account, if it only uses a key with lives. -/
theorem step (h : Account l m es l') (e : StreamEvent T)
    (hlives : ∀ b, e.uses b m = true → l'.lives b ≠ 0) :
    Account l m (es ++ [e]) (e.livesAfter m l') := by
  by_cases hu : ∃ b, e.uses b m = true
  · obtain ⟨b, hb⟩ := hu
    obtain ⟨hother, hkill⟩ := StreamEvent.uses_exclusive hb
    have hl0 := hlives b hb
    cases h with
    | dead hr hc => cases b <;> simp [KeysLifetime.lives, hr, hc] at hl0
    | alive hr hc hr0 hc0 hk =>
      have hk' : ∀ e' ∈ es ++ [e], e'.kills m = false := by
        intro e' he'
        rcases List.mem_append.mp he' with he' | he'
        · exact hk e' he'
        · rw [List.mem_singleton.mp he']; exact hkill
      cases b with
      | true =>
        have hafter : e.livesAfter m l' = l'.spent true := if_pos hb
        have hn : used true m (es ++ [e]) = used true m es + 1 := used_append_of_uses hb
        have hk0 : used false m (es ++ [e]) = used false m es := used_append_of_not hother
        rw [hafter]
        by_cases hlast : l'.rtp - 1 = 0
        · refine .dead ?_ ?_ (by omega) (by omega) (.inl (by omega)) <;>
            simp [KeysLifetime.spent, KeysLifetime.lower, hlast]
        · refine .alive ?_ ?_ ?_ ?_ hk' <;>
            simp only [KeysLifetime.spent, KeysLifetime.lower, if_true, if_neg hlast] <;> omega
      | false =>
        have hafter : e.livesAfter m l' = l'.spent false := by
          unfold StreamEvent.livesAfter
          rw [if_neg (by rw [show e.uses true m = false from hother]; simp), if_pos hb]
        have hn : used false m (es ++ [e]) = used false m es + 1 := used_append_of_uses hb
        have hk0 : used true m (es ++ [e]) = used true m es := used_append_of_not hother
        rw [hafter]
        by_cases hlast : l'.rtcp - 1 = 0
        · refine .dead ?_ ?_ (by omega) (by omega) (.inr (.inl (by omega))) <;>
            simp [KeysLifetime.spent, KeysLifetime.lower, hlast]
        · refine .alive ?_ ?_ ?_ ?_ hk' <;>
            simp only [KeysLifetime.spent, KeysLifetime.lower, Bool.false_eq_true, if_false,
              if_neg hlast] <;> omega
  · have hu : ∀ b, e.uses b m = false := fun b => Bool.eq_false_iff.mpr fun hb => hu ⟨b, hb⟩
    have hr : used true m (es ++ [e]) = used true m es := used_append_of_not (hu true)
    have hc : used false m (es ++ [e]) = used false m es := used_append_of_not (hu false)
    by_cases hk : e.kills m = true
    · have hafter : e.livesAfter m l' = l'.killed := by
        simp [StreamEvent.livesAfter, hu, hk]
      obtain ⟨hler, hlec⟩ := h.used_le
      rw [hafter]
      exact .dead rfl rfl (by omega) (by omega) (.inr (.inr ⟨e, by simp, hk⟩))
    · have hk := Bool.eq_false_iff.mpr hk
      rw [StreamEvent.livesAfter_of_not hu hk]
      cases h with
      | alive h1 h2 h3 h4 h5 =>
        refine .alive (by omega) (by omega) h3 h4 fun e' he' => ?_
        rcases List.mem_append.mp he' with he' | he'
        · exact h5 e' he'
        · rw [List.mem_singleton.mp he']; exact hk
      | dead h1 h2 h3 h4 h5 => exact .dead h1 h2 (by omega) (by omega) (h5.append e hu)

end Account

section Accounting

variable [Crates] [LawfulStream T]

/-- A stream that was built from a valid configuration, whatever happened to it since. -/
def Built (s : T) : Prop :=
  ∃ (ssrc : UInt32) (config : StreamConfig) (handler : Option KeyLimitHandler) (s₀ : T)
    (es : List (StreamEvent T)), config.validate = .ok () ∧
      StreamInterface.new ssrc config handler = .ok s₀ ∧ Trace streamStep s₀ es s

theorem Built.sound {s : T} (h : Built s) : Sound s := by
  obtain ⟨_, _, _, s₀, es, hv, hnew, run⟩ := h
  exact (Sound.new (StreamConfig.valid_of_validate hv) hnew).run run

/-- The key `m` was just installed in a stream with the lives `l`, by `new` or by an update. -/
inductive Installed (m : Mki) (l : KeysLifetime) : T → Prop
  | new {ssrc : UInt32} {config : StreamConfig} {handler : Option KeyLimitHandler} {s : T}
      {key : MasterKey} : config.validate = .ok () →
      StreamInterface.new ssrc config handler = .ok s → key ∈ config.keys → key.mki = m →
      key.lifetime = l → Installed m l s
  | update {s : T} {config : StreamConfig} {order : List Mki} {key : MasterKey} : Built s →
      (base s).transforms.lookup m = none → config.validate = .ok () → key ∈ config.keys →
      key.mki = m → key.lifetime = l →
      (base (StreamInterface.update s config order).state).transforms.lookup m ≠ none →
      Installed m l (StreamInterface.update s config order).state

/-- A key that was just installed has the lives of its configuration. -/
theorem Installed.lookup {m : Mki} {l : KeysLifetime} {s : T} (h : Installed m l s) :
    Sound s ∧ ∃ t, (base s).transforms.lookup m = some (t, l) := by
  cases h with
  | @new ssrc config handler _ key hv hnew hk hm hl =>
    subst hm hl
    have hvalid := StreamConfig.valid_of_validate hv
    refine ⟨.new hvalid hnew, ?_⟩
    obtain ⟨t, -, ht⟩ := lookup_new_key hvalid hnew hk
    exact ⟨t, ht⟩
  | @update s config order key hs habs hv hk hm hl hpres =>
    subst hm hl
    have hvalid := StreamConfig.valid_of_validate hv
    have hu := LawfulStream.updated s order hvalid.keys_ne
    refine ⟨hs.sound.updated hvalid hu, ?_⟩
    -- what is there now comes from the table of the configuration
    have hmerge : ∀ {table tr res}, getTransforms config = .ok table →
        BaseStream.mergeTransforms table order (base s).transforms = (res, tr) →
        tr.lookup key.mki ≠ none → ∃ t, tr.lookup key.mki = some (t, key.lifetime) := by
      intro table tr res hg hmt hne
      obtain ⟨t, -, ht⟩ := getTransforms_lookup_key hvalid hg hk
      rcases BaseStream.mergeTransforms_lookup hmt key.mki with heq | ⟨-, heq⟩
      · exact absurd (heq.trans habs) hne
      · exact ⟨t, heq.trans ht⟩
    generalize StreamInterface.update s config order = r at hu hpres
    cases hu with
    | incompatible => exact absurd habs hpres
    | unbuildable => exact absurd habs hpres
    | torn _ hg hmt =>
      rw [LawfulStream.base_withTransforms] at hpres ⊢
      exact hmerge hg hmt hpres
    | merged _ hg hmt =>
      obtain ⟨db, hdb⟩ := LawfulStream.base_resize (withTransforms s _) config
      rw [hdb, LawfulStream.base_withTransforms] at hpres ⊢
      exact hmerge hg hmt hpres

/-- A successful operation used a key with lives. -/
theorem lives_of_uses {s : T} (h : InRange s) {op : StreamOp T} {m : Mki} {b : Bool} {t : Transform}
    {l : KeysLifetime} (hl : (base s).transforms.lookup m = some (t, l))
    (hu : StreamEvent.uses (.of streamStep s op) b m = true) : l.lives b ≠ 0 := by
  cases op with
  | call c =>
    have hc := LawfulStream.called c h
    change StreamEvent.uses ⟨s, .call c, .packet (call s c).result, (call s c).state⟩ b m = true at hu
    generalize call s c = r at hc hu
    cases hr : r.result with
    | error f => rw [hr] at hu; cases hu
    | ok bytes =>
      rw [hr] at hu
      obtain ⟨rfl, hmki⟩ := of_decide_eq_true hu
      obtain ⟨i, m', t', l', hlocate, hl', h0, -⟩ := hc.of_ok hr
      obtain rfl := Except.ok.inj ((LawfulStream.locate_mki h hlocate).symm.trans hmki)
      obtain ⟨rfl, rfl⟩ := Prod.mk.inj (Option.some.inj (hl.symm.trans hl'))
      exact h0
  | _ => cases hu

/-- The account of a key in every state of a run. -/
theorem Account.run {s s' : T} {m : Mki} {t : Transform} {l : KeysLifetime}
    {es : List (StreamEvent T)} (hs : Sound s) (hl : (base s).transforms.lookup m = some (t, l))
    (hr : 1 ≤ l.rtp) (hc : 1 ≤ l.rtcp) (run : Trace streamStep s es s') :
    ∃ l', (base s').transforms.lookup m = some (t, l') ∧ Account l m es l' := by
  induction run with
  | nil => exact ⟨l, hl, .init hr hc⟩
  | @snoc es s' op run ih =>
    obtain ⟨l', hl', hacc⟩ := ih
    have hrange := (hs.run run).inRange
    exact ⟨_, lookup_step hrange op hl', hacc.step _ fun b => lives_of_uses hrange hl'⟩

/-- An operation under a key with lives does not return a key limit. -/
theorem not_keyLimit_of_lives {s : T} (hs : Sound s) {c : Call T} {m : Mki}
    {t : Transform} {l : KeysLifetime} (hl : (base s).transforms.lookup m = some (t, l))
    (hlives : l.lives (isRtp c) ≠ 0) (hm : mki s c = .ok m) {f : Fault SrtpError}
    (hf : (call s c).result = .error f) : NotKeyLimit f := by
  rcases hs.fault hf with hown | ⟨m', t', l', hm', hl', h0, -⟩
  · exact hown.notKeyLimit
  · obtain rfl := Except.ok.inj (hm.symm.trans hm')
    obtain ⟨rfl, rfl⟩ := Prod.mk.inj (Option.some.inj (hl.symm.trans hl'))
    exact absurd h0 hlives

/-- What the lives `l` of a newly installed key `m` promise about the events `es` that follow. -/
structure Accounting (l : KeysLifetime) (m : Mki) (es : List (StreamEvent T)) : Prop where
  /-- no more operations succeed than there are lives -/
  rtp_le : used true m es ≤ l.rtp
  rtcp_le : used false m es ≤ l.rtcp
  /-- once one count is used up, or the key is killed, no operation of either kind succeeds -/
  exhausted {pre post : List (StreamEvent T)} {e : StreamEvent T} : es = pre ++ e :: post →
    Exhausted l m pre → ∀ b, e.uses b m = false
  /-- until then no operation under `m` meets a key limit -/
  no_limit {pre post : List (StreamEvent T)} {e : StreamEvent T} {c : Call T} {f : Fault SrtpError} :
    es = pre ++ e :: post → ¬ Exhausted l m pre → e.input = .call c → mki e.pre c = .ok m →
      e.answer = .packet (.error f) → NotKeyLimit f
  /-- the counters only change when `m` is used, by one life, or when it is killed -/
  counters {pre post : List (StreamEvent T)} {e : StreamEvent T} : es = pre ++ e :: post →
    ∃ t l₁ l₂, (base e.pre).transforms.lookup m = some (t, l₁) ∧
      (base e.post).transforms.lookup m = some (t, l₂) ∧
      ((∀ b, e.uses b m = false) → e.kills m = false → l₂ = l₁) ∧
      ∀ b, e.uses b m = true → l₂.lives b + 1 = l₁.lives b

omit [Crates] [LawfulStream T] in
theorem KeysLifetime.spent_lives {l : KeysLifetime} {b : Bool} (h : l.lives b ≠ 0) :
    (l.spent b).lives b + 1 = l.lives b := by
  cases b <;> simp only [lives, spent, lower, Bool.false_eq_true, if_false, if_true] at h ⊢ <;> omega

theorem accounting_of_installed {s s' : T} {m : Mki} {l : KeysLifetime} {es : List (StreamEvent T)}
    (hi : Installed m l s) (hr : 1 ≤ l.rtp) (hc : 1 ≤ l.rtcp) (run : Trace streamStep s es s') :
    Accounting l m es := by
  obtain ⟨hs, t, hl⟩ := hi.lookup
  obtain ⟨_, -, hacc⟩ := Account.run hs hl hr hc run
  -- the account just before an event
  have hbefore : ∀ {pre post e}, es = pre ++ e :: post → Sound e.pre ∧
      e = .of streamStep e.pre e.input ∧
      ∃ l', (base e.pre).transforms.lookup m = some (t, l') ∧ Account l m pre l' := by
    intro pre post e hes
    obtain ⟨hpre, he, -⟩ := run.split hes
    exact ⟨hs.run hpre, he, Account.run hs hl hr hc hpre⟩
  refine ⟨hacc.used_le.1, hacc.used_le.2, ?_, ?_, ?_⟩
  · intro pre post e hes hx b
    obtain ⟨hsound, he, l', hl', hacc⟩ := hbefore hes
    by_contra hu
    rw [he] at hu
    exact lives_of_uses hsound.inRange hl' (Bool.not_eq_false _ ▸ hu) ((hacc.exhausted_iff b).mp hx)
  · intro pre post e c f hes hx hin hm hans
    obtain ⟨hsound, he, l', hl', hacc⟩ := hbefore hes
    have hlives := fun h0 => hx ((hacc.exhausted_iff (isRtp c)).mpr h0)
    refine not_keyLimit_of_lives hsound hl' hlives hm (f := f) ?_
    rw [he, hin] at hans
    exact Outcome.packet.inj hans
  · intro pre post e hes
    obtain ⟨hsound, he, l', hl', -⟩ := hbefore hes
    have hstep := lookup_step hsound.inRange e.input hl'
    have hpost : e.post = (streamStep e.pre e.input).2 := congrArg Event.post he
    rw [← he, ← hpost] at hstep
    refine ⟨t, l', _, hl', hstep, fun hu hk => StreamEvent.livesAfter_of_not hu hk l', fun b hb => ?_⟩
    have h0 := lives_of_uses hsound.inRange hl' (he ▸ hb)
    have hother := (StreamEvent.uses_exclusive hb).1
    have hafter : e.livesAfter m l' = l'.spent b := by
      cases b with
      | true => exact if_pos hb
      | false => exact (if_neg (by rw [show e.uses true m = false from hother]; simp)).trans (if_pos hb)
    rw [hafter]
    exact KeysLifetime.spent_lives h0

/-- Of senders and of receivers: a key installed with `L` lives for a component takes part in at
most `L` operations of it, and in none once either component has used up its lives or the key was
killed; until then it never meets a key limit. -/
theorem lifetime_accounting :
    (∀ {s s' : SendStream} {m : Mki} {l : KeysLifetime} {es : List (StreamEvent SendStream)},
      Installed m l s → 1 ≤ l.rtp → 1 ≤ l.rtcp → Trace streamStep s es s' → Accounting l m es) ∧
    (∀ {s s' : RecvStream} {m : Mki} {l : KeysLifetime} {es : List (StreamEvent RecvStream)},
      Installed m l s → 1 ≤ l.rtp → 1 ≤ l.rtcp → Trace streamStep s es s' → Accounting l m es) :=
  ⟨accounting_of_installed, accounting_of_installed⟩

end Accounting

section Example

open Vectors

attribute [local instance] Vectors.crates

/-- Two lives for RTP and one for RTCP. -/
def fewLives : KeysLifetime := ⟨2, 0, 1, 0, by decide, by decide⟩

/-- A sender and a receiver with a key of few lives. -/
def fewLivesSender : SendStream := sendStream (config [key none fewLives]) (by decide +kernel)

def fewLivesReceiver : RecvStream := recvStream (config [key none fewLives]) (by decide +kernel)

theorem fewLives_valid : (config [key none fewLives]).validate = .ok () := by decide

theorem installed_fewLivesSender : Installed none fewLives fewLivesSender :=
  .new fewLives_valid (sendStream_eq _ _) List.mem_cons_self rfl rfl

theorem installed_fewLivesReceiver : Installed none fewLives fewLivesReceiver :=
  .new fewLives_valid (recvStream_eq _ _) List.mem_cons_self rfl rfl

/-- Two RTP packets use up the key, for RTCP as well. -/
theorem lifetime_accounting_few_lives :
    Accounting fewLives none (runAll (streamStep (T := SendStream)) fewLivesSender
      [.call (protectCall 1 none (by decide)), .call (protectCall 2 none (by decide)),
        .call (protectRtcpCall none)]).1 ∧
    Accounting fewLives none (runAll (streamStep (T := RecvStream)) fewLivesReceiver
      [.call (unprotectCall 2 (by decide)), .call (unprotectCall 1 (by decide)),
        .call (unprotectRtcpCall 0 (by decide))]).1 :=
  ⟨lifetime_accounting.1 installed_fewLivesSender (by decide) (by decide) (.runAll ..),
    lifetime_accounting.2 installed_fewLivesReceiver (by decide) (by decide) (.runAll ..)⟩

end Example

end LibSrtp
