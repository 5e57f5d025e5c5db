import Mathlib.Algebra.Order.BigOperators.Group.List
import Mathlib.Data.Nat.ModEq
import LibSrtp.Support.Budget
import LibSrtp.Nonces

/-!
# The rollback of the SRTCP index

All keys of a sender share one SRTCP index, which starts again after `2^31` packets, while the lives
are counted per key.

* `distinct_iff_spaced`: an MKI meets an index again exactly when its uses are a multiple of `2^31`
  packets apart;
* `srtcp_indices_distinct`: no run does so if the keys have at most `2^31` lives together, or one
  life each; otherwise some run does.
-/

namespace LibSrtp

open Exec PacketStream

section Runs

variable [Crates]

/-- A packet that was protected, by its header, its MKI and the index it was protected under. -/
structure SrtcpUse where
  header : RtcpHeader
  mki : Mki
  index : ℕ

/-- The header, the MKI and the index of an SRTCP packet. -/
def SendCall.srtcpUse : SendCall → Nat → Option SrtcpUse
  | .rtcpProtect header _ mki _, index => some ⟨header, mki, index⟩
  | .rtpProtect .., _ => none

/-- A successful `rtcpProtect`. -/
def StreamEvent.rtcpUse (e : StreamEvent SendStream) : Option SrtcpUse :=
  match e.input, e.answer with
  | .call (.rtcpProtect header _ mki _), .packet (.ok _) => some ⟨header, mki, e.pre.rtcpIndex⟩
  | _, _ => none

/-- The successful `rtcpProtect` calls of a run, in order. -/
def rtcpUses (es : List (StreamEvent SendStream)) : List SrtcpUse :=
  es.filterMap StreamEvent.rtcpUse

theorem rtcpUses_append (es : List (StreamEvent SendStream)) (e : StreamEvent SendStream) :
    rtcpUses (es ++ [e]) = rtcpUses es ++ e.rtcpUse.toList := by
  rw [rtcpUses, rtcpUses, List.filterMap_append]
  cases h : e.rtcpUse <;> simp [h]

/-- The packet of a use was enciphered under it. -/
theorem StreamEvent.enciphers_of_rtcpUse {s : SendStream} (hs : Sound s) {op : StreamOp SendStream}
    {u : SrtcpUse} (h : StreamEvent.rtcpUse (.of streamStep s op) = some u) :
    ∃ p ∈ StreamEvent.processed (.of streamStep s op),
      SendCall.srtcpUse p.call p.index = some u ∧ p.Enciphers := by
  cases op with
  | call c =>
    change StreamEvent.rtcpUse ⟨s, .call c, .packet (call s c).result, _⟩ = some u at h
    show ∃ p ∈ StreamEvent.processed ⟨s, .call c, .packet (call s c).result, (call s c).state⟩, _
    cases hr : (call s c).result with
    | error f =>
      rw [hr] at h
      cases c <;> cases h
    | ok bytes =>
      rw [hr] at h
      obtain ⟨p, hp, hproper⟩ := hs.exists_processed hr
      refine ⟨p, hp, ?_, hproper.enciphers⟩
      obtain ⟨m, l, hlocate, -, -, hcall, -⟩ := Processed.on_eq hp
      rw [hcall]
      cases c with
      | rtcpProtect header plain mki parsed =>
        obtain ⟨hindex, -⟩ := Prod.mk.inj (Except.ok.inj hlocate)
        rw [← hindex]
        exact h
      | rtpProtect => cases h
  | direct d => exact d.elim
  | _ => cases h

/-- Two packets under one MKI have different indices, and neither construction gives them the same
IV, whatever the session salt. -/
def SrtcpUse.Distinct (u v : SrtcpUse) : Prop :=
  u.mki = v.mki → u.index ≠ v.index ∧
    (∀ salt, AesCmSha1.rtcpIv salt u.header (UInt32.ofNat u.index) ≠
      AesCmSha1.rtcpIv salt v.header (UInt32.ofNat v.index)) ∧
    ∀ salt, AesGcm.rtcpIv salt u.header (UInt32.ofNat u.index) ≠
      AesGcm.rtcpIv salt v.header (UInt32.ofNat v.index)

omit [Crates] in
theorem SrtcpUse.distinct_of_ne {u v : SrtcpUse} (hu : u.index < rtcpRollback)
    (hv : v.index < rtcpRollback) (h : u.index ≠ v.index) : u.Distinct v := by
  have hinj : UInt32.ofNat u.index = UInt32.ofNat v.index → False := by
    intro heq
    have heq := congrArg UInt32.toNat heq
    rw [UInt32.toNat_ofNat_of_lt' (hu.trans (by decide)),
      UInt32.toNat_ofNat_of_lt' (hv.trans (by decide))] at heq
    exact h heq
  refine fun _ => ⟨h, fun salt heq => hinj (AesCmSha1.rtcpIv_inj heq).2,
    fun salt heq => hinj (AesGcm.rtcpIv_inj heq).2⟩

/-- No two uses of one MKI are a multiple of `2^31` uses apart. The list has the MKIs of the
successful `rtcpProtect` calls of a stream. -/
def Spaced (mkis : List Mki) : Prop :=
  ∀ i j m, i < j → mkis[i]? = some m → mkis[j]? = some m → ¬ rtcpRollback ∣ j - i

/-- A sender after the packets `uses`: its index counts them, and the `n`-th was protected under the
index `n`, modulo `2^31`. -/
structure Counts (uses : List SrtcpUse) (s : SendStream) : Prop where
  sound : Sound s
  next : s.rtcpIndex = uses.length % rtcpRollback
  index : ∀ (n : ℕ) (h : n < uses.length), uses[n].index = n % rtcpRollback

theorem Counts.congr {uses : List SrtcpUse} {s s' : SendStream} (h : Counts uses s) (hs : Sound s')
    (hi : s'.rtcpIndex = s.rtcpIndex) : Counts uses s' := ⟨hs, hi.trans h.next, h.index⟩

theorem Counts.protect {uses : List SrtcpUse} {s : SendStream} (h : Counts uses s)
    (header : RtcpHeader) (mki : Mki) {s' : SendStream} (hs : Sound s')
    (hi : s'.rtcpIndex = (s.rtcpIndex + 1) % rtcpRollback) :
    Counts (uses ++ [⟨header, mki, s.rtcpIndex⟩]) s' := by
  refine ⟨hs, ?_, ?_⟩
  · rw [hi, h.next, Nat.mod_add_mod, List.length_append]
    rfl
  · intro n hn
    rw [List.getElem_append]
    split
    · exact h.index n _
    · next hge =>
      obtain rfl : n = uses.length := by
        simp only [List.length_append, List.length_singleton] at hn
        omega
      rw [List.getElem_singleton]
      exact h.next

theorem Counts.step {uses : List SrtcpUse} {s : SendStream} (h : Counts uses s)
    (op : StreamOp SendStream) :
    Counts (uses ++ (StreamEvent.rtcpUse (.of streamStep s op)).toList) (streamStep s op).2 := by
  have hsound := h.sound.step op
  cases op with
  | call c =>
    have hcalled := LawfulStream.called c h.sound.inRange
    cases hr : (call s c).result with
    | error f =>
      have hnone : StreamEvent.rtcpUse (.of streamStep s (.call c)) = none := by
        show StreamEvent.rtcpUse ⟨s, .call c, .packet (call s c).result, _⟩ = none
        rw [hr]
        cases c <;> rfl
      rw [hnone]
      show Counts (uses ++ []) (call s c).state
      rwa [List.append_nil, hcalled.state_of_error hr]
    | ok bytes =>
      obtain ⟨i, m, t, l, hlocate, -, -, -, hstate⟩ := hcalled.of_ok hr
      cases c with
      | rtpProtect header plain mki parsed =>
        show Counts (uses ++ []) (call s (SendCall.rtpProtect header plain mki parsed)).state
        rw [List.append_nil]
        exact h.congr hsound (by rw [hstate]; rfl)
      | rtcpProtect header plain mki parsed =>
        have huse : StreamEvent.rtcpUse (.of streamStep s
            (.call (SendCall.rtcpProtect header plain mki parsed))) =
              some ⟨header, mki, s.rtcpIndex⟩ := by
          show StreamEvent.rtcpUse ⟨s, .call (SendCall.rtcpProtect header plain mki parsed),
            .packet (call s (SendCall.rtcpProtect header plain mki parsed)).result, _⟩ = _
          rw [hr]
          rfl
        rw [huse]
        obtain ⟨rfl, -⟩ := Prod.mk.inj (Except.ok.inj hlocate)
        refine h.protect header mki hsound ?_
        show (call s (SendCall.rtcpProtect header plain mki parsed)).state.rtcpIndex = _
        rw [hstate]
        rfl
  | update config valid order =>
    show Counts (uses ++ []) (s.update config order).state
    rw [List.append_nil]
    exact h.congr hsound rfl
  | kill m =>
    show Counts (uses ++ []) (s.killSessionKeys m).state
    rw [List.append_nil]
    exact h.congr hsound rfl
  | direct d => exact d.elim

/-- A sender built from a valid configuration never uses an SRTCP index, or an IV, twice under one
MKI, exactly when no two uses of an MKI are a multiple of `2^31` packets apart. -/
theorem distinct_iff_spaced {config : StreamConfig} (hv : config.validate = .ok ())
    {ssrc : UInt32} {handler : Option KeyLimitHandler} {s₀ s : SendStream}
    (hnew : SendStream.new ssrc config handler = .ok s₀) {es : List (StreamEvent SendStream)}
    (ht : Trace streamStep s₀ es s) :
    (rtcpUses es).Pairwise SrtcpUse.Distinct ↔ Spaced ((rtcpUses es).map (·.mki)) := by
  have hsound : Sound s₀ := .new (StreamConfig.valid_of_validate hv) hnew
  have hstart : Counts [] s₀ := by
    obtain ⟨b, -, h⟩ := bind_eq_ok.mp hnew
    obtain rfl := Except.ok.inj h
    exact ⟨hsound, rfl, by simp⟩
  have hcounts : Counts (rtcpUses es) s := by
    refine ht.history_of (I := fun es s => Counts (rtcpUses es) s) (P := fun _ => True)
      (fun _ _ => trivial) hstart ?_
    rintro es s op h -
    rw [rtcpUses_append]
    exact h.step op
  have hlt : ∀ (n : ℕ) (h : n < (rtcpUses es).length), (rtcpUses es)[n].index < rtcpRollback :=
    fun n h => (hcounts.index n h).trans_lt (Nat.mod_lt _ (Nat.two_pow_pos 31))
  have hdvd : ∀ (i j : ℕ) (hi : i < (rtcpUses es).length) (hj : j < (rtcpUses es).length), i < j →
      ((rtcpUses es)[i].index = (rtcpUses es)[j].index ↔ rtcpRollback ∣ j - i) := by
    intro i j hi hj hij
    rw [hcounts.index i hi, hcounts.index j hj]
    exact Nat.modEq_iff_dvd' hij.le
  rw [List.pairwise_iff_getElem]
  constructor
  · intro hdistinct i j m hij hi hj hmul
    obtain ⟨hi, hmi⟩ := List.getElem?_eq_some_iff.mp hi
    obtain ⟨hj, hmj⟩ := List.getElem?_eq_some_iff.mp hj
    rw [List.length_map] at hi hj
    rw [List.getElem_map] at hmi hmj
    obtain ⟨hne, -⟩ := hdistinct i j hi hj hij (hmi.trans hmj.symm)
    exact hne ((hdvd i j hi hj hij).mpr hmul)
  · intro hspaced i j hi hj hij hm
    refine SrtcpUse.distinct_of_ne (hlt i hi) (hlt j hj) (fun heq => ?_) hm
    refine hspaced i j (rtcpUses es)[i].mki hij ?_ ?_ ((hdvd i j hi hj hij).mp heq)
    · rw [List.getElem?_map, List.getElem?_eq_getElem hi]
      rfl
    · rw [List.getElem?_map, List.getElem?_eq_getElem hj, hm]
      rfl

/-! ## The lives of all keys -/

/-- The RTCP lives of all keys together. -/
def StreamConfig.rtcpLives (config : StreamConfig) : ℕ :=
  (config.keys.map (·.lifetime.rtcp)).sum

/-- The keys are used up before the index starts again, or have one life each. -/
def StreamConfig.FitsRollover (config : StreamConfig) : Prop :=
  config.rtcpLives ≤ rtcpRollback ∨ ∀ key ∈ config.keys, key.lifetime.rtcp ≤ 1

/-- A successful `rtcpProtect` uses its MKI. -/
theorem StreamEvent.uses_of_rtcpUse {e : StreamEvent SendStream} {u : SrtcpUse}
    (h : e.rtcpUse = some u) : e.uses false u.mki = true := by
  obtain ⟨s, input, answer, s'⟩ := e
  unfold StreamEvent.rtcpUse at h
  dsimp only at h
  split at h
  · obtain rfl := Option.some.inj h
    exact decide_eq_true ⟨rfl, rfl⟩
  · cases h

omit [Crates] in
theorem KeysLifetime.spent_rtcp_le (l : KeysLifetime) (b : Bool) : (l.spent b).rtcp ≤ l.rtcp := by
  cases b
  · exact Nat.sub_le _ _
  · show (if l.rtp - 1 = 0 then 0 else l.rtcp) ≤ l.rtcp
    split
    · exact Nat.zero_le _
    · exact le_rfl

/-- The lives of a key never grow. -/
theorem StreamEvent.livesAfter_rtcp_le (e : StreamEvent SendStream) (m : Mki) (l : KeysLifetime) :
    (e.livesAfter m l).rtcp ≤ l.rtcp := by
  unfold StreamEvent.livesAfter
  split_ifs
  · exact l.spent_rtcp_le true
  · exact l.spent_rtcp_le false
  · exact Nat.zero_le _
  · exact le_rfl

/-- A successful `rtcpProtect` takes a life of its key. -/
theorem livesAfter_rtcpUse {s : SendStream} (h : InRange s) (op : StreamOp SendStream) {m : Mki}
    {t : Transform} {l : KeysLifetime} (hl : s.base.transforms.lookup m = some (t, l)) :
    (StreamEvent.livesAfter (.of streamStep s op) m l).rtcp +
      ((StreamEvent.rtcpUse (.of streamStep s op)).toList.map (·.mki)).count m ≤ l.rtcp := by
  have hle := StreamEvent.livesAfter_rtcp_le (.of streamStep s op) m l
  cases hu : StreamEvent.rtcpUse (.of streamStep s op) with
  | none => exact hle
  | some u =>
    have huses := StreamEvent.uses_of_rtcpUse hu
    show _ + [u.mki].count m ≤ _
    rcases eq_or_ne u.mki m with rfl | hne
    · have hother := (StreamEvent.uses_exclusive huses).1
      have hafter : StreamEvent.livesAfter (.of streamStep s op) u.mki l = l.spent false := by
        unfold StreamEvent.livesAfter
        rw [if_neg (by rw [show StreamEvent.uses _ true u.mki = false from hother]; simp),
          if_pos huses]
      rw [hafter, List.count_singleton_self]
      exact (KeysLifetime.spent_lives (b := false) (lives_of_uses h hl huses)).le
    · rw [List.count_singleton, if_neg (by simpa using hne)]
      exact hle

/-- A sender after packets under `mkis`: each packet took a life of a key of the configuration. -/
structure Paid (config : StreamConfig) (mkis : List Mki) (s : SendStream) : Prop where
  sound : Sound s
  configured : Configured config s
  listed : ∀ m ∈ mkis, ∃ key ∈ config.keys, key.mki = m
  lives : ∀ key ∈ config.keys, ∃ t l, s.base.transforms.lookup key.mki = some (t, l) ∧
    l.rtcp + mkis.count key.mki ≤ key.lifetime.rtcp

theorem Paid.step {config : StreamConfig} {mkis : List Mki} {s : SendStream}
    (h : Paid config mkis s) (c : Call SendStream) :
    Paid config (mkis ++ (StreamEvent.rtcpUse (.of streamStep s (.call c))).toList.map (·.mki))
      (streamStep s (.call c)).2 := by
  refine ⟨h.sound.step _, h.configured.step h.sound.inRange nofun, ?_, ?_⟩
  · intro m hm
    rcases List.mem_append.mp hm with hm | hm
    · exact h.listed m hm
    · -- the packet was processed, so its key was there
      obtain ⟨u, hu, rfl⟩ := List.mem_map.mp hm
      have huses := StreamEvent.uses_of_rtcpUse (Option.mem_toList.mp hu)
      obtain ⟨bytes, hr⟩ : ∃ bytes, (call s c).result = .ok bytes := by
        cases hr : (call s c).result with
        | ok bytes => exact ⟨bytes, rfl⟩
        | error f =>
          change StreamEvent.uses ⟨s, .call c, .packet (call s c).result, _⟩ false u.mki = true at huses
          rw [hr] at huses
          cases huses
      obtain ⟨i, m, t, l, hlocate, hl, -⟩ := (LawfulStream.called c h.sound.inRange).of_ok hr
      have hmki := LawfulStream.locate_mki h.sound.inRange hlocate
      change StreamEvent.uses ⟨s, .call c, .packet (call s c).result, _⟩ false u.mki = true at huses
      rw [hr, StreamEvent.uses_call, hmki] at huses
      obtain ⟨-, heq⟩ := of_decide_eq_true huses
      obtain rfl := Except.ok.inj heq
      obtain ⟨key, hkey, hm, -⟩ := h.configured _ t l hl
      exact ⟨key, hkey, hm⟩
  · intro key hkey
    obtain ⟨t, l, hl, hle⟩ := h.lives key hkey
    refine ⟨t, _, lookup_step h.sound.inRange _ hl, ?_⟩
    have hstep := livesAfter_rtcpUse h.sound.inRange (.call c) hl
    rw [List.count_append]
    omega

/-- What the packets of a run have cost. -/
theorem Paid.run {config : StreamConfig} (hv : config.Valid) {ssrc : UInt32}
    {handler : Option KeyLimitHandler} {s₀ s : SendStream}
    (hnew : SendStream.new ssrc config handler = .ok s₀) {es : List (StreamEvent SendStream)}
    (ht : Trace streamStep s₀ es s) (hcalls : ∀ e ∈ es, ∃ c, e.input = .call c) :
    Paid config ((rtcpUses es).map (·.mki)) s := by
  refine ht.history_of (I := fun es s => Paid config ((rtcpUses es).map (·.mki)) s)
    (P := fun e => ∃ c, e.input = .call c) hcalls ?_ ?_
  · refine ⟨.new hv hnew, .new hnew, by simp [rtcpUses], fun key hkey => ?_⟩
    obtain ⟨t, -, hl⟩ := lookup_new_key (T := SendStream) hv hnew hkey
    exact ⟨t, _, hl, le_rfl⟩
  · rintro es s op h ⟨c, rfl⟩
    rw [rtcpUses_append, List.map_append]
    exact h.step c

/-- Keys with few lives do not meet an index again. -/
theorem Paid.spaced {config : StreamConfig} {mkis : List Mki} {s : SendStream}
    (h : Paid config mkis s) (hfits : config.FitsRollover) : Spaced mkis := by
  have hcount : ∀ key ∈ config.keys, mkis.count key.mki ≤ key.lifetime.rtcp := by
    intro key hkey
    obtain ⟨t, l, -, hle⟩ := h.lives key hkey
    omega
  intro i j m hij hi hj hdvd
  obtain ⟨hilt, hi⟩ := List.getElem?_eq_some_iff.mp hi
  obtain ⟨hjlt, hj⟩ := List.getElem?_eq_some_iff.mp hj
  rcases hfits with htotal | hone
  · -- the run is too short for a rollover
    have hlisted : ∀ m ∈ mkis, m ∈ config.keys.map (·.mki) := by
      intro m hm
      obtain ⟨key, hkey, rfl⟩ := h.listed m hm
      exact List.mem_map_of_mem hkey
    have hlen := Budget.length_le_sum_count hlisted
    rw [List.map_map] at hlen
    have hsum : mkis.length ≤ rtcpRollback := hlen.trans ((List.sum_le_sum hcount).trans htotal)
    have hle := Nat.le_of_dvd (Nat.sub_pos_of_lt hij) hdvd
    omega
  · have hnodup : mkis.Nodup := by
      refine List.nodup_iff_count_le_one.mpr fun m => ?_
      by_cases hm : m ∈ mkis
      · obtain ⟨key, hkey, rfl⟩ := h.listed m hm
        exact (hcount key hkey).trans (hone key hkey)
      · rw [List.count_eq_zero_of_not_mem hm]
        exact Nat.zero_le _
    exact hij.ne ((hnodup.getElem_inj_iff).mp (hi.trans hj.symm))

/-! ## Runs that meet an index again -/

/-- The protection of one RTCP packet under each of some MKIs. -/
def protectUnder (header : RtcpHeader) (plain : Bytes) (parsed : RtcpHeader.new plain = .ok header)
    (mkis : List Mki) : List (StreamOp SendStream) :=
  mkis.map fun m => .call (SendCall.rtcpProtect header plain m parsed)

/-- As long as the keys have lives, every packet is protected. -/
theorem rtcpUses_protectUnder {header : RtcpHeader} {plain : Bytes}
    {parsed : RtcpHeader.new plain = .ok header} {s : SendStream} (hs : Sound s) {mkis : List Mki}
    (hlives : ∀ m ∈ mkis, ∃ t l, s.base.transforms.lookup m = some (t, l) ∧
      mkis.count m ≤ l.rtcp ∧ ∀ index, ∃ bytes, t.rtcpProtect plain header index = .ok bytes) :
    (rtcpUses (runAll streamStep s (protectUnder header plain parsed mkis)).1).map (·.mki) = mkis := by
  induction mkis generalizing s with
  | nil => rfl
  | cons m mkis ih =>
    obtain ⟨t, l, hl, hcount, hprotect⟩ := hlives m List.mem_cons_self
    have hpos : l.rtcp ≠ 0 := by
      rw [List.count_cons_self] at hcount
      omega
    obtain ⟨bytes, hbytes⟩ := hprotect (UInt32.ofNat s.rtcpIndex)
    have hdone := call_done (s := s) (c := SendCall.rtcpProtect header plain m parsed) hs.inRange rfl hl
      hpos hbytes
    have huse : StreamEvent.rtcpUse (.of streamStep s
        (.call (SendCall.rtcpProtect header plain m parsed))) = some ⟨header, m, s.rtcpIndex⟩ := by
      show StreamEvent.rtcpUse ⟨s, .call (SendCall.rtcpProtect header plain m parsed),
        .packet (call s (SendCall.rtcpProtect header plain m parsed)).result, _⟩ = _
      rw [hdone]
      rfl
    have hstate : (streamStep s (.call (SendCall.rtcpProtect header plain m parsed))).2 = _ :=
      congrArg Reply.state hdone
    have hrest := ih (hs.step (.call (SendCall.rtcpProtect header plain m parsed))) ?_
    · have hcons : (rtcpUses (runAll streamStep s (protectUnder header plain parsed (m :: mkis))).1) =
          _ := List.filterMap_cons_some huse
      rw [hcons, List.map_cons]
      exact congrArg _ hrest
    · intro m' hm'
      rw [hstate]
      rcases eq_or_ne m m' with rfl | hne
      · refine ⟨t, l.spent false, Finmap.lookup_insert _, ?_, hprotect⟩
        have hspent := KeysLifetime.spent_lives (b := false) hpos
        rw [List.count_cons_self] at hcount
        exact Nat.le_of_succ_le_succ (hcount.trans hspent.ge)
      · obtain ⟨t', l', hl', hcount', hprotect'⟩ := hlives m' (List.mem_cons_of_mem _ hm')
        refine ⟨t', l', (Finmap.lookup_insert_of_ne _ hne.symm).trans hl', ?_, hprotect'⟩
        rwa [List.count_cons_of_ne hne] at hcount'

omit [Crates] in
/-- A list that meets an MKI at both ends of a rollover is not spaced. -/
theorem not_spaced_apart {m : Mki} {mid : List Mki} (h : mid.length + 1 = rtcpRollback) :
    ¬ Spaced (m :: (mid ++ [m])) := by
  intro hspaced
  refine hspaced 0 (mid.length + 1) m (Nat.succ_pos _) rfl ?_ (h ▸ dvd_rfl)
  rw [List.getElem?_cons_succ, List.getElem?_append_right le_rfl, Nat.sub_self]
  rfl

/-- A sender with the lives for it meets an index again after a rollover. -/
theorem not_distinct_apart {config : StreamConfig} (hv : config.validate = .ok ())
    {ssrc : UInt32} {handler : Option KeyLimitHandler} {s₀ : SendStream}
    (hnew : SendStream.new ssrc config handler = .ok s₀) {header : RtcpHeader} {plain : Bytes}
    (parsed : RtcpHeader.new plain = .ok header)
    (hprotect : ∀ key ∈ config.keys, ∀ t, newTransform config key = .ok t →
      ∀ index, ∃ bytes, t.rtcpProtect plain header index = .ok bytes)
    {m : Mki} {mid : List Mki} (hlen : mid.length + 1 = rtcpRollback)
    (hlives : ∀ m' ∈ m :: (mid ++ [m]), ∃ key ∈ config.keys, key.mki = m' ∧
      (m :: (mid ++ [m])).count m' ≤ key.lifetime.rtcp) :
    ¬ (rtcpUses (runAll streamStep s₀
      (protectUnder header plain parsed (m :: (mid ++ [m])))).1).Pairwise SrtcpUse.Distinct := by
  intro hdistinct
  have hvalid := StreamConfig.valid_of_validate hv
  have huses : (rtcpUses (runAll streamStep s₀
      (protectUnder header plain parsed (m :: (mid ++ [m])))).1).map (·.mki) = m :: (mid ++ [m]) := by
    refine rtcpUses_protectUnder (.new hvalid hnew) fun m' hm' => ?_
    obtain ⟨key, hkey, rfl, hcount⟩ := hlives m' hm'
    obtain ⟨t, ht, hl⟩ := lookup_new_key (T := SendStream) hvalid hnew hkey
    exact ⟨t, _, hl, hcount, hprotect key hkey t ht⟩
  have hspaced := (distinct_iff_spaced hv hnew (.runAll ..)).mp hdistinct
  rw [huses] at hspaced
  exact not_spaced_apart hlen hspaced

/-- Keys with more lives meet an index again in some run, if there is a packet they protect. -/
theorem exists_repeated_index {config : StreamConfig} (hv : config.validate = .ok ())
    {ssrc : UInt32} {handler : Option KeyLimitHandler} {s₀ : SendStream}
    (hnew : SendStream.new ssrc config handler = .ok s₀) {header : RtcpHeader} {plain : Bytes}
    (parsed : RtcpHeader.new plain = .ok header)
    (hprotect : ∀ key ∈ config.keys, ∀ t, newTransform config key = .ok t →
      ∀ index, ∃ bytes, t.rtcpProtect plain header index = .ok bytes)
    (hmany : ¬ config.FitsRollover) :
    ∃ mkis, ¬ (rtcpUses (runAll streamStep s₀ (protectUnder header plain parsed mkis)).1).Pairwise
      SrtcpUse.Distinct := by
  have hvalid := StreamConfig.valid_of_validate hv
  obtain ⟨htotal, hone⟩ := not_or.mp hmany
  push Not at hone
  obtain ⟨key, hkey, htwo⟩ := hone
  -- spend all lives, from one packet under `key` to another
  let budget := config.keys.map fun key => (key.mki, key.lifetime.rtcp)
  have hcount : ∀ key ∈ config.keys, (Budget.bag budget).count key.mki = key.lifetime.rtcp := by
    intro key hkey
    refine Budget.count_bag ?_ (List.mem_map_of_mem hkey)
    rw [List.map_map]
    exact hvalid.mkis
  have hlen : (Budget.bag budget).length = config.rtcpLives := by
    rw [Budget.length_bag, List.map_map]
    rfl
  have hpos : 0 < rtcpRollback := Nat.two_pow_pos 31
  obtain ⟨mid, hmid, hle⟩ := Budget.exists_apart (n := rtcpRollback - 1)
    (htwo.trans_eq (hcount key hkey).symm) (by rw [hlen]; omega)
  refine ⟨key.mki :: (mid ++ [key.mki]),
    not_distinct_apart hv hnew parsed hprotect (by rw [hmid]; rfl) fun m hm => ?_⟩
  have hpos := (List.count_pos_iff.mpr hm).trans_le (hle m)
  obtain ⟨n, hn⟩ := Budget.mem_bag (List.count_pos_iff.mp hpos)
  obtain ⟨key', hkey', heq⟩ := List.mem_map.mp hn
  obtain ⟨rfl, -⟩ := Prod.mk.inj heq
  exact ⟨key', hkey', rfl, (hle key'.mki).trans_eq (hcount key' hkey')⟩

/-- A sender built from a valid configuration, not updated since, never uses an SRTCP index or IV
twice under one MKI if its keys have no more lives than there are indices, or one life each.
Otherwise there is a run that does, if there is a packet that its keys protect. The indices are those
in the packets, and the IVs those that they are enciphered under. -/
theorem srtcp_indices_distinct {config : StreamConfig} (hv : config.validate = .ok ())
    {ssrc : UInt32} {handler : Option KeyLimitHandler} {s₀ : SendStream}
    (hnew : SendStream.new ssrc config handler = .ok s₀) :
    (config.FitsRollover → ∀ es s, Trace streamStep s₀ es s → (∀ e ∈ es, ∃ c, e.input = .call c) →
      (rtcpUses es).Pairwise SrtcpUse.Distinct) ∧
    (¬ config.FitsRollover → ∀ header plain, RtcpHeader.new plain = .ok header →
      (∀ key ∈ config.keys, ∀ t, newTransform config key = .ok t →
        ∀ index, ∃ bytes, t.rtcpProtect plain header index = .ok bytes) →
      ∃ es s, Trace streamStep s₀ es s ∧ (∀ e ∈ es, ∃ c, e.input = .call c) ∧
        ¬ (rtcpUses es).Pairwise SrtcpUse.Distinct) ∧
    ∀ (es : List (StreamEvent SendStream)) s, Trace streamStep s₀ es s → ∀ e ∈ es,
      ∀ u ∈ e.rtcpUse, ∃ p ∈ e.processed, SendCall.srtcpUse p.call p.index = some u ∧ p.Enciphers := by
  refine ⟨?_, ?_, ?_⟩
  · intro hfits es s ht hcalls
    have hpaid := Paid.run (StreamConfig.valid_of_validate hv) hnew ht hcalls
    exact (distinct_iff_spaced hv hnew ht).mpr (hpaid.spaced hfits)
  · intro hmany header plain parsed hprotect
    obtain ⟨mkis, hnot⟩ := exists_repeated_index hv hnew parsed hprotect hmany
    refine ⟨_, _, .runAll streamStep s₀ (protectUnder header plain parsed mkis), ?_, hnot⟩
    intro e he
    obtain ⟨m, -, heq⟩ := List.mem_map.mp (input_mem_of_runAll he)
    exact ⟨_, heq.symm⟩
  · intro es s ht e he u hu
    obtain ⟨pre, post, -, hpre, heq⟩ := ht.of_mem he
    have hsound : Sound s₀ := .new (StreamConfig.valid_of_validate hv) hnew
    rw [heq] at hu ⊢
    exact StreamEvent.enciphers_of_rtcpUse (hsound.run hpre) hu

end Runs

section Example

open Vectors

attribute [local instance] Vectors.crates Vectors.lawful

/-- One key: its lives are used up before the index starts again. -/
theorem srtcp_indices_distinct_one_key :
    (rtcpUses (runAll streamStep plainSender
      [.call (protectRtcpCall none), .call (protectRtcpCall none)]).1).Pairwise SrtcpUse.Distinct := by
  have hfits : (config [key none .default]).FitsRollover := .inl (by decide)
  have hnew : SendStream.new 0xcafebabe (config [key none .default]) none = .ok plainSender :=
    sendStream_eq _ _
  refine (srtcp_indices_distinct (by decide) hnew).1 hfits _ _ (.runAll ..) fun e he => ?_
  rcases List.mem_cons.mp (input_mem_of_runAll he) with h | h
  · exact ⟨_, h⟩
  · exact ⟨_, List.mem_singleton.mp h⟩

/-- Two master keys with the default lives, each under its MKI. -/
def twoKeys : StreamConfig :=
  config [key (some [1]) .default, ⟨otherKey, masterSalt, some [2], .default⟩]

def twoKeysSender : SendStream := sendStream twoKeys (by decide +kernel)

/-- Every key with AES-CM protects the packet. -/
theorem twoKeys_protect {key : MasterKey} (hkey : key ∈ twoKeys.keys) {t : Transform}
    (ht : newTransform twoKeys key = .ok t) (index : UInt32) :
    ∃ bytes, t.rtcpProtect (rtcpPacket 0xcafebabe) ⟨0xcafebabe⟩ index = .ok bytes := by
  have hkeyed := (keyed_newTransform (StreamConfig.valid_of_validate (by decide)) hkey ht).1
  obtain ⟨t, -, heq⟩ := bind_eq_ok.mp ht
  obtain rfl := Except.ok.inj heq
  exact AesCmSha1.Keyed.exists_rtcpProtect hkeyed _ index (by decide) (by decide)

/-- A packet under the first key, `2^31 - 1` packets under the second, and one more under the
first: both packets under the first key have the index 0. -/
theorem twoKeys_repeat_index : twoKeys.validate = .ok () ∧
    ¬ (rtcpUses (runAll streamStep twoKeysSender (protectUnder ⟨0xcafebabe⟩ (rtcpPacket 0xcafebabe)
      (by decide) (some [1] :: (List.replicate (2 ^ 31 - 1) (some [2]) ++ [some [1]])))).1).Pairwise
        SrtcpUse.Distinct := by
  have hfirst : ∀ n, (some [1] :: (List.replicate n (some [2]) ++ [some [1]]) : List Mki).count
      (some [1]) = 2 := by
    intro n
    simp [List.count_append, List.count_replicate]
  have hsecond : ∀ n, (some [1] :: (List.replicate n (some [2]) ++ [some [1]]) : List Mki).count
      (some [2]) = n := by
    intro n
    simp [List.count_append]
  have hnew : SendStream.new 0xcafebabe twoKeys none = .ok twoKeysSender := sendStream_eq _ _
  refine ⟨by decide, not_distinct_apart (by decide) hnew _
    (fun _ hkey _ ht => twoKeys_protect hkey ht) ?_ fun m hm => ?_⟩
  · rw [List.length_replicate]
    rfl
  · have hcases : m = some [1] ∨ m = some [2] := by
      simp only [List.mem_cons, List.mem_append, List.mem_replicate, List.not_mem_nil, or_false] at hm
      rcases hm with h | ⟨-, h⟩ | h
      · exact .inl h
      · exact .inr h
      · exact .inl h
    rcases hcases with rfl | rfl
    · refine ⟨_, List.mem_cons_self, rfl, ?_⟩
      rw [hfirst]
      decide
    · refine ⟨_, List.mem_cons_of_mem _ List.mem_cons_self, rfl, ?_⟩
      rw [hsecond]
      decide

end Example

end LibSrtp
