import LibSrtp.SessionRun
import LibSrtp.Support.Lts
import LibSrtp.Vectors

/-!
# What a session keeps a ledger of

Which SSRCs have a stream, which of these follow the template, and what the template is: none of it
depends on packets, indices or lives but through the answers that the caller gets.

* `session_refines_ledger`: the calls and answers of a run are those of a small machine, the ledger;
* `session_streams_of_history`: so there is a stream for an SSRC exactly when something succeeded on
  it and it was not removed since.
-/

namespace LibSrtp

open Exec PacketStream

/-- The streams of a session, with the flag of those that follow the template, and its settings. -/
structure Ledger where
  flags : Finmap fun _ : UInt32 => Bool
  template : Option StreamConfig
  handler : Option KeyLimitHandler

/-- The answer of an operation that did not find its entry. -/
def SessionOutcome.NotFound : SessionOutcome → Prop
  | .unit r _ => r = fail .streamNotFound
  | .packet r _ => r = fail .streamNotFound
  | .roc r => r = fail .streamNotFound

namespace Ledger

def new : Ledger := ⟨∅, none, none⟩

/-- A packet of the SSRC was processed: it has a stream, from the template if it had none. -/
def entered (l : Ledger) (k : UInt32) : Ledger :=
  match l.flags.lookup k with
  | none => { l with flags := l.flags.insert k true }
  | some _ => l

/-- The SSRC has a stream, or the template can build one. -/
def Serves (l : Ledger) (k : UInt32) : Prop := k ∈ l.flags ∨ l.template ≠ none

variable {T : Type} [PacketStream T]

/-- What an operation may answer, and the ledger after it. -/
inductive Step : Ledger → SessionOp T → SessionOutcome → Ledger → Prop
  | handlerSet {l : Ledger} {handler : KeyLimitHandler} : l.flags = ∅ →
      Step l (.setKeyLimitHandler handler) (.unit (.ok ()) []) { l with handler := some handler }
  | handlerRefused {l : Ledger} {handler : KeyLimitHandler} : l.flags ≠ ∅ →
      Step l (.setKeyLimitHandler handler) (.unit (fail .contextNotReady) []) l
  | templateAdded {l : Ledger} {config : StreamConfig} {streamOrder : List UInt32}
      {keyOrder : UInt32 → List Mki} : config.validate = .ok () →
      Step l (.addStream none config streamOrder keyOrder) (.unit (.ok ()) [])
        { l with template := some config }
  | streamAdded {l : Ledger} {k : UInt32} {config : StreamConfig} {streamOrder : List UInt32}
      {keyOrder : UInt32 → List Mki} : config.validate = .ok () →
      Step l (.addStream (some k) config streamOrder keyOrder) (.unit (.ok ()) [])
        { l with flags := l.flags.insert k false }
  | refused {l : Ledger} {ssrc : Option UInt32} {config : StreamConfig} {streamOrder : List UInt32}
      {keyOrder : UInt32 → List Mki} {f : Fault SrtpError} : OwnFault f →
      Step l (.addStream ssrc config streamOrder keyOrder) (.unit (.error f) []) l
  | removed {l : Ledger} {k : UInt32} : k ∈ l.flags →
      Step l (.removeStream k) (.unit (.ok ()) []) { l with flags := l.flags.erase k }
  | notRemoved {l : Ledger} {k : UInt32} : k ∉ l.flags →
      Step l (.removeStream k) (.unit (fail .streamNotFound) []) l
  | roc {l : Ledger} {k roc : UInt32} : k ∈ l.flags → Step l (.getRoc k) (.roc (.ok roc)) l
  | noRoc {l : Ledger} {k : UInt32} : k ∉ l.flags →
      Step l (.getRoc k) (.roc (fail .streamNotFound)) l
  | directed {l : Ledger} {k : UInt32} {d : Direct T} {r : Res Unit} {calls : List HandlerCall} :
      k ∈ l.flags → Raises OwnFault r → Step l (.direct k d) (.unit r calls) l
  | notDirected {l : Ledger} {k : UInt32} {d : Direct T} : k ∉ l.flags →
      Step l (.direct k d) (.unit (fail .streamNotFound) []) l
  | unparsed {l : Ledger} {q : Request T} {f : Fault SrtpError} : parse q = .error f → OwnFault f →
      Step l (.request q) (.packet (.error f) []) l
  | notFound {l : Ledger} {q : Request T} {c : Call T} : parse q = .ok c → ¬ l.Serves (ssrc c) →
      Step l (.request q) (.packet (fail .streamNotFound) []) l
  | served {l : Ledger} {q : Request T} {c : Call T} {bytes : Bytes} {calls : List HandlerCall} :
      parse q = .ok c → l.Serves (ssrc c) →
      Step l (.request q) (.packet (.ok bytes) calls) (l.entered (ssrc c))
  | failed {l : Ledger} {q : Request T} {c : Call T} {e : SrtpError} {calls : List HandlerCall} :
      parse q = .ok c → l.Serves (ssrc c) → OwnFault (.error e) →
      Step l (.request q) (.packet (.error (.error e)) calls) l
  | died {l : Ledger} {q : Request T} {c : Call T} {m : Mki} {calls : List HandlerCall} :
      parse q = .ok c → l.flags.lookup (ssrc c) = some false →
      Step l (.request q) (.packet (fail (.keyLimit (isRtp c) true m (ssrc c))) calls) l
  | diedTemplated {l : Ledger} {q : Request T} {c : Call T} {m : Mki} {calls : List HandlerCall} :
      parse q = .ok c → l.Serves (ssrc c) → l.flags.lookup (ssrc c) ≠ some false →
      Step l (.request q) (.packet (fail (.keyLimit (isRtp c) true m (ssrc c))) calls)
        { l with template := l.template.map (·.disabled m) }

/-! ## What is not found -/

/-- The entry that an operation is about: a packet needs a stream or the template, the others of an
SSRC its stream. -/
def Finds (l : Ledger) : SessionOp T → Prop
  | .request q => ∀ c, parse q = .ok c → l.Serves (ssrc c)
  | .removeStream k => k ∈ l.flags
  | .getRoc k => k ∈ l.flags
  | .direct k _ => k ∈ l.flags
  | .setKeyLimitHandler _ => True
  | .addStream .. => True

/-- Exactly operations whose entry is not there are told that there is no stream. -/
theorem Step.notFound_iff {l l' : Ledger} {op : SessionOp T} {o : SessionOutcome}
    (h : Step l op o l') : o.NotFound ↔ ¬ l.Finds op := by
  have hserves : ∀ {q : Request T} {c : Call T}, parse q = .ok c →
      (l.Finds (.request q) ↔ l.Serves (ssrc c)) := by
    intro q c hq
    refine ⟨fun h => h c hq, fun h c' hc' => ?_⟩
    obtain rfl := Except.ok.inj (hq.symm.trans hc')
    exact h
  have hown : ∀ {α : Type} {f : Fault SrtpError}, OwnFault f →
      (.error f : Res α) ≠ fail .streamNotFound :=
    fun hf heq => hf.ne_streamNotFound (Except.error.inj heq)
  cases h with
  | handlerSet => exact iff_of_false nofun (not_not.mpr trivial)
  | handlerRefused => exact iff_of_false nofun (not_not.mpr trivial)
  | templateAdded => exact iff_of_false nofun (not_not.mpr trivial)
  | streamAdded => exact iff_of_false nofun (not_not.mpr trivial)
  | refused hf => exact iff_of_false (hown hf) (not_not.mpr trivial)
  | removed hk => exact iff_of_false nofun (not_not.mpr hk)
  | notRemoved hk => exact iff_of_true rfl hk
  | roc hk => exact iff_of_false nofun (not_not.mpr hk)
  | noRoc hk => exact iff_of_true rfl hk
  | directed hk hr =>
    exact iff_of_false (fun heq => (hr _ heq).ne_streamNotFound rfl) (not_not.mpr hk)
  | notDirected hk => exact iff_of_true rfl hk
  | unparsed hq hf =>
    refine iff_of_false (hown hf) (not_not.mpr fun c hc => ?_)
    rw [hq] at hc
    cases hc
  | notFound hq hk => exact iff_of_true rfl fun h => hk ((hserves hq).mp h)
  | served hq hk => exact iff_of_false nofun (not_not.mpr ((hserves hq).mpr hk))
  | failed hq hk hf => exact iff_of_false (hown hf) (not_not.mpr ((hserves hq).mpr hk))
  | died hq hl =>
    exact iff_of_false nofun
      (not_not.mpr ((hserves hq).mpr (.inl (Finmap.mem_of_lookup_eq_some hl))))
  | diedTemplated hq hk => exact iff_of_false nofun (not_not.mpr ((hserves hq).mpr hk))

/-! ## Streams and their history -/

/-- A configuration was added for the SSRC. -/
def Adds (k : UInt32) (o : SessionOp T × SessionOutcome) : Prop :=
  ∃ config streamOrder keyOrder calls,
    o = (.addStream (some k) config streamOrder keyOrder, .unit (.ok ()) calls)

/-- A packet of the SSRC was processed, or a configuration was added for it. -/
def Enters (k : UInt32) (o : SessionOp T × SessionOutcome) : Prop :=
  Adds k o ∨ ∃ q c bytes calls,
    o = (.request q, .packet (.ok bytes) calls) ∧ parse q = .ok c ∧ ssrc c = k

/-- The stream of the SSRC was asked to be removed. -/
def Removes (k : UInt32) (o : SessionOp T × SessionOutcome) : Prop := o.1 = .removeStream k

omit [PacketStream T] in
theorem mem_entered {l : Ledger} {j k : UInt32} : k ∈ (l.entered j).flags ↔ k = j ∨ k ∈ l.flags := by
  unfold entered
  split
  · exact Finmap.mem_insert
  · next hl =>
    refine ⟨.inr, fun h => ?_⟩
    rcases h with rfl | h
    · exact Finmap.mem_of_lookup_eq_some hl
    · exact h

omit [PacketStream T] in
/-- A packet does not take a stream off the template. -/
theorem lookup_entered_false {l : Ledger} {j k : UInt32} :
    (l.entered j).flags.lookup k = some false ↔ l.flags.lookup k = some false := by
  unfold entered
  split
  · next hl =>
    dsimp only
    rw [Finmap.lookup_insert_eq]
    split
    · next hk => rw [hk, hl]; simp
    · exact Iff.rfl
  · exact Iff.rfl

/-- What a step does to the entry of an SSRC. -/
theorem Step.entry {l l' : Ledger} {op : SessionOp T} {o : SessionOutcome} (h : Step l op o l')
    (k : UInt32) :
    (k ∈ l'.flags ↔ Enters k (op, o) ∨ k ∈ l.flags ∧ ¬ Removes k (op, o)) ∧
      (l'.flags.lookup k = some false ↔
        Adds k (op, o) ∨ l.flags.lookup k = some false ∧ ¬ Removes k (op, o)) := by
  cases h with
  | @streamAdded j =>
    simp only [Enters, Adds, Removes, Finmap.mem_insert, Finmap.lookup_insert_eq]
    rcases eq_or_ne k j with rfl | hne
    · simp
    · simp [hne, hne.symm]
  | @removed j =>
    simp only [Enters, Adds, Removes, Finmap.mem_erase, Finmap.lookup_erase_eq]
    rcases eq_or_ne k j with rfl | hne
    · simp
    · simp [hne, hne.symm]
  | @notRemoved j hj =>
    simp only [Enters, Adds, Removes]
    rcases eq_or_ne k j with rfl | hne
    · simp [hj, Finmap.lookup_eq_none.mpr hj]
    · simp [hne.symm]
  | @served q c _ _ hq =>
    have hentered : (∃ c', parse q = .ok c' ∧ ssrc c' = k) ↔ k = ssrc c := by
      constructor
      · rintro ⟨c', hc', rfl⟩
        obtain rfl := Except.ok.inj (hq.symm.trans hc')
        rfl
      · rintro rfl
        exact ⟨c, hq, rfl⟩
    simp [Enters, Adds, Removes, mem_entered, lookup_entered_false, hentered]
  | _ => simp [Enters, Adds, Removes]

/-- An SSRC is entered when something last succeeded on it after it was last removed, and off the
template when a configuration did. -/
theorem entry_of_run {os : List (SessionOp T × SessionOutcome)} {l : Ledger}
    (h : Lts.Run Step .new os l) (k : UInt32) :
    (k ∈ l.flags ↔ Since (Enters k) (Removes k) os) ∧
      (l.flags.lookup k = some false ↔ Since (Adds k) (Removes k) os) := by
  induction h with
  | nil =>
    refine ⟨iff_of_false Finmap.notMem_empty Since.not_nil, iff_of_false ?_ Since.not_nil⟩
    rw [show new.flags = ∅ from rfl, Finmap.lookup_empty]
    exact nofun
  | snoc _ hstep ih =>
    obtain ⟨hmem, hlookup⟩ := hstep.entry k
    rw [Since.append_iff, Since.append_iff, hmem, hlookup, ih.1, ih.2]
    exact ⟨Iff.rfl, Iff.rfl⟩

end Ledger

section Refinement

variable {T : Type} [PacketStream T]

/-- The packet operation did not return. -/
def SessionOutcome.Panics : SessionOutcome → Prop
  | .packet (.error .panic) _ => True
  | _ => False

/-- The entries of the ledger that the session keeps. -/
def Session.ledger (s : Session T) : Ledger :=
  ⟨s.streams.mapVals Prod.snd, s.templateConfig, s.keyLimitHandler⟩

namespace Session

variable {s : Session T} {k : UInt32}

omit [PacketStream T] in
theorem lookup_ledger : s.ledger.flags.lookup k = (s.streams.lookup k).map Prod.snd :=
  Finmap.lookup_mapVals

omit [PacketStream T] in
theorem mem_ledger : k ∈ s.ledger.flags ↔ k ∈ s.streams := Finmap.mem_mapVals

omit [PacketStream T] in
theorem not_mem_ledger_of_lookup (h : s.streams.lookup k = none) : k ∉ s.ledger.flags := fun hmem =>
  Finmap.lookup_eq_none.mp h (mem_ledger.mp hmem)

omit [PacketStream T] in
theorem mem_ledger_of_lookup {entry : T × Bool} (h : s.streams.lookup k = some entry) :
    k ∈ s.ledger.flags := mem_ledger.mpr (Finmap.mem_of_lookup_eq_some h)

omit [PacketStream T] in
theorem ledger_insert (s : Session T) (k : UInt32) (entry : T × Bool) :
    ({ s with streams := s.streams.insert k entry } : Session T).ledger =
      { s.ledger with flags := s.ledger.flags.insert k entry.2 } :=
  congrArg (Ledger.mk · s.templateConfig s.keyLimitHandler) (Finmap.mapVals_insert ..)

omit [PacketStream T] in
theorem ledger_erase (s : Session T) (k : UInt32) :
    ({ s with streams := s.streams.erase k } : Session T).ledger =
      { s.ledger with flags := s.ledger.flags.erase k } :=
  congrArg (Ledger.mk · s.templateConfig s.keyLimitHandler) (Finmap.mapVals_erase ..)

omit [PacketStream T] in
/-- To write a stream back leaves the ledger. -/
theorem ledger_written {x x' : T} {fromTemplate : Bool}
    (h : s.streams.lookup k = some (x, fromTemplate)) :
    ({ s with streams := s.streams.insert k (x', fromTemplate) } : Session T).ledger = s.ledger := by
  rw [ledger_insert, Finmap.insert_lookup_self (by rw [lookup_ledger, h]; rfl)]

theorem Target.serves {x : T} {fromTemplate pending : Bool} (h : Target s k x fromTemplate pending) :
    s.ledger.Serves k := by
  cases h with
  | present hl => exact .inl (mem_ledger_of_lookup hl)
  | spawned _ htemplate _ => exact .inr (by rw [show s.ledger.template = _ from htemplate]; simp)

theorem Target.ledger_lookup {x : T} {fromTemplate pending : Bool}
    (h : Target s k x fromTemplate pending) :
    s.ledger.flags.lookup k = if pending then none else some fromTemplate := by
  rw [lookup_ledger]
  cases h with
  | present hl => rw [hl]; rfl
  | spawned hl => rw [hl]; rfl

/-- The stream of a processed packet is there afterwards. -/
theorem Target.ledger_written {x x' : T} {fromTemplate pending : Bool}
    (h : Target s k x fromTemplate pending) :
    ({ s with streams := s.streams.insert k (x', fromTemplate) } : Session T).ledger =
      s.ledger.entered k := by
  have hlookup := h.ledger_lookup
  cases h with
  | present hl =>
    unfold Ledger.entered
    rw [Session.ledger_written hl, hlookup]
    rfl
  | spawned hl =>
    unfold Ledger.entered
    rw [hlookup, ledger_insert]
    rfl

theorem ledger_killTemplate (m : Mki) : (s.killTemplate m).ledger =
    { s.ledger with template := s.ledger.template.map (·.disabled m) } := by
  have hflags : (s.streams.mapVals (killTemplated m)).mapVals Prod.snd =
      s.streams.mapVals Prod.snd := by
    apply Finmap.ext_lookup
    intro j
    rw [Finmap.lookup_mapVals, Finmap.lookup_mapVals, Finmap.lookup_mapVals, Option.map_map]
    refine congrArg (fun f => Option.map f _) (funext fun entry => ?_)
    obtain ⟨x, fromTemplate⟩ := entry
    cases fromTemplate <;> rfl
  exact congrArg (Ledger.mk · (s.templateConfig.map (·.disabled m)) s.keyLimitHandler) hflags

/-- The loop over the streams of the template leaves the flags. -/
theorem updateTemplated_flags {config : StreamConfig} {keyOrder : UInt32 → List Mki}
    {streamOrder : List UInt32} {streams : Streams T} :
    (updateTemplated config keyOrder streamOrder streams).2.mapVals Prod.snd =
      streams.mapVals Prod.snd := by
  induction streamOrder generalizing streams with
  | nil => rfl
  | cons k streamOrder ih =>
    unfold updateTemplated
    split
    · next x hl =>
      have hflags : (streams.insert k ((StreamInterface.update x config (keyOrder k)).state,
          true)).mapVals Prod.snd = streams.mapVals Prod.snd := by
        rw [Finmap.mapVals_insert]
        exact Finmap.insert_lookup_self (by rw [Finmap.lookup_mapVals, hl]; rfl)
      dsimp only
      split
      · exact hflags
      · exact ih.trans hflags
    · exact ih

variable [Crates] [LawfulStream T]

theorem ledger_request (hs : s.Sound) (q : Request T)
    (hgood : ¬ (SessionOutcome.packet (s.request q).result (s.request q).calls).Panics) :
    Ledger.Step s.ledger (.request q) (.packet (s.request q).result (s.request q).calls)
      (s.request q).state.ledger := by
  have hr := Session.requested hs q
  generalize s.request q = r at hr hgood
  cases hr with
  | unparsed hq =>
    refine .unparsed hq ?_
    rw [LawfulStream.raises_parse q _ hq]
    trivial
  | missing hq hl htemplate =>
    refine .notFound hq fun hserves => ?_
    rcases hserves with hmem | hne
    · exact not_mem_ledger_of_lookup hl hmem
    · exact hne htemplate
  | @unspawned c config f hq hl htemplate hnew =>
    have hserves : s.ledger.Serves (ssrc c) :=
      .inr (by rw [show s.ledger.template = _ from htemplate]; simp)
    have hfault := BaseStream.raises_new (hs.template htemplate) _ _ _ (LawfulStream.new_error hnew)
    cases f with
    | error e => exact .failed hq hserves hfault.ownFault
    | panic => exact absurd trivial hgood
  | failed hq ht _ he => exact .failed hq ht.serves he
  | @died c x fromTemplate pending m hq ht =>
    cases fromTemplate with
    | false =>
      refine .died hq ?_
      cases ht with
      | present hl => rw [lookup_ledger, hl]; rfl
    | true =>
      rw [if_pos rfl, ledger_killTemplate]
      refine .diedTemplated hq ht.serves ?_
      rw [ht.ledger_lookup]
      cases pending <;> simp
  | crashed => exact absurd trivial hgood
  | done hq ht =>
    rw [ht.ledger_written]
    exact .served hq ht.serves

theorem ledger_addStream (s : Session T) (ssrc : Option UInt32) (config : StreamConfig)
    (streamOrder : List UInt32) (keyOrder : UInt32 → List Mki) :
    Ledger.Step s.ledger (.addStream ssrc config streamOrder keyOrder : SessionOp T)
      (.unit (s.addStream ssrc config streamOrder keyOrder).result
        (s.addStream ssrc config streamOrder keyOrder).calls)
      (s.addStream ssrc config streamOrder keyOrder).state.ledger := by
  have hflags : (updateTemplated config keyOrder streamOrder s.streams).2.mapVals Prod.snd =
      s.streams.mapVals Prod.snd := updateTemplated_flags
  have ha := Session.added s ssrc config streamOrder keyOrder
  generalize s.addStream ssrc config streamOrder keyOrder = r at ha
  cases ha with
  | invalid hv =>
    refine .refused ?_
    rw [config.raises_validate _ hv]
    trivial
  | @templateRefused f streams hv hu =>
    rw [hu] at hflags
    rw [show ({ s with streams } : Session T).ledger = s.ledger from
      congrArg (Ledger.mk · s.templateConfig s.keyLimitHandler) hflags]
    exact .refused (raises_updateTemplated (StreamConfig.valid_of_validate hv) keyOrder streamOrder
      s.streams _ (congrArg Prod.fst hu))
  | @template streams hv hu =>
    rw [hu] at hflags
    rw [show ({ s with streams, templateConfig := some config } : Session T).ledger =
      { s.ledger with template := some config } from
        congrArg (Ledger.mk · (some config) s.keyLimitHandler) hflags]
    exact .templateAdded hv
  | unbuilt hv hl hnew =>
    exact .refused (BaseStream.raises_new (StreamConfig.valid_of_validate hv) _ _ _
      (LawfulStream.new_error hnew)).ownFault
  | built hv hl hnew =>
    rw [ledger_insert]
    exact .streamAdded hv
  | @refused k x _ _ _ hv hl hu =>
    have hvalid := StreamConfig.valid_of_validate hv
    rw [ledger_written hl]
    exact .refused ((LawfulStream.updated x (keyOrder k) hvalid.keys_ne).raises hvalid _
      (congrArg (·.result) hu))
  | updated hv hl hu =>
    rw [ledger_insert]
    exact .streamAdded hv

/-- Every step of a sound session is one of the ledger. -/
theorem refines_ledger : Refines (sessionStep (T := T)) Sound (fun e => ¬ e.answer.Panics)
    Session.ledger Ledger.Step where
  keeps op hs := hs.step op
  step {s op} hs hgood := by
    cases op with
    | setKeyLimitHandler handler =>
      show Ledger.Step s.ledger _ (.unit (s.setKeyLimitHandler handler).result
        (s.setKeyLimitHandler handler).calls) (s.setKeyLimitHandler handler).state.ledger
      unfold setKeyLimitHandler
      split
      · next hkeys => exact .handlerRefused fun h => hkeys (Finmap.mapVals_eq_empty_iff.mp h)
      · next hkeys => exact .handlerSet (Finmap.mapVals_eq_empty_iff.mpr (not_not.mp hkeys))
    | addStream ssrc config streamOrder keyOrder => exact ledger_addStream ..
    | removeStream k =>
      show Ledger.Step s.ledger _ (.unit (s.removeStream k).result (s.removeStream k).calls)
        (s.removeStream k).state.ledger
      unfold removeStream
      split
      · next hl => exact .notRemoved (not_mem_ledger_of_lookup hl)
      · next hl =>
        rw [ledger_erase]
        exact .removed (mem_ledger_of_lookup hl)
    | getRoc k =>
      show Ledger.Step s.ledger _ (.roc (s.getRoc k)) s.ledger
      unfold getRoc
      cases hl : s.streams.lookup k with
      | none => exact .noRoc (not_mem_ledger_of_lookup hl)
      | some entry => exact .roc (mem_ledger_of_lookup hl)
    | direct k d =>
      show Ledger.Step s.ledger _ (.unit (s.direct k d).result (s.direct k d).calls)
        (s.direct k d).state.ledger
      unfold Session.direct
      split
      · next hl => exact .notDirected (not_mem_ledger_of_lookup hl)
      · next hl =>
        rw [ledger_written hl]
        exact .directed (mem_ledger_of_lookup hl) (LawfulStream.raises_direct _ d)
    | request q => exact ledger_request hs q hgood

end Session

/-- The calls of a run, with their answers, are those of a run of the ledger, which ends with the
entries of the session. An operation is told that there is no stream exactly when the ledger does not
have its entry. -/
theorem session_refines_ledger [Crates] [LawfulStream T] {es : List (SessionEvent T)} {s : Session T}
    (ht : Trace sessionStep .new es s) (hgood : ∀ e ∈ es, ¬ e.answer.Panics) :
    Lts.Run Ledger.Step .new (es.map Event.observed) s.ledger ∧
      ∀ e ∈ es, e.answer.NotFound ↔ ¬ e.pre.ledger.Finds e.input := by
  refine ⟨Session.refines_ledger.run ht .new hgood, fun e he => ?_⟩
  obtain ⟨pre, post, rfl, hpre, heq⟩ := ht.of_mem he
  have hstep := hgood e he
  rw [heq] at hstep ⊢
  exact (Session.refines_ledger.step (Session.Sound.new.run hpre) hstep).notFound_iff

/-- There is a stream for an SSRC exactly when, since the SSRC was last asked to be removed, a packet
of it was processed or a configuration was added for it; and the stream follows the template unless
a configuration was. No packet that failed leaves a stream, forged or not. -/
theorem session_streams_of_history [Crates] [LawfulStream T] {es : List (SessionEvent T)}
    {s : Session T} (ht : Trace sessionStep .new es s) (hgood : ∀ e ∈ es, ¬ e.answer.Panics)
    (k : UInt32) :
    (k ∈ s.streams ↔ Since (Ledger.Enters k) (Ledger.Removes k) (es.map Event.observed)) ∧
      ((∃ x, s.streams.lookup k = some (x, false)) ↔
        Since (Ledger.Adds k) (Ledger.Removes k) (es.map Event.observed)) := by
  obtain ⟨hmem, hlookup⟩ := Ledger.entry_of_run (Session.refines_ledger.run ht .new hgood) k
  refine ⟨Session.mem_ledger.symm.trans hmem, Iff.trans ?_ hlookup⟩
  rw [show (Session.ledger s).flags.lookup k = _ from Session.lookup_ledger, Option.map_eq_some_iff]
  constructor
  · rintro ⟨x, hx⟩
    exact ⟨_, hx, rfl⟩
  · rintro ⟨⟨x, fromTemplate⟩, hx, rfl⟩
    exact ⟨x, hx⟩

end Refinement

section Example

open Vectors

attribute [local instance] Vectors.crates

instance : DecidablePred SessionOutcome.Panics
  | .packet (.error .panic) _ => isTrue trivial
  | .packet (.error (.error _)) _ => isFalse id
  | .packet (.ok _) _ => isFalse id
  | .unit _ _ => isFalse id
  | .roc _ => isFalse id

/-- A template, a packet that spawns a stream, one that fails, the end of the stream, and one operation
on it more. -/
def shortLifeOps : List (SessionOp SendStream) :=
  [.addStream none (config [key none .default]) [] fun _ => [],
    .request (SendRequest.rtpProtectMki (rtpPacket 0xcafebabe 1) none),
    .request (SendRequest.rtpProtectMki (rtpPacket 0xdeadbeef 1) (some [1])),
    .removeStream 0xcafebabe, .getRoc 0xcafebabe]

theorem session_refines_ledger_shortLife :
    Lts.Run Ledger.Step .new ((runAll sessionStep (.new : SendSession) shortLifeOps).1.map
      Event.observed) (runAll sessionStep (.new : SendSession) shortLifeOps).2.ledger ∧
      ∀ e ∈ (runAll sessionStep (.new : SendSession) shortLifeOps).1,
        e.answer.NotFound ↔ ¬ e.pre.ledger.Finds e.input :=
  session_refines_ledger (.runAll ..) (by decide +kernel)

/-- The packet was processed and nothing removed since. -/
theorem session_streams_of_history_shortLife :
    Since (Ledger.Enters 0xcafebabe) (Ledger.Removes 0xcafebabe)
      ((runAll sessionStep (.new : SendSession) (shortLifeOps.take 3)).1.map Event.observed) := by
  have hmem : 0xcafebabe ∈
      (runAll sessionStep (.new : SendSession) (shortLifeOps.take 3)).2.streams := by decide +kernel
  exact (session_streams_of_history (.runAll ..) (by decide +kernel) _).1.mp hmem

end Example

end LibSrtp
