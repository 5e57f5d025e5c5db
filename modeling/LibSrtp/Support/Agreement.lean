import LibSrtp.Support.Trace
import Mathlib.Data.List.Perm.Subperm

/-!
# Two parties who do not trust the network

Two machines run side by side (`sideBySide`). Nothing ties the inputs of the second to the answers
of the first, so an attacker may have made them up. What ties them together is a correspondence:
what the second party accepts was sent by the first before (`Follows`). If nothing is accepted
twice, it follows that nothing is accepted more often than it was sent (`Follows.subperm`).
-/

variable {σ ι ω τ κ υ : Type}

/-- Two machines, each with its own inputs. -/
def sideBySide (step : σ → ι → ω × σ) (step' : τ → κ → υ × τ) (s : σ × τ) :
    ι ⊕ κ → (ω ⊕ υ) × (σ × τ)
  | .inl i => (.inl (step s.1 i).1, (step s.1 i).2, s.2)
  | .inr i => (.inr (step' s.2 i).1, s.1, (step' s.2 i).2)

namespace Event

/-- The event of the first machine, if it is one. -/
def left : Event (σ × τ) (ι ⊕ κ) (ω ⊕ υ) → Option (Event σ ι ω)
  | ⟨s, .inl i, .inl a, s'⟩ => some ⟨s.1, i, a, s'.1⟩
  | _ => none

/-- The event of the second machine, if it is one. -/
def right : Event (σ × τ) (ι ⊕ κ) (ω ⊕ υ) → Option (Event τ κ υ)
  | ⟨s, .inr i, .inr a, s'⟩ => some ⟨s.2, i, a, s'.2⟩
  | _ => none

theorem input_of_left {e : Event (σ × τ) (ι ⊕ κ) (ω ⊕ υ)} {e' : Event σ ι ω}
    (h : e.left = some e') : e.input = .inl e'.input := by
  obtain ⟨s, i, a, s'⟩ := e
  unfold left at h
  split at h
  · next heq =>
    obtain ⟨-, rfl, -, -⟩ := Event.mk.inj heq
    obtain rfl := Option.some.inj h
    rfl
  · cases h

theorem input_of_right {e : Event (σ × τ) (ι ⊕ κ) (ω ⊕ υ)} {e' : Event τ κ υ}
    (h : e.right = some e') : e.input = .inr e'.input := by
  obtain ⟨s, i, a, s'⟩ := e
  unfold right at h
  split at h
  · next heq =>
    obtain ⟨-, rfl, -, -⟩ := Event.mk.inj heq
    obtain rfl := Option.some.inj h
    rfl
  · cases h

end Event

namespace Trace

variable {step : σ → ι → ω × σ} {step' : τ → κ → υ × τ} {s s' : σ × τ}
  {es : List (Event (σ × τ) (ι ⊕ κ) (ω ⊕ υ))}

/-- The first machine runs as if it were alone. -/
theorem left (h : Trace (sideBySide step step') s es s') :
    Trace step s.1 (es.filterMap Event.left) s'.1 := by
  induction h with
  | nil => exact .nil
  | @snoc es s₁ i _ ih =>
    rw [List.filterMap_append]
    cases i with
    | inl i => exact ih.snoc i
    | inr i =>
      rw [show [Event.of (sideBySide step step') s₁ (.inr i)].filterMap Event.left = [] from rfl,
        List.append_nil]
      exact ih

/-- The second machine runs as if it were alone. -/
theorem right (h : Trace (sideBySide step step') s es s') :
    Trace step' s.2 (es.filterMap Event.right) s'.2 := by
  induction h with
  | nil => exact .nil
  | @snoc es s₁ i _ ih =>
    rw [List.filterMap_append]
    cases i with
    | inl i =>
      rw [show [Event.of (sideBySide step step') s₁ (.inl i)].filterMap Event.right = [] from rfl,
        List.append_nil]
      exact ih
    | inr i => exact ih.snoc i

end Trace

/-- Whatever is accepted was sent before. -/
def Follows {ε α β : Type} (sent : ε → Option α) (accepted : ε → Option β) (R : α → β → Prop)
    (es : List ε) : Prop :=
  ∀ pre e post, es = pre ++ e :: post → ∀ b, accepted e = some b →
    ∃ e' ∈ pre, ∃ a, sent e' = some a ∧ R a b

namespace Follows

variable {ε α β : Type} {sent : ε → Option α} {accepted : ε → Option β} {R R' : α → β → Prop}
  {es : List ε}

theorem iff_forall_take : Follows sent accepted R es ↔ ∀ i ∈ List.range es.length,
    ∀ b ∈ es[i]?.bind accepted, ∃ e ∈ es.take i, ∃ a ∈ sent e, R a b := by
  refine ⟨fun h i hi b hb => ?_, ?_⟩
  · obtain ⟨e, he, hb⟩ := Option.bind_eq_some_iff.mp hb
    obtain ⟨hlt, rfl⟩ := List.getElem?_eq_some_iff.mp he
    obtain ⟨e', he', a, ha, hR⟩ := h (es.take i) es[i] (es.drop (i + 1)) (by simp) b hb
    exact ⟨e', he', a, ha, hR⟩
  · rintro h pre e post rfl b hb
    have hget : (pre ++ e :: post)[pre.length]? = some e := by simp
    obtain ⟨e', he', a, ha, hR⟩ := h pre.length (by simp) b (by rw [hget]; exact hb)
    rw [List.take_left] at he'
    exact ⟨e', he', a, ha, hR⟩

instance [DecidableRel R] : Decidable (Follows sent accepted R es) :=
  decidable_of_iff _ iff_forall_take.symm

/-- A correspondence between what the events of a run can be is as good as another one. -/
theorem mono (h : Follows sent accepted R es)
    (himp : ∀ e ∈ es, ∀ e' ∈ es, ∀ a b, sent e = some a → accepted e' = some b → R a b → R' a b) :
    Follows sent accepted R' es := by
  rintro pre e post rfl b hb
  obtain ⟨e', he', a, ha, hR⟩ := h pre e post rfl b hb
  exact ⟨e', he', a, ha, himp e' (by simp [he']) e (by simp) a b ha hb hR⟩

/-- What is accepted at most once is accepted no more often than it was sent. -/
theorem subperm {γ : Type} {f : α → Option γ} {g : β → Option γ}
    (h : Follows sent accepted (fun a b => ∀ c, g b = some c → f a = some c) es)
    (hnodup : (es.filterMap fun e => (accepted e).bind g).Nodup) :
    (es.filterMap fun e => (accepted e).bind g).Subperm
      (es.filterMap fun e => (sent e).bind f) := by
  refine hnodup.subperm fun c hc => ?_
  obtain ⟨e, he, haccepted⟩ := List.mem_filterMap.mp hc
  obtain ⟨b, hb, hg⟩ := Option.bind_eq_some_iff.mp haccepted
  obtain ⟨pre, post, rfl⟩ := List.append_of_mem he
  obtain ⟨e', he', a, ha, hf⟩ := h pre e post rfl b hb
  exact List.mem_filterMap.mpr ⟨e', by simp [he'], Option.bind_eq_some_iff.mpr ⟨a, ha, hf c hg⟩⟩

end Follows

/-- What one reading finds in the events of a run, another one finds that finds it in each. -/
theorem filterMap_sublist {ε α : Type} {f g : ε → Option α} {es : List ε}
    (h : ∀ e ∈ es, ∀ a, f e = some a → g e = some a) :
    (es.filterMap f).Sublist (es.filterMap g) := by
  induction es with
  | nil => exact .slnil
  | cons e es ih =>
    obtain ⟨he, hes⟩ := List.forall_mem_cons.mp h
    cases hf : f e with
    | none =>
      rw [List.filterMap_cons_none hf]
      refine (ih hes).trans ?_
      rw [List.filterMap_cons]
      split
      · exact .refl _
      · exact List.sublist_cons_self ..
    | some a =>
      rw [List.filterMap_cons_some hf, List.filterMap_cons_some (he a hf)]
      exact (ih hes).cons_cons a
