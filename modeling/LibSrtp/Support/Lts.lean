import LibSrtp.Support.Trace

/-!
# What a run shows, and what follows from it

From outside, a run of a machine is a list of inputs with their answers. `Refines` says that a
relation on views of the states accounts for each of these, and `Refines.run` that it then accounts
for whole runs. `Since` is about the order of events: one of them met `P`, and none after it met `Q`.
-/

variable {σ ι ω α : Type}

/-- What is seen of an event from outside. -/
def Event.observed (e : Event σ ι ω) : ι × ω := (e.input, e.answer)

/-- A run of a transition relation on abstract states, from `a₀`. -/
inductive Lts.Run (R : α → ι → ω → α → Prop) (a₀ : α) : List (ι × ω) → α → Prop
  | nil : Run R a₀ [] a₀
  | snoc {os : List (ι × ω)} {a a' : α} {i : ι} {o : ω} : Run R a₀ os a → R a i o a' →
      Run R a₀ (os ++ [(i, o)]) a'

/-- Each step that meets `P`, from a state with the invariant, is one of the relation. -/
structure Refines (step : σ → ι → ω × σ) (I : σ → Prop) (P : Event σ ι ω → Prop) (view : σ → α)
    (R : α → ι → ω → α → Prop) : Prop where
  keeps {s : σ} (i : ι) : I s → I (step s i).2
  step {s : σ} {i : ι} : I s → P (.of step s i) → R (view s) i (step s i).1 (view (step s i).2)

theorem Refines.run {step : σ → ι → ω × σ} {I : σ → Prop} {P : Event σ ι ω → Prop} {view : σ → α}
    {R : α → ι → ω → α → Prop} (h : Refines step I P view R) {s₀ s : σ} {es : List (Event σ ι ω)}
    (ht : Trace step s₀ es s) (h₀ : I s₀) (hP : ∀ e ∈ es, P e) :
    Lts.Run R (view s₀) (es.map Event.observed) (view s) := by
  have hboth : I s ∧ Lts.Run R (view s₀) (es.map Event.observed) (view s) := by
    refine ht.history_of (I := fun (es : List (Event σ ι ω)) s =>
      I s ∧ Lts.Run R (view s₀) (es.map Event.observed) (view s)) hP ⟨h₀, .nil⟩ ?_
    rintro es s i ⟨hI, hrun⟩ hevent
    refine ⟨h.keeps i hI, ?_⟩
    rw [List.map_append]
    exact hrun.snoc (h.step hI hevent)
  exact hboth.2

/-- Some event met `P`, and none after it met `Q`. -/
def Since (P Q : α → Prop) (es : List α) : Prop :=
  ∃ pre e post, es = pre ++ e :: post ∧ P e ∧ ∀ e' ∈ post, ¬ Q e'

namespace Since

variable {P Q : α → Prop} {es : List α} {e : α}

theorem not_nil : ¬ Since P Q [] := by
  rintro ⟨pre, e, post, h, -⟩
  cases pre <;> cases h

/-- The last event decides, unless it is neither. -/
theorem append_iff : Since P Q (es ++ [e]) ↔ P e ∨ Since P Q es ∧ ¬ Q e := by
  constructor
  · rintro ⟨pre, e', post, h, hP, hQ⟩
    rcases List.eq_nil_or_concat post with rfl | ⟨post, e'', rfl⟩
    · obtain ⟨-, heq⟩ := List.append_inj' h rfl
      obtain rfl := List.singleton_inj.mp heq
      exact .inl hP
    · rw [List.concat_eq_append, ← List.cons_append, ← List.append_assoc] at h
      obtain ⟨rfl, heq⟩ := List.append_inj' h rfl
      obtain rfl := List.singleton_inj.mp heq
      rw [List.concat_eq_append] at hQ
      exact .inr ⟨⟨pre, e', post, rfl, hP, fun x hx => hQ x (List.mem_append_left _ hx)⟩,
        hQ _ (List.mem_append_right _ List.mem_cons_self)⟩
  · rintro (hP | ⟨⟨pre, e', post, rfl, hP, hQ⟩, hnot⟩)
    · exact ⟨es, e, [], rfl, hP, by simp⟩
    · refine ⟨pre, e', post ++ [e], by simp, hP, fun x hx => ?_⟩
      rcases List.mem_append.mp hx with hx | hx
      · exact hQ x hx
      · obtain rfl := List.mem_singleton.mp hx
        exact hnot

end Since
