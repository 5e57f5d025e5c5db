import Mathlib.Tactic.Common

/-!
# Runs of a machine

A machine takes an input in a state, answers, and moves on. A `Trace` is a run together with its
history: each event keeps the state before it, the input, the answer and the state after it, so
that a property of a whole run is a property of its list of events.
-/

/-- One step of a run. -/
structure Event (σ ι ω : Type) where
  pre : σ
  input : ι
  answer : ω
  post : σ

variable {σ ι ω : Type}

/-- The event of taking `i` in `s`. -/
def Event.of (step : σ → ι → ω × σ) (s : σ) (i : ι) : Event σ ι ω :=
  ⟨s, i, (step s i).1, (step s i).2⟩

/-- `Trace step s₀ es s`: the events `es`, in order, lead from `s₀` to `s`. -/
inductive Trace (step : σ → ι → ω × σ) (s₀ : σ) : List (Event σ ι ω) → σ → Prop
  | nil : Trace step s₀ [] s₀
  | snoc {es : List (Event σ ι ω)} {s : σ} (i : ι) :
      Trace step s₀ es s → Trace step s₀ (es ++ [.of step s i]) (step s i).2

/-- The state after the inputs `is`, with the events on the way. -/
def runAll (step : σ → ι → ω × σ) (s : σ) : List ι → List (Event σ ι ω) × σ
  | [] => ([], s)
  | i :: is => (.of step s i :: (runAll step (step s i).2 is).1, (runAll step (step s i).2 is).2)

theorem runAll_append (step : σ → ι → ω × σ) (s : σ) (is js : List ι) :
    (runAll step s (is ++ js)).2 = (runAll step (runAll step s is).2 js).2 := by
  induction is generalizing s with
  | nil => rfl
  | cons i is ih => exact ih _

theorem runAll_append_events (step : σ → ι → ω × σ) (s : σ) (is js : List ι) :
    (runAll step s (is ++ js)).1 =
      (runAll step s is).1 ++ (runAll step (runAll step s is).2 js).1 := by
  induction is generalizing s with
  | nil => rfl
  | cons i is ih => exact congrArg (Event.of step s i :: ·) (ih _)

/-- The events of a run are those of its inputs. -/
theorem input_mem_of_runAll {step : σ → ι → ω × σ} {s : σ} {is : List ι} {e : Event σ ι ω}
    (h : e ∈ (runAll step s is).1) : e.input ∈ is := by
  induction is generalizing s with
  | nil => cases h
  | cons i is ih =>
    rcases List.mem_cons.mp h with rfl | h
    · exact List.mem_cons_self
    · exact List.mem_cons_of_mem i (ih h)

/-- What the `j`-th of a number of equal steps leads to. -/
theorem runAll_replicate {step : σ → ι → ω × σ} {i : ι} {I : Nat → σ → Prop} {n : Nat}
    (hstep : ∀ {j s}, j < n → I j s → I (j + 1) (step s i).2) {s : σ} {j k : Nat} (hn : j + k ≤ n)
    (h : I j s) : I (j + k) (runAll step s (List.replicate k i)).2 := by
  induction k generalizing j s with
  | zero => exact h
  | succ k ih =>
    have hnext := ih (by omega) (hstep (by omega) h)
    rwa [Nat.add_right_comm] at hnext

namespace Trace

variable {step : σ → ι → ω × σ} {s₀ s : σ} {es : List (Event σ ι ω)}

/-- What holds at the start and is kept by every step holds throughout. -/
theorem invariant {I : σ → Prop} (h : Trace step s₀ es s) (h₀ : I s₀)
    (hstep : ∀ s i, I s → I (step s i).2) : I s := by
  induction h with
  | nil => exact h₀
  | snoc i _ ih => exact hstep _ i ih

/-- As `invariant`, for a run all of whose events meet a condition. -/
theorem invariant_of {I : σ → Prop} {P : Event σ ι ω → Prop} (h : Trace step s₀ es s)
    (hP : ∀ e ∈ es, P e) (h₀ : I s₀) (hstep : ∀ s i, I s → P (.of step s i) → I (step s i).2) :
    I s := by
  induction h with
  | nil => exact h₀
  | @snoc es s i _ ih =>
    exact hstep _ i (ih fun e he => hP e (by simp [he])) (hP _ (by simp))

/-- An invariant of the state and the events so far. -/
theorem history_of {I : List (Event σ ι ω) → σ → Prop} {P : Event σ ι ω → Prop}
    (h : Trace step s₀ es s) (hP : ∀ e ∈ es, P e) (h₀ : I [] s₀)
    (hstep : ∀ es s i, I es s → P (.of step s i) → I (es ++ [.of step s i]) (step s i).2) :
    I es s := by
  induction h with
  | nil => exact h₀
  | @snoc es s i _ ih =>
    exact hstep _ _ i (ih fun e he => hP e (by simp [he])) (hP _ (by simp))

theorem trans {s₁ : σ} {es' : List (Event σ ι ω)} (h : Trace step s₀ es s₁)
    (h' : Trace step s₁ es' s) : Trace step s₀ (es ++ es') s := by
  induction h' with
  | nil => simpa using h
  | snoc i _ ih => rw [← List.append_assoc]; exact ih.snoc i

/-- A run followed by one more step. -/
theorem single (step : σ → ι → ω × σ) (s : σ) (i : ι) :
    Trace step s [.of step s i] (step s i).2 := Trace.nil.snoc i

/-- Every event of a run is a step from the state its past reaches, and the rest of the run goes
on from there. -/
theorem split {pre post : List (Event σ ι ω)} {e : Event σ ι ω}
    (h : Trace step s₀ es s) (hes : es = pre ++ e :: post) :
    Trace step s₀ pre e.pre ∧ e = .of step e.pre e.input ∧ Trace step e.post post s := by
  induction h generalizing post with
  | nil => simp at hes
  | @snoc es s i ht ih =>
    rcases List.eq_nil_or_concat post with rfl | ⟨post', last, rfl⟩
    · obtain ⟨rfl, he⟩ := List.append_inj' hes rfl
      obtain rfl : Event.of step s i = e := by simpa using he
      exact ⟨ht, rfl, .nil⟩
    · rw [List.concat_eq_append, ← List.cons_append, ← List.append_assoc] at hes
      obtain ⟨rfl, hl⟩ := List.append_inj' hes rfl
      obtain ⟨h1, h2, h3⟩ := ih rfl
      refine ⟨h1, h2, ?_⟩
      obtain rfl : Event.of step s i = last := by simpa using hl
      rw [List.concat_eq_append]
      exact h3.snoc i

theorem of_mem {e : Event σ ι ω} (h : Trace step s₀ es s) (he : e ∈ es) :
    ∃ pre post, es = pre ++ e :: post ∧ Trace step s₀ pre e.pre ∧ e = .of step e.pre e.input := by
  obtain ⟨pre, post, rfl⟩ := List.append_of_mem he
  obtain ⟨h1, h2, -⟩ := h.split rfl
  exact ⟨pre, post, rfl, h1, h2⟩

/-- Events that change nothing can be left out of a run. -/
theorem filter {P : Event σ ι ω → Prop} [DecidablePred P] (h : Trace step s₀ es s)
    (hP : ∀ e ∈ es, ¬ P e → e.post = e.pre) : Trace step s₀ (es.filter P) s := by
  induction h with
  | nil => exact .nil
  | @snoc es s i _ ih =>
    have ih := ih fun e he => hP e (by simp [he])
    rw [List.filter_append]
    rcases em (P (.of step s i)) with hi | hi
    · simpa [hi] using ih.snoc i
    · have hsame : (step s i).2 = s := hP (.of step s i) (by simp) hi
      simpa [hi, hsame] using ih

/-- As `invariant_of`, for the states on the way. -/
theorem forall_post_of {I : σ → Prop} {P : Event σ ι ω → Prop} (h : Trace step s₀ es s)
    (hP : ∀ e ∈ es, P e) (h₀ : I s₀) (hstep : ∀ s i, I s → P (.of step s i) → I (step s i).2) :
    ∀ e ∈ es, I e.post := by
  intro e he
  obtain ⟨pre, post, rfl, hpre, heq⟩ := h.of_mem he
  have hI := hpre.invariant_of (fun e' he' => hP e' (by simp [he'])) h₀ hstep
  have hPe := hP e he
  rw [heq] at hPe ⊢
  exact hstep e.pre e.input hI hPe

theorem runAll (step : σ → ι → ω × σ) (s : σ) (is : List ι) :
    Trace step s (runAll step s is).1 (runAll step s is).2 := by
  induction is generalizing s with
  | nil => exact .nil
  | cons i is ih => exact (single step s i).trans (ih _)

end Trace

/-- Two machines that answer alike in related states, and stay related, answer alike throughout. -/
theorem runAll_answers {τ : Type} {step : σ → ι → ω × σ} {step' : τ → ι → ω × τ} {R : σ → τ → Prop}
    {P : ι → Prop} (hstep : ∀ {s t i}, P i → R s t →
      (step s i).1 = (step' t i).1 ∧ R (step s i).2 (step' t i).2)
    {s : σ} {t : τ} {is : List ι} (hP : ∀ i ∈ is, P i) (hR : R s t) :
    (runAll step s is).1.map (·.answer) = (runAll step' t is).1.map (·.answer) := by
  induction is generalizing s t with
  | nil => rfl
  | cons i is ih =>
    obtain ⟨hi, his⟩ := List.forall_mem_cons.mp hP
    obtain ⟨hanswer, hnext⟩ := hstep hi hR
    exact congrArg₂ List.cons hanswer (ih his hnext)
