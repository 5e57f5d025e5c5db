import LibSrtp.Support.Trace

/-!
# Simulations that keep what a run shows

An event shows an outside observer some things, in order. One machine simulates another when each
of its steps is matched by a run of the other that shows the same, from related states
(`Simulates`). Steps that show nothing may be matched by nothing, and a step may be matched by
several. A whole run is then matched by a run (`Simulates.run`), so that what the other machine
shows in no run, the first does not show either.
-/

variable {σ ι ω τ κ υ α : Type}

/-- A step that meets `P`, from a state related to `t`, is matched by a run from `t` that shows the
same, whose events meet `Q`, and that ends in a related state. -/
def Simulates (step : σ → ι → ω × σ) (step' : τ → κ → υ × τ) (R : σ → τ → Prop)
    (P : Event σ ι ω → Prop) (Q : Event τ κ υ → Prop) (shows : Event σ ι ω → List α)
    (shows' : Event τ κ υ → List α) : Prop :=
  ∀ ⦃s : σ⦄ ⦃t : τ⦄ ⦃i : ι⦄, R s t → P (.of step s i) → ∃ es t', Trace step' t es t' ∧
    R (step s i).2 t' ∧ (∀ e ∈ es, Q e) ∧ es.flatMap shows' = shows (.of step s i)

namespace Simulates

variable {step : σ → ι → ω × σ} {step' : τ → κ → υ × τ} {R : σ → τ → Prop}
  {P : Event σ ι ω → Prop} {Q : Event τ κ υ → Prop} {shows : Event σ ι ω → List α}
  {shows' : Event τ κ υ → List α}

/-- Whole runs are matched as single steps are. -/
theorem run (h : Simulates step step' R P Q shows shows') {s s' : σ} {t : τ}
    {es : List (Event σ ι ω)} (ht : Trace step s es s') (hP : ∀ e ∈ es, P e) (hR : R s t) :
    ∃ es' t', Trace step' t es' t' ∧ R s' t' ∧ (∀ e ∈ es', Q e) ∧
      es'.flatMap shows' = es.flatMap shows := by
  induction ht with
  | nil => exact ⟨[], t, .nil, hR, by simp, rfl⟩
  | @snoc es s i _ ih =>
    obtain ⟨es₁, t₁, htrace₁, hR₁, hQ₁, hshows₁⟩ := ih fun e he => hP e (by simp [he])
    obtain ⟨es₂, t₂, htrace₂, hR₂, hQ₂, hshows₂⟩ := h hR₁ (hP (.of step s i) (by simp))
    refine ⟨es₁ ++ es₂, t₂, htrace₁.trans htrace₂, hR₂, fun e he => ?_, ?_⟩
    · exact (List.mem_append.mp he).elim (hQ₁ e) (hQ₂ e)
    · simp only [List.flatMap_append, List.flatMap_cons, List.flatMap_nil, List.append_nil, hshows₁,
        hshows₂]

end Simulates
