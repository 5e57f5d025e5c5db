import LibSrtp.Support.Trace

/-!
# Runs seen by one owner

The inputs of a machine belong to owners, and each owner sees a part of its state. The machine is
`Separated` when an input is answered by what its owner sees and only changes what its owner sees.
Then no owner can tell a run from the run of its own inputs alone (`Separated.run`). The condition
`good` on the answers leaves out runs in which the parts do meet. What is known of each owner's
events is known of the whole list when events of different owners do not conflict
(`pairwise_of_groups`).
-/

variable {σ ι ω κ ν : Type}

/-- The parts that the owners see are kept apart by inputs that are `allowed` and whose answers are
`good`. -/
structure Separated (step : σ → ι → ω × σ) (owner : ι → Option κ) (view : κ → σ → ν)
    (allowed : ι → Prop) (good : ω → Prop) : Prop where
  own {k : κ} {i : ι} {s s' : σ} : owner i = some k → view k s = view k s' →
    (step s i).1 = (step s' i).1 ∧
      (good (step s i).1 → view k (step s i).2 = view k (step s' i).2)
  other {k : κ} {i : ι} {s : σ} : allowed i → owner i ≠ some k → good (step s i).1 →
    view k (step s i).2 = view k s

namespace Separated

variable [DecidableEq κ] {step : σ → ι → ω × σ} {owner : ι → Option κ} {view : κ → σ → ν}
  {allowed : ι → Prop} {good : ω → Prop}

/-- An owner gets the same answers, and sees the same state in the end, when only its own inputs
are run, in their order. -/
theorem run (h : Separated step owner view allowed good) {k : κ} {s s' : σ} {is : List ι}
    (hallowed : ∀ i ∈ is, allowed i) (hgood : ∀ e ∈ (runAll step s is).1, good e.answer)
    (hview : view k s = view k s') :
    ((runAll step s is).1.filter (owner ·.input = some k)).map (·.answer) =
        (runAll step s' (is.filter (owner · = some k))).1.map (·.answer) ∧
      view k (runAll step s is).2 = view k (runAll step s' (is.filter (owner · = some k))).2 := by
  induction is generalizing s s' with
  | nil => exact ⟨rfl, hview⟩
  | cons i is ih =>
    obtain ⟨hi, his⟩ := List.forall_mem_cons.mp hallowed
    obtain ⟨hgi, hgis⟩ := List.forall_mem_cons.mp hgood
    by_cases hk : owner i = some k
    · obtain ⟨hans, hnext⟩ := h.own hk hview
      obtain ⟨hans', hview'⟩ := ih his hgis (hnext hgi)
      have hfilter : (i :: is).filter (owner · = some k) = i :: is.filter (owner · = some k) :=
        List.filter_cons_of_pos (decide_eq_true hk)
      have hfilter' : (runAll step s (i :: is)).1.filter (owner ·.input = some k) =
          .of step s i :: (runAll step (step s i).2 is).1.filter (owner ·.input = some k) :=
        List.filter_cons_of_pos (decide_eq_true hk)
      rw [hfilter, hfilter']
      exact ⟨congrArg₂ List.cons hans hans', hview'⟩
    · have hnext := h.other hi hk hgi
      have hfilter : (i :: is).filter (owner · = some k) = is.filter (owner · = some k) :=
        List.filter_cons_of_neg (by rw [decide_eq_true_eq]; exact hk)
      have hfilter' : (runAll step s (i :: is)).1.filter (owner ·.input = some k) =
          (runAll step (step s i).2 is).1.filter (owner ·.input = some k) :=
        List.filter_cons_of_neg (by rw [decide_eq_true_eq]; exact hk)
      rw [hfilter, hfilter']
      exact ih his hgis (hnext.trans hview)

end Separated

/-- A list is pairwise related when the members of each group are, and members of different groups
always are. -/
theorem pairwise_of_groups {α : Type} [DecidableEq κ] {R : α → α → Prop} (group : α → κ)
    (hother : ∀ a b, group a ≠ group b → R a b) {l : List α}
    (h : ∀ k, (l.filter (group · = k)).Pairwise R) : l.Pairwise R := by
  induction l with
  | nil => exact .nil
  | cons a l ih =>
    refine .cons (fun b hb => ?_) (ih fun k => ?_)
    · by_cases hgroup : group a = group b
      · have hpair := h (group a)
        rw [List.filter_cons_of_pos (by simp)] at hpair
        exact List.rel_of_pairwise_cons hpair
          (List.mem_filter.mpr ⟨hb, decide_eq_true hgroup.symm⟩)
      · exact hother a b hgroup
    · exact (h k).sublist ((List.sublist_cons_self a l).filter _)
