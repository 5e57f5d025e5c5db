import Mathlib.Algebra.Order.BigOperators.Group.List
import Mathlib.Algebra.GroupWithZero.Nat
import Mathlib.Data.List.Perm.Basic
import Mathlib.Data.List.Count

/-!
# Budgets

Each of several kinds may occur a number of times in a list.

* `length_le_sum_count`: a list is no longer than its budget;
* `bag`: the list that spends a budget;
* `exists_apart`: what a list may spend on the way from one occurrence to another.
-/

namespace Budget

variable {α : Type} [BEq α] [LawfulBEq α]

/-- A list is as long as the counts of its kinds. -/
theorem length_le_sum_count {kinds xs : List α} (h : ∀ x ∈ xs, x ∈ kinds) :
    xs.length ≤ (kinds.map fun k => xs.count k).sum := by
  have hcons : ∀ (ks : List α) (x : α) (xs : List α),
      (ks.map fun k => (x :: xs).count k).sum = (ks.map fun k => xs.count k).sum + ks.count x := by
    intro ks x xs
    induction ks with
    | nil => rfl
    | cons k ks ih =>
      rw [List.map_cons, List.sum_cons, ih, List.map_cons, List.sum_cons, List.count_cons,
        List.count_cons]
      rw [BEq.comm (a := x)]
      omega
  induction xs with
  | nil => exact Nat.zero_le _
  | cons x xs ih =>
    obtain ⟨hx, hxs⟩ := List.forall_mem_cons.mp h
    have hpos := List.count_pos_iff.mpr hx
    have hrest := ih hxs
    rw [hcons, List.length_cons]
    omega

/-- Each kind as often as its budget says. -/
def bag (budget : List (α × ℕ)) : List α := budget.flatMap fun p => List.replicate p.2 p.1

omit [BEq α] [LawfulBEq α] in
theorem length_bag (budget : List (α × ℕ)) : (bag budget).length = (budget.map (·.2)).sum := by
  simp [bag, List.length_flatMap]

omit [BEq α] [LawfulBEq α] in
theorem mem_bag {budget : List (α × ℕ)} {a : α} (h : a ∈ bag budget) : ∃ n, (a, n) ∈ budget := by
  obtain ⟨⟨b, n⟩, hp, ha⟩ := List.mem_flatMap.mp h
  obtain rfl := List.eq_of_mem_replicate ha
  exact ⟨n, hp⟩

theorem count_bag {budget : List (α × ℕ)} (hkinds : (budget.map (·.1)).Nodup) {a : α} {n : ℕ}
    (h : (a, n) ∈ budget) : (bag budget).count a = n := by
  induction budget with
  | nil => cases h
  | cons p budget ih =>
    obtain ⟨hp, hkinds⟩ := List.nodup_cons.mp hkinds
    have hbag : bag (p :: budget) = List.replicate p.2 p.1 ++ bag budget := rfl
    rw [hbag, List.count_append]
    rcases List.mem_cons.mp h with rfl | h
    · have hnot : a ∉ bag budget := by
        intro hmem
        obtain ⟨n', hn'⟩ := mem_bag hmem
        exact hp (List.mem_map.mpr ⟨_, hn', rfl⟩)
      rw [List.count_replicate_self, List.count_eq_zero_of_not_mem hnot, Nat.add_zero]
    · have hne : a ≠ p.1 := by
        rintro rfl
        exact hp (List.mem_map.mpr ⟨_, h, rfl⟩)
      rw [List.count_replicate, if_neg (by simpa using hne.symm), Nat.zero_add, ih hkinds h]

/-- With two of one kind and enough of all kinds, the two may come any distance apart. -/
theorem exists_apart {xs : List α} {a : α} {n : ℕ} (ha : 2 ≤ xs.count a) (hn : n + 2 ≤ xs.length) :
    ∃ mid : List α, mid.length = n ∧ ∀ b, (a :: (mid ++ [a])).count b ≤ xs.count b := by
  have h₁ : a ∈ xs := List.count_pos_iff.mp (by omega)
  have h₂ : a ∈ xs.erase a := List.count_pos_iff.mp (by rw [List.count_erase_self]; omega)
  have hperm : xs.Perm (a :: a :: (xs.erase a).erase a) :=
    (List.perm_cons_erase h₁).trans ((List.perm_cons_erase h₂).cons a)
  have hlen := hperm.length_eq
  simp only [List.length_cons] at hlen
  refine ⟨((xs.erase a).erase a).take n, ?_, fun b => ?_⟩
  · rw [List.length_take]
    omega
  · have htake := (List.take_sublist n ((xs.erase a).erase a)).count_le b
    rw [hperm.count_eq]
    simp only [List.count_cons, List.count_append, List.count_nil]
    omega

end Budget
