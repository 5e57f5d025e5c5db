import Mathlib.Data.Nat.Dist
import Mathlib.Data.Nat.ModEq
import Mathlib.Tactic.Common

/-!
# The nearest number of a residue class

Of the natural numbers with the residue of `r` modulo `m`, is `r` one that is nearest to `c`?

* `Nearest.of_near`: it is, within half a period of `c`, and the only one below half a period;
* `Nearest.of_first`: it is, when it is the first of them and above `c`.
-/

/-- No number with the residue of `r` is nearer to `c`. -/
def Nearest (m c r : ℕ) : Prop := ∀ r', r' % m = r % m → Nat.dist r c ≤ Nat.dist r' c

namespace Nearest

variable {m c r r' : ℕ}

/-- Numbers of one residue class are a period apart. -/
theorem le_dist (h : r' % m = r % m) (hne : r' ≠ r) : m ≤ Nat.dist r' r := by
  rcases Nat.lt_or_ge r r' with hlt | hge
  · rw [Nat.dist_eq_sub_of_le_right hlt.le]
    exact Nat.le_of_dvd (Nat.sub_pos_of_lt hlt) ((Nat.modEq_iff_dvd' hlt.le).mp h.symm)
  · rw [Nat.dist_eq_sub_of_le hge]
    exact Nat.le_of_dvd (Nat.sub_pos_of_lt (lt_of_le_of_ne hge hne)) ((Nat.modEq_iff_dvd' hge).mp h)

theorem of_near (h : 2 * Nat.dist r c ≤ m) : Nearest m c r := by
  intro r' hr'
  rcases eq_or_ne r' r with rfl | hne
  · exact le_rfl
  · have hperiod := le_dist hr' hne
    have htriangle := Nat.dist.triangle_inequality r' c r
    rw [Nat.dist_comm c r] at htriangle
    omega

/-- Two nearest numbers are half a period away. -/
theorem eq_of_near (h : 2 * Nat.dist r c < m) (hr' : r' % m = r % m)
    (htie : Nat.dist r' c = Nat.dist r c) : r' = r := by
  by_contra hne
  have hperiod := le_dist hr' hne
  have htriangle := Nat.dist.triangle_inequality r' c r
  rw [Nat.dist_comm c r, htie] at htriangle
  omega

theorem of_first (hr : r < m) (hc : c ≤ r) : Nearest m c r := by
  intro r' hr'
  have hle : r ≤ r' := by
    rw [Nat.mod_eq_of_lt hr] at hr'
    exact hr' ▸ Nat.mod_le r' m
  rw [Nat.dist_eq_sub_of_le_right hc, Nat.dist_eq_sub_of_le_right (hc.trans hle)]
  exact Nat.sub_le_sub_right hle c

end Nearest
