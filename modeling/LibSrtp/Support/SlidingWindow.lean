import LibSrtp.Support.Bitmap
import Mathlib.Data.Finset.Lattice.Fold
import Mathlib.Order.Lattice.Nat

/-!
# Sliding windows

A history is a finite set of numbers. A window of size `w` below the highest of them remembers which
numbers are in the history, and treats all numbers it left behind as if they were (`Seen`).
`Marks n w A` says that the bitmap `n` remembers the history `A`; it is kept by the two operations
on bitmaps, `Marks.slide` and `Marks.mark`.

When the size of the window changes between the numbers, the bitmap forgets more: what a small window
left behind, a larger one does not find again. `Kept` says which numbers are left, from the numbers and
the sizes alone, and `Records` that a bitmap knows exactly these.
-/

namespace SlidingWindow

/-- The highest number of a history, or zero. -/
def top (A : Finset ℕ) : ℕ := A.sup id

/-- `i` is in the history, or too far below its top for the window to tell. -/
def Seen (w : ℕ) (A : Finset ℕ) (i : ℕ) : Prop := i ≤ top A ∧ (w ≤ top A - i ∨ i ∈ A)

/-- The `w` low bits of `n` are those of the numbers at most `w` below the top. -/
def Marks (n w : ℕ) (A : Finset ℕ) : Prop :=
  ∀ d < w, n.testBit d = true ↔ d ≤ top A ∧ top A - d ∈ A

variable {w n i j : ℕ} {A : Finset ℕ}

@[simp] theorem top_empty : top ∅ = 0 := rfl

@[simp] theorem top_insert : top (insert i A) = max i (top A) := Finset.sup_insert

theorem le_top (h : i ∈ A) : i ≤ top A := Finset.le_sup (f := id) h

theorem seen_of_mem (h : i ∈ A) : Seen w A i := ⟨le_top h, .inr h⟩

/-- A number that was seen stays seen when the history grows. -/
theorem Seen.insert (h : Seen w A i) : Seen w (insert j A) i := by
  obtain ⟨hle, h⟩ := h
  refine ⟨hle.trans (by simp), ?_⟩
  rcases h with h | h
  · exact .inl (by rw [top_insert]; omega)
  · exact .inr (Finset.mem_insert_of_mem h)

/-- The window takes a number that is new, and ahead of it or inside it. -/
theorem not_seen_iff : ¬ Seen w A i ↔ i ∉ A ∧ (top A < i ∨ top A - i < w) := by
  constructor
  · intro h
    have hmem : i ∉ A := fun hi => h (seen_of_mem hi)
    refine ⟨hmem, ?_⟩
    rcases Nat.lt_or_ge (top A) i with hlt | hle
    · exact .inl hlt
    · exact .inr (Nat.not_le.mp fun hw => h ⟨hle, .inl hw⟩)
  · rintro ⟨hmem, hlt⟩ ⟨hle, hw | hi⟩
    · omega
    · exact hmem hi

/-! ## Bitmaps of a history -/

theorem marks_empty : Marks 0 w ∅ := by
  intro d _
  simp

/-- What a bitmap tells about a number is whether it was seen. -/
theorem Marks.seen_iff (h : Marks n w A) :
    i ≤ top A ∧ (w ≤ top A - i ∨ n.testBit (top A - i) = true) ↔ Seen w A i := by
  refine and_congr_right fun hle => ?_
  rcases Nat.lt_or_ge (top A - i) w with hw | hw
  · have hback : top A - (top A - i) = i := Nat.sub_sub_self hle
    rw [h _ hw, hback]
    exact or_congr_right ⟨fun h => h.2, fun h => ⟨Nat.sub_le _ _, h⟩⟩
  · exact iff_of_true (.inl hw) (.inl hw)

/-- The window moves on to a new top. -/
theorem Marks.slide (h : Marks n w A) (hi : top A < i) :
    Marks (Bitmap.slide n w (i - top A)) w (insert i A) := by
  intro d hd
  have htop : top (insert i A) = i := by rw [top_insert]; exact max_eq_left (Nat.le_of_lt hi)
  rw [Bitmap.testBit_slide, htop, Finset.mem_insert]
  simp only [Bool.or_eq_true, Bool.and_eq_true, decide_eq_true_eq]
  constructor
  · rintro (rfl | ⟨⟨hs, -⟩, hbit⟩)
    · exact ⟨Nat.zero_le _, .inl rfl⟩
    · -- an earlier number, further behind now
      obtain ⟨hle, hmem⟩ := (h _ (by omega)).mp hbit
      have hpos : top A - (d - (i - top A)) = i - d := by omega
      exact ⟨by omega, .inr (hpos ▸ hmem)⟩
  · rintro ⟨hle, heq | hmem⟩
    · exact .inl (by omega)
    · have hpos : top A - (d - (i - top A)) = i - d := by have := le_top hmem; omega
      have hs : i - top A ≤ d := by have := le_top hmem; omega
      exact .inr ⟨⟨hs, hd⟩, (h _ (by omega)).mpr ⟨by omega, hpos ▸ hmem⟩⟩

/-- A number below the top is recorded in place. -/
theorem Marks.mark (h : Marks n w A) (hi : i ≤ top A) :
    Marks (Bitmap.mark n w (top A - i)) w (insert i A) := by
  intro d hd
  have htop : top (insert i A) = top A := by rw [top_insert]; exact max_eq_right hi
  rw [Bitmap.testBit_mark, htop, Finset.mem_insert]
  simp only [Bool.or_eq_true, Bool.and_eq_true, decide_eq_true_eq]
  constructor
  · rintro (hbit | ⟨-, rfl⟩)
    · obtain ⟨hle, hmem⟩ := (h d hd).mp hbit
      exact ⟨hle, .inr hmem⟩
    · exact ⟨Nat.sub_le _ _, .inl (Nat.sub_sub_self hi)⟩
  · rintro ⟨hle, heq | hmem⟩
    · exact .inr ⟨by omega, by omega⟩
    · exact .inl ((h d hd).mpr ⟨hle, hmem⟩)

/-! ## Windows that change -/

/-- A number that was added, and the size of the window then. -/
structure Entry where
  number : ℕ
  window : ℕ
deriving DecidableEq

/-- The highest number of some entries, or zero. -/
def highest : List Entry → ℕ
  | [] => 0
  | a :: as => max a.number (highest as)

/-- The number was added, and no later one moved the window on past it. The last entry comes first. -/
def Kept (i : ℕ) : List Entry → Prop
  | [] => False
  | a :: as => a.number = i ∨ Kept i as ∧ (a.number ≤ highest as ∨ a.number < i + a.window)

instance decidableKept (i : ℕ) : (as : List Entry) → Decidable (Kept i as)
  | [] => isFalse id
  | a :: as =>
    have := decidableKept i as
    inferInstanceAs (Decidable (a.number = i ∨ Kept i as ∧ (a.number ≤ highest as ∨ _)))

/-- What a window of size `w'` reaches back to, and one of size `w` does not, is kept. -/
def Recalls (as : List Entry) (w w' : ℕ) : Prop :=
  ∀ a ∈ as, w ≤ highest as - a.number → highest as - a.number < w' → Kept a.number as

/-- The bits of the numbers up to the highest one are those of the numbers kept. -/
def Records (n : ℕ) (as : List Entry) : Prop :=
  ∀ i ≤ highest as, n.testBit (highest as - i) = true ↔ Kept i as

section Entries

variable {as : List Entry} {a : Entry}

theorem le_highest (h : a ∈ as) : a.number ≤ highest as := by
  induction as with
  | nil => cases h
  | cons b as ih =>
    rcases List.mem_cons.mp h with rfl | h
    · exact le_max_left _ _
    · exact (ih h).trans (le_max_right _ _)

theorem Kept.le_highest (h : Kept i as) : i ≤ highest as := by
  induction as with
  | nil => exact h.elim
  | cons a as ih =>
    rcases h with rfl | ⟨h, -⟩
    · exact le_max_left _ _
    · exact (ih h).trans (le_max_right _ _)

theorem records_nil : Records 0 [] := fun _ _ => by simp [Kept]

/-- The window moves on to a new highest number, and leaves behind what is too far away by then. -/
theorem Records.slide (h : Records n as) (ha : highest as < a.number) :
    Records (Bitmap.slide n a.window (a.number - highest as)) (a :: as) := by
  have htop : highest (a :: as) = a.number := max_eq_left (Nat.le_of_lt ha)
  intro i hi
  rw [htop] at hi
  rw [Bitmap.testBit_slide, htop]
  simp only [Bool.or_eq_true, Bool.and_eq_true, decide_eq_true_eq, Kept]
  refine or_congr ⟨fun h => by omega, fun h => by omega⟩ ?_
  constructor
  · rintro ⟨⟨hs, hw⟩, hbit⟩
    have hpos : a.number - i - (a.number - highest as) = highest as - i := by omega
    rw [hpos] at hbit
    exact ⟨(h i (by omega)).mp hbit, .inr (by omega)⟩
  · rintro ⟨hkept, hpast⟩
    have hle := hkept.le_highest
    have hpos : a.number - i - (a.number - highest as) = highest as - i := by omega
    rw [hpos]
    exact ⟨⟨by omega, by omega⟩, (h i hle).mpr hkept⟩

/-- A number below the highest one is recorded in place, if the window reaches to it. -/
theorem Records.mark (h : Records n as) (ha : a.number ≤ highest as)
    (hw : highest as - a.number < a.window) :
    Records (Bitmap.mark n a.window (highest as - a.number)) (a :: as) := by
  have htop : highest (a :: as) = highest as := max_eq_right ha
  intro i hi
  rw [htop] at hi
  rw [Bitmap.testBit_mark, htop]
  simp only [Bool.or_eq_true, Bool.and_eq_true, decide_eq_true_eq, Kept]
  rw [h i hi, or_comm]
  refine or_congr ⟨fun h => by omega, fun h => ⟨hw, by omega⟩⟩ ?_
  exact ⟨fun h => ⟨h, .inl ha⟩, fun h => h.1⟩

end Entries

end SlidingWindow
