import Mathlib.Algebra.Group.Nat.Defs
import Mathlib.Tactic.Common

/-!
# Calls that may fail or panic

A call of a checked language ends in one of three ways: it returns a value, it returns an error
of its own, or it panics (an index out of range, an arithmetic overflow, a conversion of the wrong
length). `Exec ε α` is such a call. The primitives below panic exactly where the language does, so
that a definition written with them keeps every place where the program can crash.

`Reply` is the answer of a method that also changes its object and calls back to its user: what it
returned, the object it leaves behind *in every case*, and the calls it made.
-/

/-- How a call ends when it returns no value. -/
inductive Fault (ε : Type) where
  | error (e : ε)
  | panic
deriving DecidableEq, Repr

/-- A call that returns an `α`, fails with an `ε`, or panics. -/
abbrev Exec (ε : Type) := Except (Fault ε)

namespace Exec

variable {ε α β : Type}

/-- Return the error `e`. -/
def fail (e : ε) : Exec ε α := .error (.error e)

/-- Crash. -/
def panicked : Exec ε α := .error .panic

/-- `ok_or`: the value, or the error `e` when there is none. -/
def okOr (o : Option α) (e : ε) : Exec ε α :=
  match o with
  | some a => .ok a
  | none => fail e

/-- `a + b` on `width` bits. -/
def add (width a b : Nat) : Exec ε Nat :=
  if a + b < 2 ^ width then .ok (a + b) else panicked

/-- `a - b` on unsigned integers. -/
def sub (a b : Nat) : Exec ε Nat :=
  if b ≤ a then .ok (a - b) else panicked

/-- `xs[i]` -/
def index (xs : List α) (i : Nat) : Exec ε α :=
  match xs[i]? with
  | some a => .ok a
  | none => panicked

/-- `xs[lo..hi]` -/
def slice (xs : List α) (lo hi : Nat) : Exec ε (List α) :=
  if lo ≤ hi ∧ hi ≤ xs.length then .ok ((xs.take hi).drop lo) else panicked

/-- `xs.split_at_mut(mid)` -/
def splitAt (xs : List α) (mid : Nat) : Exec ε (List α × List α) :=
  if mid ≤ xs.length then .ok (xs.take mid, xs.drop mid) else panicked

/-- `try_into::<[_; n]>`, with the error the caller maps a wrong length to. -/
def tryInto (n : Nat) (xs : List α) (e : ε) : Exec ε {l : List α // l.length = n} :=
  if h : xs.length = n then .ok ⟨xs, h⟩ else fail e

/-- A conversion to a fixed length that panics on any other length. -/
def fromSlice (n : Nat) (xs : List α) : Exec ε {l : List α // l.length = n} :=
  if h : xs.length = n then .ok ⟨xs, h⟩ else panicked

/-- Apply `f` to the value and to the fact that the call returns it. -/
def pmap : (x : Exec ε α) → ((a : α) → x = .ok a → β) → Exec ε β
  | .ok a, f => .ok (f a rfl)
  | .error e, _ => .error e

/-- The value of a call that returns one. -/
def get : (x : Exec ε α) → x.isOk = true → α
  | .ok a, _ => a

theorem eq_ok_get {x : Exec ε α} (h : x.isOk = true) : x = .ok (get x h) := by
  cases x with
  | ok a => rfl
  | error e => cases h

/-! ## Inversion -/

@[simp] theorem bind_eq_ok {x : Exec ε α} {f : α → Exec ε β} {b : β} :
    (x >>= f) = .ok b ↔ ∃ a, x = .ok a ∧ f a = .ok b := by
  cases x <;> simp [bind, Except.bind]

theorem bind_eq_error {x : Exec ε α} {f : α → Exec ε β} {e : Fault ε} :
    (x >>= f) = .error e ↔ x = .error e ∨ ∃ a, x = .ok a ∧ f a = .error e := by
  cases x <;> simp [bind, Except.bind]

@[simp] theorem ok_bind {a : α} {f : α → Exec ε β} : ((.ok a : Exec ε α) >>= f) = f a := rfl

@[simp] theorem error_bind {e : Fault ε} {f : α → Exec ε β} :
    ((.error e : Exec ε α) >>= f) = .error e := rfl

@[simp] theorem fail_ne_ok {e : ε} {a : α} : (fail e : Exec ε α) ≠ .ok a := by simp [fail]

@[simp] theorem panicked_ne_ok {a : α} : (panicked : Exec ε α) ≠ .ok a := by simp [panicked]

@[simp] theorem okOr_eq_ok {o : Option α} {e : ε} {a : α} : okOr o e = .ok a ↔ o = some a := by
  cases o <;> simp [okOr]

@[simp] theorem okOr_some {e : ε} {a : α} : okOr (some a) e = .ok a := rfl

theorem pmap_of_ok {x : Exec ε α} {f : (a : α) → x = .ok a → β} {a : α} (h : x = .ok a) :
    pmap x f = .ok (f a h) := by
  subst h; rfl

theorem pmap_of_error {x : Exec ε α} {f : (a : α) → x = .ok a → β} {e : Fault ε}
    (h : x = .error e) : pmap x f = .error e := by
  subst h; rfl

theorem pmap_eq_ok {x : Exec ε α} {f : (a : α) → x = .ok a → β} {b : β} :
    pmap x f = .ok b ↔ ∃ a h, f a h = b := by
  cases x <;> simp [pmap]

theorem add_eq {width a b : Nat} (h : a + b < 2 ^ width) :
    (add width a b : Exec ε Nat) = .ok (a + b) := if_pos h

theorem sub_eq {a b : Nat} (h : b ≤ a) : (sub a b : Exec ε Nat) = .ok (a - b) := if_pos h

theorem index_eq {xs : List α} {i : Nat} (h : i < xs.length) :
    (index xs i : Exec ε α) = .ok (xs[i]) := by
  simp [index, h]

theorem slice_eq {xs : List α} {lo hi : Nat} (hlo : lo ≤ hi) (hhi : hi ≤ xs.length) :
    (slice xs lo hi : Exec ε (List α)) = .ok ((xs.take hi).drop lo) :=
  if_pos ⟨hlo, hhi⟩

theorem splitAt_eq {xs : List α} {mid : Nat} (h : mid ≤ xs.length) :
    (splitAt xs mid : Exec ε (List α × List α)) = .ok (xs.take mid, xs.drop mid) :=
  if_pos h

theorem tryInto_eq {n : Nat} {xs : List α} {e : ε} (h : xs.length = n) :
    tryInto n xs e = .ok ⟨xs, h⟩ := dif_pos h

theorem tryInto_ok {n : Nat} {xs : List α} {e : ε} {a : {l : List α // l.length = n}}
    (h : tryInto n xs e = .ok a) : a.1 = xs := by
  unfold tryInto at h
  split at h
  · exact congrArg Subtype.val (Except.ok.inj h).symm
  · exact absurd h fail_ne_ok

theorem fromSlice_eq {n : Nat} {xs : List α} (h : xs.length = n) :
    (fromSlice n xs : Exec ε _) = .ok ⟨xs, h⟩ := dif_pos h

theorem fromSlice_eq_ok {n : Nat} {xs : List α} {a : {l : List α // l.length = n}} :
    (fromSlice n xs : Exec ε _) = .ok a ↔ xs = a.1 := by
  obtain ⟨l, hl⟩ := a
  unfold fromSlice
  split
  · simp
  · next h =>
    simp only [panicked_ne_ok, false_iff]
    rintro rfl
    exact h hl

/-! ## Faults a call can end in -/

/-- When the call ends in a fault, that fault satisfies `P`. -/
def Raises (P : Fault ε → Prop) (x : Exec ε α) : Prop := ∀ f, x = .error f → P f

/-- The call does not crash. -/
abbrev Safe (x : Exec ε α) : Prop := Raises (· ≠ .panic) x

section Raises

variable {P : Fault ε → Prop}

@[simp] theorem raises_ok {a : α} : Raises P (.ok a : Exec ε α) := by simp [Raises]

@[simp] theorem raises_error {f : Fault ε} : Raises P (.error f : Exec ε α) ↔ P f := by
  simp [Raises]

@[simp] theorem raises_fail {e : ε} : Raises P (fail e : Exec ε α) ↔ P (.error e) := raises_error

@[simp] theorem raises_panicked : Raises P (panicked : Exec ε α) ↔ P .panic := raises_error

theorem Raises.bind {x : Exec ε α} {f : α → Exec ε β} (hx : Raises P x)
    (hf : ∀ a, x = .ok a → Raises P (f a)) : Raises P (x >>= f) := by
  intro e h
  rcases bind_eq_error.mp h with h | ⟨a, ha, h⟩
  · exact hx e h
  · exact hf a ha e h

theorem Raises.foldlM {f : β → α → Exec ε β} {xs : List α}
    (h : ∀ x ∈ xs, ∀ b, Raises P (f b x)) (b : β) : Raises P (xs.foldlM f b) := by
  induction xs generalizing b with
  | nil => exact raises_ok
  | cons x xs ih =>
    rw [List.foldlM_cons]
    exact (h x List.mem_cons_self b).bind fun b' _ =>
      ih (fun y hy => h y (List.mem_cons_of_mem _ hy)) b'

theorem Raises.pmap {x : Exec ε α} {f : (a : α) → x = .ok a → β} (hx : Raises P x) :
    Raises P (pmap x f) := by
  cases x with
  | ok a => exact raises_ok
  | error e => exact raises_error.mpr (raises_error.mp hx)

theorem Raises.mono {Q : Fault ε → Prop} {x : Exec ε α} (hx : Raises P x) (h : ∀ f, P f → Q f) :
    Raises Q x := fun f hf => h f (hx f hf)

theorem raises_okOr {o : Option α} {e : ε} (h : P (.error e)) : Raises P (okOr o e) := by
  cases o <;> simp [okOr, h]

theorem raises_tryInto {n : Nat} {xs : List α} {e : ε} (h : P (.error e)) :
    Raises P (tryInto n xs e) := by
  unfold tryInto; split <;> simp [h]

end Raises

end Exec

/-- The answer of a method of an object `σ`: its result, the object it leaves behind whether it
succeeded or not, and the calls back to the user it made on the way. -/
structure Reply (ε κ σ α : Type) where
  result : Exec ε α
  state : σ
  calls : List κ := []
