import Mathlib.Tactic.Common
import Mathlib.Data.List.GetD
import Mathlib.Data.List.Induction
import Mathlib.Tactic.Ring

/-!
# Byte strings

Big-endian integers, and the exclusive or of a byte string with a stream of bytes. A stream cipher
xors its keystream into a buffer, and a protocol xors the fields of a packet into a salt: both are
`xorStream`, with a stream that is zero outside the field in the second case.
-/

/-- A byte string. -/
abbrev Bytes := List UInt8

/-- `[u8; n]` -/
abbrev ByteArr (n : Nat) := {l : Bytes // l.length = n}

namespace Bytes

/-! ## Big-endian integers -/

/-- The `n` low bytes of `x`, most significant first. -/
def toBe : Nat → Nat → Bytes
  | 0, _ => []
  | n + 1, x => toBe n (x / 256) ++ [UInt8.ofNat x]

/-- The integer whose base-256 digits are `bs`, most significant first. -/
def fromBe (bs : Bytes) : Nat := bs.foldl (fun acc b => acc * 256 + b.toNat) 0

@[simp] theorem length_toBe (n x : Nat) : (toBe n x).length = n := by
  induction n generalizing x with
  | zero => rfl
  | succ n ih => simp [toBe, ih]

theorem fromBe_append_singleton (bs : Bytes) (b : UInt8) :
    fromBe (bs ++ [b]) = fromBe bs * 256 + b.toNat := by simp [fromBe]

theorem fromBe_toBe (n x : Nat) : fromBe (toBe n x) = x % 256 ^ n := by
  induction n generalizing x with
  | zero => simp [toBe, fromBe, Nat.mod_one]
  | succ n ih =>
    rw [toBe, fromBe_append_singleton, ih, Nat.pow_succ, Nat.mul_comm (256 ^ n), Nat.mod_mul]
    simp only [UInt8.toNat_ofNat', Nat.reducePow]
    omega

theorem fromBe_lt (bs : Bytes) : fromBe bs < 256 ^ bs.length := by
  induction bs using List.reverseRecOn with
  | nil => simp [fromBe]
  | append_singleton bs b ih =>
    have hb := b.toNat_lt
    rw [fromBe_append_singleton, List.length_append, List.length_singleton, Nat.pow_succ]
    omega

theorem toBe_fromBe (bs : Bytes) : toBe bs.length (fromBe bs) = bs := by
  induction bs using List.reverseRecOn with
  | nil => rfl
  | append_singleton bs b ih =>
    have hb := b.toNat_lt
    have hdiv : (fromBe bs * 256 + b.toNat) / 256 = fromBe bs := by omega
    have hlast : UInt8.ofNat (fromBe bs * 256 + b.toNat) = b := by
      apply UInt8.toNat_inj.mp
      simp only [UInt8.toNat_ofNat', Nat.reducePow]
      omega
    rw [fromBe_append_singleton, List.length_append, List.length_singleton, toBe, hdiv, ih, hlast]

theorem toBe_inj {n x y : Nat} (hx : x < 256 ^ n) (hy : y < 256 ^ n) (h : toBe n x = toBe n y) :
    x = y := by
  have := congrArg fromBe h
  rwa [fromBe_toBe, fromBe_toBe, Nat.mod_eq_of_lt hx, Nat.mod_eq_of_lt hy] at this

/-! ## Exclusive or with a stream -/

/-- Xor byte `i` of `xs` with `ks i`. -/
def xorStream (ks : Nat → UInt8) (xs : Bytes) : Bytes := xs.mapIdx fun i x => x ^^^ ks i

/-- The stream that is `ys` from offset `off` on, and zero elsewhere. -/
def field (off : Nat) (ys : Bytes) (i : Nat) : UInt8 :=
  if off ≤ i then ys.getD (i - off) 0 else 0

@[simp] theorem length_xorStream (ks : Nat → UInt8) (xs : Bytes) :
    (xorStream ks xs).length = xs.length := by simp [xorStream]

theorem getElem?_xorStream (ks : Nat → UInt8) (xs : Bytes) (i : Nat) :
    (xorStream ks xs)[i]? = xs[i]?.map (· ^^^ ks i) := by
  simp [xorStream, List.getElem?_mapIdx]

/-- A stream cipher decrypts by encrypting again. -/
@[simp] theorem xorStream_xorStream_self (ks : Nat → UInt8) (xs : Bytes) :
    xorStream ks (xorStream ks xs) = xs := by
  apply List.ext_getElem?
  intro i
  rw [getElem?_xorStream, getElem?_xorStream, Option.map_map]
  cases xs[i]? with
  | none => rfl
  | some x =>
    show some (x ^^^ ks i ^^^ ks i) = some x
    rw [UInt8.xor_assoc, UInt8.xor_self, UInt8.xor_zero]

@[simp] theorem field_add (off : Nat) (ys : Bytes) (i : Nat) :
    field off ys (off + i) = ys.getD i 0 := by simp [field]

theorem field_of_lt {off i : Nat} (ys : Bytes) (h : i < off) : field off ys i = 0 := by
  simp [field]; omega

theorem field_of_ge {off i : Nat} {ys : Bytes} (h : off + ys.length ≤ i) : field off ys i = 0 := by
  unfold field
  split
  · exact List.getD_eq_default _ _ (by omega)
  · rfl

/-- Xor an array with a stream, in place. -/
def xorArr {n : Nat} (ks : Nat → UInt8) (a : ByteArr n) : ByteArr n :=
  ⟨xorStream ks a.1, by rw [length_xorStream, a.2]⟩

/-- A string of known length is known from its bytes. -/
theorem ext_getD {xs ys : Bytes} (hl : xs.length = ys.length)
    (h : ∀ i < xs.length, xs.getD i 0 = ys.getD i 0) : xs = ys := by
  apply List.ext_getElem hl
  intro i h1 h2
  have := h i h1
  rwa [List.getD_eq_getElem _ _ h1, List.getD_eq_getElem _ _ h2] at this

/-! ## Fields

A field that is xored into a string can be read back, if the strings agree where it is and from
there on: the fields of a layout are peeled off from the last one to the first. -/

/-- The strings agree from the offset `off` on. -/
def AgreeFrom (off : Nat) (a b : Bytes) : Prop := ∀ i, off ≤ i → a.getD i 0 = b.getD i 0

variable {off : Nat} {a b ys zs : Bytes}

theorem getD_xorStream (ks : Nat → UInt8) {xs : Bytes} {i : Nat} (h : i < xs.length) :
    (xorStream ks xs).getD i 0 = xs.getD i 0 ^^^ ks i := by
  rw [List.getD_eq_getElem?_getD, List.getD_eq_getElem?_getD, getElem?_xorStream,
    List.getElem?_eq_getElem h]
  rfl

/-- What is behind a field stays as it was. -/
theorem AgreeFrom.field (h : AgreeFrom off a b) (hl : ys.length = zs.length) (hab : a.length = b.length)
    {off' : Nat} (hoff : off + ys.length ≤ off') :
    AgreeFrom off' (xorStream (field off ys) a) (xorStream (field off zs) b) := by
  intro i hi
  rcases Nat.lt_or_ge i a.length with hlt | hge
  · rw [getD_xorStream _ hlt, getD_xorStream _ (hab ▸ hlt), field_of_ge (by omega),
      field_of_ge (by omega), h i (by omega)]
  · rw [List.getD_eq_default _ _ (by rwa [length_xorStream]),
      List.getD_eq_default _ _ (by rwa [length_xorStream, ← hab])]

/-- The last field of a layout, and the string under it. -/
theorem AgreeFrom.peel (h : AgreeFrom off a b) (hl : ys.length = zs.length)
    (hab : a.length = b.length) (hfit : off + ys.length ≤ a.length)
    (heq : xorStream (Bytes.field off ys) a = xorStream (Bytes.field off zs) b) : ys = zs ∧ a = b := by
  have hys : ys = zs := by
    refine ext_getD hl fun i hi => ?_
    have hget := congrArg (fun s : Bytes => s.getD (off + i) 0) heq
    rw [getD_xorStream _ (by omega), getD_xorStream _ (by omega), field_add, field_add,
      h _ (Nat.le_add_right _ _)] at hget
    exact (UInt8.xor_right_inj _).mp hget
  subst hys
  refine ⟨rfl, ?_⟩
  have hself := congrArg (xorStream (Bytes.field off ys)) heq
  rwa [xorStream_xorStream_self, xorStream_xorStream_self] at hself

/-- Two fields of a layout, in order. -/
theorem two_fields {off off' : Nat} {s ys zs ys' zs' : Bytes} (hl : ys.length = zs.length)
    (hl' : ys'.length = zs'.length) (hoff : off + ys.length ≤ off')
    (hfit : off' + ys'.length ≤ s.length)
    (heq : xorStream (Bytes.field off' ys') (xorStream (Bytes.field off ys) s) =
      xorStream (Bytes.field off' zs') (xorStream (Bytes.field off zs) s)) : ys = zs ∧ ys' = zs' := by
  have hs : AgreeFrom off s s := fun _ _ => rfl
  obtain ⟨hlast, heq⟩ := (hs.field hl rfl hoff).peel hl' (by simp only [length_xorStream])
    (by rwa [length_xorStream]) heq
  obtain ⟨hfirst, -⟩ := hs.peel hl rfl (by omega) heq
  exact ⟨hfirst, hlast⟩

end Bytes
