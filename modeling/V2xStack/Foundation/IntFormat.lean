import Mathlib.Data.Int.ConditionallyCompleteOrder
import Mathlib.Data.Set.Function
import Mathlib.Order.Interval.Set.Defs
import Mathlib.Tactic.Positivity
import Mathlib.Tactic.Ring

/-!
# Fixed-width integer fields

A field of a message or a machine word holds the integers of one format: signed
or not, of a number of bits. Assigning an arbitrary integer to it wraps.

`IntFormat.Value` is the type of integers a field can hold, so a value outside
the field's range cannot be built. `IntFormat.assign` is the wrapping
assignment: `assign_val_of_inRange` says it loses nothing on the range, and
`assign_val` that assigning a held value back gives it again.
-/

/-- The format of an integer field. -/
structure IntFormat where
  signed : Bool
  bits : ℕ
  deriving DecidableEq, Repr

namespace IntFormat

def uint8 : IntFormat := ⟨false, 8⟩
def uint16 : IntFormat := ⟨false, 16⟩
def uint32 : IntFormat := ⟨false, 32⟩
def int16 : IntFormat := ⟨true, 16⟩
def int32 : IntFormat := ⟨true, 32⟩

/-- The integers of the format. The signed bounds are doubled, so that they make
sense for a field of no bits. -/
def InRange (f : IntFormat) (x : ℤ) : Prop :=
  if f.signed then -(2 ^ f.bits : ℤ) ≤ x * 2 ∧ x * 2 < 2 ^ f.bits
  else 0 ≤ x ∧ x < 2 ^ f.bits

instance (f : IntFormat) (x : ℤ) : Decidable (f.InRange x) :=
  inferInstanceAs (Decidable (if f.signed then -(2 ^ f.bits : ℤ) ≤ x * 2 ∧ x * 2 < 2 ^ f.bits
    else 0 ≤ x ∧ x < 2 ^ f.bits))

/-- The integer of the format that is congruent to `x`. -/
def wrap (f : IntFormat) (x : ℤ) : ℤ :=
  if f.signed then x.bmod (2 ^ f.bits) else x % 2 ^ f.bits

theorem wrap_inRange (f : IntFormat) (x : ℤ) : f.InRange (f.wrap x) := by
  have hpos : 0 < 2 ^ f.bits := Nat.two_pow_pos f.bits
  unfold InRange wrap
  split
  · have hle := Int.le_bmod (x := x) hpos
    have hlt := Int.bmod_lt (x := x) hpos
    -- `bmod` is centred on zero; the bounds are sharp because the modulus is even
    have heven : 2 ^ f.bits = 1 ∨ 2 ^ f.bits % 2 = 0 := by
      cases f.bits with
      | zero => exact Or.inl rfl
      | succ n => exact Or.inr (by rw [pow_succ]; omega)
    push_cast at hle hlt ⊢
    have hcast : ((2 ^ f.bits : ℕ) : ℤ) = 2 ^ f.bits := by push_cast; rfl
    omega
  · have h2 : (0 : ℤ) < 2 ^ f.bits := by positivity
    exact ⟨Int.emod_nonneg x (by omega), Int.emod_lt_of_pos x h2⟩

theorem wrap_of_inRange {f : IntFormat} {x : ℤ} (h : f.InRange x) : f.wrap x = x := by
  unfold InRange at h
  unfold wrap
  split
  · next hs =>
    rw [if_pos hs] at h
    -- signed: a balanced remainder in the balanced range
    exact Int.bmod_eq_of_le_mul_two (by push_cast; exact h.1) (by push_cast; exact h.2)
  · next hs =>
    rw [if_neg hs] at h
    exact Int.emod_eq_of_lt h.1 h.2

/-- Wrapping keeps the residue, -/
theorem wrap_emod (f : IntFormat) (x : ℤ) : f.wrap x % 2 ^ f.bits = x % 2 ^ f.bits := by
  unfold wrap
  split
  · have h := Int.bmod_emod (x := x) (m := 2 ^ f.bits)
    push_cast at h
    exact h
  · exact Int.emod_emod_of_dvd x (dvd_refl _)

/-- and depends on nothing else. -/
theorem wrap_congr {f : IntFormat} {x y : ℤ} (h : x % 2 ^ f.bits = y % 2 ^ f.bits) :
    f.wrap x = f.wrap y := by
  unfold wrap
  split
  · -- the balanced remainder is a function of the other one
    rw [← Int.emod_bmod x, ← Int.emod_bmod y]
    push_cast
    rw [h]
  · exact h

theorem inRange_zero (f : IntFormat) : f.InRange 0 := by
  have h2 : (0 : ℤ) < 2 ^ f.bits := by positivity
  unfold InRange
  split <;> constructor <;> omega

/-- The integers a field of the format can hold. -/
def Value (f : IntFormat) : Type := {x : ℤ // f.InRange x}

variable {f : IntFormat}

namespace Value

/-- The integer held. -/
def val (v : f.Value) : ℤ := v.1

theorem ext {v w : f.Value} (h : v.val = w.val) : v = w := Subtype.ext h

instance : DecidableEq f.Value := inferInstanceAs (DecidableEq {x : ℤ // f.InRange x})

instance : Repr f.Value := ⟨fun v n => reprPrec v.val n⟩

/-- A field that was not assigned holds zero. -/
instance : Zero f.Value := ⟨⟨0, f.inRange_zero⟩⟩

instance : Inhabited f.Value := ⟨0⟩

end Value

/-- The wrapping assignment of an integer to a field. -/
def assign (f : IntFormat) (x : ℤ) : f.Value := ⟨f.wrap x, f.wrap_inRange x⟩

@[simp] theorem assign_val_of_inRange {x : ℤ} (h : f.InRange x) : (f.assign x).val = x :=
  wrap_of_inRange h

/-- The assignment loses nothing exactly on the range. -/
theorem assign_val_eq_iff {x : ℤ} : (f.assign x).val = x ↔ f.InRange x := by
  constructor
  · intro h
    rw [← h]
    exact (f.assign x).2
  · exact assign_val_of_inRange

/-- Integers in the range stay apart. -/
theorem eq_of_assign_eq {x y : ℤ} (hx : f.InRange x) (hy : f.InRange y)
    (h : f.assign x = f.assign y) : x = y := by
  rw [← assign_val_of_inRange hx, h, assign_val_of_inRange hy]

/-- The format has every integer of the set. -/
def Holds (f : IntFormat) (S : Set ℤ) : Prop := ∀ x ∈ S, f.InRange x

/-- An interval is held with its bounds. -/
theorem holds_Icc {a b : ℤ} (ha : f.InRange a) (hb : f.InRange b) : f.Holds (Set.Icc a b) := by
  rintro x ⟨hax, hxb⟩
  -- both cases are intervals, so what is between two of their points is in them
  unfold InRange at *
  split
  · next hs =>
    rw [if_pos hs] at ha hb
    constructor <;> omega
  · next hs =>
    rw [if_neg hs] at ha hb
    constructor <;> omega

/-- Integers that the format has stay apart. -/
theorem Holds.injOn {S : Set ℤ} (h : f.Holds S) : S.InjOn f.assign := by
  intro x hx y hy heq
  rw [← assign_val_of_inRange (h x hx), heq, assign_val_of_inRange (h y hy)]

/-- Every integer of `f` is one of `g`. -/
def Within (f g : IntFormat) : Prop := ∀ x, f.InRange x → g.InRange x

/-- A cast to a format that holds what the field holds loses nothing. -/
theorem assign_wrap_val {g : IntFormat} (hg : f.Within g) {x : ℤ} (h : f.InRange x) :
    (f.assign (g.wrap x)).val = x := by
  rw [wrap_of_inRange (hg x h), assign_val_of_inRange h]

@[simp] theorem assign_val (v : f.Value) : f.assign v.val = v :=
  Value.ext (wrap_of_inRange v.2)

@[simp] theorem assign_zero : f.assign 0 = 0 :=
  Value.ext (wrap_of_inRange f.inRange_zero)

theorem assign_ne_zero {x : ℤ} (h : f.InRange x) (hx : x ≠ 0) : f.assign x ≠ 0 := by
  intro hzero
  rw [← assign_zero] at hzero
  have hval := congrArg Value.val hzero
  rw [assign_val_of_inRange h, assign_val_of_inRange f.inRange_zero] at hval
  exact hx hval

theorem assign_congr {x y : ℤ} (h : x % 2 ^ f.bits = y % 2 ^ f.bits) : f.assign x = f.assign y :=
  Value.ext (wrap_congr h)

/-- A byte that a field was assigned can be read back as a byte: either the field
is narrower, and holds the low bits of it, or it holds the byte. -/
theorem assign_ofInt_val (b : UInt8) :
    f.assign ((UInt8.ofInt (f.assign b.toNat).val).toNat : ℤ) = f.assign b.toNat := by
  have hlt : (b.toNat : ℤ) < 256 := by exact_mod_cast b.toNat_lt
  -- the byte that is read back is the held integer modulo 256
  have hbyte : ((UInt8.ofInt (f.assign b.toNat).val).toNat : ℤ)
      = (f.assign b.toNat).val % 256 := by
    rw [UInt8.ofInt, UInt8.toNat_ofNat']
    omega
  rw [hbyte]
  rcases Nat.lt_or_ge 8 f.bits with hbits | hbits
  · have h512 : (2 : ℤ) ^ 9 ≤ 2 ^ f.bits := pow_le_pow_right₀ (by decide) hbits
    have hrange : f.InRange b.toNat := by
      unfold InRange
      split
      · constructor <;> omega
      · constructor <;> omega
    rw [assign_val_of_inRange hrange, Int.emod_eq_of_lt (by omega) hlt]
  · have hdvd : (2 : ℤ) ^ f.bits ∣ 256 := pow_dvd_pow 2 hbits
    apply assign_congr
    rw [Int.emod_emod_of_dvd _ hdvd]
    exact f.wrap_emod _

end IntFormat
