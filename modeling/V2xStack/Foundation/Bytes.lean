import Mathlib.Data.Nat.Notation
import Mathlib.Algebra.Group.Nat.Defs
import Mathlib.Tactic.Ring

/-!
# Integers as byte strings

Fixed-width unsigned integers in the two byte orders, and the conversion pair
a program calls when it moves an integer between its own memory and a wire
format.

* `leBytes` / `leNat` and `beBytes` / `beNat` — the least-significant-first and
  most-significant-first codecs, inverse to each other on strings of the right
  width (`leNat_leBytes`, `leBytes_leNat`, and the `be` forms).
* `Endian.store` / `Endian.load` — how a host of the given byte order keeps an
  integer in memory.
* `Endian.hton` / `Endian.ntoh` — host-to-network and network-to-host. They are
  defined through memory, as the calls are: `hton` is the integer whose stored
  bytes are the big-endian ones, so `store_hton` and `ntoh_load` hold for a host
  of either order.
-/

namespace Wire

/-- The byte order of a host. -/
inductive Endian
  | little
  | big
  deriving DecidableEq, Repr

/-! ### The two codecs -/

/-- The `w` bytes of `n`, least significant first. Bits above `8 * w` are
dropped. -/
def leBytes : ℕ → ℕ → List UInt8
  | 0, _ => []
  | w + 1, n => UInt8.ofNat n :: leBytes w (n / 256)

/-- The integer a byte string denotes, least significant byte first. -/
def leNat : List UInt8 → ℕ
  | [] => 0
  | b :: bs => b.toNat + 256 * leNat bs

/-- The `w` bytes of `n`, most significant first. -/
def beBytes (w n : ℕ) : List UInt8 := (leBytes w n).reverse

/-- The integer a byte string denotes, most significant byte first. -/
def beNat (bs : List UInt8) : ℕ := leNat bs.reverse

@[simp] theorem leBytes_zero (n : ℕ) : leBytes 0 n = [] := rfl

@[simp] theorem leBytes_succ (w n : ℕ) :
    leBytes (w + 1) n = UInt8.ofNat n :: leBytes w (n / 256) := rfl

@[simp] theorem leNat_nil : leNat [] = 0 := rfl

@[simp] theorem leNat_cons (b : UInt8) (bs : List UInt8) :
    leNat (b :: bs) = b.toNat + 256 * leNat bs := rfl

@[simp] theorem length_leBytes (w n : ℕ) : (leBytes w n).length = w := by
  induction w generalizing n with
  | zero => rfl
  | succ w ih => rw [leBytes_succ, List.length_cons, ih]

@[simp] theorem length_beBytes (w n : ℕ) : (beBytes w n).length = w := by
  rw [beBytes, List.length_reverse, length_leBytes]

theorem leNat_lt (bs : List UInt8) : leNat bs < 256 ^ bs.length := by
  induction bs with
  | nil => exact Nat.one_pos
  | cons b bs ih =>
    have hb : b.toNat < 256 := b.toNat_lt
    rw [leNat_cons, List.length_cons, pow_succ]
    omega

theorem beNat_lt (bs : List UInt8) : beNat bs < 256 ^ bs.length := by
  have h := leNat_lt bs.reverse
  rwa [List.length_reverse] at h

/-- Reading back what was laid out loses only the bits above the width. -/
theorem leNat_leBytes (w n : ℕ) : leNat (leBytes w n) = n % 256 ^ w := by
  induction w generalizing n with
  | zero => rw [leBytes_zero, leNat_nil, pow_zero, Nat.mod_one]
  | succ w ih =>
    have hb : (UInt8.ofNat n).toNat = n % 256 := UInt8.toNat_ofNat'
    -- the low byte and the wrapped rest are the two parts of `Nat.mod_mul`
    rw [leBytes_succ, leNat_cons, hb, ih, pow_succ', Nat.mod_mul]

theorem leBytes_leNat (bs : List UInt8) : leBytes bs.length (leNat bs) = bs := by
  induction bs with
  | nil => rfl
  | cons b bs ih =>
    have hb : b.toNat < 256 := b.toNat_lt
    -- dividing by 256 drops the low byte, wrapping to eight bits keeps only it
    have hdiv : (b.toNat + 256 * leNat bs) / 256 = leNat bs := by omega
    have hlow : UInt8.ofNat (b.toNat + 256 * leNat bs) = b := by
      apply UInt8.toNat_inj.mp
      rw [UInt8.toNat_ofNat']
      omega
    rw [List.length_cons, leNat_cons, leBytes_succ, hdiv, hlow, ih]

theorem beNat_beBytes (w n : ℕ) : beNat (beBytes w n) = n % 256 ^ w := by
  rw [beNat, beBytes, List.reverse_reverse, leNat_leBytes]

theorem beNat_beBytes_of_lt {w n : ℕ} (h : n < 256 ^ w) : beNat (beBytes w n) = n := by
  rw [beNat_beBytes, Nat.mod_eq_of_lt h]

theorem beBytes_beNat (bs : List UInt8) : beBytes bs.length (beNat bs) = bs := by
  have h := leBytes_leNat bs.reverse
  rw [List.length_reverse] at h
  rw [beBytes, beNat, h, List.reverse_reverse]

theorem beNat_inj {bs cs : List UInt8} (hlen : bs.length = cs.length) :
    beNat bs = beNat cs ↔ bs = cs := by
  refine ⟨fun h => ?_, fun h => by rw [h]⟩
  rw [← beBytes_beNat bs, ← beBytes_beNat cs, h, hlen]

theorem leBytes_of_eq_zero (w : ℕ) : leBytes w 0 = List.replicate w 0 := by
  induction w with
  | zero => rfl
  | succ w ih => rw [leBytes_succ, Nat.zero_div, ih, List.replicate_succ]; rfl

/-! ### Host memory and network order -/

namespace Endian

/-- How a host keeps an integer of `w` bytes in memory. -/
def store : Endian → ℕ → ℕ → List UInt8
  | little => leBytes
  | big => beBytes

/-- The integer a host reads from memory. -/
def load : Endian → List UInt8 → ℕ
  | little => leNat
  | big => beNat

/-- Host-to-network: the integer whose stored bytes are the big-endian ones. -/
def hton (host : Endian) (w n : ℕ) : ℕ := host.load (beBytes w n)

/-- Network-to-host: the integer the stored bytes denote in big-endian order. -/
def ntoh (host : Endian) (w n : ℕ) : ℕ := beNat (host.store w n)

variable (host : Endian)

@[simp] theorem length_store (w n : ℕ) : (host.store w n).length = w := by
  cases host
  · exact length_leBytes w n
  · exact length_beBytes w n

theorem load_lt (bs : List UInt8) : host.load bs < 256 ^ bs.length := by
  cases host
  · exact leNat_lt bs
  · exact beNat_lt bs

theorem store_load (bs : List UInt8) : host.store bs.length (host.load bs) = bs := by
  cases host
  · exact leBytes_leNat bs
  · exact beBytes_beNat bs

/-- Strings of one length are told apart by what the host reads. -/
theorem load_inj {bs cs : List UInt8} (hlen : bs.length = cs.length) :
    host.load bs = host.load cs ↔ bs = cs := by
  refine ⟨fun h => ?_, fun h => by rw [h]⟩
  rw [← host.store_load bs, ← host.store_load cs, h, hlen]

theorem store_zero (w : ℕ) : host.store w 0 = List.replicate w 0 := by
  cases host
  · exact leBytes_of_eq_zero w
  · exact (congrArg List.reverse (leBytes_of_eq_zero w)).trans List.reverse_replicate

/-- **Writing a converted integer.** The host stores `hton n` as the big-endian
bytes of `n`. -/
theorem store_hton (w n : ℕ) : host.store w (host.hton w n) = beBytes w n := by
  have h := host.store_load (beBytes w n)
  rwa [length_beBytes] at h

/-- **Reading and converting an integer.** The host gets the big-endian value of
the bytes it loaded. -/
theorem ntoh_load (bs : List UInt8) : host.ntoh bs.length (host.load bs) = beNat bs := by
  rw [ntoh, store_load]

end Endian

end Wire
