import Mathlib.Data.List.Basic
import V2xStack.Foundation.Bytes

/-!
# Memory objects and packed layouts

Byte-addressed memory as programs with raw buffers see it, and the records laid
over it.

* `slice` and `writeAt` read and overwrite a run of cells of one array. `writeAt`
  keeps the length: cells of the source that fall behind the array are lost to
  it, so the laws need no bound except where a written value is read back.
* `Region` is an array together with whatever memory holds behind it, for reads
  that may leave the array.
* `Field` is a member of a packed record. `Field.next` places a member right
  behind another one, so a record is written down member by member in the order
  of its declaration; members of a union share their predecessor.
* `writeAll` runs a list of member assignments. `Field.read_writeAll` reads the
  member an assignment wrote, provided every later assignment is to a member
  disjoint from it, and `Field.read_writeAll_zero` reads a range that only zeros
  were written to.
-/

namespace Wire

variable {α : Type}

/-! ### Slices of an array -/

/-- The `len` cells from `off` on. -/
def slice (buf : List α) (off len : ℕ) : List α := (buf.drop off).take len

/-- Overwrite the cells from `off` on by `src`. -/
def writeAt (buf : List α) (off : ℕ) (src : List α) : List α :=
  buf.mapIdx fun i x => if off ≤ i then src[i - off]?.getD x else x

@[simp] theorem length_writeAt (buf : List α) (off : ℕ) (src : List α) :
    (writeAt buf off src).length = buf.length :=
  List.length_mapIdx

theorem getElem?_writeAt (buf : List α) (off : ℕ) (src : List α) (i : ℕ) :
    (writeAt buf off src)[i]?
      = buf[i]?.map fun x => if off ≤ i then src[i - off]?.getD x else x :=
  List.getElem?_mapIdx

/-- A cell outside the written run keeps its value. -/
theorem getElem?_writeAt_of_outside {buf : List α} {off i : ℕ} {src : List α}
    (h : i < off ∨ off + src.length ≤ i) : (writeAt buf off src)[i]? = buf[i]? := by
  rw [getElem?_writeAt]
  rcases h with h | h
  · -- in front of the run
    simp [Nat.not_le.mpr h]
  · -- behind the run the source has no cell
    have hnone : src[i - off]? = none := List.getElem?_eq_none (by omega)
    simp [hnone]

/-- A cell of the written run holds the source. -/
theorem getElem?_writeAt_of_inside {buf : List α} {off j : ℕ} {src : List α}
    (hj : j < src.length) (hb : off + j < buf.length) :
    (writeAt buf off src)[off + j]? = some src[j] := by
  rw [getElem?_writeAt, List.getElem?_eq_getElem hb, Option.map_some,
    if_pos (Nat.le_add_right off j), Nat.add_sub_cancel_left, List.getElem?_eq_getElem hj,
    Option.getD_some]

theorem getElem?_slice (buf : List α) (off len j : ℕ) :
    (slice buf off len)[j]? = if j < len then buf[off + j]? else none := by
  rw [slice, List.getElem?_take]
  split
  · rw [List.getElem?_drop]
  · rfl

/-- Two slices of one range are the same when the arrays agree on it. -/
theorem slice_eq_iff {buf buf' : List α} {off len : ℕ} :
    slice buf off len = slice buf' off len ↔
      ∀ i, off ≤ i → i < off + len → buf[i]? = buf'[i]? := by
  constructor
  · intro h i hmin hmax
    obtain ⟨j, rfl⟩ := Nat.exists_eq_add_of_le hmin
    have hj := congrArg (·[j]?) h
    -- cell `i` of the array is cell `j` of the slice
    simpa only [getElem?_slice, if_pos (Nat.lt_of_add_lt_add_left hmax)] using hj
  · intro h
    apply List.ext_getElem?
    intro j
    -- behind the slice both are empty
    rw [getElem?_slice, getElem?_slice]
    split
    · next hj => exact h (off + j) (Nat.le_add_right off j) (Nat.add_lt_add_left hj off)
    · rfl

theorem length_slice {buf : List α} {off len : ℕ} (h : off + len ≤ buf.length) :
    (slice buf off len).length = len := by
  rw [slice, List.length_take, List.length_drop]
  omega

theorem slice_add (buf : List α) (off m n : ℕ) :
    slice buf off (m + n) = slice buf off m ++ slice buf (off + m) n := by
  rw [slice, slice, slice, ← List.drop_drop, List.take_add]

theorem slice_one {buf : List α} {off : ℕ} (h : off < buf.length) :
    slice buf off 1 = [buf[off]] := by
  rw [slice, List.drop_eq_getElem_cons h, List.take_succ_cons, List.take_zero]

theorem slice_writeAt_of_disjoint {buf src : List α} {off o len : ℕ}
    (h : off + len ≤ o ∨ o + src.length ≤ off) :
    slice (writeAt buf o src) off len = slice buf off len := by
  apply List.ext_getElem?
  intro j
  rw [getElem?_slice, getElem?_slice]
  split
  · -- every cell of the slice is outside the written range
    exact getElem?_writeAt_of_outside (by omega)
  · rfl

theorem slice_writeAt_self {buf src : List α} {off : ℕ} (h : off + src.length ≤ buf.length) :
    slice (writeAt buf off src) off src.length = src := by
  apply List.ext_getElem?
  intro j
  rw [getElem?_slice]
  split
  -- inside the run both sides are the source, behind it both are empty
  · next hj => rw [getElem?_writeAt_of_inside hj (by omega), List.getElem?_eq_getElem hj]
  · next hj => exact (List.getElem?_eq_none (by omega)).symm

/-- A source of the buffer's length replaces the whole buffer. -/
theorem writeAt_of_length_eq {buf src : List α} (h : src.length = buf.length) :
    writeAt buf 0 src = src := by
  have hself : slice (writeAt buf 0 src) 0 src.length = src :=
    slice_writeAt_self (by rw [Nat.zero_add, h])
  rwa [slice, List.drop_zero, List.take_of_length_le (by rw [length_writeAt, h])] at hself

/-! ### An array and the memory behind it -/

/-- An array of cells and what memory holds behind its end. -/
structure Region (α : Type) where
  cells : List α
  beyond : ℕ → α

namespace Region

/-- The cell at offset `i` from the start of the array, inside it or not. -/
def get (r : Region α) (i : ℕ) : α := r.cells[i]?.getD (r.beyond (i - r.cells.length))

/-- The `len` cells from `off` on. -/
def read (r : Region α) (off len : ℕ) : List α :=
  (List.range len).map fun j => r.get (off + j)

/-- Overwrite cells of the array. -/
def write (r : Region α) (off : ℕ) (src : List α) : Region α :=
  { r with cells := writeAt r.cells off src }

variable (r : Region α)

@[simp] theorem length_read (off len : ℕ) : (r.read off len).length = len := by
  rw [read, List.length_map, List.length_range]

@[simp] theorem length_write_cells (off : ℕ) (src : List α) :
    (r.write off src).cells.length = r.cells.length :=
  length_writeAt r.cells off src

theorem getElem?_read {off len j : ℕ} (h : j < len) :
    (r.read off len)[j]? = some (r.get (off + j)) := by
  rw [read, List.getElem?_map, List.getElem?_range h, Option.map_some]

theorem read_add (off m n : ℕ) : r.read off (m + n) = r.read off m ++ r.read (off + m) n := by
  rw [read, List.range_add, List.map_append, List.map_map, read, read]
  simp only [Function.comp_def, Nat.add_assoc]

theorem get_of_lt {i : ℕ} (h : i < r.cells.length) : r.get i = r.cells[i] := by
  rw [get, List.getElem?_eq_getElem h, Option.getD_some]

theorem get_write_of_inside {src : List α} {j : ℕ} (hj : j < src.length)
    (hr : j < r.cells.length) : (r.write 0 src).get j = src[j] := by
  have h : (writeAt r.cells 0 src)[0 + j]? = some src[j] :=
    getElem?_writeAt_of_inside hj (by omega)
  rw [Nat.zero_add] at h
  rw [get, show (r.write 0 src).cells = writeAt r.cells 0 src from rfl, h, Option.getD_some]

/-- A cell behind the written run, or behind the array, keeps its value. -/
theorem get_write_of_outside {src : List α} {i : ℕ}
    (h : src.length ≤ i ∨ r.cells.length ≤ i) : (r.write 0 src).get i = r.get i := by
  -- the length does not change, so `i` falls behind the array before and after
  have hcell : (writeAt r.cells 0 src)[i]? = r.cells[i]? := by
    rcases h with h | h
    · exact getElem?_writeAt_of_outside (by omega)
    · rw [List.getElem?_eq_none h, List.getElem?_eq_none (by rwa [length_writeAt])]
  rw [get, get, length_write_cells, show (r.write 0 src).cells = writeAt r.cells 0 src from rfl,
    hcell]
  rfl

/-- Reading only cells that a write filled gives cells of the source. -/
theorem read_write_of_le {src : List α} {off len : ℕ}
    (h : off + len ≤ min src.length r.cells.length) :
    (r.write 0 src).read off len = slice src off len := by
  apply List.ext_getElem?
  intro j
  by_cases hj : j < len
  · -- the written cells are read again, so none comes from behind the array
    rw [getElem?_read _ hj, getElem?_slice, if_pos hj, get_write_of_inside r (by omega) (by omega),
      List.getElem?_eq_getElem]
  · rw [getElem?_slice, if_neg hj]
    exact List.getElem?_eq_none (by rw [length_read]; omega)

end Region

/-! ### Members of a packed record -/

/-- A member of a packed record: where it starts and how many bytes it has. -/
structure Field where
  offset : ℕ
  width : ℕ
  deriving DecidableEq, Repr

namespace Field

/-- The first byte behind the member. -/
def stop (f : Field) : ℕ := f.offset + f.width

/-- The member of width `w` that follows `f` without padding. -/
def next (f : Field) (w : ℕ) : Field := ⟨f.stop, w⟩

/-- The two members share no byte. -/
def Disjoint (f g : Field) : Prop := f.stop ≤ g.offset ∨ g.stop ≤ f.offset

instance (f g : Field) : Decidable (f.Disjoint g) :=
  inferInstanceAs (Decidable (_ ∨ _))

/-- The bytes of the member in a buffer that starts with the record. -/
def read (f : Field) (buf : List UInt8) : List UInt8 := slice buf f.offset f.width

/-- The integer the member holds, as the host reads it from memory. -/
def load (host : Endian) (f : Field) (r : Region UInt8) : ℕ :=
  host.load (r.read f.offset f.width)

/-- Assign an integer to the member. -/
def write (host : Endian) (f : Field) (buf : List UInt8) (v : ℕ) : List UInt8 :=
  writeAt buf f.offset (host.store f.width v)

end Field

/-- Assign to members one after the other. -/
def writeAll (host : Endian) (buf : List UInt8) (ws : List (Field × ℕ)) : List UInt8 :=
  ws.foldl (fun b w => w.1.write host b w.2) buf

section Assignments

variable (host : Endian)

@[simp] theorem Field.length_write (f : Field) (buf : List UInt8) (v : ℕ) :
    (f.write host buf v).length = buf.length :=
  length_writeAt _ _ _

@[simp] theorem length_writeAll (buf : List UInt8) (ws : List (Field × ℕ)) :
    (writeAll host buf ws).length = buf.length := by
  induction ws generalizing buf with
  | nil => rfl
  | cons w ws ih => exact (ih _).trans (w.1.length_write host buf w.2)

theorem Field.read_write_of_disjoint {f g : Field} (h : f.Disjoint g) (buf : List UInt8)
    (v : ℕ) : f.read (g.write host buf v) = f.read buf := by
  apply slice_writeAt_of_disjoint
  rw [host.length_store]
  exact h

theorem Field.read_write_self {f : Field} {buf : List UInt8} (h : f.stop ≤ buf.length) (v : ℕ) :
    f.read (f.write host buf v) = host.store f.width v := by
  have hself : slice (f.write host buf v) f.offset (host.store f.width v).length
      = host.store f.width v :=
    slice_writeAt_self (by rw [host.length_store]; exact h)
  rwa [host.length_store] at hself

/-- Assignments to members disjoint from `f` leave `f` alone. -/
theorem Field.read_writeAll_of_disjoint {f : Field} {ws : List (Field × ℕ)}
    (h : ∀ g ∈ ws.map Prod.fst, f.Disjoint g) (buf : List UInt8) :
    f.read (writeAll host buf ws) = f.read buf := by
  induction ws generalizing buf with
  | nil => rfl
  | cons w ws ih =>
    rw [List.map_cons, List.forall_mem_cons] at h
    -- the later assignments leave the member alone, and so does the first
    exact (ih h.2 _).trans (Field.read_write_of_disjoint host h.1 buf w.2)

/-- **The last assignment wins.** The `k`-th assignment is the one read back
when every later one is to a member disjoint from it. -/
theorem Field.read_writeAll {f : Field} {v k : ℕ} {ws : List (Field × ℕ)} {buf : List UInt8}
    (hk : ws[k]? = some (f, v)) (hlater : ∀ g ∈ (ws.map Prod.fst).drop (k + 1), f.Disjoint g)
    (hlen : f.stop ≤ buf.length) :
    f.read (writeAll host buf ws) = host.store f.width v := by
  induction ws generalizing k buf with
  | nil => exact absurd hk (by simp)
  | cons w ws ih =>
    cases k with
    | zero =>
      -- the assignment itself; the rest of the list does not touch `f`
      obtain rfl : w = (f, v) := by simpa using hk
      have hrest : ∀ g ∈ ws.map Prod.fst, f.Disjoint g := by simpa using hlater
      exact (Field.read_writeAll_of_disjoint host hrest _).trans
        (Field.read_write_self host hlen v)
    | succ k =>
      exact ih (by simpa using hk) (by simpa using hlater) (by simpa using hlen)

/-- A zeroed range stays zero under assignments that avoid it or assign zero. -/
theorem Field.read_writeAll_zero {f : Field} {ws : List (Field × ℕ)} {buf : List UInt8}
    (h : ∀ w ∈ ws, f.Disjoint w.1 ∨ w.2 = 0)
    (hz : ∀ i, f.offset ≤ i → i < f.stop → buf[i]? = some 0) :
    ∀ i, f.offset ≤ i → i < f.stop → (writeAll host buf ws)[i]? = some 0 := by
  induction ws generalizing buf with
  | nil => exact hz
  | cons w ws ih =>
    rw [List.forall_mem_cons] at h
    refine ih h.2 fun i hi hs => ?_
    change (writeAt buf w.1.offset (host.store w.1.width w.2))[i]? = some 0
    by_cases hout : i < w.1.offset ∨ w.1.stop ≤ i
    · -- the byte is not written
      rw [getElem?_writeAt_of_outside (by rw [host.length_store]; exact hout)]
      exact hz i hi hs
    · -- the byte is written, so the member overlaps and the value is zero
      have hval : w.2 = 0 := by
        refine h.1.resolve_left fun hd => hout ?_
        rcases hd with hd | hd
        · exact Or.inl (by omega)
        · exact Or.inr (by omega)
      rw [getElem?_writeAt, hz i hi hs, hval, host.store_zero, Option.map_some, if_pos (by omega),
        List.getElem?_replicate]
      split <;> rfl

end Assignments

end Wire
