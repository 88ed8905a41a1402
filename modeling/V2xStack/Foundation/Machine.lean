import Mathlib.Data.List.Basic

/-!
# Input-output machines with hidden state

A machine reads a list of inputs, one step at a time, and emits a list of
outputs at each step. Its state is hidden: an observer sees the outputs.

`Machine.run_eq_flatMap` is the unwinding argument for noninterference. When the
steps on secret inputs emit nothing, and a step on a visible input emits
something that does not depend on the state it is taken in, the outputs of a run
are a function of its visible inputs: two runs from any two states whose visible
inputs agree emit the same (`Machine.run_eq_run`).

`Machine.EmitsAt` says that a step of a run emits something. A map between two
machines that commutes with their steps carries it over (`Machine.emitsAt_map`).
-/

/-- A deterministic machine over states `σ`, inputs `ι` and outputs `ο`. -/
structure Machine (σ ι ο : Type) where
  next : σ → ι → σ
  emit : σ → ι → List ο

namespace Machine

variable {σ ι ο : Type} (M : Machine σ ι ο)

/-- The state reached after reading `is` from `s`. -/
def final (s : σ) (is : List ι) : σ := is.foldl M.next s

/-- The outputs of the run from `s` on `is`. -/
def run : σ → List ι → List ο
  | _, [] => []
  | s, i :: is => M.emit s i ++ run (M.next s i) is

@[simp] theorem run_nil (s : σ) : M.run s [] = [] := rfl

@[simp] theorem run_cons (s : σ) (i : ι) (is : List ι) :
    M.run s (i :: is) = M.emit s i ++ M.run (M.next s i) is := rfl

theorem run_append (s : σ) (is js : List ι) :
    M.run s (is ++ js) = M.run s is ++ M.run (M.final s is) js := by
  induction is generalizing s with
  | nil => rfl
  | cons i is ih =>
    rw [List.cons_append, run_cons, run_cons, ih, List.append_assoc]
    rfl

/-- What a run emits is bounded by a bound on each of its steps, -/
theorem run_sublist_flatMap {out : ι → List ο} (h : ∀ s i, (M.emit s i).Sublist (out i))
    (s : σ) (is : List ι) : (M.run s is).Sublist (is.flatMap out) := by
  induction is generalizing s with
  | nil => exact List.Sublist.refl _
  | cons i is ih =>
    rw [run_cons, List.flatMap_cons]
    exact (h s i).append (ih _)

/-- and given by the inputs where an invariant keeps each step to its input. -/
theorem run_eq_flatMap_of_invariant {p : σ → Prop} {out : ι → List ο} {is : List ι}
    (h : ∀ i ∈ is, ∀ s, p s → M.emit s i = out i ∧ p (M.next s i)) {s : σ} (hs : p s) :
    M.run s is = is.flatMap out := by
  induction is generalizing s with
  | nil => rfl
  | cons i is ih =>
    rw [List.forall_mem_cons] at h
    -- the invariant gives the output of the step and holds again behind it
    obtain ⟨hemit, hnext⟩ := h.1 s hs
    rw [run_cons, List.flatMap_cons, hemit, ih h.2 hnext]

/-- What each step preserves a run preserves. -/
theorem final_of_forall {p : σ → Prop} {is : List ι}
    (h : ∀ i ∈ is, ∀ s, p s → p (M.next s i)) {s : σ} (hs : p s) : p (M.final s is) := by
  induction is generalizing s with
  | nil => exact hs
  | cons i is ih =>
    rw [List.forall_mem_cons] at h
    exact ih h.2 (h.1 s hs)

/-- A machine whose steps are mapped to those of another, and emit no more than these,
emits no more in a run. -/
theorem length_run_le {τ κ π : Type} {N : Machine τ κ π} {f : σ → τ} {g : ι → κ}
    (hnext : ∀ s i, f (M.next s i) = N.next (f s) (g i))
    (hemit : ∀ s i, (M.emit s i).length ≤ (N.emit (f s) (g i)).length) (s : σ) (is : List ι) :
    (M.run s is).length ≤ (N.run (f s) (is.map g)).length := by
  induction is generalizing s with
  | nil => exact Nat.le_refl 0
  | cons i is ih =>
    -- the second machine goes on in the image of the next state
    rw [run_cons, List.length_append, List.map_cons, run_cons, List.length_append, ← hnext]
    exact Nat.add_le_add (hemit s i) (ih _)

/-! ### Selected outputs -/

/-- The machine, observed through a part of its outputs. -/
def select {π : Type} (f : ο → Option π) : Machine σ ι π where
  next := M.next
  emit s i := (M.emit s i).filterMap f

@[simp] theorem final_select {π : Type} (f : ο → Option π) (s : σ) (is : List ι) :
    (M.select f).final s is = M.final s is := rfl

theorem run_select {π : Type} (f : ο → Option π) (s : σ) (is : List ι) :
    (M.select f).run s is = (M.run s is).filterMap f := by
  induction is generalizing s with
  | nil => rfl
  | cons i is ih =>
    rw [run_cons, run_cons, List.filterMap_append]
    exact congrArg _ (ih (M.next s i))

/-! ### Several inputs at a time -/

/-- The machine that reads a list of inputs in each step. -/
def batch {κ : Type} (g : κ → List ι) : Machine σ κ ο where
  next s k := M.final s (g k)
  emit s k := M.run s (g k)

theorem run_batch {κ : Type} (g : κ → List ι) (s : σ) (ks : List κ) :
    (M.batch g).run s ks = M.run s (ks.flatMap g) := by
  induction ks generalizing s with
  | nil => rfl
  | cons k ks ih =>
    rw [run_cons, List.flatMap_cons, run_append]
    exact congrArg _ (ih (M.final s (g k)))

theorem final_batch {κ : Type} (g : κ → List ι) (s : σ) (ks : List κ) :
    (M.batch g).final s ks = M.final s (ks.flatMap g) := by
  induction ks generalizing s with
  | nil => rfl
  | cons k ks ih =>
    rw [List.flatMap_cons, final, final, List.foldl_append]
    exact ih (M.final s (g k))

/-! ### Noninterference -/

/-- **Unwinding.** Secret inputs are silent and visible ones emit `out`, whatever
the state: the run emits the outputs of its visible inputs. -/
theorem run_eq_flatMap {visible : ι → Bool} {out : ι → List ο} {is : List ι}
    (hsecret : ∀ s i, visible i = false → M.emit s i = [])
    (hout : ∀ i ∈ is, visible i = true → ∀ s, M.emit s i = out i) (s : σ) :
    M.run s is = (is.filter visible).flatMap out := by
  induction is generalizing s with
  | nil => rfl
  | cons i is ih =>
    rw [List.forall_mem_cons] at hout
    rw [run_cons, ih hout.2]
    -- a visible input contributes its output, a secret one nothing
    cases hv : visible i with
    | true => rw [List.filter_cons_of_pos hv, List.flatMap_cons, hout.1 hv]
    | false => rw [List.filter_cons_of_neg (by simp [hv]), hsecret s i hv, List.nil_append]

/-- **Noninterference.** Runs from any two states whose visible inputs agree emit
the same. -/
theorem run_eq_run {visible : ι → Bool} (out : ι → List ο) {is js : List ι}
    (hsecret : ∀ s i, visible i = false → M.emit s i = [])
    (hout : ∀ i ∈ is.filter visible, ∀ s, M.emit s i = out i)
    (hfilter : is.filter visible = js.filter visible) (s t : σ) :
    M.run s is = M.run t js := by
  -- both runs emit the outputs of the same visible inputs
  have h : ∀ ks, ks.filter visible = is.filter visible → ∀ u,
      M.run u ks = (ks.filter visible).flatMap out := by
    intro ks hks
    refine M.run_eq_flatMap hsecret fun i hi hv => hout i ?_
    rw [← hks]
    exact List.mem_filter.mpr ⟨hi, hv⟩
  rw [h is rfl, h js hfilter.symm, hfilter]

/-! ### Steps that emit -/

/-- Step `k` of the run from `s` on `is` emits something. -/
def EmitsAt (s : σ) (is : List ι) (k : ℕ) : Prop :=
  ∃ i, is[k]? = some i ∧ M.emit (M.final s (is.take k)) i ≠ []

@[simp] theorem not_emitsAt_nil (s : σ) (k : ℕ) : ¬M.EmitsAt s [] k := by
  rintro ⟨i, hi, -⟩
  rw [List.getElem?_nil] at hi
  exact absurd hi (by simp)

@[simp] theorem emitsAt_cons_zero (s : σ) (i : ι) (is : List ι) :
    M.EmitsAt s (i :: is) 0 ↔ M.emit s i ≠ [] := by
  constructor
  · rintro ⟨j, hj, hemit⟩
    obtain rfl : i = j := Option.some.inj hj
    exact hemit
  · intro hemit
    exact ⟨i, rfl, hemit⟩

@[simp] theorem emitsAt_cons_succ (s : σ) (i : ι) (is : List ι) (k : ℕ) :
    M.EmitsAt s (i :: is) (k + 1) ↔ M.EmitsAt (M.next s i) is k := Iff.rfl

/-- Whether a step emits does not depend on the inputs behind it. -/
theorem emitsAt_take {is : List ι} {j k : ℕ} (hjk : j < k) (s : σ) :
    M.EmitsAt s (is.take k) j ↔ M.EmitsAt s is j := by
  rw [EmitsAt, EmitsAt, List.getElem?_take_of_lt hjk, List.take_take,
    Nat.min_eq_left (Nat.le_of_lt hjk)]

theorem final_append (s : σ) (is js : List ι) :
    M.final s (is ++ js) = M.final (M.final s is) js :=
  List.foldl_append

/-- The state after one more step. -/
theorem final_take_succ {is : List ι} {k : ℕ} {i : ι} (hi : is[k]? = some i) (s : σ) :
    M.final s (is.take (k + 1)) = M.next (M.final s (is.take k)) i := by
  have hk : k < is.length := (List.getElem?_eq_some_iff.mp hi).1
  obtain rfl : is[k] = i := (List.getElem?_eq_some_iff.mp hi).2
  rw [List.take_succ_eq_append_getElem hk, final_append]
  rfl

/-- **Simulation.** When `f` and `g` map the steps of one machine to the steps of
another, and a step emits something exactly when the step it is mapped to does, the
two machines emit at the same steps of their runs. -/
theorem emitsAt_map {τ κ π : Type} {N : Machine τ κ π} {f : σ → τ} {g : ι → κ}
    (hnext : ∀ s i, f (M.next s i) = N.next (f s) (g i))
    (hemit : ∀ s i, M.emit s i = [] ↔ N.emit (f s) (g i) = []) (s : σ) (is : List ι) (k : ℕ) :
    M.EmitsAt s is k ↔ N.EmitsAt (f s) (is.map g) k := by
  induction is generalizing s k with
  | nil => simp
  | cons i is ih =>
    -- the first step, or one behind it
    cases k with
    | zero => rw [List.map_cons, emitsAt_cons_zero, emitsAt_cons_zero, ne_eq, ne_eq, hemit]
    | succ k => rw [List.map_cons, emitsAt_cons_succ, emitsAt_cons_succ, ih, hnext]

/-! ### One output per input -/

section Transducer

variable {out : σ → ι → ο} (hemit : ∀ s i, M.emit s i = [out s i])
include hemit

theorem length_run (s : σ) (is : List ι) : (M.run s is).length = is.length := by
  induction is generalizing s with
  | nil => rfl
  | cons i is ih => rw [run_cons, hemit, List.singleton_append, List.length_cons, ih,
      List.length_cons]

/-- An output is made from its input, in the state that the earlier inputs lead
to. -/
theorem getElem?_run (s : σ) (is : List ι) (k : ℕ) :
    (M.run s is)[k]? = is[k]?.map (out (M.final s (is.take k))) := by
  induction is generalizing s k with
  | nil => rfl
  | cons i is ih =>
    rw [run_cons, hemit, List.singleton_append]
    cases k with
    | zero => rfl
    | succ k =>
      -- the state after `i :: is.take k` is the state after `is.take k` from the next one
      exact ih (M.next s i) k

end Transducer

end Machine
