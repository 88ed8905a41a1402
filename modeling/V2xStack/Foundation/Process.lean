import V2xStack.Foundation.Machine
import V2xStack.Foundation.Run

/-!
# Processes

A program that reacts to one input after the other, as a machine. A reaction is a
`Run`: it may read and write memory, and it may end the program.

`Machine.process` follows such a program up to its first illegal access. There the state
becomes `none`, as it does when the program ends: a real program may well go on behind an
illegal access, but the language does not say how, and neither does the machine. So
"it is still there" is to be read in one direction only, and whether a run has come to an
illegal access is a question of its own: `Machine.SafeRun` says that it has not.

For a program that does not end by itself the two are the same (`safeRun_iff_isSome_final`).
When it is a matter of the input whether a reaction is safe, a run is safe on its inputs
(`safeRun_iff_forall`). As long as the process is there it does what the reactions compute
(`run_process_prefix`). `Machine.stateless` is a process without a state of its own, whose
reactions are a function of the input.
-/

open scoped List

namespace Machine

variable {P σ ι ο : Type}

/-- The process that reacts by `react`: with its next state, if it goes on, and what it
emits. It is followed up to its first illegal access. -/
def process (react : σ → ι → Run (Access P) (Option σ × List ο)) :
    Machine (Option σ) ι ο where
  next s i := s.bind fun s => (react s i).outcome.bind Prod.fst
  emit s i := (s.bind fun s => (react s i).outcome).elim [] Prod.snd

section Process

variable {react : σ → ι → Run (Access P) (Option σ × List ο)}

/-- A process that has ended stays so, -/
@[simp] theorem final_process_none (is : List ι) : (process react).final none is = none := by
  induction is with
  | nil => rfl
  | cons i is ih => exact ih

/-- and emits nothing. -/
@[simp] theorem run_process_none (is : List ι) : (process react).run none is = [] := by
  induction is with
  | nil => rfl
  | cons i is ih => exact ih

theorem run_process_cons (s : σ) (i : ι) (is : List ι) :
    (process react).run (some s) (i :: is)
      = (react s i).outcome.elim [] Prod.snd
        ++ (process react).run ((react s i).outcome.bind Prod.fst) is := rfl

/-- A process whose reactions are steps of a machine, if there are any, runs as this
machine until it ends. -/
theorem run_process_prefix {M : Machine σ ι ο}
    (hemit : ∀ s i s' out, (react s i).outcome = some (s', out) → out = M.emit s i)
    (hnext : ∀ s i s' out, (react s i).outcome = some (some s', out) → s' = M.next s i)
    (s : σ) (is : List ι) : (process react).run (some s) is <+: M.run s is := by
  induction is generalizing s with
  | nil => exact List.prefix_refl _
  | cons i is ih =>
    rw [run_process_cons, run_cons]
    cases houtcome : (react s i).outcome with
    | none =>
      rw [Option.bind_none, run_process_none]
      exact List.nil_prefix
    | some step =>
      obtain ⟨s', out⟩ := step
      obtain rfl := hemit s i s' out houtcome
      cases s' with
      | none =>
        -- the last reaction
        rw [Option.bind_some, run_process_none]
        exact (List.prefix_append_right_inj _).mpr List.nil_prefix
      | some s' =>
        obtain rfl := hnext s i s' _ houtcome
        exact (List.prefix_append_right_inj _).mpr (ih _)

/-- What is observed of a process that is there at the end, when what is observed of each
reaction is a matter of the input. -/
theorem filterMap_run_process {π : Type} {obs : ο → Option π} {answer : ι → List π}
    (h : ∀ s i s' out, (react s i).outcome = some (s', out) → out.filterMap obs = answer i)
    {s : Option σ} {is : List ι} (hfinal : ((process react).final s is).isSome) :
    ((process react).run s is).filterMap obs = is.flatMap answer := by
  induction is generalizing s with
  | nil => rfl
  | cons i is ih =>
    change ((process react).final ((process react).next s i) is).isSome at hfinal
    rw [run_cons, List.filterMap_append, List.flatMap_cons, ih hfinal]
    congr 1
    cases hnext : (process react).next s i with
    | none =>
      rw [hnext, final_process_none] at hfinal
      exact absurd hfinal (by simp)
    | some s' =>
      -- it has gone on, so there was a reaction
      obtain ⟨s₀, rfl, hreact⟩ := Option.bind_eq_some_iff.mp hnext
      obtain ⟨⟨s'', out⟩, hout, -⟩ := Option.bind_eq_some_iff.mp hreact
      change ((react s₀ i).outcome.elim [] Prod.snd).filterMap obs = answer i
      rw [hout]
      exact h s₀ i s'' out hout

end Process

/-! ### Memory safety of a run -/

/-- Every reaction of the run is safe. Nothing is asked of a program that has ended. -/
def SafeRun (react : σ → ι → Run (Access P) (Option σ × List ο)) : Option σ → List ι → Prop
  | some s, i :: is => (react s i).Safe ∧ SafeRun react ((react s i).outcome.bind Prod.fst) is
  | some _, [] => True
  | none, _ => True

/-- The program ends by an illegal access only. -/
def Perpetual (react : σ → ι → Run (Access P) (Option σ × List ο)) : Prop :=
  ∀ s i s' out, (react s i).outcome = some (s', out) → s'.isSome

section SafeRun

variable {react : σ → ι → Run (Access P) (Option σ × List ο)}

/-- What a safe reaction of such a program leads to. -/
theorem Perpetual.exists_next (h : Perpetual react) {s : σ} {i : ι} (hsafe : (react s i).Safe) :
    ∃ s' out, (react s i).outcome = some (some s', out) := by
  obtain ⟨⟨s', out⟩, hout⟩ := Option.isSome_iff_exists.mp (Run.isSome_outcome_iff.mpr hsafe)
  obtain ⟨s', rfl⟩ := Option.isSome_iff_exists.mp (h s i s' out hout)
  exact ⟨s', out, hout⟩

/-- **A run is safe if and only if the process can be followed to its end**, when nothing
else ends the program. -/
theorem safeRun_iff_isSome_final (h : Perpetual react) (s : σ) (is : List ι) :
    SafeRun react (some s) is ↔ ((process react).final (some s) is).isSome := by
  induction is generalizing s with
  | nil => exact iff_of_true trivial rfl
  | cons i is ih =>
    change (react s i).Safe ∧ SafeRun react ((react s i).outcome.bind Prod.fst) is ↔
      ((process react).final ((react s i).outcome.bind Prod.fst) is).isSome
    by_cases hsafe : (react s i).Safe
    · obtain ⟨s', out, hout⟩ := h.exists_next hsafe
      rw [hout, Option.bind_some, and_iff_right hsafe]
      exact ih s'
    · -- the process is not followed any further
      rw [Run.outcome_of_not_safe hsafe, Option.bind_none, final_process_none]
      exact iff_of_false (fun hrun => hsafe hrun.1) (by simp)

/-- When it is a matter of the input whether a reaction is safe, a run is safe on safe
inputs. -/
theorem safeRun_iff_forall (h : Perpetual react) {p : ι → Prop}
    (hsafe : ∀ s i, (react s i).Safe ↔ p i) (s : σ) (is : List ι) :
    SafeRun react (some s) is ↔ ∀ i ∈ is, p i := by
  induction is generalizing s with
  | nil => exact iff_of_true trivial fun i hi => absurd hi List.not_mem_nil
  | cons i is ih =>
    rw [List.forall_mem_cons, ← hsafe s i]
    refine and_congr_right fun hi => ?_
    -- a safe reaction leads to a next state, whichever, and the rest is the same there
    obtain ⟨s', out, hout⟩ := h.exists_next hi
    rw [hout, Option.bind_some]
    exact ih s'

/-- A program that follows a machine, and is safe on the outputs that pass a test, is safe
in the runs in which all of them pass. -/
theorem safeRun_iff_run {κ π : Type} {M : Machine σ κ π} {g : ι → κ} {p : π → Prop}
    (hsafe : ∀ s i, (react s i).Safe ↔ ∀ o ∈ M.emit s (g i), p o)
    (hnext : ∀ s i s' out, (react s i).outcome = some (s', out) → s' = some (M.next s (g i)))
    (s : σ) (is : List ι) :
    SafeRun react (some s) is ↔ ∀ o ∈ M.run s (is.map g), p o := by
  induction is generalizing s with
  | nil => exact iff_of_true trivial fun o ho => absurd ho List.not_mem_nil
  | cons i is ih =>
    rw [List.map_cons, run_cons, List.forall_mem_append, ← hsafe]
    refine and_congr_right fun hi => ?_
    obtain ⟨⟨s', out⟩, hout⟩ := Option.isSome_iff_exists.mp (Run.isSome_outcome_iff.mpr hi)
    -- the program is in the machine's state again
    obtain rfl := hnext s i s' out hout
    rw [hout, Option.bind_some]
    exact ih _

end SafeRun

/-! ### Without a state -/

/-- A reaction that emits what `f` returns. -/
def answering (f : ι → Run (Access P) (List ο)) (_ : Unit) (i : ι) :
    Run (Access P) (Option Unit × List ο) := do
  let out ← f i
  pure (some (), out)

/-- The process that emits what `f` returns. -/
def stateless (f : ι → Run (Access P) (List ο)) : Machine (Option Unit) ι ο :=
  process (answering f)

section Stateless

variable {f : ι → Run (Access P) (List ο)}

theorem outcome_answering (u : Unit) (i : ι) :
    (answering f u i).outcome = (f i).outcome.map fun out => (some (), out) := by
  rw [answering, Run.outcome_bind]
  cases (f i).outcome with
  | none => rfl
  | some out => exact Run.outcome_pure _

theorem emit_stateless (u : Unit) (i : ι) :
    (stateless f).emit (some u) i = (f i).outcome.getD [] := by
  change (Run.outcome _).elim [] Prod.snd = _
  rw [outcome_answering]
  cases (f i).outcome with
  | none => rfl
  | some out => rfl

theorem next_stateless (u : Unit) (i : ι) :
    (stateless f).next (some u) i = (f i).outcome.map fun _ => () := by
  change (Run.outcome _).bind Prod.fst = _
  rw [outcome_answering]
  cases (f i).outcome with
  | none => rfl
  | some out => rfl

section Answer

variable (answer : ι → List ο) (h : ∀ i out, (f i).outcome = some out → out = answer i)
include h

/-- It emits no more than the answer, -/
theorem emit_stateless_sublist (st : Option Unit) (i : ι) :
    (stateless f).emit st i <+ answer i := by
  cases st with
  | none => exact List.nil_sublist _
  | some u =>
    rw [emit_stateless]
    -- without an outcome nothing is emitted
    cases hout : (f i).outcome with
    | none => exact List.nil_sublist _
    | some out => exact h i out hout ▸ List.Sublist.refl _

/-- and has emitted all answers if it is there at the end. -/
theorem run_stateless_eq {st : Option Unit} {is : List ι}
    (hfinal : ((stateless f).final st is).isSome) :
    (stateless f).run st is = is.flatMap answer := by
  -- the rule for observed processes, with all of the output observed
  have hobserved : ((stateless f).run st is).filterMap some = is.flatMap answer :=
    filterMap_run_process (fun (_ : Unit) i s' out hout => by
      rw [outcome_answering] at hout
      obtain ⟨out', hout', heq⟩ := Option.map_eq_some_iff.mp hout
      obtain ⟨-, rfl⟩ := Prod.mk.inj heq
      rw [List.filterMap_some]
      exact h i out' hout') hfinal
  rwa [List.filterMap_some] at hobserved

end Answer

theorem answering_safe_iff (u : Unit) (i : ι) : (answering f u i).Safe ↔ (f i).Safe := by
  rw [answering, Run.safe_bind]
  exact and_iff_left fun _ _ => Run.safe_pure _

theorem answering_perpetual : Perpetual (answering f) := by
  intro u i s' out hout
  rw [outcome_answering] at hout
  obtain ⟨out', -, heq⟩ := Option.map_eq_some_iff.mp hout
  obtain ⟨rfl, -⟩ := Prod.mk.inj heq
  rfl

/-- Its runs are safe when it is safe on every input. -/
theorem safeRun_answering_iff (is : List ι) :
    SafeRun (answering f) (some ()) is ↔ ∀ i ∈ is, (f i).Safe :=
  safeRun_iff_forall answering_perpetual answering_safe_iff () is

end Stateless

end Machine
