import V2xStack.Foundation.Network

/-!
# Runs that look the same

Noninterference by a relation on states. `Machine.Respects` says that related states react
to related inputs by related outputs and stay related; `Machine.Hides` that some inputs
emit nothing and keep a state where it is, up to the relation. Then two runs emit related
outputs if their inputs are related once the hidden ones are left out (`Aligned`,
`Machine.Respects.run`).

Both properties pass from the parts of a network to the network
(`Network.respects_emitted`, `Network.hides_emitted`): the messages on the way are related, and a
step that makes the producer read a hidden input is hidden. What a consumer emits is a
machine again, so the two can be used for networks in a row.
-/

open scoped List

variable {α ι κ σ τ ε ο : Type}

/-- Two lists are related element by element, but for hidden elements. -/
inductive Aligned (I : ι → ι → Prop) (hidden : ι → Prop) : List ι → List ι → Prop
  | nil : Aligned I hidden [] []
  | both {i i' : ι} {is is' : List ι} : I i i' → Aligned I hidden is is' →
      Aligned I hidden (i :: is) (i' :: is')
  | left {i : ι} {is is' : List ι} : hidden i → Aligned I hidden is is' →
      Aligned I hidden (i :: is) is'
  | right {i : ι} {is is' : List ι} : hidden i → Aligned I hidden is is' →
      Aligned I hidden is (i :: is')

/-- Lists with the same visible elements are aligned. -/
theorem aligned_of_filter {I : ι → ι → Prop} {visible : ι → Bool} {hidden : ι → Prop}
    {is is' : List ι} (hhidden : ∀ i, visible i = false → hidden i)
    (hI : ∀ i ∈ is, visible i = true → I i i) (h : is.filter visible = is'.filter visible) :
    Aligned I hidden is is' := by
  induction is generalizing is' with
  | nil =>
    induction is' with
    | nil => exact Aligned.nil
    | cons i' is' ih =>
      have hnil := List.filter_eq_nil_iff.mp h.symm
      have hrest : [].filter visible = is'.filter visible :=
        (List.filter_eq_nil_iff.mpr fun j hj => hnil j (List.mem_cons_of_mem i' hj)).symm
      have hi' : visible i' = false := by simpa using hnil i' List.mem_cons_self
      exact Aligned.right (hhidden i' hi') (ih hrest)
  | cons i is ih =>
    rw [List.forall_mem_cons] at hI
    cases hi : visible i with
    | false =>
      rw [List.filter_cons_of_neg (by simp [hi])] at h
      exact Aligned.left (hhidden i hi) (ih hI.2 h)
    | true =>
      rw [List.filter_cons_of_pos hi] at h
      -- the same element comes next on the other side, behind hidden ones
      induction is' with
      | nil => exact absurd h (by simp)
      | cons i' is' ih' =>
        cases hi' : visible i' with
        | false =>
          rw [List.filter_cons_of_neg (by simp [hi'])] at h
          exact Aligned.right (hhidden i' hi') (ih' h)
        | true =>
          rw [List.filter_cons_of_pos hi'] at h
          obtain ⟨rfl, hrest⟩ := List.cons.inj h
          exact Aligned.both (hI.1 hi) (ih hI.2 hrest)

namespace Machine

variable {M : Machine σ ι ο} {S : σ → σ → Prop} {I : ι → ι → Prop} {O : ο → ο → Prop}
  {hidden : ι → Prop}

variable (M S I O) in
/-- Related states react to related inputs by related outputs, and stay related. -/
def Respects : Prop :=
  ∀ s s' i i', S s s' → I i i' →
    List.Forall₂ O (M.emit s i) (M.emit s' i') ∧ S (M.next s i) (M.next s' i')

variable (M S hidden) in
/-- Hidden inputs emit nothing, and do not take a state away from its related ones. -/
structure Hides : Prop where
  silent : ∀ s i, hidden i → M.emit s i = []
  left : ∀ s s' i, hidden i → S s s' → S (M.next s i) s'
  right : ∀ s s' i, hidden i → S s s' → S s (M.next s' i)

/-- **Two runs.** -/
theorem Respects.run (hM : M.Respects S I O) (hhidden : M.Hides S hidden) {is is' : List ι}
    (h : Aligned I hidden is is') {s s' : σ} (hs : S s s') :
    List.Forall₂ O (M.run s is) (M.run s' is') ∧ S (M.final s is) (M.final s' is') := by
  induction h generalizing s s' with
  | nil => exact ⟨List.Forall₂.nil, hs⟩
  | both hi _ ih =>
    obtain ⟨hemit, hnext⟩ := hM s s' _ _ hs hi
    obtain ⟨hrun, hfinal⟩ := ih hnext
    exact ⟨List.rel_append hemit hrun, hfinal⟩
  | left hi _ ih =>
    -- a hidden input on one side: nothing is emitted, and the states stay related
    rw [run_cons, hhidden.silent _ _ hi]
    exact ih (hhidden.left _ _ _ hi hs)
  | right hi _ ih =>
    rw [run_cons, hhidden.silent _ _ hi]
    -- the same on the other side
    exact ih (hhidden.right _ _ _ hi hs)

/-- Without hidden inputs. -/
theorem Respects.run_forall₂ (hM : M.Respects S I O) {is is' : List ι}
    (h : List.Forall₂ I is is') {s s' : σ} (hs : S s s') :
    List.Forall₂ O (M.run s is) (M.run s' is') ∧ S (M.final s is) (M.final s' is') := by
  induction h generalizing s s' with
  | nil => exact ⟨List.Forall₂.nil, hs⟩
  | cons hi _ ih =>
    -- one step on both sides at a time
    obtain ⟨hemit, hnext⟩ := hM s s' _ _ hs hi
    obtain ⟨hrun, hfinal⟩ := ih hnext
    exact ⟨List.rel_append hemit hrun, hfinal⟩

end Machine

/-! ### Links -/

namespace Link

variable {M : Machine τ (ι × ε) ο} {S : τ → τ → Prop} {I : ι → ι → Prop}
  {O : ο → ο → Prop}

variable (S I) in
/-- Related messages are on their way to related nodes. -/
structure Rel (st st' : State τ ι) : Prop where
  pending : List.Forall₂ I st.pending st'.pending
  node : S st.node st'.node

variable (I) in
/-- Related messages arrive, or the same happens. -/
inductive ActionRel : Action ι ε → Action ι ε → Prop
  | push {xs ys : List ι} : List.Forall₂ I xs ys → ActionRel (.push xs) (.push ys)
  | take (e : ε) : ActionRel (.take e) (.take e)
  | lose (i : ℕ) : ActionRel (.lose i) (.lose i)

theorem forall₂_eraseIdx {xs ys : List ι} (h : List.Forall₂ I xs ys) (i : ℕ) :
    List.Forall₂ I (xs.eraseIdx i) (ys.eraseIdx i) := by
  induction h generalizing i with
  | nil => exact List.Forall₂.nil
  | cons hxy h ih =>
    -- the partner stands at the same index
    cases i with
    | zero => exact h
    | succ i => exact List.Forall₂.cons hxy (ih i)

/-- A node that respects relations does so behind a link. -/
theorem respects_emitted
    (hM : M.Respects S (fun i i' => I i.1 i'.1 ∧ i.2 = i'.2) O) :
    (emitted M : Machine (State τ ι) (Action ι ε) ο).Respects (Rel S I) (ActionRel I) O := by
  rintro ⟨xs, node⟩ ⟨xs', node'⟩ a a' ⟨hpending, hnode⟩ ha
  cases ha with
  | push hxs => exact ⟨List.Forall₂.nil, List.rel_append hpending hxs, hnode⟩
  | lose i => exact ⟨List.Forall₂.nil, forall₂_eraseIdx hpending i, hnode⟩
  | take e =>
    cases hpending with
    | nil => exact ⟨List.Forall₂.nil, List.Forall₂.nil, hnode⟩
    | @cons x x' rest rest' hx hrest =>
      -- the oldest messages are related, and so is what is behind them
      obtain ⟨hout, hnext⟩ := hM _ _ (x, e) (x', e) hnode ⟨hx, rfl⟩
      refine ⟨?_, hrest, hnext⟩
      change List.Forall₂ O (M.emit node (x, e) ++ []) (M.emit node' (x', e) ++ [])
      rw [List.append_nil, List.append_nil]
      exact hout

end Link

/-! ### Networks -/

namespace Network

variable {C : Type} [DecidableEq C] {τ ε ο : C → Type} {N : Network C σ κ ι τ ε ο}
  {P : σ → σ → Prop} {K : κ → κ → Prop} {I : ι → ι → Prop} {hidden : κ → Prop} {s : C}
  {S : τ s → τ s → Prop} {O : ο s → ο s → Prop}

variable (P I S) in
/-- The producers are related, and the links of one consumer. -/
structure Rel (st st' : N.State) : Prop where
  producer : P st.producer st'.producer
  link : Link.Rel S I (st.link s) (st'.link s)

variable (K) in
/-- The producers read related inputs, or the same happens. -/
inductive ActionRel : Action C κ ε → Action C κ ε → Prop
  | produce {k k' : κ} : K k k' → ActionRel (.produce k) (.produce k')
  | take (t : C) (e : ε t) : ActionRel (.take t e) (.take t e)
  | lose (t : C) (i : ℕ) : ActionRel (.lose t i) (.lose t i)

variable (hidden) in
/-- The producer reads a hidden input. -/
def Action.Hidden : Action C κ ε → Prop
  | produce k => hidden k
  | take _ _ => False
  | lose _ _ => False

theorem linkAction_rel (hP : N.producer.Respects P K I) {p p' : σ} (hp : P p p')
    {a a' : Action C κ ε} (ha : ActionRel K a a') :
    List.Forall₂ (Link.ActionRel I) (N.linkAction s p a).toList
      (N.linkAction s p' a').toList := by
  -- related steps are of the same kind, and concern the same link
  cases ha with
  | produce hk =>
    exact List.Forall₂.cons (Link.ActionRel.push (hP p p' _ _ hp hk).1) List.Forall₂.nil
  | take t e =>
    rw [linkAction, linkAction]
    split
    · exact List.Forall₂.cons (Link.ActionRel.take _) List.Forall₂.nil
    · exact List.Forall₂.nil
  | lose t i =>
    rw [linkAction, linkAction]
    split
    · exact List.Forall₂.cons (Link.ActionRel.lose i) List.Forall₂.nil
    · exact List.Forall₂.nil

omit [DecidableEq C] in
theorem input?_rel {a a' : Action C κ ε} (ha : ActionRel K a a') :
    List.Forall₂ K a.input?.toList a'.input?.toList := by
  cases ha with
  | produce hk => exact List.Forall₂.cons hk List.Forall₂.nil
  | take t e => exact List.Forall₂.nil
  | lose t i => exact List.Forall₂.nil

/-- **A network respects what its parts respect.** -/
theorem respects_emitted (hP : N.producer.Respects P K I)
    (hS : (N.consumer s).Respects S (fun i i' => I i.1 i'.1 ∧ i.2 = i'.2) O) :
    (N.emitted s).Respects (Rel P I S) (ActionRel K) O := by
  intro st st' a a' hst ha
  -- the link sees related actions, the producer related inputs
  obtain ⟨hemit, hlink⟩ := (Link.respects_emitted hS).run_forall₂
    (linkAction_rel hP hst.producer ha) hst.link
  obtain ⟨-, hproducer⟩ := hP.run_forall₂ (input?_rel ha) hst.producer
  exact ⟨hemit, hproducer, hlink⟩

/-- **A network hides what its producer hides.** -/
theorem hides_emitted (hP : N.producer.Hides P hidden) :
    (N.emitted s).Hides (Rel P I S) (Action.Hidden hidden) where
  silent st a ha := by
    cases a with
    | produce k => rfl
    | take t e => exact ha.elim
    | lose t i => exact ha.elim
  left st st' a ha hst := by
    cases a with
    | produce k =>
      -- the push that goes with the step is empty
      refine ⟨hP.left _ _ k ha hst.producer, ?_, hst.link.node⟩
      change List.Forall₂ I ((st.link s).pending ++ N.producer.emit st.producer k) _
      rw [hP.silent _ k ha, List.append_nil]
      exact hst.link.pending
    | take t e => exact ha.elim
    | lose t i => exact ha.elim
  right st st' a ha hst := by
    cases a with
    | produce k =>
      refine ⟨hP.right _ _ k ha hst.producer, ?_, hst.link.node⟩
      change List.Forall₂ I _ ((st'.link s).pending ++ N.producer.emit st'.producer k)
      rw [hP.silent _ k ha, List.append_nil]
      exact hst.link.pending
    | take t e => exact ha.elim
    | lose t i => exact ha.elim

end Network
