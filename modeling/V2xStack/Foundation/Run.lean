import Mathlib.Data.List.Basic
import Mathlib.Data.List.Forall2

/-!
# Runs that record their memory accesses

A program in a language with raw pointers, arrays and untagged unions, seen as a
computation `Run Acc α`: the accesses it makes, in order, and the value it ends
with. A run that cannot go on (a null pointer was dereferenced) has no value.

Keeping the accesses apart from the value lets one model answer both kinds of
question. An access that breaks the rules of the language, but that a machine
carries out, is recorded and the run goes on with what the machine would find;
whether every access was legal is then a statement about the record.

* `Access` — the three kinds of access that can go wrong: a span of an array, a
  pointer, an alternative of a union.
* `Run.Safe` — every access is legal and a value is returned. `Run.safe_bind`,
  `Run.safe_deref`, `Run.safe_member` and the loop rule `Run.safe_forPush` are
  the rules that take a program apart, and `Run.ifPresent` is a pointer that is
  followed after a null test.
* `Run.AllAccesses` — the same for an arbitrary condition on accesses.
* `Run.outcome` — the value of a run that makes no illegal access. Behind an illegal
  access the language says nothing about a program, and there is no outcome.
* `Run.forPush` — the loop that converts each element and appends the result:
  `Run.result_forPush_eq_some_iff` says what it returns, and `Run.forall₂_forPush`
  is the rule for a relation between elements and results. `Run.pushAll` is the
  same for a conversion without accesses.
-/

/-- An access to memory; `P` names the objects, pointers and alternatives of the
program. -/
inductive Access (P : Type)
  /-- Cells `offset`, …, `offset + length - 1` of an array of `size` cells. -/
  | span (object : P) (offset length size : ℕ)
  /-- A pointer is followed. -/
  | deref (pointer : P) (null : Bool)
  /-- An alternative of a union is read; `selected` when the tag selects it. -/
  | member (alternative : P) (selected : Bool)
  deriving DecidableEq, Repr

/-- An access the language allows. -/
def Access.Legal {P : Type} : Access P → Prop
  | span _ offset length size => offset + length ≤ size
  | deref _ null => null = false
  | member _ selected => selected = true

instance {P : Type} : DecidablePred (@Access.Legal P)
  | .span _ offset length size => inferInstanceAs (Decidable (offset + length ≤ size))
  | .deref _ null => inferInstanceAs (Decidable (null = false))
  | .member _ selected => inferInstanceAs (Decidable (selected = true))

/-- A computation with its record of accesses. -/
structure Run (Acc α : Type) where
  accesses : List Acc
  result : Option α
  deriving DecidableEq, Repr

namespace Run

variable {Acc α β σ : Type}

@[ext] theorem ext {x y : Run Acc α} (ha : x.accesses = y.accesses)
    (hr : x.result = y.result) : x = y := by
  cases x
  cases y
  exact congr (congrArg Run.mk ha) hr

/-- Run `x`, then `f` on its value if it has one. -/
protected def bind (x : Run Acc α) (f : α → Run Acc β) : Run Acc β :=
  match x.result with
  | some a => ⟨x.accesses ++ (f a).accesses, (f a).result⟩
  | none => ⟨x.accesses, none⟩

instance : Monad (Run Acc) where
  pure a := ⟨[], some a⟩
  bind := Run.bind

@[simp] theorem result_pure (a : α) : (pure a : Run Acc α).result = some a := rfl

theorem bind_of_some {x : Run Acc α} {a : α} (h : x.result = some a) (f : α → Run Acc β) :
    x >>= f = ⟨x.accesses ++ (f a).accesses, (f a).result⟩ := by
  change Run.bind x f = _
  rw [Run.bind, h]

theorem bind_of_none {x : Run Acc α} (h : x.result = none) (f : α → Run Acc β) :
    x >>= f = ⟨x.accesses, none⟩ := by
  change Run.bind x f = _
  rw [Run.bind, h]

@[simp] theorem result_bind (x : Run Acc α) (f : α → Run Acc β) :
    (x >>= f).result = x.result.bind fun a => (f a).result := by
  cases h : x.result with
  | some a => rw [bind_of_some h, Option.bind_some]
  | none => rw [bind_of_none h, Option.bind_none]

instance : LawfulMonad (Run Acc) := LawfulMonad.mk' (Run Acc)
  -- in all three laws a first run without a value cuts off the same part
  (by
    intro α x
    change x >>= pure = x
    cases h : x.result with
    | some a =>
      rw [bind_of_some h]
      exact ext (List.append_nil _) h.symm
    | none =>
      rw [bind_of_none h]
      exact ext rfl h.symm)
  (fun a f => bind_of_some rfl f)
  (by
    intro α β γ x f g
    cases h : x.result with
    | none =>
      rw [bind_of_none h, bind_of_none h]
      exact bind_of_none rfl g
    | some a =>
      rw [bind_of_some h, bind_of_some h]
      cases hf : (f a).result with
      | some b =>
        rw [bind_of_some hf]
        exact (bind_of_some rfl g).trans (ext (List.append_assoc _ _ _) rfl)
      | none =>
        rw [bind_of_none hf]
        exact bind_of_none rfl g)

@[simp] theorem result_map (f : α → β) (x : Run Acc α) :
    (f <$> x).result = x.result.map f := by
  rw [map_eq_pure_bind, result_bind]
  cases x.result <;> rfl

/-! ### Conditions on the record -/

/-- Every recorded access satisfies `p`. -/
def AllAccesses (p : Acc → Prop) (x : Run Acc α) : Prop := ∀ a ∈ x.accesses, p a

@[simp] theorem allAccesses_pure (p : Acc → Prop) (a : α) :
    (pure a : Run Acc α).AllAccesses p :=
  fun _ h => absurd h List.not_mem_nil

@[simp] theorem allAccesses_bind (p : Acc → Prop) (x : Run Acc α) (f : α → Run Acc β) :
    (x >>= f).AllAccesses p ↔
      x.AllAccesses p ∧ ∀ a, x.result = some a → (f a).AllAccesses p := by
  unfold AllAccesses
  cases h : x.result with
  | some a => simp [bind_of_some h, List.mem_append, or_imp, forall_and]
  | none => simp [bind_of_none h]

@[simp] theorem allAccesses_map (p : Acc → Prop) (f : α → β) (x : Run Acc α) :
    (f <$> x).AllAccesses p ↔ x.AllAccesses p := by
  rw [map_eq_pure_bind, allAccesses_bind]
  exact and_iff_left fun _ _ => allAccesses_pure p _

/-- A loop satisfies what each of its iterations satisfies. -/
theorem allAccesses_foldlM {p : Acc → Prop} {f : σ → α → Run Acc σ} {xs : List α}
    (h : ∀ x ∈ xs, ∀ s, (f s x).AllAccesses p) (s : σ) : (xs.foldlM f s).AllAccesses p := by
  induction xs generalizing s with
  | nil => exact allAccesses_pure p s
  | cons x xs ih =>
    rw [List.forall_mem_cons] at h
    -- the rest of the loop starts in whatever state the first iteration ends in
    rw [List.foldlM_cons, allAccesses_bind]
    exact ⟨h.1 s, fun s' _ => ih h.2 s'⟩

/-- When the iterations always return, and satisfy `q` on a condition that does not
depend on the state they find, the loop does when the condition holds of every
element. -/
theorem allAccesses_foldlM_iff {q : Acc → Prop} {p : α → Prop} {f : σ → α → Run Acc σ}
    (hreturns : ∀ s x, (f s x).result.isSome) (h : ∀ s x, (f s x).AllAccesses q ↔ p x)
    (xs : List α) (s : σ) : (xs.foldlM f s).AllAccesses q ↔ ∀ x ∈ xs, p x := by
  induction xs generalizing s with
  | nil => simp
  | cons x xs ih =>
    obtain ⟨s', hs'⟩ := Option.isSome_iff_exists.mp (hreturns s x)
    rw [List.foldlM_cons, allAccesses_bind, List.forall_mem_cons, h]
    -- the condition does not depend on the state, so any state will do for the rest
    refine and_congr_right fun _ => ⟨fun hrest => ?_, fun hrest t _ => (ih t).mpr hrest⟩
    exact (ih s').mp (hrest s' hs')

/-! ### The loop that appends -/

/-- Append the image of each element, for a conversion that makes no access. -/
def pushAll (xs : List α) (f : α → β) : List β :=
  xs.foldl (fun acc x => acc ++ [f x]) []

/-- The appended list is the list of the images. -/
@[simp] theorem pushAll_eq_map (xs : List α) (f : α → β) : pushAll xs f = xs.map f := by
  rw [pushAll, List.foldl_append_eq_append, List.nil_append]
  induction xs with
  | nil => rfl
  | cons x xs ih => rw [List.map_cons, List.flatten_cons, ih, List.map_cons, List.singleton_append]

/-- Convert the elements one after the other and append each result. -/
def forPush (xs : List α) (g : α → Run Acc β) : Run Acc (List β) :=
  xs.foldlM (fun acc x => do
    let y ← g x
    pure (acc ++ [y])) []

/-- **The appending loop** returns a list exactly when it has, for each element in
order, what the conversion of that element returns. -/
theorem result_forPush_eq_some_iff {xs : List α} {g : α → Run Acc β} {ys : List β} :
    (forPush xs g).result = some ys ↔
      List.Forall₂ (fun x y => (g x).result = some y) xs ys := by
  -- the loop from any accumulator
  have hloop : ∀ acc zs, (xs.foldlM (fun acc x => do
      let y ← g x
      pure (acc ++ [y])) acc).result = some zs ↔
        ∃ ys, List.Forall₂ (fun x y => (g x).result = some y) xs ys ∧ acc ++ ys = zs := by
    induction xs with
    | nil =>
      intro acc zs
      simp only [List.foldlM_nil, result_pure, Option.some.injEq, List.forall₂_nil_left_iff,
        exists_eq_left, List.append_nil]
    | cons x xs ih =>
      intro acc zs
      rw [List.foldlM_cons, result_bind, result_bind]
      simp only [List.forall₂_cons_left_iff]
      cases hx : (g x).result with
      | none => simp
      | some y =>
        rw [Option.bind_some, result_pure, Option.bind_some, ih]
        constructor
        · rintro ⟨ys, hys, rfl⟩
          exact ⟨y :: ys, ⟨y, ys, rfl, hys, rfl⟩, (List.append_cons acc y ys)⟩
        · rintro ⟨-, ⟨y', ys, hy', hys, rfl⟩, rfl⟩
          obtain rfl : y = y' := Option.some.inj hy'
          exact ⟨ys, hys, (List.append_cons acc y ys).symm⟩
  rw [forPush, hloop]
  simp only [List.nil_append, exists_eq_right]

/-- The images, in order, when each conversion returns the image of its element. -/
theorem result_forPush {xs : List α} {g : α → Run Acc β} {f : α → β}
    (h : ∀ x ∈ xs, (g x).result = some (f x)) : (forPush xs g).result = some (xs.map f) := by
  rw [result_forPush_eq_some_iff, List.forall₂_map_right_iff, List.forall₂_same]
  exact h

/-- **The loop rule.** When each conversion returns something in relation `R` with
its element, the loop returns a list in this relation, element by element. -/
theorem forall₂_forPush {xs : List α} {g : α → Run Acc β} {R : α → β → Prop}
    (h : ∀ x ∈ xs, ∃ y, (g x).result = some y ∧ R x y) :
    ∃ ys, (forPush xs g).result = some ys ∧ List.Forall₂ R xs ys := by
  -- one result for each element, which exists by the hypothesis
  obtain ⟨ys, hys⟩ : ∃ ys, List.Forall₂ (fun x y => (g x).result = some y ∧ R x y) xs ys := by
    induction xs with
    | nil => exact ⟨[], .nil⟩
    | cons x xs ih =>
      rw [List.forall_mem_cons] at h
      obtain ⟨y, hy⟩ := h.1
      obtain ⟨ys, hys⟩ := ih h.2
      exact ⟨y :: ys, .cons hy hys⟩
  exact ⟨ys, result_forPush_eq_some_iff.mpr (hys.imp fun _ _ hxy => hxy.1),
    hys.imp fun _ _ hxy => hxy.2⟩

/-- An entry of the appended list depends on its element alone. -/
theorem getElem?_of_forPush {xs : List α} {g : α → Run Acc β} {ys : List β}
    (h : (forPush xs g).result = some ys) (i : ℕ) :
    ys[i]? = xs[i]?.bind fun x => (g x).result := by
  rw [result_forPush_eq_some_iff] at h
  induction h generalizing i with
  | nil => rfl
  | cons hxy _ ih =>
    -- the entry of the first element, or one behind it
    cases i with
    | zero => exact hxy.symm
    | succ i => exact ih i

/-! ### Safety -/

variable {P : Type}

/-- Every access is legal and a value is returned. -/
structure Safe (x : Run (Access P) α) : Prop where
  legal : x.AllAccesses Access.Legal
  returns : x.result.isSome

@[simp] theorem safe_pure (a : α) : (pure a : Run (Access P) α).Safe :=
  ⟨allAccesses_pure _ a, rfl⟩

@[simp] theorem safe_bind (x : Run (Access P) α) (f : α → Run (Access P) β) :
    (x >>= f).Safe ↔ x.Safe ∧ ∀ a, x.result = some a → (f a).Safe := by
  constructor
  · rintro ⟨hl, hr⟩
    rw [allAccesses_bind] at hl
    rw [result_bind] at hr
    -- a run that returns something has got past `x`
    obtain ⟨a, ha⟩ : ∃ a, x.result = some a := by
      cases hx : x.result with
      | some a => exact ⟨a, rfl⟩
      | none => rw [hx] at hr; exact absurd hr (by simp)
    refine ⟨⟨hl.1, by rw [ha]; rfl⟩, fun b hb => ⟨hl.2 b hb, ?_⟩⟩
    rwa [hb] at hr
  · rintro ⟨hx, hf⟩
    obtain ⟨a, ha⟩ := Option.isSome_iff_exists.mp hx.returns
    refine ⟨(allAccesses_bind _ x f).mpr ⟨hx.legal, fun b hb => (hf b hb).legal⟩, ?_⟩
    rw [result_bind, ha]
    exact (hf a ha).returns

@[simp] theorem safe_map (f : α → β) (x : Run (Access P) α) : (f <$> x).Safe ↔ x.Safe := by
  rw [map_eq_pure_bind, safe_bind]
  exact and_iff_left fun _ _ => safe_pure _

/-- A loop whose iterations are safe on condition `p`, whatever the state they
find, is safe when `p` holds of every element. -/
theorem safe_foldlM {f : σ → α → Run (Access P) σ} {p : α → Prop}
    (h : ∀ s x, (f s x).Safe ↔ p x) (xs : List α) (s : σ) :
    (xs.foldlM f s).Safe ↔ ∀ x ∈ xs, p x := by
  induction xs generalizing s with
  | nil => simp
  | cons x xs ih =>
    rw [List.foldlM_cons, safe_bind, List.forall_mem_cons, h]
    refine and_congr_right fun hx => ⟨fun hrest => ?_, fun hrest s' _ => (ih s').mpr hrest⟩
    -- a safe first iteration returns a state, and the condition does not depend on it
    obtain ⟨s', hs'⟩ := Option.isSome_iff_exists.mp ((h s x).mpr hx).returns
    exact (ih s').mp (hrest s' hs')

/-- **The appending loop** is safe exactly when each conversion is. -/
@[simp] theorem safe_forPush (xs : List α) (g : α → Run (Access P) β) :
    (forPush xs g).Safe ↔ ∀ x ∈ xs, (g x).Safe := by
  refine safe_foldlM (fun acc x => ?_) xs []
  -- appending to the accumulator makes no access
  rw [safe_bind]
  exact and_iff_left fun _ _ => safe_pure _

/-! ### The outcome -/

instance (p : Access P → Prop) [DecidablePred p] (x : Run (Access P) α) :
    Decidable (x.AllAccesses p) :=
  inferInstanceAs (Decidable (∀ a ∈ x.accesses, p a))

/-- The value of a run that makes no illegal access. -/
def outcome (x : Run (Access P) α) : Option α :=
  if x.AllAccesses Access.Legal then x.result else none

theorem outcome_eq_some_iff {x : Run (Access P) α} {a : α} :
    x.outcome = some a ↔ x.AllAccesses Access.Legal ∧ x.result = some a := by
  unfold outcome
  split
  · next h => exact (and_iff_right h).symm
  · next h => exact iff_of_false (by simp) fun hx => h hx.1

theorem isSome_outcome_iff {x : Run (Access P) α} : x.outcome.isSome ↔ x.Safe := by
  -- an outcome is a result, and it is there only when all accesses are legal
  rw [Option.isSome_iff_exists]
  constructor
  · rintro ⟨a, ha⟩
    obtain ⟨hlegal, hresult⟩ := outcome_eq_some_iff.mp ha
    exact ⟨hlegal, by rw [hresult]; rfl⟩
  · intro h
    obtain ⟨a, ha⟩ := Option.isSome_iff_exists.mp h.returns
    exact ⟨a, outcome_eq_some_iff.mpr ⟨h.legal, ha⟩⟩

theorem outcome_of_safe {x : Run (Access P) α} (h : x.Safe) : x.outcome = x.result :=
  if_pos h.legal

theorem outcome_of_not_safe {x : Run (Access P) α} (h : ¬x.Safe) : x.outcome = none := by
  rwa [← Option.not_isSome_iff_eq_none, isSome_outcome_iff]

@[simp] theorem outcome_pure (a : α) : (pure a : Run (Access P) α).outcome = some a :=
  outcome_of_safe (safe_pure a)

theorem outcome_bind (x : Run (Access P) α) (f : α → Run (Access P) β) :
    (x >>= f).outcome = x.outcome.bind fun a => (f a).outcome := by
  ext b
  rw [outcome_eq_some_iff, allAccesses_bind, result_bind, Option.bind_eq_some_iff,
    Option.bind_eq_some_iff]
  constructor
  · rintro ⟨⟨hx, hf⟩, a, ha, hb⟩
    exact ⟨a, outcome_eq_some_iff.mpr ⟨hx, ha⟩, outcome_eq_some_iff.mpr ⟨hf a ha, hb⟩⟩
  · rintro ⟨a, ha, hb⟩
    obtain ⟨hx, ha⟩ := outcome_eq_some_iff.mp ha
    obtain ⟨hf, hb⟩ := outcome_eq_some_iff.mp hb
    -- a run has one result at most
    refine ⟨⟨hx, fun a' ha' => ?_⟩, a, ha, hb⟩
    obtain rfl := Option.some.inj (ha.symm.trans ha')
    exact hf

/-! ### The accesses -/

/-- Touch cells of an array, inside it or not. -/
def span (object : P) (offset length size : ℕ) : Run (Access P) Unit :=
  ⟨[.span object offset length size], some ()⟩

/-- Follow a pointer, `none` being null. -/
def deref (pointer : P) (target : Option α) : Run (Access P) α :=
  ⟨[.deref pointer target.isNone], target⟩

/-- Read an alternative of a union: `view` is what its bytes denote when read as
that alternative. -/
def member (alternative : P) (selected : Bool) (view : α) : Run (Access P) α :=
  ⟨[.member alternative selected], some view⟩

/-- Read one cell of an array. Outside the array there is no value to go on
with. -/
def index (object : P) (xs : List α) (i : ℕ) : Run (Access P) α :=
  ⟨[.span object i 1 xs.length], xs[i]?⟩

section Rules

variable (q : Access P → Prop) (name : P)

@[simp] theorem result_span (offset length size : ℕ) :
    (span name offset length size).result = some () := rfl

@[simp] theorem result_deref (target : Option α) : (deref name target).result = target := rfl

@[simp] theorem result_index (xs : List α) (i : ℕ) : (index name xs i).result = xs[i]? := rfl

@[simp] theorem allAccesses_span (offset length size : ℕ) :
    (span name offset length size).AllAccesses q ↔ q (.span name offset length size) :=
  List.forall_mem_singleton

@[simp] theorem allAccesses_deref (target : Option α) :
    (deref name target).AllAccesses q ↔ q (.deref name target.isNone) :=
  List.forall_mem_singleton

@[simp] theorem allAccesses_member (selected : Bool) (view : α) :
    (member name selected view).AllAccesses q ↔ q (.member name selected) :=
  List.forall_mem_singleton

@[simp] theorem allAccesses_index (xs : List α) (i : ℕ) :
    (index name xs i).AllAccesses q ↔ q (.span name i 1 xs.length) :=
  List.forall_mem_singleton

@[simp] theorem safe_span (offset length size : ℕ) :
    (span name offset length size).Safe ↔ offset + length ≤ size :=
  ⟨fun h => (allAccesses_span _ name offset length size).mp h.legal,
    fun h => ⟨(allAccesses_span _ name offset length size).mpr h, rfl⟩⟩

@[simp] theorem safe_deref (target : Option α) :
    (deref name target).Safe ↔ target.isSome := by
  refine ⟨fun h => h.returns, fun h => ⟨?_, h⟩⟩
  rw [allAccesses_deref]
  cases target with
  | some a => rfl
  | none => exact absurd h (by simp)

@[simp] theorem safe_member (selected : Bool) (view : α) :
    (member name selected view).Safe ↔ selected = true :=
  ⟨fun h => (allAccesses_member _ name selected view).mp h.legal,
    fun h => ⟨(allAccesses_member _ name selected view).mpr h, rfl⟩⟩

@[simp] theorem safe_index (xs : List α) (i : ℕ) : (index name xs i).Safe ↔ i < xs.length := by
  constructor
  · intro h
    exact (allAccesses_index _ name xs i).mp h.legal
  · intro h
    exact ⟨(allAccesses_index _ name xs i).mpr h, by simp [h]⟩

end Rules

/-! ### Guarded pointers -/

/-- Follow a pointer after a null test: `if (p) { … *p … } else { … }`. -/
def ifPresent (pointer : P) (target : Option α) (present : α → Run (Access P) β)
    (absent : Run (Access P) β) : Run (Access P) β :=
  if target.isSome then do
    let a ← deref pointer target
    present a
  else
    absent

section Guarded

variable (name : P) (present : α → Run (Access P) β) (absent : Run (Access P) β)

@[simp] theorem ifPresent_none : ifPresent name none present absent = absent := rfl

@[simp] theorem result_ifPresent_some (a : α) :
    (ifPresent name (some a) present absent).result = (present a).result := by
  rw [ifPresent, if_pos (Option.isSome_some), result_bind]
  rfl

/-- A guarded pointer is followed only when it is not null. -/
theorem allAccesses_ifPresent {q : Access P → Prop} (hq : q (.deref name false))
    (target : Option α) :
    (ifPresent name target present absent).AllAccesses q ↔
      (∀ a, target = some a → (present a).AllAccesses q) ∧
        (target = none → absent.AllAccesses q) := by
  -- the test keeps the null pointer from being followed
  cases target with
  | none => simp
  | some a => simp [ifPresent, hq]

/-- The assignment of an optional member satisfies what a tested pointer does. -/
theorem allAccesses_ifPresent_pure {q : Access P → Prop} (hq : q (.deref name false))
    (f : α → β) (b : β) (target : Option α) :
    (ifPresent name target (fun a => pure (f a)) (pure b)).AllAccesses q := by
  rw [allAccesses_ifPresent _ _ _ hq]
  exact ⟨fun _ _ => allAccesses_pure q _, fun _ => allAccesses_pure q _⟩

@[simp] theorem safe_ifPresent (target : Option α) :
    (ifPresent name target present absent).Safe ↔
      (∀ a, target = some a → (present a).Safe) ∧ (target = none → absent.Safe) := by
  cases target with
  | none => simp
  | some a => simp [ifPresent]

/-- And is safe. -/
@[simp] theorem safe_ifPresent_pure (f : α → β) (b : β) (target : Option α) :
    (ifPresent name target (fun a => pure (f a)) (pure b)).Safe := by
  rw [safe_ifPresent]
  exact ⟨fun _ _ => safe_pure _, fun _ => safe_pure _⟩

end Guarded

end Run
