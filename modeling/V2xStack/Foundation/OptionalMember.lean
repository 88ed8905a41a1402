import Mathlib.Data.Set.Function

/-!
# Optional members

A record format without optional members represents one in either of two ways.

With a flag: a boolean says whether the member is there, and a field behind it has
its value. `Truthful` says that the two tell the truth about a member, and
`flag_map_getD_inj` that such members are told apart.

With a default: an absent member leaves a fixed value in the field. Members are told
apart when the default is no value of a present member (`map_getD_inj_of_ne`). A
default that is the value of a present member stands for that member
(`map_getD_inj_of_eq`).

Both are stated for a field that is assigned through a function which is injective on
the set that the members are taken from; lists are assigned element by element
(`injOn_map`).

A field that is used for one element after the other without being reset shows neither:
it holds the `latest` member (`foldl_getD_eq_latest`).
-/

variable {α β γ : Type}

/-! ### A flag and a field -/

/-- The flag tells whether the member is present, and behind a set flag its value is
held. -/
structure Truthful (flag : Bool) (member : Option α) (held : α → Prop) : Prop where
  flag_iff : flag = true ↔ member.isSome
  held : flag = true → ∀ x, member = some x → held x

section Flag

variable {flag : Bool} {held : α → Prop}

@[simp] theorem truthful_none : Truthful flag none held ↔ flag = false := by
  constructor
  · intro h
    simpa using h.flag_iff
  · rintro rfl
    exact ⟨by simp, fun hset => Bool.noConfusion hset⟩

@[simp] theorem truthful_some {x : α} :
    Truthful flag (some x) held ↔ flag = true ∧ held x := by
  constructor
  · intro h
    have hset : flag = true := h.flag_iff.mpr rfl
    exact ⟨hset, h.held hset x rfl⟩
  · rintro ⟨rfl, hheld⟩
    exact ⟨by simp, fun _ y hy => Option.some.inj hy ▸ hheld⟩

/-- A flag that is assigned from the presence of its member leaves the value to be
checked. -/
theorem truthful_isSome_iff {member : Option α} :
    Truthful member.isSome member held ↔ ∀ x, member = some x → held x := by
  cases member with
  | none => simp
  | some x => simp

/-- A flag that is never set is truthful about an absent member only. -/
theorem truthful_false_iff {member : Option α} :
    Truthful false member held ↔ member = none := by
  cases member with
  | none => simp
  | some x => simp

end Flag

/-! ### A default -/

section Default

variable {S : Set α} {g : α → β} {d : β} {o o' : Option α}

/-- A default that no member is assigned as keeps an absent member apart. -/
theorem map_getD_inj_of_ne (hg : S.InjOn g) (hd : ∀ x ∈ S, g x ≠ d)
    (ho : ∀ x, o = some x → x ∈ S) (ho' : ∀ x, o' = some x → x ∈ S) :
    (o.map g).getD d = (o'.map g).getD d ↔ o = o' := by
  -- an absent member leaves the default, which is the value of no present one
  cases o with
  | none =>
    cases o' with
    | none => simp
    | some y => simpa using (hd y (ho' y rfl)).symm
  | some x =>
    cases o' with
    | none => simpa using hd x (ho x rfl)
    | some y => simpa using hg.eq_iff (ho x rfl) (ho' y rfl)

/-- A default that the member `e` is assigned as stands for `e`. -/
theorem map_getD_inj_of_eq (hg : S.InjOn g) {e : α} (he : e ∈ S) (hd : g e = d)
    (ho : ∀ x, o = some x → x ∈ S) (ho' : ∀ x, o' = some x → x ∈ S) :
    (o.map g).getD d = (o'.map g).getD d ↔ o.getD e = o'.getD e := by
  -- absent or not, the field holds what some member of the set is assigned as
  have hmem : ∀ p : Option α, (∀ x, p = some x → x ∈ S) →
      p.getD e ∈ S ∧ (p.map g).getD d = g (p.getD e) := by
    intro p hp
    cases p with
    | none => exact ⟨he, hd.symm⟩
    | some x => exact ⟨hp x rfl, rfl⟩
  obtain ⟨hmem₁, heq₁⟩ := hmem o ho
  obtain ⟨hmem₂, heq₂⟩ := hmem o' ho'
  rw [heq₁, heq₂, hg.eq_iff hmem₁ hmem₂]

/-- With a flag next to it any default will do: members are told apart as far as the
assignment tells their values apart, which is up to `q`. -/
theorem flag_map_getD_inj_of_iff {q : α → γ} (hg : ∀ x ∈ S, ∀ y ∈ S, g x = g y ↔ q x = q y)
    (ho : ∀ x, o = some x → x ∈ S) (ho' : ∀ x, o' = some x → x ∈ S) :
    (o.isSome = o'.isSome ∧ (o.map g).getD d = (o'.map g).getD d) ↔ o.map q = o'.map q := by
  -- the flag settles the two mixed cases, the value the case of two members
  cases o with
  | none =>
    cases o' with
    | none => simp
    | some y => simp
  | some x =>
    cases o' with
    | none => simp
    | some y => simpa using hg x (ho x rfl) y (ho' y rfl)

/-- An assignment that keeps values apart keeps members apart. -/
theorem flag_map_getD_inj (hg : S.InjOn g) (ho : ∀ x, o = some x → x ∈ S)
    (ho' : ∀ x, o' = some x → x ∈ S) :
    (o.isSome = o'.isSome ∧ (o.map g).getD d = (o'.map g).getD d) ↔ o = o' := by
  have hiff : ∀ x ∈ S, ∀ y ∈ S, g x = g y ↔ id x = id y := fun x hx y hy => hg.eq_iff hx hy
  rw [flag_map_getD_inj_of_iff hiff ho ho', Option.map_id_fun, id, id]

/-- A flag and a field tell the member. -/
theorem isSome_getD_inj {o o' : Option α} {d : α} (hflag : o.isSome = o'.isSome)
    (hvalue : o.getD d = o'.getD d) : o = o' := by
  -- as the flags agree, both are there or both are not
  cases o with
  | none =>
    cases o' with
    | none => rfl
    | some y => exact absurd hflag (by simp)
  | some x =>
    cases o' with
    | none => exact absurd hflag (by simp)
    | some y => exact congrArg some hvalue

end Default

/-! ### Lists -/

/-- Lists are assigned element by element. -/
theorem injOn_map {S : Set α} {g : α → β} (hg : S.InjOn g) :
    Set.InjOn (List.map g) {l | ∀ x ∈ l, x ∈ S} := by
  intro l hl
  induction l with
  | nil =>
    intro l' _ h
    -- only the empty list is mapped to the empty list
    exact (List.map_eq_nil_iff.mp h.symm).symm
  | cons x xs ih =>
    intro l' hl' h
    cases l' with
    | nil => exact absurd h (by simp)
    | cons y ys =>
      have hx := List.forall_mem_cons.mp hl
      have hy := List.forall_mem_cons.mp hl'
      -- the heads are told apart by the function, the tails by induction
      rw [List.map_cons, List.map_cons, List.cons.injEq] at h
      rw [hg hx.1 hy.1 h.1, ih hx.2 hy.2 h.2]

/-! ### A field that is not reset -/

/-- The member of the last element that has one. -/
def latest (f : α → Option β) : List α → Option β
  | [] => none
  | x :: xs => (latest f xs).or (f x)

/-- It is the member of one of them. -/
theorem exists_mem_of_latest {f : α → Option β} {xs : List α} {b : β}
    (h : latest f xs = some b) : ∃ x ∈ xs, f x = some b := by
  induction xs with
  | nil => exact absurd h (by simp [latest])
  | cons x xs ih =>
    rw [latest, Option.or_eq_some_iff] at h
    -- a later element has one, or this is the last that has
    rcases h with hlater | ⟨-, hx⟩
    · obtain ⟨y, hy, hfy⟩ := ih hlater
      exact ⟨y, List.mem_cons_of_mem x hy, hfy⟩
    · exact ⟨x, List.mem_cons_self, hx⟩

/-- A field that is only assigned where there is a member holds the latest one, and what
it held before if there is none. -/
theorem foldl_getD_eq_latest (f : α → Option β) (g : β → γ) (xs : List α) (c : γ) :
    xs.foldl (fun c x => ((f x).map g).getD c) c = ((latest f xs).map g).getD c := by
  induction xs generalizing c with
  | nil => rfl
  | cons x xs ih =>
    rw [List.foldl_cons, ih, latest]
    -- a later member hides what the first element has assigned
    cases latest f xs with
    | none => rfl
    | some b => rfl
