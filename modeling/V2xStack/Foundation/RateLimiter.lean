import Mathlib.Algebra.Order.Group.Defs
import Mathlib.Algebra.Order.Group.Unbundled.Basic
import V2xStack.Foundation.Machine

/-!
# Rate limiters

A limiter is asked to grant demands, one after the other. Each demand has a time
and a cooldown, and an eligible one is granted when at least the cooldown has
passed since the last grant. Times are the elements of an ordered group, and they
need not increase.

* `RateLimiter.ideal` knows whether there was a grant: its state is the time of the
  last one, if any.
* `RateLimiter.stamped` has a time in any case. Before the first grant it holds the
  time it was started with, and takes it for the time of a grant.

Spacing (`stamped_spacing`) holds of both: between any two grants there is the
cooldown of the later one, because the state is at least the time of every earlier
grant. That nothing is refused without a recent grant, `LosesNothing`, always holds
of the ideal limiter (`ideal_losesNothing`). The stamped one behaves like it once
something was granted, so it loses nothing exactly when the first eligible demand
gets past the initial time (`stamped_losesNothing_iff`).
-/

/-- A demand on a limiter; one that is not eligible is refused in any case. -/
structure Demand (T : Type) where
  time : T
  cooldown : T
  eligible : Bool
  deriving DecidableEq, Repr

namespace RateLimiter

variable {T σ : Type} [AddCommGroup T] [LinearOrder T]

/-! ### The two limiters -/

/-- The demand is granted when the last grant was at `last`. -/
def GrantedAfter (last : T) (d : Demand T) : Prop :=
  d.eligible = true ∧ d.cooldown ≤ d.time - last

instance (last : T) : DecidablePred (GrantedAfter last) :=
  fun _ => inferInstanceAs (Decidable (_ ∧ _))

/-- The limiter with a time stamp. -/
def stamped : Machine T (Demand T) T where
  next last d := if GrantedAfter last d then d.time else last
  emit last d := if GrantedAfter last d then [d.time] else []

/-- The demand is granted when the last grant, if any, was at `last`. -/
def Granted : Option T → Demand T → Prop
  | none, d => d.eligible = true
  | some last, d => GrantedAfter last d

instance : ∀ last : Option T, DecidablePred (Granted last)
  | none, d => inferInstanceAs (Decidable (d.eligible = true))
  | some last, d => inferInstanceAs (Decidable (GrantedAfter last d))

/-- The limiter that knows whether there was a grant. -/
def ideal : Machine (Option T) (Demand T) T where
  next last d := if Granted last d then some d.time else last
  emit last d := if Granted last d then [d.time] else []

theorem stamped_emit_ne_nil {last : T} {d : Demand T} :
    stamped.emit last d ≠ [] ↔ GrantedAfter last d := by
  unfold stamped
  by_cases h : GrantedAfter last d
  · simp [h]
  · simp [h]

theorem ideal_emit_ne_nil {last : Option T} {d : Demand T} :
    ideal.emit last d ≠ [] ↔ Granted last d := by
  unfold ideal
  by_cases h : Granted last d
  · simp [h]
  · simp [h]

theorem stamped_next_of_granted {last : T} {d : Demand T} (h : GrantedAfter last d) :
    stamped.next last d = d.time := if_pos h

theorem stamped_next_of_not_granted {last : T} {d : Demand T} (h : ¬GrantedAfter last d) :
    stamped.next last d = last := if_neg h

/-! ### Spacing -/

section Spacing

variable [IsOrderedAddMonoid T] {ds : List (Demand T)}

/-- The stamp never goes back, -/
theorem le_stamped_next {d : Demand T} (h : 0 ≤ d.cooldown) (last : T) :
    last ≤ stamped.next last d := by
  by_cases hg : GrantedAfter last d
  · rw [stamped_next_of_granted hg]
    exact sub_nonneg.mp (h.trans hg.2)
  · rw [stamped_next_of_not_granted hg]

theorem le_stamped_final (h : ∀ d ∈ ds, 0 ≤ d.cooldown) (last : T) :
    last ≤ stamped.final last ds := by
  induction ds generalizing last with
  | nil => exact le_rfl
  | cons d ds ih =>
    rw [List.forall_mem_cons] at h
    exact (le_stamped_next h.1 last).trans (ih h.2 _)

/-- so it is at least the time of every earlier grant. -/
theorem time_le_stamped_final (h : ∀ d ∈ ds, 0 ≤ d.cooldown) {last : T} {i k : ℕ}
    {d : Demand T} (hi : ds[i]? = some d) (hgrant : stamped.EmitsAt last ds i) (hik : i < k) :
    d.time ≤ stamped.final last (ds.take k) := by
  have hstep : stamped.final last (ds.take (i + 1)) = d.time := by
    obtain ⟨d', hd', hemit⟩ := hgrant
    obtain rfl : d = d' := Option.some.inj (hi.symm.trans hd')
    rw [stamped.final_take_succ hi, stamped_next_of_granted (stamped_emit_ne_nil.mp hemit)]
  -- the demands between the grant and step `k`
  obtain ⟨n, rfl⟩ := Nat.exists_eq_add_of_le hik
  rw [List.take_add, stamped.final_append, hstep]
  exact le_stamped_final (fun d hd => h d (List.mem_of_mem_drop (List.mem_of_mem_take hd))) _

/-- **Spacing.** Between any two grants there is the cooldown of the later one. -/
theorem stamped_spacing (h : ∀ d ∈ ds, 0 ≤ d.cooldown) {last : T} {i j : ℕ} {d d' : Demand T}
    (hij : i < j) (hi : ds[i]? = some d) (hj : ds[j]? = some d')
    (hgranti : stamped.EmitsAt last ds i) (hgrantj : stamped.EmitsAt last ds j) :
    d'.cooldown ≤ d'.time - d.time := by
  obtain ⟨e, he, hemit⟩ := hgrantj
  obtain rfl : d' = e := Option.some.inj (hj.symm.trans he)
  -- the stamp that the second grant is measured against is not before the first grant
  calc d'.cooldown
      ≤ d'.time - stamped.final last (ds.take j) := (stamped_emit_ne_nil.mp hemit).2
    _ ≤ d'.time - d.time := sub_le_sub_left (time_le_stamped_final h hi hgranti hij) _

end Spacing

/-! ### Counting -/

section Counting

variable {ds : List (Demand T)} {c : T}

/-- Granted times are demanded ones. -/
theorem mem_of_mem_stamped_run {last t : T} (ht : t ∈ stamped.run last ds) :
    ∃ d ∈ ds, d.time = t := by
  induction ds generalizing last with
  | nil => exact absurd ht List.not_mem_nil
  | cons d ds ih =>
    rw [Machine.run_cons, List.mem_append] at ht
    -- the stamp of this demand, or a later one
    rcases ht with hfirst | hlater
    · have hg : GrantedAfter last d := stamped_emit_ne_nil.mp (List.ne_nil_of_mem hfirst)
      have hemit : stamped.emit last d = [d.time] := if_pos hg
      rw [hemit, List.mem_singleton] at hfirst
      exact ⟨d, List.mem_cons_self, hfirst.symm⟩
    · obtain ⟨d', hd', htime⟩ := ih hlater
      exact ⟨d', List.mem_cons_of_mem d hd', htime⟩

variable [IsOrderedAddMonoid T]

/-- What is granted is at least the smallest cooldown behind the stamp, -/
theorem le_sub_of_mem_stamped_run (hc : 0 ≤ c) (h : ∀ d ∈ ds, c ≤ d.cooldown) {last t : T}
    (ht : t ∈ stamped.run last ds) : c ≤ t - last := by
  induction ds generalizing last with
  | nil => exact absurd ht List.not_mem_nil
  | cons d ds ih =>
    rw [List.forall_mem_cons] at h
    rw [Machine.run_cons, List.mem_append] at ht
    by_cases hg : GrantedAfter last d
    · have hd : c ≤ d.time - last := h.1.trans hg.2
      rcases ht with hfirst | hlater
      · have hemit : stamped.emit last d = [d.time] := if_pos hg
        rw [hemit, List.mem_singleton] at hfirst
        rwa [hfirst]
      · -- the stamp has moved to the granted time, which is not before it
        rw [stamped_next_of_granted hg] at hlater
        calc c ≤ t - d.time := ih h.2 hlater
          _ ≤ t - last := sub_le_sub_left (sub_nonneg.mp (hc.trans hd)) t
    · have hemit : stamped.emit last d = [] := if_neg hg
      rw [hemit, stamped_next_of_not_granted hg] at ht
      exact ih h.2 (ht.resolve_left List.not_mem_nil)

/-- and all grants are apart by it. -/
theorem stamped_run_pairwise (hc : 0 ≤ c) (h : ∀ d ∈ ds, c ≤ d.cooldown) (last : T) :
    (stamped.run last ds).Pairwise fun t t' => c ≤ t' - t := by
  induction ds generalizing last with
  | nil => exact List.Pairwise.nil
  | cons d ds ih =>
    rw [List.forall_mem_cons] at h
    rw [Machine.run_cons]
    -- a granted demand sets the stamp from which the later ones keep their distance
    by_cases hg : GrantedAfter last d
    · have hemit : stamped.emit last d = [d.time] := if_pos hg
      rw [hemit, stamped_next_of_granted hg]
      exact List.pairwise_cons.mpr
        ⟨fun t ht => le_sub_of_mem_stamped_run hc h.2 ht, ih h.2 d.time⟩
    · have hemit : stamped.emit last d = [] := if_neg hg
      rw [hemit, stamped_next_of_not_granted hg]
      exact ih h.2 last

/-- Times that are apart by `c` fill an interval. -/
theorem length_nsmul_le_of_pairwise {a b : T} {ts : List T}
    (hapart : ts.Pairwise fun t t' => c ≤ t' - t) (hts : ∀ t ∈ ts, a ≤ t ∧ t ≤ b)
    (hab : a ≤ b + c) : ts.length • c ≤ b - a + c := by
  induction ts generalizing a with
  | nil =>
    rw [List.length_nil, zero_nsmul, sub_add_eq_add_sub]
    exact sub_nonneg.mpr hab
  | cons t ts ih =>
    obtain ⟨hfirst, hrest⟩ := List.pairwise_cons.mp hapart
    rw [List.forall_mem_cons] at hts
    -- the others lie between `t + c` and `b`
    have hcount : ts.length • c ≤ b - (t + c) + c := by
      refine ih hrest (fun t' ht' => ⟨?_, (hts.2 t' ht').2⟩) (add_le_add_left hts.1.2 c)
      exact (add_comm c t) ▸ le_sub_iff_add_le.mp (hfirst t' ht')
    calc (t :: ts).length • c
        = ts.length • c + c := by rw [List.length_cons, succ_nsmul]
      _ ≤ b - (t + c) + c + c := add_le_add_left hcount c
      _ = b - t + c := by rw [← sub_sub, sub_add_cancel]
      _ ≤ b - a + c := add_le_add_left (sub_le_sub_left hts.1.1 b) c

/-- **Rate.** In a run with times between `a` and `b` the limiter grants, with cooldowns of
at least `c`, no more than one demand for each `c` that has passed, and one. -/
theorem stamped_length_nsmul_le {a b : T} (hc : 0 ≤ c)
    (h : ∀ d ∈ ds, c ≤ d.cooldown ∧ a ≤ d.time ∧ d.time ≤ b) (hab : a ≤ b) (last : T) :
    (stamped.run last ds).length • c ≤ b - a + c := by
  have hapart := stamped_run_pairwise hc (fun d hd => (h d hd).1) last
  refine length_nsmul_le_of_pairwise hapart (fun t ht => ?_) (hab.trans (le_add_of_nonneg_right hc))
  obtain ⟨d, hd, rfl⟩ := mem_of_mem_stamped_run ht
  exact (h d hd).2

end Counting

/-! ### Loss -/

/-- An eligible demand is refused only when a demand was granted less than its
cooldown before it. -/
def LosesNothing (M : Machine σ (Demand T) T) (s : σ) (ds : List (Demand T)) : Prop :=
  ∀ k d, ds[k]? = some d → d.eligible = true → ¬M.EmitsAt s ds k →
    ∃ j d', j < k ∧ ds[j]? = some d' ∧ M.EmitsAt s ds j ∧ d.time - d'.time < d.cooldown

section Loss

variable {ds : List (Demand T)}

/-- The time in the state of the ideal limiter is the one of a grant, or was there
before. -/
theorem ideal_final_eq_some {last : Option T} {t : T} (h : ideal.final last ds = some t) :
    last = some t ∨ ∃ j d, ds[j]? = some d ∧ ideal.EmitsAt last ds j ∧ d.time = t := by
  induction ds generalizing last with
  | nil => exact Or.inl h
  | cons d ds ih =>
    rcases ih h with hnext | ⟨j, d', hj, hgrant, htime⟩
    · by_cases hg : Granted last d
      · -- the first demand was granted, and no other one
        have hd : some d.time = some t := (if_pos hg).symm.trans hnext
        refine Or.inr ⟨0, d, rfl, ?_, Option.some.inj hd⟩
        rw [Machine.emitsAt_cons_zero, ideal_emit_ne_nil]
        exact hg
      · exact Or.inl ((if_neg hg).symm.trans hnext)
    · exact Or.inr ⟨j + 1, d', hj, hgrant, htime⟩

/-- **The ideal limiter loses nothing.** -/
theorem ideal_losesNothing (ds : List (Demand T)) : LosesNothing ideal none ds := by
  intro k d hk heligible hrefused
  have hnot : ¬Granted (ideal.final none (ds.take k)) d :=
    fun hg => hrefused ⟨d, hk, ideal_emit_ne_nil.mpr hg⟩
  -- what refuses the demand is an earlier grant that is too close
  cases hlast : ideal.final none (ds.take k) with
  | none =>
    rw [hlast] at hnot
    -- without an earlier grant nothing is refused
    exact absurd heligible hnot
  | some t =>
    rw [hlast] at hnot
    have hlt : d.time - t < d.cooldown := not_le.mp fun hle => hnot ⟨heligible, hle⟩
    rcases ideal_final_eq_some hlast with hnone | ⟨j, d', hj, hgrant, rfl⟩
    · exact absurd hnone (by simp)
    · -- the grant was made in front of the demand, where the run is the same
      have hjk : j < k := by
        by_contra hge
        rw [List.getElem?_take_eq_none (not_lt.mp hge)] at hj
        exact absurd hj (by simp)
      rw [List.getElem?_take_of_lt hjk] at hj
      exact ⟨j, d', hjk, hj, (ideal.emitsAt_take hjk none).mp hgrant, hlt⟩

/-- A stamp is the state after a grant at that time. -/
theorem stamped_emitsAt_iff_some (last : T) (ds : List (Demand T)) (k : ℕ) :
    stamped.EmitsAt last ds k ↔ ideal.EmitsAt (some last) ds k := by
  have hmap := Machine.emitsAt_map (M := stamped) (N := ideal) (f := some) (g := id)
    (fun last d => apply_ite some (GrantedAfter last d) d.time last) (fun _ _ => Iff.rfl) last ds k
  rwa [List.map_id] at hmap

/-- **Refinement.** A stamped limiter whose first eligible demand gets past the
initial time grants what the ideal limiter grants. -/
theorem stamped_emitsAt_iff_none {last : T}
    (h : ∀ d, ds.find? Demand.eligible = some d → d.cooldown ≤ d.time - last) (k : ℕ) :
    stamped.EmitsAt last ds k ↔ ideal.EmitsAt none ds k := by
  induction ds generalizing k with
  | nil => simp
  | cons d ds ih =>
    cases hd : d.eligible with
    | true =>
      -- the first eligible demand: both limiters grant it
      have hg : GrantedAfter last d := ⟨hd, h d (List.find?_cons_of_pos hd)⟩
      have hideal : Granted none d := hd
      cases k with
      | zero =>
        rw [Machine.emitsAt_cons_zero, Machine.emitsAt_cons_zero, stamped_emit_ne_nil,
          ideal_emit_ne_nil]
        exact iff_of_true hg hideal
      | succ k =>
        have hnext : ideal.next none d = some d.time := if_pos hideal
        rw [Machine.emitsAt_cons_succ, Machine.emitsAt_cons_succ, stamped_next_of_granted hg,
          hnext]
        exact stamped_emitsAt_iff_some d.time ds k
    | false =>
      have hg : ¬GrantedAfter last d := fun hg => by simp [hg.1] at hd
      have hideal : ¬Granted none d := fun hg => by simp [Granted, hd] at hg
      have hrest : ∀ e, ds.find? Demand.eligible = some e → e.cooldown ≤ e.time - last := by
        intro e he
        exact h e ((List.find?_cons_of_neg (by simp [hd])).trans he)
      cases k with
      | zero =>
        rw [Machine.emitsAt_cons_zero, Machine.emitsAt_cons_zero, stamped_emit_ne_nil,
          ideal_emit_ne_nil]
        exact iff_of_false hg hideal
      | succ k =>
        have hnext : ideal.next none d = none := if_neg hideal
        rw [Machine.emitsAt_cons_succ, Machine.emitsAt_cons_succ, stamped_next_of_not_granted hg,
          hnext]
        exact ih hrest k

/-- Demands that are not eligible do not change the stamp. -/
theorem stamped_final_of_not_eligible (h : ∀ d ∈ ds, ¬d.eligible = true) (last : T) :
    stamped.final last ds = last := by
  induction ds generalizing last with
  | nil => rfl
  | cons d ds ih =>
    rw [List.forall_mem_cons] at h
    -- a demand that is not eligible leaves the stamp as it is
    have hnext : stamped.next last d = last := stamped_next_of_not_granted fun hg => h.1 hg.1
    exact (congrArg (stamped.final · ds) hnext).trans (ih h.2 last)

/-- **Loss, exactly.** -/
theorem stamped_losesNothing_iff (last : T) (ds : List (Demand T)) :
    LosesNothing stamped last ds ↔
      ∀ d, ds.find? Demand.eligible = some d → d.cooldown ≤ d.time - last := by
  constructor
  · intro hloss d hfind
    obtain ⟨heligible, pre, post, rfl, hpre⟩ := List.find?_eq_some_iff_append.mp hfind
    have hpre' : ∀ e ∈ pre, ¬e.eligible = true := fun e he => by simpa using hpre e he
    by_contra hlt
    -- the first eligible demand was refused, although nothing was granted before it
    have hk : (pre ++ d :: post)[pre.length]? = some d := by simp
    have htake : (pre ++ d :: post).take pre.length = pre := List.take_left
    obtain ⟨j, d', hj, hd', ⟨e, he, hemit⟩, -⟩ := hloss pre.length d hk heligible (by
      rintro ⟨e, he, hemit⟩
      obtain rfl : d = e := Option.some.inj (hk.symm.trans he)
      rw [htake, stamped_final_of_not_eligible hpre', stamped_emit_ne_nil] at hemit
      exact hlt hemit.2)
    rw [List.getElem?_append_left hj] at he
    exact hpre' e (List.mem_of_getElem? he) (stamped_emit_ne_nil.mp hemit).1
  · intro h k d hk heligible hrefused
    rw [stamped_emitsAt_iff_none h] at hrefused
    obtain ⟨j, d', hj, hd', hgrant, hlt⟩ := ideal_losesNothing ds k d hk heligible hrefused
    exact ⟨j, d', hj, hd', (stamped_emitsAt_iff_none h j).mpr hgrant, hlt⟩

end Loss

end RateLimiter
