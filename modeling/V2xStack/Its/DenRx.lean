import Mathlib.Algebra.Order.Field.Rat
import Mathlib.Tactic.NormNum
import V2xStack.Foundation.RateLimiter
import V2xStack.Its.DenmStructure
import V2xStack.Udp.Routing

/-!
# The DENM service

`DenRxNode` of `den_rx.cpp`: DENMs from `/btp_data` are decoded, and published
unless the last publication is more recent than the cooldown.

The node is a machine over its members. An event is a call of `onIndication`, with
what it finds: the indication, the reading of the clock, the value of the parameter
`cooldown`, and what the ASN.1 decoder makes of the payload. Clock readings are
integers of nanoseconds and `seconds` is exact.

`last_publish_time_` starts as the time zero, at which nothing was published. So the
node is the limiter with a time stamp, `RateLimiter.stamped`; `demand` reads an event
as a demand on it (`denRx_emitsAt_iff`). Any two publications are apart by the
cooldown of the later one (`denRx_spacing`), but a DENM may be suppressed with no
publication before it, when the clock has not yet passed the cooldown
(`denRx_lossForCause_iff`).
-/

namespace V2xStack

/-! ### The node -/

/-- `rclcpp::Time`. -/
structure Time where
  nanoseconds : ℤ := 0
  deriving DecidableEq, Repr

/-- `Time::seconds`. -/
def Time.seconds (t : Time) : ℚ := t.nanoseconds / 1000000000

/-- `DenRxNode`. The constructor leaves `publish_cooldown_` as it is in memory. -/
structure DenRxNode where
  last_publish_time_ : Time := {}
  publish_cooldown_ : ℚ
  deriving DecidableEq, Repr

namespace DenRxNode

/-- A call of `onIndication`. -/
structure Event where
  indication : Msg.BtpDataIndication
  /-- What `get_clock()->now()` returns. -/
  now : Time
  /-- The value of the parameter `cooldown`. -/
  cooldown : ℚ
  /-- What `decode_per` makes of the data of the indication. -/
  decoded : Option Asn1.Denm

/-- `DenRxNode::onIndication`: the node after the call, and the DENMs that were
handed to `publish`. -/
def onIndication (n : DenRxNode) (e : Event) : DenRxNode × List Asn1.Denm :=
  if Guard e.indication then
    let time_since_last_publish := e.now.seconds - n.last_publish_time_.seconds
    let n := { n with publish_cooldown_ := e.cooldown }
    match e.decoded with
    | some denm =>
      if n.publish_cooldown_ ≤ time_since_last_publish then
        ({ n with last_publish_time_ := e.now }, [denm])
      else
        (n, [])
    -- "ASN.1 decoding failed, drop received DENM"
    | none => (n, [])
  else
    (n, [])

/-- `DenRxNode::publish`. -/
def publish (asn_INTEGER2uint64 : List UInt8 → Option UInt64) (F : DenmFormat)
    (asn1 : Asn1.Denm) : Run (Access DenmPlace) (List (Msg.DENM F)) := do
  let msg ← asn1.convertDenm F asn_INTEGER2uint64
  pure [msg]

/-- The indication is a DENM that the decoder accepts. -/
def Event.WellDecoded (e : Event) : Prop := Guard e.indication ∧ e.decoded.isSome

instance : DecidablePred Event.WellDecoded := fun _ => inferInstanceAs (Decidable (_ ∧ _))

end DenRxNode

/-- The node as a machine. -/
def denRx : Machine DenRxNode DenRxNode.Event Asn1.Denm where
  next n e := (n.onIndication e).1
  emit n e := (n.onIndication e).2

/-! ### The node is a limiter -/

section Limiter

open RateLimiter

/-- An event as a demand for a publication. -/
def DenRxNode.Event.demand (e : DenRxNode.Event) : Demand ℚ where
  time := e.now.seconds
  cooldown := e.cooldown
  eligible := decide e.WellDecoded

variable {n : DenRxNode} {e : DenRxNode.Event}

/-- **One call.** The event is published when the limiter grants it, and then its
time is kept. -/
theorem onIndication_of_granted
    (h : GrantedAfter n.last_publish_time_.seconds e.demand) :
    ∃ denm, e.decoded = some denm ∧
      n.onIndication e = (⟨e.now, e.cooldown⟩, [denm]) := by
  obtain ⟨heligible, hcooldown⟩ := h
  -- a granted demand is an indication for the service that decodes, after the cooldown
  obtain ⟨hguard, hdecoded⟩ : e.WellDecoded := by
    simpa [DenRxNode.Event.demand] using heligible
  obtain ⟨denm, hdenm⟩ := Option.isSome_iff_exists.mp hdecoded
  have hle : e.cooldown ≤ e.now.seconds - n.last_publish_time_.seconds := hcooldown
  refine ⟨denm, hdenm, ?_⟩
  rw [DenRxNode.onIndication, if_pos hguard, hdenm]
  exact if_pos hle

/-- Any other call publishes nothing and keeps the time. -/
theorem onIndication_of_not_granted
    (h : ¬GrantedAfter n.last_publish_time_.seconds e.demand) :
    (n.onIndication e).2 = [] ∧
      (n.onIndication e).1.last_publish_time_ = n.last_publish_time_ := by
  unfold DenRxNode.onIndication
  split
  · next hguard =>
    cases hdecoded : e.decoded with
    | none => exact ⟨rfl, rfl⟩
    | some denm =>
      have hwell : e.WellDecoded := ⟨hguard, by rw [hdecoded]; rfl⟩
      -- the cooldown is what is left for the limiter to object to
      have hlt : ¬e.cooldown ≤ e.now.seconds - n.last_publish_time_.seconds :=
        fun hle => h ⟨decide_eq_true hwell, hle⟩
      dsimp only
      rw [if_neg hlt]
      exact ⟨rfl, rfl⟩
  · exact ⟨rfl, rfl⟩

theorem denRx_next_seconds (n : DenRxNode) (e : DenRxNode.Event) :
    (denRx.next n e).last_publish_time_.seconds
      = stamped.next n.last_publish_time_.seconds e.demand := by
  change (n.onIndication e).1.last_publish_time_.seconds = _
  -- a call stores its time exactly when it publishes
  by_cases h : GrantedAfter n.last_publish_time_.seconds e.demand
  · obtain ⟨denm, -, hcall⟩ := onIndication_of_granted h
    rw [stamped_next_of_granted h, hcall]
    rfl
  · rw [stamped_next_of_not_granted h, (onIndication_of_not_granted h).2]

theorem denRx_emit_eq_nil_iff (n : DenRxNode) (e : DenRxNode.Event) :
    denRx.emit n e = [] ↔ stamped.emit n.last_publish_time_.seconds e.demand = [] := by
  change (n.onIndication e).2 = [] ↔ _
  -- the limiter grants exactly when the guards of the callback let the message through
  by_cases h : GrantedAfter n.last_publish_time_.seconds e.demand
  · obtain ⟨denm, -, hcall⟩ := onIndication_of_granted h
    rw [hcall]
    exact iff_of_false (List.cons_ne_nil _ _) (stamped_emit_ne_nil.mpr h)
  · refine iff_of_true (onIndication_of_not_granted h).1 ?_
    by_contra hemit
    exact h (stamped_emit_ne_nil.mp hemit)

/-- **The node simulates the limiter**: they publish and grant at the same steps. -/
theorem denRx_emitsAt_iff (n : DenRxNode) (es : List DenRxNode.Event) (k : ℕ) :
    denRx.EmitsAt n es k ↔
      stamped.EmitsAt n.last_publish_time_.seconds (es.map DenRxNode.Event.demand) k :=
  denRx.emitsAt_map (f := fun n => n.last_publish_time_.seconds)
    denRx_next_seconds denRx_emit_eq_nil_iff n es k

end Limiter

/-! ### Spacing of the publications -/

/-- **Rate limit.** In every run, from any state of the node, with any clock and a
cooldown that is never negative but may change: between any two publications there
is the cooldown in force at the later one, and a step that does not publish leaves
`last_publish_time_` alone. -/
theorem denRx_spacing (n : DenRxNode) (es : List DenRxNode.Event)
    (hcooldown : ∀ e ∈ es, 0 ≤ e.cooldown) :
    (∀ i j e e', i < j → es[i]? = some e → es[j]? = some e' →
        denRx.EmitsAt n es i → denRx.EmitsAt n es j →
        e'.cooldown ≤ e'.now.seconds - e.now.seconds) ∧
      ∀ k, ¬denRx.EmitsAt n es k →
        (denRx.final n (es.take (k + 1))).last_publish_time_
          = (denRx.final n (es.take k)).last_publish_time_ := by
  constructor
  · intro i j e e' hij hi hj hpubi hpubj
    have hdemands : ∀ d ∈ es.map DenRxNode.Event.demand, 0 ≤ d.cooldown := by
      intro d hd
      obtain ⟨e, he, rfl⟩ := List.mem_map.mp hd
      exact hcooldown e he
    rw [denRx_emitsAt_iff] at hpubi hpubj
    have hdi : (es.map DenRxNode.Event.demand)[i]? = some e.demand := by
      rw [List.getElem?_map, hi, Option.map_some]
    have hdj : (es.map DenRxNode.Event.demand)[j]? = some e'.demand := by
      rw [List.getElem?_map, hj, Option.map_some]
    -- elaborated on its own: against the goal the instances on `ℚ` would be unfolded
    have hspacing := RateLimiter.stamped_spacing hdemands hij hdi hdj hpubi hpubj
    exact hspacing
  · intro k hk
    cases he : es[k]? with
    | none =>
      -- behind the end of the run there is no step
      have hlen : es.length ≤ k := List.getElem?_eq_none_iff.mp he
      rw [List.take_of_length_le hlen, List.take_of_length_le (hlen.trans (Nat.le_succ k))]
    | some e =>
      rw [denRx.final_take_succ he]
      refine (onIndication_of_not_granted fun hg => hk ⟨e, he, ?_⟩).2
      rw [ne_eq, denRx_emit_eq_nil_iff]
      exact RateLimiter.stamped_emit_ne_nil.mpr hg

/-- A DENM by the clock reading and the cooldown at its arrival. -/
def denmAt (nanoseconds : ℤ) (cooldown : ℚ) : DenRxNode.Event where
  indication := { btp_type := 2, destination_port := 2002 }
  now := ⟨nanoseconds⟩
  cooldown
  decoded := some stationaryDenm

/-- A node that has just been constructed; its `publish_cooldown_` holds anything. -/
def DenRxNode.constructed (publish_cooldown_ : ℚ) : DenRxNode := { publish_cooldown_ }

/-- Three DENMs, of which the clock is set back before the second. -/
def threeDenms : List DenRxNode.Event :=
  [denmAt 7000000000 1, denmAt 6000000000 0, denmAt 9000000000 2]

theorem threeDenms_spacing :
    (∀ i j e e', i < j → threeDenms[i]? = some e → threeDenms[j]? = some e' →
        denRx.EmitsAt (.constructed 0) threeDenms i → denRx.EmitsAt (.constructed 0) threeDenms j →
        e'.cooldown ≤ e'.now.seconds - e.now.seconds) ∧
      ∀ k, ¬denRx.EmitsAt (.constructed 0) threeDenms k →
        (denRx.final (.constructed 0) (threeDenms.take (k + 1))).last_publish_time_
          = (denRx.final (.constructed 0) (threeDenms.take k)).last_publish_time_ :=
  denRx_spacing (.constructed 0) threeDenms (by simp [threeDenms, denmAt])

/-! ### Suppressed DENMs -/

/-- A well-decoded DENM of the run is not published only if another one was
published less than the cooldown before it. -/
def DenmsLostForCause (n : DenRxNode) (es : List DenRxNode.Event) : Prop :=
  ∀ k e, es[k]? = some e → e.WellDecoded → ¬denRx.EmitsAt n es k →
    ∃ j e', j < k ∧ es[j]? = some e' ∧ denRx.EmitsAt n es j ∧
      e.now.seconds - e'.now.seconds < e.cooldown

/-- The property is the limiter's. -/
theorem denmsLostForCause_iff (n : DenRxNode) (es : List DenRxNode.Event) :
    DenmsLostForCause n es ↔
      RateLimiter.LosesNothing RateLimiter.stamped n.last_publish_time_.seconds
        (es.map DenRxNode.Event.demand) := by
  constructor
  · -- a lost message is a refused demand; the cause is the same earlier event in both
    intro h k d hk heligible hrefused
    rw [List.getElem?_map] at hk
    obtain ⟨e, he, rfl⟩ := Option.map_eq_some_iff.mp hk
    rw [← denRx_emitsAt_iff] at hrefused
    obtain ⟨j, e', hjk, he', hpub, hlt⟩ := h k e he (of_decide_eq_true heligible) hrefused
    exact ⟨j, e'.demand, hjk, by rw [List.getElem?_map, he']; rfl,
      (denRx_emitsAt_iff n es j).mp hpub, hlt⟩
  · intro h k e he hwell hnot
    rw [denRx_emitsAt_iff] at hnot
    obtain ⟨j, d', hjk, hj, hgrant, hlt⟩ :=
      h k e.demand (by rw [List.getElem?_map, he]; rfl) (decide_eq_true hwell) hnot
    rw [List.getElem?_map] at hj
    obtain ⟨e', he', rfl⟩ := Option.map_eq_some_iff.mp hj
    exact ⟨j, e', hjk, he', (denRx_emitsAt_iff n es j).mpr hgrant, hlt⟩

/-- **Loss, exactly.** In a run of a new node DENMs are lost for cause only, if and
only if the clock had reached the cooldown at the first well-decoded DENM. -/
theorem denRx_lossForCause_iff (publish_cooldown_ : ℚ) (es : List DenRxNode.Event) :
    DenmsLostForCause (.constructed publish_cooldown_) es ↔
      ∀ e, es.find? (fun e => decide e.WellDecoded) = some e →
        e.cooldown ≤ e.now.seconds := by
  rw [denmsLostForCause_iff, RateLimiter.stamped_losesNothing_iff, List.find?_map]
  -- the node starts with the time zero
  have hzero : (DenRxNode.constructed publish_cooldown_).last_publish_time_.seconds = 0 := by
    norm_num [DenRxNode.constructed, Time.seconds]
  simp only [hzero, sub_zero]
  constructor
  · intro h e he
    exact h e.demand (Option.map_eq_some_iff.mpr ⟨e, he, rfl⟩)
  · intro h d hd
    obtain ⟨e, he, rfl⟩ := Option.map_eq_some_iff.mp hd
    exact h e he

/-- One second after the start of simulated time, with a cooldown of five seconds,
the first DENM is suppressed although nothing was published. -/
theorem firstDenm_lost :
    (denmAt 1000000000 5).WellDecoded ∧
      0 ≤ (denmAt 1000000000 5).now.nanoseconds ∧ 0 ≤ (denmAt 1000000000 5).cooldown ∧
      ¬denRx.EmitsAt (.constructed 0) [denmAt 1000000000 5] 0 ∧
      ¬DenmsLostForCause (.constructed 0) [denmAt 1000000000 5] := by
  have hwell : (denmAt 1000000000 5).WellDecoded := by decide
  have hlost : ¬denRx.EmitsAt (.constructed 0) [denmAt 1000000000 5] 0 := by
    rw [denRx_emitsAt_iff, List.map_cons, Machine.emitsAt_cons_zero,
      RateLimiter.stamped_emit_ne_nil]
    rintro ⟨-, hcooldown⟩
    norm_num [DenRxNode.Event.demand, denmAt, DenRxNode.constructed, Time.seconds] at hcooldown
  refine ⟨hwell, by decide, by norm_num [denmAt], hlost, fun hcause => ?_⟩
  -- there is no earlier step
  obtain ⟨j, -, hj, -⟩ := hcause 0 _ rfl hwell hlost
  exact absurd hj (Nat.not_lt_zero j)

end V2xStack
