import V2xStack.Foundation.Process
import V2xStack.Its.Cam
import V2xStack.Its.CpmAccess
import V2xStack.Its.CpmTsAccess
import V2xStack.Its.DenRx

/-!
# The service nodes

`CaRxNode`, `CpRxNode`, `CpTsRxNode` and `DenRxNode` behind their guards, as processes
that read indications from `/btp_data`.

The four `onIndication` functions have one form: an indication that passes the guard is
given to the decoder, and what it decodes is converted and published. `DenRxNode` has
its rate limit in between. The decoders and the message packages are not part of the
sources; they are the fields of `Packages`.

Each node is a `Machine.process`, which is followed up to the first access that the
language does not allow. `Service.emit_sublist` bounds what a node publishes for an
indication by what its payload decodes to. `Service.Convertible` is the condition under
which a node makes no such access (`Service.safeRun_iff`), and then it publishes just that
(`Service.run_eq`). For the DENM service it counts only what the rate limit lets pass
(`DenRxNode.safeRun_iff`).
-/

namespace V2xStack

open scoped List

/-- What the services are built on: the results of vanetza's `decode_per` for the four
types of message, asn1c's `asn_INTEGER2uint64`, and the message packages. -/
structure Packages where
  decodeCam : List UInt8 → Option Asn1.Cam
  decodeDenm : List UInt8 → Option Asn1.Denm
  decodeCpm : List UInt8 → Option Asn1.Cpm
  decodeCpmTs : List UInt8 → Option Its2.Cpm
  asn_INTEGER2uint64 : List UInt8 → Option UInt64
  cam : CamFormat
  denm : DenmFormat
  cpm : CpmFormat
  cpmTs : CpmTsFormat

/-! ### The nodes -/

section Nodes

variable {P α β : Type}

/-- The form of `publish`: a message that the conversion returns is published, a null
pointer is not. -/
def publish (convert : α → Run (Access P) (Option β)) (asn1 : α) : Run (Access P) (List β) := do
  let msg ← convert asn1
  pure msg.toList

/-- The form of `onIndication`: an indication for the port is decoded, and published if
that succeeds. -/
def onIndication (port : UInt16) (decode_per : List UInt8 → Option α)
    (convert : α → Run (Access P) (Option β)) (indication : Msg.BtpDataIndication) :
    Run (Access P) (List β) :=
  if indication.IsBtpB port then
    match decode_per indication.data with
    | some asn1 => publish convert asn1
    -- "ASN.1 decoding failed, drop received …"
    | none => pure []
  else
    pure []

variable (L : Packages)

/-- The conversion that `CaRxNode::publish` calls. It follows no pointer. -/
def CaRxNode.convert (asn1 : Asn1.Cam) : Run (Access Empty) (Option (Msg.CAM L.cam)) :=
  pure (asn1.convertCam L.cam)

/-- `CaRxNode::onIndication`. -/
def CaRxNode.onIndication : Msg.BtpDataIndication → Run (Access Empty) (List (Msg.CAM L.cam)) :=
  V2xStack.onIndication 2001 L.decodeCam (CaRxNode.convert L)

/-- The conversion that `CpRxNode::publish` calls. -/
def CpRxNode.convert (asn1 : Asn1.Cpm) : Run (Access CpmPlace) (Option (Msg.CPM L.cpm)) :=
  some <$> asn1.convertCpm L.cpm

/-- `CpRxNode::onIndication`. -/
def CpRxNode.onIndication :
    Msg.BtpDataIndication → Run (Access CpmPlace) (List (Msg.CPM L.cpm)) :=
  V2xStack.onIndication 2009 L.decodeCpm (CpRxNode.convert L)

/-- The conversion that `CpTsRxNode::publish` calls. -/
def CpTsRxNode.convert (asn1 : Its2.Cpm) :
    Run (Access CpmTsPlace) (Option (TsMsg.CollectivePerceptionMessage L.cpmTs)) :=
  some <$> asn1.convertCpm L.asn_INTEGER2uint64 L.cpmTs

/-- `CpTsRxNode::onIndication`. -/
def CpTsRxNode.onIndication :
    Msg.BtpDataIndication →
      Run (Access CpmTsPlace) (List (TsMsg.CollectivePerceptionMessage L.cpmTs)) :=
  V2xStack.onIndication 2009 L.decodeCpmTs (CpTsRxNode.convert L)

/-- The call of `DenRxNode::onIndication` that an indication leads to, with the clock
and the parameter `cooldown` as they are then. -/
def DenRxNode.event (i : Msg.BtpDataIndication × Time × ℚ) : DenRxNode.Event where
  indication := i.1
  now := i.2.1
  cooldown := i.2.2
  decoded := L.decodeDenm i.1.data

/-- One reaction of `DenRxNode`: `onIndication` with the publication in it. -/
def DenRxNode.react (n : DenRxNode) (i : Msg.BtpDataIndication × Time × ℚ) :
    Run (Access DenmPlace) (Option DenRxNode × List (Msg.DENM L.denm)) := do
  let (n, denms) := n.onIndication (DenRxNode.event L i)
  let published ← Run.forPush denms (DenRxNode.publish L.asn_INTEGER2uint64 L.denm)
  pure (some n, published.flatten)

end Nodes

/-! ### The nodes as processes -/

namespace Service

/-- What a service publishes. -/
def Published (L : Packages) : Service → Type
  | caRx => Msg.CAM L.cam
  | denRx => Msg.DENM L.denm
  | cpRx => Msg.CPM L.cpm
  | cpTsRx => TsMsg.CollectivePerceptionMessage L.cpmTs

/-- The members of a node that its reactions depend on. -/
def Node : Service → Type
  | denRx => DenRxNode
  | _ => Unit

/-- What a service looks up in a call: the clock and the cooldown, or nothing. -/
def Env : Service → Type
  | denRx => Time × ℚ
  | _ => Unit

instance (s : Service) : Inhabited s.Env :=
  match s with
  | caRx => ⟨()⟩
  | denRx => ⟨({}, 0)⟩
  | cpRx => ⟨()⟩
  | cpTsRx => ⟨()⟩

/-- A node that was just started. -/
def started (publish_cooldown_ : ℚ) : (s : Service) → s.Node
  | caRx => ()
  | denRx => .constructed publish_cooldown_
  | cpRx => ()
  | cpTsRx => ()

/-- The pointers and alternatives that a service follows. -/
def Place : Service → Type
  | caRx => Empty
  | denRx => DenmPlace
  | cpRx => CpmPlace
  | cpTsRx => CpmTsPlace

/-- One reaction of a service. -/
def react (L : Packages) : (s : Service) → s.Node → Msg.BtpDataIndication × s.Env →
    Run (Access s.Place) (Option s.Node × List (s.Published L))
  | caRx => Machine.answering fun i => CaRxNode.onIndication L i.1
  | denRx => DenRxNode.react L
  | cpRx => Machine.answering fun i => CpRxNode.onIndication L i.1
  | cpTsRx => Machine.answering fun i => CpTsRxNode.onIndication L i.1

/-- The process of a service. -/
def process (L : Packages) (s : Service) :
    Machine (Option s.Node) (Msg.BtpDataIndication × s.Env) (s.Published L) :=
  Machine.process (s.react L)

/-- The messages that a service decodes. -/
def Decoded : Service → Type
  | caRx => Asn1.Cam
  | denRx => Asn1.Denm
  | cpRx => Asn1.Cpm
  | cpTsRx => Its2.Cpm

def decode (L : Packages) : (s : Service) → List UInt8 → Option s.Decoded
  | caRx => L.decodeCam
  | denRx => L.decodeDenm
  | cpRx => L.decodeCpm
  | cpTsRx => L.decodeCpmTs

/-- What a decoded message is published as. -/
def converted (L : Packages) : (s : Service) → s.Decoded → List (s.Published L)
  | caRx => fun asn1 : Asn1.Cam => (CaRxNode.convert L asn1).result.join.toList
  | denRx => fun asn1 : Asn1.Denm =>
      (asn1.convertDenm L.denm L.asn_INTEGER2uint64).result.toList
  | cpRx => fun asn1 : Asn1.Cpm => (CpRxNode.convert L asn1).result.join.toList
  | cpTsRx => fun asn1 : Its2.Cpm => (CpTsRxNode.convert L asn1).result.join.toList

/-- The message can be converted: it is free of the null pointers and of the tags that
the conversion does not test for. -/
def ConvertibleMessage (L : Packages) : (s : Service) → s.Decoded → Prop
  | caRx => fun _ => True
  | denRx => fun asn1 : Asn1.Denm => asn1.management.validityDuration.isSome
  | cpRx => fun asn1 : Asn1.Cpm =>
      asn1.OfVehicle ∧ (asn1.ReachesObjects L.cpm → ∀ o ∈ asn1.objects, o.Supported)
  | cpTsRx => fun asn1 : Its2.Cpm => ∀ c ∈ asn1.cpmContainers.array, c.HasMapReference

/-- What a payload is published as, once it is decoded and converted. -/
def messages (L : Packages) (s : Service) (data : List UInt8) : List (s.Published L) :=
  (s.decode L data).toList.flatMap (s.converted L)

/-- What a payload is decoded to can be converted. -/
def ConvertibleData (L : Packages) (s : Service) (data : List UInt8) : Prop :=
  ∀ asn1, s.decode L data = some asn1 → s.ConvertibleMessage L asn1

def Convertible (L : Packages) (s : Service) (ind : Msg.BtpDataIndication) : Prop :=
  s.Guard ind → s.ConvertibleData L ind.data

end Service

/-! ### Payloads with more behind them -/

/-- The decoders read a message from the start of a payload and leave what is behind
it, as unaligned PER decoders do. -/
def Packages.SelfDelimiting (L : Packages) : Prop :=
  ∀ (s : Service) (data rest : List UInt8) (asn1 : s.Decoded),
    s.decode L data = some asn1 → s.decode L (data ++ rest) = some asn1

namespace Service

section Append

variable {L : Packages} {s : Service} {data : List UInt8}

/-- A payload that decodes is published as the same whatever is behind it, -/
theorem messages_append (hL : L.SelfDelimiting) (h : (s.decode L data).isSome)
    (rest : List UInt8) : s.messages L (data ++ rest) = s.messages L data := by
  obtain ⟨asn1, hdecode⟩ := Option.isSome_iff_exists.mp h
  rw [messages, messages, hL s data rest asn1 hdecode, hdecode]

/-- and is as convertible. -/
theorem convertibleData_append (hL : L.SelfDelimiting) (h : (s.decode L data).isSome)
    (rest : List UInt8) : s.ConvertibleData L (data ++ rest) ↔ s.ConvertibleData L data := by
  obtain ⟨asn1, hdecode⟩ := Option.isSome_iff_exists.mp h
  rw [ConvertibleData, ConvertibleData, hL s data rest asn1 hdecode, hdecode]

end Append

end Service

/-! ### The common form -/

section Form

variable {P α β : Type} {port : UInt16} {decode_per : List UInt8 → Option α}
  {convert : α → Run (Access P) (Option β)} {ind : Msg.BtpDataIndication}

/-- The outcome, if there is one, is what the payload decodes to, or nothing. -/
theorem onIndication_outcome {out : List β}
    (hout : (onIndication port decode_per convert ind).outcome = some out) :
    out = if ind.IsBtpB port then
      (decode_per ind.data).toList.flatMap fun asn1 => (convert asn1).result.join.toList
    else [] := by
  unfold onIndication at hout
  split at hout
  · next hguard =>
    rw [if_pos hguard]
    cases hdecode : decode_per ind.data with
    | none =>
      rw [hdecode, Run.outcome_pure] at hout
      exact (Option.some.inj hout).symm
    | some asn1 =>
      -- `publish` returns what the conversion returns, or it has no outcome
      rw [hdecode] at hout
      obtain ⟨msg, hmsg, hpure⟩ := Option.bind_eq_some_iff.mp
        ((Run.outcome_bind _ _).symm.trans hout)
      obtain rfl := Option.some.inj ((Run.outcome_pure _).symm.trans hpure)
      simp [(Run.outcome_eq_some_iff.mp hmsg).2]
  · next hguard =>
    rw [if_neg hguard]
    exact (Option.some.inj ((Run.outcome_pure _).symm.trans hout)).symm

/-- What a process of the form publishes. -/
theorem stateless_emit_sublist {E : Type} (st : Option Unit) (i : Msg.BtpDataIndication × E) :
    (Machine.stateless fun i : Msg.BtpDataIndication × E =>
        onIndication port decode_per convert i.1).emit st i <+
      if i.1.IsBtpB port then
        (decode_per i.1.data).toList.flatMap fun asn1 => (convert asn1).result.join.toList
      else [] :=
  Machine.emit_stateless_sublist (fun i : Msg.BtpDataIndication × E =>
    if i.1.IsBtpB port then
      (decode_per i.1.data).toList.flatMap fun asn1 => (convert asn1).result.join.toList
    else []) (fun _ _ hout => onIndication_outcome hout) st i

/-- There is one when what is decoded can be converted. -/
theorem onIndication_safe_iff :
    (onIndication port decode_per convert ind).Safe ↔
      (ind.IsBtpB port → ∀ asn1, decode_per ind.data = some asn1 → (convert asn1).Safe) := by
  unfold onIndication
  -- an indication for another service is returned from at once
  split
  · next hguard =>
    cases decode_per ind.data with
    | none => simp
    | some asn1 => simp [hguard, publish]
  · next hguard => simp [hguard]

variable (port decode_per convert) in
/-- A process of the form publishes what is decoded and goes on, if it can be
converted. -/
theorem stateless_step {E : Type} {i : Msg.BtpDataIndication × E}
    (h : i.1.IsBtpB port → ∀ asn1, decode_per i.1.data = some asn1 → (convert asn1).Safe)
    {st : Option Unit} (hst : st.isSome) :
    let M := Machine.stateless fun i : Msg.BtpDataIndication × E =>
      onIndication port decode_per convert i.1
    M.emit st i = (if i.1.IsBtpB port then
        (decode_per i.1.data).toList.flatMap fun asn1 => (convert asn1).result.join.toList
      else []) ∧ (M.next st i).isSome := by
  obtain ⟨u, rfl⟩ := Option.isSome_iff_exists.mp hst
  -- a safe call has an outcome, so the process answers and goes on
  obtain ⟨out, hout⟩ := Option.isSome_iff_exists.mp
    (Run.isSome_outcome_iff.mpr (onIndication_safe_iff.mpr h))
  dsimp only
  rw [Machine.emit_stateless, Machine.next_stateless, hout]
  exact ⟨onIndication_outcome hout, rfl⟩

/-- **When a run of the form is safe**: when all that it decodes can be converted. -/
theorem safeRun_onIndication_iff {E : Type} (is : List (Msg.BtpDataIndication × E)) :
    Machine.SafeRun (Machine.answering fun i : Msg.BtpDataIndication × E =>
        onIndication port decode_per convert i.1) (some ()) is ↔
      ∀ i ∈ is, i.1.IsBtpB port → ∀ asn1, decode_per i.1.data = some asn1 →
        (convert asn1).Safe := by
  rw [Machine.safeRun_answering_iff]
  exact forall₂_congr fun i _ => onIndication_safe_iff

end Form

/-! ### The DENM service -/

section Den

variable {L : Packages} {n : DenRxNode}

/-- A DENM that is to be published was decoded from the indication. -/
theorem DenRxNode.onIndication_sublist (n : DenRxNode) (e : DenRxNode.Event) :
    (n.onIndication e).2 <+ if Guard e.indication then e.decoded.toList else [] := by
  unfold DenRxNode.onIndication
  -- behind the guards and the cooldown the decoded message is published, else nothing is
  split
  · cases e.decoded with
    | none => exact List.Sublist.refl _
    | some denm =>
      dsimp only
      split
      · exact List.Sublist.refl _
      · exact List.nil_sublist _
  · exact List.nil_sublist _

/-- What the loop over the DENMs that are to be published returns. -/
theorem DenRxNode.forPush_publish_result {denms : List Asn1.Denm}
    {out : List (List (Msg.DENM L.denm))}
    (h : (Run.forPush denms (DenRxNode.publish L.asn_INTEGER2uint64 L.denm)).result = some out) :
    out.flatten = denms.flatMap fun asn1 =>
      (asn1.convertDenm L.denm L.asn_INTEGER2uint64).result.toList := by
  rw [Run.result_forPush_eq_some_iff] at h
  -- one turn of the loop publishes one converted message
  induction h with
  | nil => rfl
  | cons hpublish _ ih =>
    rw [DenRxNode.publish, Run.result_bind, Option.bind_eq_some_iff] at hpublish
    obtain ⟨msg, hmsg, hpure⟩ := hpublish
    obtain rfl := Option.some.inj hpure
    rw [List.flatten_cons, List.flatMap_cons, hmsg, ih]
    rfl

/-- One reaction, if the node goes on. -/
theorem DenRxNode.react_outcome {i : Msg.BtpDataIndication × Time × ℚ} {n' : Option DenRxNode}
    {out : List (Msg.DENM L.denm)} (h : (DenRxNode.react L n i).outcome = some (n', out)) :
    n' = some (n.onIndication (DenRxNode.event L i)).1 ∧
      out = (n.onIndication (DenRxNode.event L i)).2.flatMap fun asn1 =>
        (asn1.convertDenm L.denm L.asn_INTEGER2uint64).result.toList := by
  obtain ⟨published, hpublished, hpure⟩ := Option.bind_eq_some_iff.mp
    ((Run.outcome_bind _ _).symm.trans h)
  obtain ⟨hn, hout⟩ := Prod.mk.inj (Option.some.inj ((Run.outcome_pure _).symm.trans hpure))
  exact ⟨hn.symm, hout.symm.trans
    (DenRxNode.forPush_publish_result (Run.outcome_eq_some_iff.mp hpublished).2)⟩

/-- It goes on when the DENM that is to be published, if there is one, has a validity
duration. -/
theorem DenRxNode.react_safe_iff (i : Msg.BtpDataIndication × Time × ℚ) :
    (DenRxNode.react L n i).Safe ↔
      ∀ asn1 ∈ (n.onIndication (DenRxNode.event L i)).2,
        asn1.management.validityDuration.isSome := by
  -- publishing is safe when the conversion is, that is when the duration is there to be read
  have hpublish : ∀ asn1 : Asn1.Denm,
      (DenRxNode.publish L.asn_INTEGER2uint64 L.denm asn1).Safe ↔
        asn1.management.validityDuration.isSome := by
    intro asn1
    rw [DenRxNode.publish, Run.safe_bind, asn1.convertDenm_safe_iff]
    exact and_iff_left fun _ _ => Run.safe_pure _
  refine (Run.safe_bind _ _).trans ((and_iff_left fun _ _ => Run.safe_pure _).trans ?_)
  rw [Run.safe_forPush]
  exact forall₂_congr fun asn1 _ => hpublish asn1

/-- A convertible indication leads to no other. -/
theorem DenRxNode.react_safe {i : Msg.BtpDataIndication × Time × ℚ}
    (h : Service.Convertible L .denRx i.1) : (DenRxNode.react L n i).Safe := by
  refine (DenRxNode.react_safe_iff i).mpr fun asn1 hasn1 => ?_
  have hmem := (n.onIndication_sublist (DenRxNode.event L i)).subset hasn1
  split at hmem
  · next hguard => exact h hguard asn1 (Option.mem_toList.mp hmem)
  · exact absurd hmem List.not_mem_nil

/-- **When a run of the DENM service is safe**: when each DENM that it lets pass has a
validity duration. One without is followed to a null pointer only if the rate limit does
not drop it. -/
theorem DenRxNode.safeRun_iff (n : DenRxNode) (is : List (Msg.BtpDataIndication × Time × ℚ)) :
    Machine.SafeRun (DenRxNode.react L) (some n) is ↔
      ∀ asn1 ∈ denRx.run n (is.map (DenRxNode.event L)),
        asn1.management.validityDuration.isSome :=
  Machine.safeRun_iff_run (fun _ i => DenRxNode.react_safe_iff i)
    (fun _ _ _ _ hout => (DenRxNode.react_outcome hout).1) n is

/-- The node as a machine that converts what it lets pass. -/
def DenRxNode.converting (L : Packages) :
    Machine DenRxNode (Msg.BtpDataIndication × Time × ℚ) (Msg.DENM L.denm) where
  next n i := (n.onIndication (DenRxNode.event L i)).1
  emit n i := (n.onIndication (DenRxNode.event L i)).2.flatMap fun asn1 =>
    (asn1.convertDenm L.denm L.asn_INTEGER2uint64).result.toList

/-- The process is this machine until it ends. -/
theorem DenRxNode.run_prefix (n : DenRxNode) (is : List (Msg.BtpDataIndication × Time × ℚ)) :
    (Machine.process (DenRxNode.react L)).run (some n) is <+:
      (DenRxNode.converting L).run n is :=
  Machine.run_process_prefix (fun _ _ _ _ h => (DenRxNode.react_outcome h).2)
    (fun _ _ _ _ h => Option.some.inj (DenRxNode.react_outcome h).1) n is

/-- One step of it publishes no more than the limiter grants. -/
theorem DenRxNode.length_emit_le (n : DenRxNode) (i : Msg.BtpDataIndication × Time × ℚ) :
    ((DenRxNode.converting L).emit n i).length ≤ (RateLimiter.stamped.emit
      n.last_publish_time_.seconds (DenRxNode.event L i).demand).length := by
  change ((n.onIndication (DenRxNode.event L i)).2.flatMap _).length ≤ _
  -- a granted call publishes one message at most, a refused one none
  by_cases h : RateLimiter.GrantedAfter n.last_publish_time_.seconds (DenRxNode.event L i).demand
  · obtain ⟨denm, -, hcall⟩ := onIndication_of_granted h
    have hemit : RateLimiter.stamped.emit n.last_publish_time_.seconds
        (DenRxNode.event L i).demand = [(DenRxNode.event L i).demand.time] := if_pos h
    rw [hemit, hcall, List.flatMap_singleton, List.length_singleton]
    cases (denm.convertDenm L.denm L.asn_INTEGER2uint64).result with
    | none => exact Nat.zero_le 1
    | some msg => exact Nat.le_refl 1
  · rw [(onIndication_of_not_granted h).1]
    exact Nat.zero_le _

/-- **The process publishes no more than the limiter grants.** -/
theorem DenRxNode.length_run_le (n : DenRxNode) (is : List (Msg.BtpDataIndication × Time × ℚ)) :
    ((Machine.process (DenRxNode.react L)).run (some n) is).length ≤
      (RateLimiter.stamped.run n.last_publish_time_.seconds
        (is.map fun i => (DenRxNode.event L i).demand)).length :=
  (DenRxNode.run_prefix n is).length_le.trans <|
    (DenRxNode.converting L).length_run_le (f := fun n => n.last_publish_time_.seconds)
      (fun n i => denRx_next_seconds n (DenRxNode.event L i)) DenRxNode.length_emit_le n is

/-- So it publishes at most one DENM for each `c` of time, and one. -/
theorem DenRxNode.rate {c t₀ t₁ : ℚ} (hc : 0 ≤ c) (ht : t₀ ≤ t₁)
    {is : List (Msg.BtpDataIndication × Time × ℚ)}
    (h : ∀ i ∈ is, c ≤ i.2.2 ∧ t₀ ≤ i.2.1.seconds ∧ i.2.1.seconds ≤ t₁)
    (st : Option DenRxNode) :
    ((Machine.process (DenRxNode.react L)).run st is).length * c ≤ t₁ - t₀ + c := by
  cases st with
  | none =>
    -- a service that has ended publishes nothing
    rw [Machine.run_process_none, List.length_nil, Nat.cast_zero, zero_mul]
    exact add_nonneg (sub_nonneg.mpr ht) hc
  | some n =>
    have hdemands : ∀ d ∈ is.map fun i => (DenRxNode.event L i).demand,
        c ≤ d.cooldown ∧ t₀ ≤ d.time ∧ d.time ≤ t₁ := by
      intro d hd
      obtain ⟨i, hi, rfl⟩ := List.mem_map.mp hd
      exact h i hi
    have hrate := RateLimiter.stamped_length_nsmul_le hc hdemands ht n.last_publish_time_.seconds
    rw [nsmul_eq_mul] at hrate
    exact (mul_le_mul_of_nonneg_right (Nat.cast_le.mpr (DenRxNode.length_run_le n is)) hc).trans
      hrate

end Den

/-! ### The CPM services -/

/-- The conversion is safe when every roadside unit's container has a map reference. -/
theorem CpTsRxNode.convert_safe_iff {L : Packages} (asn1 : Its2.Cpm) :
    (CpTsRxNode.convert L asn1).Safe ↔ ∀ c ∈ asn1.cpmContainers.array, c.HasMapReference := by
  rw [CpTsRxNode.convert, Run.safe_map, Its2.Cpm.convertCpm_containersSafe_iff]
  exact forall₂_congr fun c _ => c.convert_safe_iff _

/-- The release 1 conversion as the service calls it. -/
theorem CpRxNode.convert_safe_iff {L : Packages} (asn1 : Asn1.Cpm) :
    (CpRxNode.convert L asn1).Safe ↔
      asn1.OfVehicle ∧ (asn1.ReachesObjects L.cpm → ∀ o ∈ asn1.objects, o.Supported) := by
  rw [CpRxNode.convert, Run.safe_map]
  exact Asn1.Cpm.convertCpm_memorySafe

/-! ### Every service -/

namespace Service

instance (s : Service) : DecidablePred s.Guard :=
  match s with
  | caRx => inferInstanceAs (DecidablePred CaRxNode.Guard)
  | denRx => inferInstanceAs (DecidablePred DenRxNode.Guard)
  | cpRx => inferInstanceAs (DecidablePred CpRxNode.Guard)
  | cpTsRx => inferInstanceAs (DecidablePred CpTsRxNode.Guard)

/-- What an indication is published as: nothing if it does not pass the guard. -/
def answer (L : Packages) (s : Service) (ind : Msg.BtpDataIndication) : List (s.Published L) :=
  if s.Guard ind then s.messages L ind.data else []

variable {L : Packages}

theorem denRx_emit_sublist (st : Option DenRxNode) (i : Msg.BtpDataIndication × Time × ℚ) :
    (Machine.process (DenRxNode.react L)).emit st i <+
      if DenRxNode.Guard i.1 then
        (L.decodeDenm i.1.data).toList.flatMap fun asn1 =>
          (asn1.convertDenm L.denm L.asn_INTEGER2uint64).result.toList
      else [] := by
  cases st with
  | none => exact List.nil_sublist _
  | some n =>
    change (DenRxNode.react L n i).outcome.elim [] Prod.snd <+ _
    cases hout : (DenRxNode.react L n i).outcome with
    | none => exact List.nil_sublist _
    | some step =>
      obtain ⟨n', out⟩ := step
      obtain ⟨-, rfl⟩ := DenRxNode.react_outcome hout
      -- of the DENMs that are to be published each is converted
      have hsub := n.onIndication_sublist (DenRxNode.event L i)
      refine (hsub.flatMap _).trans ?_
      split
      · next hguard => exact if_pos hguard ▸ List.Sublist.refl _
      · exact List.nil_sublist _

/-- **A service publishes no more** than what the payload of the indication decodes
to. -/
theorem emit_sublist (s : Service) (st : Option s.Node) (i : Msg.BtpDataIndication × s.Env) :
    (s.process L).emit st i <+ s.answer L i.1 := by
  cases s with
  | caRx => exact stateless_emit_sublist st i
  | denRx => exact denRx_emit_sublist st i
  | cpRx => exact stateless_emit_sublist st i
  | cpTsRx => exact stateless_emit_sublist st i

/-- **One reaction.** To a convertible indication a service reacts and goes on; all
services but the one with a rate limit publish the whole answer. -/
theorem step_of_convertible {s : Service} {i : Msg.BtpDataIndication × s.Env}
    (h : s.Convertible L i.1) {st : Option s.Node} (hst : st.isSome) :
    (s ≠ denRx → (s.process L).emit st i = s.answer L i.1) ∧
      ((s.process L).next st i).isSome := by
  cases s with
  | caRx =>
    have hstep := stateless_step 2001 L.decodeCam (CaRxNode.convert L) (i := i)
      (fun _ _ _ => Run.safe_pure _) hst
    exact ⟨fun _ => hstep.1, hstep.2⟩
  | denRx =>
    -- the rate limit may keep the answer back, but it does not end the process
    obtain ⟨n, rfl⟩ := Option.isSome_iff_exists.mp hst
    refine ⟨fun hne => absurd rfl hne, ?_⟩
    obtain ⟨⟨n', out⟩, hout⟩ := Option.isSome_iff_exists.mp
      (Run.isSome_outcome_iff.mpr (DenRxNode.react_safe (n := n) h))
    change ((DenRxNode.react L n i).outcome.bind Prod.fst).isSome
    rw [hout]
    exact (DenRxNode.react_outcome hout).1 ▸ rfl
  | cpRx =>
    have hstep := stateless_step 2009 L.decodeCpm (CpRxNode.convert L) (i := i)
      (fun hguard asn1 hdecode => (CpRxNode.convert_safe_iff asn1).mpr (h hguard asn1 hdecode))
      hst
    exact ⟨fun _ => hstep.1, hstep.2⟩
  | cpTsRx =>
    have hstep := stateless_step 2009 L.decodeCpmTs (CpTsRxNode.convert L) (i := i)
      (fun hguard asn1 hdecode => (CpTsRxNode.convert_safe_iff asn1).mpr (h hguard asn1 hdecode))
      hst
    exact ⟨fun _ => hstep.1, hstep.2⟩

/-- A run over convertible indications: the service is still there, -/
theorem isSome_final {s : Service} {is : List (Msg.BtpDataIndication × s.Env)}
    (h : ∀ i ∈ is, s.Convertible L i.1) {st : Option s.Node} (hst : st.isSome) :
    ((s.process L).final st is).isSome :=
  Machine.final_of_forall _ (p := fun st : Option s.Node => st.isSome = true)
    (fun i hi _ hst => (step_of_convertible (h i hi) hst).2) hst

/-- and without a rate limit it has published all answers. -/
theorem run_eq {s : Service} (hs : s ≠ denRx) {is : List (Msg.BtpDataIndication × s.Env)}
    (h : ∀ i ∈ is, s.Convertible L i.1) {st : Option s.Node} (hst : st.isSome) :
    (s.process L).run st is = is.flatMap fun i => s.answer L i.1 :=
  Machine.run_eq_flatMap_of_invariant _ (p := fun st : Option s.Node => st.isSome = true)
    (fun i hi _ hst =>
      ⟨(step_of_convertible (h i hi) hst).1 hs, (step_of_convertible (h i hi) hst).2⟩) hst

/-- **When a run of a service without a rate limit is safe**, exactly. -/
theorem safeRun_iff {s : Service} (hs : s ≠ denRx) (publish_cooldown_ : ℚ)
    (is : List (Msg.BtpDataIndication × s.Env)) :
    Machine.SafeRun (s.react L) (some (s.started publish_cooldown_)) is ↔
      ∀ i ∈ is, s.Convertible L i.1 := by
  cases s with
  -- the conversion of a CAM follows no pointer without a test
  | caRx =>
    refine (safeRun_onIndication_iff is).trans (forall₂_congr fun i _ => ?_)
    exact iff_of_true (fun _ _ _ => Run.safe_pure _) fun _ _ _ => trivial
  | denRx => exact absurd rfl hs
  | cpRx =>
    refine (safeRun_onIndication_iff is).trans (forall₂_congr fun i _ => ?_)
    exact forall₃_congr fun _ asn1 _ => CpRxNode.convert_safe_iff asn1
  | cpTsRx =>
    refine (safeRun_onIndication_iff is).trans (forall₂_congr fun i _ => ?_)
    exact forall₃_congr fun _ asn1 _ => CpTsRxNode.convert_safe_iff asn1

end Service

end V2xStack
