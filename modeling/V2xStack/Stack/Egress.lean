import V2xStack.Foundation.Network
import V2xStack.Stack.Dispatcher

/-!
# The sending nodes as one system

Three nodes take packets from `udp/out` and hand a datagram to `sendto` for each:
`UDPdispatcher` and `UDPSenderConverter` a data request for the device, `UDPSender` the
packet as it is. `egress` is the network of the three behind the node that publishes the
packets, which is not part of the sources. Their subscriptions keep 20, 10 and 10 messages;
one that gives way to a newer one is lost.

The dispatcher receives between two packets. What its receiving thread does meanwhile is
what it finds around a packet.

The kernel refuses some datagrams, in particular those that are too long for UDP, and the
nodes only log that. Which ones it does not refuse is left open (`sends`), but is taken to
be a matter of the datagram.

`egress_sent` says that the datagrams that a node sends carry those of a sublist of the
packets whose frames are not refused, and all of these when nothing is lost and the node
makes no illegal access. `egress_safe_iff` says when it makes none.
-/

namespace V2xStack

open Wire
open UDPdispatcher (Receiver)
open scoped List

/-! ### The nodes -/

/-- `UDPSender::udp_callback` up to the `sendto` of `send_packet`, whose result is only
logged. -/
def UDPSender.udp_callback (msg : Packet) : Run (Access UdpObject) (List SendEffect) := do
  Run.span .btp 0 msg.data.cells.length msg.data.cells.length
  pure [.sendto msg.data.cells]

/-- `UDPSenderConverter::udp_converter_callback`. -/
def UDPSenderConverter.udp_converter_callback (host : Endian) (msg : Packet) :
    Run (Access UdpObject) (List SendEffect) :=
  UDPSenderConverter.createCohdaBTP host msg.data

def UDPdispatcher.Effect.sendEffect? : UDPdispatcher.Effect → Option SendEffect
  | received _ => none
  | sent e => some e

/-- The packet with its port information cleared. -/
def Packet.withoutInfo (p : Packet) : List UInt8 :=
  p.data.cells.take 2 ++ [0, 0] ++ p.data.cells.drop 4

/-- The subscribers of `udp/out`. -/
inductive Sender
  | udpDispatcher
  | udpSender
  | udpSenderConverter
  deriving DecidableEq, Repr

namespace Sender

/-- What a node holds: the dispatcher its receiving thread. -/
def Node : Sender → Type
  | udpDispatcher => Option Receiver
  | _ => Unit

/-- What a node finds around a packet: the dispatcher the steps of its receiving thread
since the last one, which are returns of `recvfrom` or second publications. -/
def Env : Sender → Type
  | udpDispatcher => List (Option RecvResult)
  | _ => Unit

/-- A step of the receiving thread as an input of the dispatcher. -/
def threadStep : Option RecvResult → UDPdispatcher.Input
  | some r => .recv r
  | none => .forward

/-- The inputs of the dispatcher up to a packet. -/
def inputs (i : Packet × List (Option RecvResult)) : List UDPdispatcher.Input :=
  i.2.map threadStep ++ [.send i.1]

def process (P : Platform) (cfg : Config) :
    (s : Sender) → Machine (Option s.Node) (Packet × s.Env) SendEffect
  | udpDispatcher =>
      ((dispatcherProcess P cfg).select UDPdispatcher.Effect.sendEffect?).batch inputs
  | udpSender => Machine.stateless fun i => UDPSender.udp_callback i.1
  | udpSenderConverter =>
      Machine.stateless fun i => UDPSenderConverter.udp_converter_callback P.host i.1

/-- A node as it is started. -/
def started (buffer : RecvBuffer) : (s : Sender) → s.Node
  | udpDispatcher => some (Receiver.started buffer)
  | udpSender => ()
  | udpSenderConverter => ()

/-- A node that was started makes no illegal access while it takes the packets. -/
def SafeRun (P : Platform) (cfg : Config) (buffer : RecvBuffer) :
    (s : Sender) → List (Packet × s.Env) → Prop
  | udpDispatcher => fun is : List (Packet × List (Option RecvResult)) =>
      Machine.SafeRun (UDPdispatcher.react P cfg) (some (some (Receiver.started buffer)))
        (is.flatMap inputs)
  | udpSender => fun is : List (Packet × Unit) =>
      Machine.SafeRun (Machine.answering fun i : Packet × Unit => UDPSender.udp_callback i.1)
        (some ()) is
  | udpSenderConverter => fun is : List (Packet × Unit) =>
      Machine.SafeRun (Machine.answering fun i : Packet × Unit =>
        UDPSenderConverter.udp_converter_callback P.host i.1) (some ()) is

/-- What a node does for a packet. -/
def effects (host : Endian) (p : Packet) : Sender → List SendEffect
  | udpDispatcher => if 4 ≤ p.data.cells.length then [.sendto (frameOf p.data host)] else []
  | udpSender => [.sendto p.data.cells]
  | udpSenderConverter =>
      if 4 ≤ p.data.cells.length then
        [.publish ⟨"172.16.2.1", frameOf p.data host⟩, .sendto (frameOf p.data host)]
      else
        []

/-- The datagram that the node hands to `sendto` for a packet with a header. -/
def frame (host : Endian) (p : Packet) : Sender → List UInt8
  | udpSender => p.data.cells
  | _ => frameOf p.data host

/-- The packet in a datagram of the node. -/
def carried : Sender → List UInt8 → List UInt8
  | udpSender => id
  | _ => fun frame => (readBtpB frame).serialize

/-- The packet as the node sends it: a data request has no port information. -/
def cleared (p : Packet) : Sender → List UInt8
  | udpSender => p.data.cells
  | udpDispatcher => p.withoutInfo
  | udpSenderConverter => p.withoutInfo

end Sender

/-- The datagram that goes out, if the kernel does not refuse it. -/
def SendEffect.sent? (sends : List UInt8 → Bool) : SendEffect → Option (List UInt8)
  | sendto data => if sends data then some data else none
  | publish _ => none

/-! ### One packet -/

section Step

variable {P : Platform} {cfg : Config} {host : Endian} {s : Sender}
  {sends : List UInt8 → Bool}

/-- `UDPSender` has no packet that it cannot send, -/
theorem udp_callback_outcome (host : Endian) (p : Packet) :
    (UDPSender.udp_callback p).outcome = some (Sender.udpSender.effects host p) := by
  have hsafe : (UDPSender.udp_callback p).Safe := by
    rw [UDPSender.udp_callback, Run.safe_bind, Run.safe_span, Nat.zero_add]
    exact ⟨Nat.le_refl _, fun _ _ => Run.safe_pure _⟩
  exact Run.outcome_of_safe hsafe

/-- and the converter none but those without a header. -/
theorem udp_converter_callback_outcome (host : Endian) (p : Packet) :
    (UDPSenderConverter.udp_converter_callback host p).outcome
      = if 4 ≤ p.data.cells.length then some (Sender.udpSenderConverter.effects host p)
        else none := by
  rw [UDPSenderConverter.udp_converter_callback, UDPSenderConverter.createCohdaBTP,
    Run.outcome_bind, cohdaFrame_outcome]
  -- a shorter packet is read behind its end, and the process ends
  split
  · next h =>
    rw [Option.bind_some, Run.outcome_pure, Sender.effects, if_pos h]
  · rfl

/-- The packets that a node can send: those that make a frame need a header. -/
def Sender.Sendable (s : Sender) (p : Packet) : Prop :=
  s ≠ udpSender → 4 ≤ p.data.cells.length

/-- For a packet that it can send, a node hands over one datagram, which carries it. -/
theorem map_carried_effects (host : Endian) {p : Packet} (h : s.Sendable p) :
    ((s.effects host p).filterMap (SendEffect.sent? sends)).map s.carried
      = ([p].filter fun p => sends (s.frame host p)).map s.cleared := by
  have hone : ((s.effects host p).filterMap (SendEffect.sent? sends))
        = [s.frame host p].filter sends ∧
      s.carried (s.frame host p) = s.cleared p := by
    -- the kernel refuses the datagram, or it does not
    have hsent : ∀ frame : List UInt8,
        [SendEffect.sendto frame].filterMap (SendEffect.sent? sends) = [frame].filter sends := by
      intro frame
      cases hsends : sends frame with
      | true => simp [SendEffect.sent?, hsends]
      | false => simp [SendEffect.sent?, hsends]
    cases s with
    | udpDispatcher =>
      have hlen : 4 ≤ p.data.cells.length := h (by simp)
      rw [Sender.effects, if_pos hlen]
      exact ⟨hsent _, serialize_readBtpB hlen⟩
    | udpSender => exact ⟨hsent _, rfl⟩
    | udpSenderConverter =>
      -- what is published before is no datagram
      have hlen : 4 ≤ p.data.cells.length := h (by simp)
      rw [Sender.effects, if_pos hlen]
      exact ⟨hsent _, serialize_readBtpB hlen⟩
  rw [hone.1]
  cases hsends : sends (s.frame host p) with
  | true => simp [hsends, hone.2]
  | false => simp [hsends]

/-- For another one it hands over nothing. -/
theorem effects_of_not_sendable (host : Endian) {p : Packet} (h : ¬s.Sendable p) :
    s.effects host p = [] := by
  obtain ⟨hs, hlen⟩ := Classical.not_imp.mp h
  cases s with
  | udpDispatcher => exact if_neg hlen
  | udpSender => exact absurd rfl hs
  | udpSenderConverter => exact if_neg hlen

/-- Whatever the packet is, there is no other datagram. -/
theorem map_carried_effects_sublist (host : Endian) (p : Packet) (s : Sender) :
    ((s.effects host p).filterMap (SendEffect.sent? sends)).map s.carried <+
      ([p].filter fun p => sends (s.frame host p)).map s.cleared := by
  by_cases h : s.Sendable p
  · rw [map_carried_effects host h]
  · rw [effects_of_not_sendable host h]
    exact List.nil_sublist _

/-- What the dispatcher sends in reaction to an input. -/
def UDPdispatcher.Input.effects (host : Endian) : UDPdispatcher.Input → List SendEffect
  | .send p => Sender.udpDispatcher.effects host p
  | _ => []

theorem flatMap_effects_inputs (host : Endian) (i : Packet × List (Option RecvResult)) :
    (Sender.inputs i).flatMap (UDPdispatcher.Input.effects host)
      = Sender.udpDispatcher.effects host i.1 := by
  -- the receiving thread hands nothing to the socket
  have hthread : (i.2.map Sender.threadStep).flatMap (UDPdispatcher.Input.effects host) = [] := by
    rw [List.flatMap_map]
    refine List.flatMap_eq_nil_iff.mpr fun r _ => ?_
    cases r with
    | none => rfl
    | some r => rfl
  rw [Sender.inputs, List.flatMap_append, hthread, List.nil_append, List.flatMap_singleton]
  rfl

/-- What the receiving thread does is not sent. -/
theorem filterMap_sendEffect?_received (os : List Output) :
    (os.map UDPdispatcher.Effect.received).filterMap UDPdispatcher.Effect.sendEffect? = [] := by
  rw [List.filterMap_map]
  exact List.filterMap_eq_nil_iff.mpr fun o _ => rfl

/-- The receiving thread sends nothing, and the other one a frame for each packet. -/
theorem filterMap_react {thread : Option Receiver} {i : UDPdispatcher.Input}
    {st : Option (Option Receiver)} {out : List UDPdispatcher.Effect}
    (h : (UDPdispatcher.react P cfg thread i).outcome = some (st, out)) :
    out.filterMap UDPdispatcher.Effect.sendEffect? = i.effects P.host := by
  cases i with
  | send p =>
    rw [react_send] at h
    split at h
    · next hlen =>
      obtain ⟨-, rfl⟩ := Prod.mk.inj (Option.some.inj h)
      exact (if_pos hlen).symm
    · exact absurd h (by simp)
  | forward =>
    cases thread with
    | none =>
      rw [react_forward_none] at h
      obtain ⟨-, rfl⟩ := Prod.mk.inj (Option.some.inj h)
      rfl
    | some t =>
      rw [react_forward] at h
      obtain ⟨-, rfl⟩ := Prod.mk.inj (Option.some.inj h)
      exact filterMap_sendEffect?_received _
  | recv r =>
    cases thread with
    | none =>
      rw [react_recv_none] at h
      obtain ⟨-, rfl⟩ := Prod.mk.inj (Option.some.inj h)
      rfl
    | some t =>
      cases r with
      | error =>
        rw [react_error] at h
        obtain ⟨-, rfl⟩ := Prod.mk.inj (Option.some.inj h)
        exact filterMap_sendEffect?_received _
      | datagram d =>
        -- what a datagram leads to goes to the two topics
        rw [UDPdispatcher.react, Run.outcome_bind] at h
        obtain ⟨received, -, hpure⟩ := Option.bind_eq_some_iff.mp h
        rw [Run.outcome_pure] at hpure
        obtain ⟨-, rfl⟩ := Prod.mk.inj (Option.some.inj hpure)
        exact filterMap_sendEffect?_received _

theorem dispatcher_emit_sublist (st : Option (Option Receiver)) (i : UDPdispatcher.Input) :
    ((dispatcherProcess P cfg).select UDPdispatcher.Effect.sendEffect?).emit st i <+
      i.effects P.host := by
  cases st with
  | none => exact List.nil_sublist _
  | some thread =>
    change ((UDPdispatcher.react P cfg thread i).outcome.elim [] Prod.snd).filterMap _ <+ _
    -- a step that ends the process sends nothing
    cases hout : (UDPdispatcher.react P cfg thread i).outcome with
    | none => exact List.nil_sublist _
    | some step => exact filterMap_react hout ▸ List.Sublist.refl _

theorem converter_outcome_eq {p : Packet} {out : List SendEffect}
    (h : (UDPSenderConverter.udp_converter_callback host p).outcome = some out) :
    out = Sender.udpSenderConverter.effects host p := by
  rw [udp_converter_callback_outcome] at h
  split at h
  · exact (Option.some.inj h).symm
  · exact absurd h (by simp)

theorem sender_outcome_eq {p : Packet} {out : List SendEffect}
    (h : (UDPSender.udp_callback p).outcome = some out) :
    out = Sender.udpSender.effects host p :=
  (Option.some.inj ((udp_callback_outcome host p).symm.trans h)).symm

/-- A node does no more for a packet than it should. -/
theorem Sender.emit_sublist (s : Sender) (st : Option s.Node) (i : Packet × s.Env) :
    (s.process P cfg).emit st i <+ s.effects P.host i.1 := by
  cases s with
  | udpDispatcher =>
    -- the dispatcher takes its own steps before it takes the packet
    have hrun := Machine.run_sublist_flatMap _
      (@dispatcher_emit_sublist P cfg) st (Sender.inputs i)
    exact flatMap_effects_inputs P.host i ▸ hrun
  | udpSender =>
    exact Machine.emit_stateless_sublist
      (fun i : Packet × Unit => Sender.udpSender.effects P.host i.1)
      (fun _ _ hout => sender_outcome_eq hout) st i
  | udpSenderConverter =>
    exact Machine.emit_stateless_sublist
      (fun i : Packet × Unit => Sender.udpSenderConverter.effects P.host i.1)
      (fun _ _ hout => converter_outcome_eq hout) st i

/-- A dispatcher that is followed to the end has handed over a frame for each packet. -/
theorem dispatcher_run_eq {st : Option (Option Receiver)}
    {is : List (Packet × List (Option RecvResult))}
    (hfinal : ((((dispatcherProcess P cfg).select UDPdispatcher.Effect.sendEffect?).batch
      Sender.inputs).final st is).isSome) :
    (((dispatcherProcess P cfg).select UDPdispatcher.Effect.sendEffect?).batch
        Sender.inputs).run st is
      = is.flatMap fun i => Sender.udpDispatcher.effects P.host i.1 := by
  rw [Machine.final_batch, Machine.final_select] at hfinal
  rw [Machine.run_batch, Machine.run_select]
  -- the process is still there, so no step was cut off
  calc ((dispatcherProcess P cfg).run st (is.flatMap Sender.inputs)).filterMap
          UDPdispatcher.Effect.sendEffect?
      = (is.flatMap Sender.inputs).flatMap (UDPdispatcher.Input.effects P.host) :=
        Machine.filterMap_run_process (fun _ _ _ _ h => filterMap_react h) hfinal
    _ = is.flatMap fun i => Sender.udpDispatcher.effects P.host i.1 := by
        rw [List.flatMap_assoc]
        simp only [flatMap_effects_inputs]

/-- A node that is followed to the end has done all of it. -/
theorem Sender.run_eq {s : Sender} {st : Option s.Node} {is : List (Packet × s.Env)}
    (hfinal : ((s.process P cfg).final st is).isSome) :
    (s.process P cfg).run st is = is.flatMap fun i => s.effects P.host i.1 := by
  cases s with
  | udpDispatcher => exact dispatcher_run_eq hfinal
  | udpSender =>
    exact Machine.run_stateless_eq
      (fun i : Packet × Unit => Sender.udpSender.effects P.host i.1)
      (fun _ _ hout => sender_outcome_eq hout) hfinal
  | udpSenderConverter =>
    exact Machine.run_stateless_eq
      (fun i : Packet × Unit => Sender.udpSenderConverter.effects P.host i.1)
      (fun _ _ hout => converter_outcome_eq hout) hfinal

end Step

/-! ### Memory safety -/

section Safety

variable {P : Platform} {cfg : Config} {buffer : RecvBuffer}

theorem converter_safe_iff (is : List (Packet × Unit)) :
    Sender.SafeRun P cfg buffer .udpSenderConverter is ↔
      ∀ i ∈ is, 4 ≤ i.1.data.cells.length := by
  refine (Machine.safeRun_answering_iff is).trans (forall₂_congr fun i _ => ?_)
  rw [← Run.isSome_outcome_iff, udp_converter_callback_outcome]
  split
  · next h => exact iff_of_true rfl h
  · next h => exact iff_of_false (by simp) h

theorem dispatcher_batch_safe_iff (is : List (Packet × List (Option RecvResult))) :
    Sender.SafeRun P cfg buffer .udpDispatcher is ↔
      Harmless P cfg (is.flatMap Sender.inputs) :=
  dispatcher_safe_iff (Receiver.started buffer) _

theorem dispatcher_isSome_final {is : List (Packet × List (Option RecvResult))}
    (h : Sender.SafeRun P cfg buffer .udpDispatcher is) :
    ((((dispatcherProcess P cfg).select UDPdispatcher.Effect.sendEffect?).batch
      Sender.inputs).final (some (some (Receiver.started buffer))) is).isSome := by
  rw [Machine.final_batch, Machine.final_select]
  exact (Machine.safeRun_iff_isSome_final react_perpetual _ _).mp h

variable {s : Sender} {is : List (Packet × s.Env)}

/-- A node that makes no illegal access can be followed to the end. -/
theorem Sender.isSome_final (h : s.SafeRun P cfg buffer is) :
    ((s.process P cfg).final (some (s.started buffer)) is).isSome := by
  cases s with
  | udpDispatcher => exact dispatcher_isSome_final h
  | udpSender => exact (Machine.safeRun_iff_isSome_final Machine.answering_perpetual () is).mp h
  | udpSenderConverter =>
    exact (Machine.safeRun_iff_isSome_final Machine.answering_perpetual () is).mp h

/-- It has taken packets only that it can send. -/
theorem Sender.sendable_of_safeRun (h : s.SafeRun P cfg buffer is) {i : Packet × s.Env}
    (hi : i ∈ is) : s.Sendable i.1 := by
  intro hs
  cases s with
  | udpDispatcher =>
    have hharmless := (dispatcher_batch_safe_iff is).mp h
    refine hharmless.sent i.1 (List.mem_flatMap.mpr ⟨i, hi, ?_⟩)
    exact List.mem_append_right _ (List.mem_singleton.mpr rfl)
  | udpSender => exact absurd rfl hs
  | udpSenderConverter => exact (converter_safe_iff is).mp h i hi

end Safety

/-! ### The network -/

/-- The three nodes behind `udp/out`. -/
def egress (P : Platform) (cfg : Config) :
    Network Sender Unit Packet Packet (fun s => Option s.Node) Sender.Env
      (fun _ => SendEffect) where
  producer := ⟨fun _ _ => (), fun _ p => [p]⟩
  consumer s := s.process P cfg

/-- A step of the network: a packet is published, a node takes one, or one is lost. -/
abbrev EgressStep : Type := Network.Action Sender Packet Sender.Env

/-- The nodes as they are started. -/
def egressStarted (P : Platform) (cfg : Config) (buffer : RecvBuffer) : (egress P cfg).State where
  producer := ()
  link s := ⟨[], some (s.started buffer)⟩

/-- The packets that are published in a schedule. -/
def packetsOut (acts : List EgressStep) : List Packet := acts.filterMap Network.Action.input?

/-- The packets in the datagrams that a node sends in a schedule. -/
def packetsSent (P : Platform) (cfg : Config) (sends : List UInt8 → Bool) (buffer : RecvBuffer)
    (s : Sender) (acts : List EgressStep) : List (List UInt8) :=
  ((((egress P cfg).emitted s).run (egressStarted P cfg buffer) acts).filterMap
    (SendEffect.sent? sends)).map s.carried

section Runs

variable {P : Platform} {cfg : Config} {buffer : RecvBuffer} {s : Sender}
  {sends : List UInt8 → Bool} {acts : List EgressStep}

theorem egress_producer_run (ps : List Packet) : (egress P cfg).producer.run () ps = ps := by
  induction ps with
  | nil => rfl
  | cons p ps ih =>
    change [p] ++ (egress P cfg).producer.run () ps = p :: ps
    rw [ih, List.singleton_append]

/-- A node takes a sublist of the packets. -/
theorem egress_consumed_sublist :
    (((egress P cfg).consumed s).run (egressStarted P cfg buffer) acts).map Prod.fst <+
      packetsOut acts := by
  have hlink := (egress P cfg).consumed_sublist s (egressStarted P cfg buffer) acts
  rw [egress_producer_run] at hlink
  exact (List.sublist_append_left _ _).trans hlink

/-- The packets in the datagrams for a list of packets. -/
theorem map_carried_flatMap_sublist (host : Endian) (s : Sender) (ps : List Packet) :
    ((ps.flatMap fun p => s.effects host p).filterMap (SendEffect.sent? sends)).map s.carried <+
      (ps.filter fun p => sends (s.frame host p)).map s.cleared := by
  induction ps with
  | nil => exact List.Sublist.refl _
  | cons p ps ih =>
    rw [← List.singleton_append, List.filter_append, List.singleton_append, List.flatMap_cons,
      List.filterMap_append, List.map_append, List.map_append]
    exact (map_carried_effects_sublist host p s).append ih

theorem map_carried_flatMap (host : Endian) {ps : List Packet} (h : ∀ p ∈ ps, s.Sendable p) :
    ((ps.flatMap fun p => s.effects host p).filterMap (SendEffect.sent? sends)).map s.carried
      = (ps.filter fun p => sends (s.frame host p)).map s.cleared := by
  -- packet by packet: the socket takes its frame or refuses it
  induction ps with
  | nil => rfl
  | cons p ps ih =>
    rw [List.forall_mem_cons] at h
    rw [← List.singleton_append, List.filter_append, List.singleton_append, List.flatMap_cons,
      List.filterMap_append, List.map_append, List.map_append, map_carried_effects host h.1,
      ih h.2]

/-- **What the senders send.** Whatever the kernel refuses, the datagrams of a node carry in
every run a sublist of the packets whose datagrams are not refused, those of the dispatcher
and of the converter with the port information cleared. They carry all of these, each once,
when no packet to the node is lost, none is left on the way and the node makes no illegal
access. -/
theorem egress_sent (P : Platform) (cfg : Config) (sends : List UInt8 → Bool)
    (buffer : RecvBuffer) (s : Sender) (acts : List EgressStep) :
    packetsSent P cfg sends buffer s acts <+
        ((packetsOut acts).filter fun p => sends (s.frame P.host p)).map s.cleared ∧
      ((∀ i, Network.Action.lose s i ∉ acts) →
        (((egress P cfg).final (egressStarted P cfg buffer) acts).link s).pending = [] →
        s.SafeRun P cfg buffer
          (((egress P cfg).consumed s).run (egressStarted P cfg buffer) acts) →
        packetsSent P cfg sends buffer s acts
          = ((packetsOut acts).filter fun p => sends (s.frame P.host p)).map s.cleared) := by
  let is := ((egress P cfg).consumed s).run (egressStarted P cfg buffer) acts
  have hflat : (is.flatMap fun i => s.effects P.host i.1)
      = (is.map Prod.fst).flatMap fun p => s.effects P.host p := by
    rw [List.flatMap_map]
  rw [packetsSent, Network.run_emitted_eq]
  constructor
  · have hrun := (s.process P cfg).run_sublist_flatMap (@s.emit_sublist P cfg)
      ((egressStarted P cfg buffer).link s).node is
    rw [hflat] at hrun
    calc _ <+ (((is.map Prod.fst).flatMap fun p => s.effects P.host p).filterMap
            (SendEffect.sent? sends)).map s.carried := (hrun.filterMap _).map _
      _ <+ ((is.map Prod.fst).filter fun p => sends (s.frame P.host p)).map s.cleared :=
          map_carried_flatMap_sublist P.host s _
      _ <+ ((packetsOut acts).filter fun p => sends (s.frame P.host p)).map s.cleared :=
          (egress_consumed_sublist.filter _).map _
  · intro hkeeps hread hsafe
    have hall := (egress P cfg).consumed_eq_of_keeps s (egressStarted P cfg buffer) acts hkeeps
    rw [hread, List.append_nil, egress_producer_run] at hall
    -- a safe node has taken packets only that it can send
    have hsendable : ∀ p ∈ is.map Prod.fst, s.Sendable p := by
      intro p hp
      obtain ⟨i, hi, rfl⟩ := List.mem_map.mp hp
      exact Sender.sendable_of_safeRun hsafe hi
    calc (((s.process P cfg).run ((egressStarted P cfg buffer).link s).node is).filterMap
            (SendEffect.sent? sends)).map s.carried
        = (((is.map Prod.fst).flatMap fun p => s.effects P.host p).filterMap
            (SendEffect.sent? sends)).map s.carried := by
          rw [← hflat]
          exact congrArg (fun es => (es.filterMap (SendEffect.sent? sends)).map s.carried)
            (Sender.run_eq (Sender.isSome_final hsafe))
      _ = ((is.map Prod.fst).filter fun p => sends (s.frame P.host p)).map s.cleared :=
          map_carried_flatMap P.host hsendable
      _ = ((packetsOut acts).filter fun p => sends (s.frame P.host p)).map s.cleared :=
          congrArg (fun ps => (ps.filter fun p => sends (s.frame P.host p)).map s.cleared) hall

end Runs

end V2xStack
