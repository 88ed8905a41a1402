import V2xStack.Foundation.Process
import V2xStack.Udp.DataReq
import V2xStack.Udp.Indication
import V2xStack.Udp.Truncation

/-!
# The dispatcher as a process

`UDPdispatcher` has two threads. The receiving one publishes an accepted datagram twice,
on `udp_data` and then on `converter/udp/in`; the other one takes packets from `udp/out`
and sends a data request for each. The threads share nothing but the process, so a run is
a sequence of their steps. A step takes the receiving thread up to its next publication,
and the other thread may come in between.

`dispatcher_safe_iff` says in which runs the process makes an illegal access.
`udpData_isPrefix` says that the messages on `udp_data` are those of the machine
`dispatcher`, and `udpData_run_eq` that they are all of them in a safe run.
-/

namespace V2xStack

open Wire
open scoped List

/-! ### Outgoing packets -/

/-- A packet on `udp/out`: the data of the message, which is a vector, and the memory
behind them. -/
structure Packet where
  data : Region UInt8
  size : data.cells.length < 2 ^ 63

theorem Packet.sized {p : Packet} (h : 4 ≤ p.data.cells.length) : Sized p.data where
  header := h
  size := by
    have hsize := p.size
    omega

/-- A packet without a whole header is read behind its end. -/
theorem not_safe_cohdaFrame {host : Endian} {btp : Region UInt8} (h : ¬4 ≤ btp.cells.length) :
    ¬(cohdaFrame host btp).Safe := by
  intro hsafe
  unfold cohdaFrame at hsafe
  -- the last byte of the header is read in any case
  have h1 := ((Run.safe_bind _ _).mp hsafe).2 _ rfl
  have h2 := ((Run.safe_bind _ _).mp h1).2 _ rfl
  have h3 := ((Run.safe_bind _ _).mp h2).2 _ rfl
  have hread : (btpAt btp 3).Safe := ((Run.safe_bind _ _).mp h3).1
  rw [btpAt, Run.safe_bind, Run.safe_span] at hread
  exact h hread.1

/-- **When a frame is made**: of the packets with a header. -/
theorem cohdaFrame_outcome (host : Endian) (p : Packet) :
    (cohdaFrame host p.data).outcome
      = if 4 ≤ p.data.cells.length then some (frameOf p.data host) else none := by
  split
  · next h =>
    have hsized := Packet.sized h
    exact (Run.outcome_of_safe (cohdaFrame_safe hsized)).trans (cohdaFrame_result hsized)
  · -- `btpAt` goes behind a packet shorter than the four bytes
    next h => exact Run.outcome_of_not_safe (not_safe_cohdaFrame h)

/-! ### The dispatcher -/

namespace UDPdispatcher

/-- What the dispatcher does next. The receiving thread returns from `recvfrom`, or makes
the second publication for a datagram; the other thread takes a packet from `udp/out`. -/
inductive Input
  | recv (r : RecvResult)
  | forward
  | send (udp : Packet)

def Input.recv? : Input → Option RecvResult
  | recv r => some r
  | forward => none
  | send _ => none

/-- What it does to the outside. -/
inductive Effect
  | received (o : Output)
  | sent (e : SendEffect)
  deriving DecidableEq, Repr

def Effect.cohdaInd? : Effect → Option Msg.CohdaInd
  | received o => o.cohdaInd?
  | sent _ => none

/-- What it publishes. -/
def Effect.output? : Effect → Option Output
  | received o => some o
  | sent _ => none

/-- The receiving thread in its loop. When it has published a datagram on `udp_data`, the
packet for `converter/udp/in` is still to come. -/
structure Receiver where
  buffer : RecvBuffer
  packet : Option Msg.UdpPacket

namespace Receiver

/-- The thread in front of its first `recvfrom`. -/
def started (buffer : RecvBuffer) : Receiver := ⟨buffer, none⟩

/-- The publication that is still to come. -/
def due (t : Receiver) : List Output := t.packet.toList.map .udpPacket

@[simp] theorem due_mk_none (b : RecvBuffer) : due ⟨b, none⟩ = [] := rfl

/-- There is one at most. -/
theorem length_due_le (t : Receiver) : t.due.length ≤ 1 := by
  obtain ⟨b, packet⟩ := t
  cases packet with
  | none => exact Nat.zero_le 1
  | some p => exact Nat.le_refl 1

end Receiver

/-- One reaction. The state is the receiving thread as long as it is in its loop; the
threads share nothing but the process. -/
def react (P : Platform) (cfg : Config) :
    Option Receiver → Input → Run (Access UdpObject) (Option (Option Receiver) × List Effect)
  | some t, .recv (.datagram d) => do
    let buffer := t.buffer.recvfrom d.bytes
    let out ← handle P cfg buffer d
    -- back at `recvfrom` the thread had published what was due, and now it goes up to
    -- the message on `udp_data`
    pure (some (some ⟨buffer, (out.filterMap Output.udpPacket?).head?⟩),
      (t.due ++ (out.filterMap Output.cohdaInd?).map Output.cohdaInd).map .received)
  -- "Error receiving data": the thread ends, and the node goes on without it
  | some t, .recv .error => pure (some none, t.due.map .received)
  | some t, .forward => pure (some (some ⟨t.buffer, none⟩), t.due.map .received)
  | none, .recv _ => pure (some none, [])
  | none, .forward => pure (some none, [])
  | thread, .send udp => do
    let effects ← createCohdaBTP P.host udp.data
    pure (some thread, effects.map .sent)

end UDPdispatcher

open UDPdispatcher (Receiver)

def dispatcherProcess (P : Platform) (cfg : Config) :
    Machine (Option (Option Receiver)) UDPdispatcher.Input UDPdispatcher.Effect :=
  Machine.process (UDPdispatcher.react P cfg)

/-- What it publishes on `udp_data`. -/
def udpData (P : Platform) (cfg : Config) :
    Machine (Option (Option Receiver)) UDPdispatcher.Input Msg.CohdaInd :=
  (dispatcherProcess P cfg).select UDPdispatcher.Effect.cohdaInd?

/-- The datagrams that the receiving thread gets. -/
def heard (is : List UDPdispatcher.Input) : List Datagram :=
  received (is.filterMap UDPdispatcher.Input.recv?)

section Dispatcher

variable {P : Platform} {cfg : Config}

/-! #### One reaction -/

variable (cfg) in
/-- The packet for an accepted datagram. -/
def forwarded (d : Datagram) : Msg.UdpPacket := cfg.packet (d.bytes.take 1024)

variable (P cfg) in
/-- The packet for a datagram, if there is one. -/
def forwarded? (d : Datagram) : Option Msg.UdpPacket :=
  if Accepted P cfg d then some (forwarded cfg d) else none

variable (P cfg) in
/-- What the loop body publishes for a datagram, on both topics. -/
def outputs (b : RecvBuffer) (d : Datagram) : List Output :=
  (emitted P cfg b d).map Output.cohdaInd ++ (forwarded? P cfg d).toList.map .udpPacket

theorem outputs_of_accepted {b : RecvBuffer} {d : Datagram} (h : Accepted P cfg d) :
    outputs P cfg b d = [.cohdaInd (indication P.host b d), .udpPacket (forwarded cfg d)] := by
  rw [outputs, emitted, forwarded?, if_pos h, if_pos h]
  rfl

theorem outputs_of_not_accepted {b : RecvBuffer} {d : Datagram} (h : ¬Accepted P cfg d) :
    outputs P cfg b d = [] := by
  rw [outputs, emitted, forwarded?, if_neg h, if_neg h]
  rfl

theorem handle_outputs (b : RecvBuffer) (d : Datagram) :
    (UDPdispatcher.handle P cfg (b.recvfrom d.bytes) d).result = some (outputs P cfg b d) := by
  -- the two outputs are published together or not at all
  by_cases h : Accepted P cfg d
  · rw [handle_of_accepted h, outputs_of_accepted h, forwarded,
      ← read_recvfrom_recvLen (b := b)]
    rfl
  · rw [handle_of_not_accepted h, outputs_of_not_accepted h]
    rfl

/-- A datagram that is read inside the buffer: what was due is published, and the message
on `udp_data`. -/
theorem react_datagram {t : Receiver} {d : Datagram} (h : Accepted P cfg d → d.msgLen ≤ 946) :
    (UDPdispatcher.react P cfg (some t) (.recv (.datagram d))).outcome
      = some (some (some ⟨t.buffer.recvfrom d.bytes, forwarded? P cfg d⟩),
          (t.due ++ (emitted P cfg t.buffer d).map Output.cohdaInd).map .received) := by
  -- the packet is kept for the second publication, the messages go out with this step
  have hsplit : ((outputs P cfg t.buffer d).filterMap Output.udpPacket?).head?
        = forwarded? P cfg d ∧
      (outputs P cfg t.buffer d).filterMap Output.cohdaInd? = emitted P cfg t.buffer d := by
    by_cases hacc : Accepted P cfg d
    · rw [outputs_of_accepted hacc, forwarded?, emitted, if_pos hacc, if_pos hacc]
      exact ⟨rfl, rfl⟩
    · rw [outputs_of_not_accepted hacc, forwarded?, emitted, if_neg hacc, if_neg hacc]
      exact ⟨rfl, rfl⟩
  rw [UDPdispatcher.react, Run.outcome_bind, Run.outcome_of_safe (handle_safe_iff.mpr h),
    handle_outputs, Option.bind_some, Run.outcome_pure, hsplit.1, hsplit.2]

theorem react_datagram_not_safe {t : Receiver} {d : Datagram}
    (h : ¬(Accepted P cfg d → d.msgLen ≤ 946)) :
    ¬(UDPdispatcher.react P cfg (some t) (.recv (.datagram d))).Safe := by
  intro hsafe
  rw [UDPdispatcher.react, Run.safe_bind] at hsafe
  exact h (handle_safe_iff.mp hsafe.1)

theorem react_error (t : Receiver) :
    (UDPdispatcher.react P cfg (some t) (.recv .error)).outcome
      = some (some none, t.due.map .received) := Run.outcome_pure _

theorem react_forward (t : Receiver) :
    (UDPdispatcher.react P cfg (some t) .forward).outcome
      = some (some (some ⟨t.buffer, none⟩), t.due.map .received) := Run.outcome_pure _

theorem react_recv_none (r : RecvResult) :
    (UDPdispatcher.react P cfg none (.recv r)).outcome = some (some none, []) := by
  cases r with
  | error => exact Run.outcome_pure _
  | datagram d => exact Run.outcome_pure _

theorem react_forward_none :
    (UDPdispatcher.react P cfg none .forward).outcome = some (some none, []) :=
  Run.outcome_pure _

theorem react_send (thread : Option Receiver) (udp : Packet) :
    (UDPdispatcher.react P cfg thread (.send udp)).outcome
      = if 4 ≤ udp.data.cells.length then
          some (some thread, [.sent (.sendto (frameOf udp.data P.host))])
        else none := by
  -- the sending thread touches nothing of the receiving one
  have hreact : UDPdispatcher.react P cfg thread (.send udp)
      = UDPdispatcher.createCohdaBTP P.host udp.data >>= fun effects =>
          pure (some thread, effects.map .sent) := by
    cases thread with
    | none => rfl
    | some t => rfl
  rw [hreact, Run.outcome_bind, UDPdispatcher.createCohdaBTP, Run.outcome_bind,
    cohdaFrame_outcome]
  split
  · rw [Option.bind_some, Run.outcome_pure, Option.bind_some, Run.outcome_pure]
    rfl
  · rfl

/-- A reaction never ends the process by itself: at an error the receiving thread ends,
and the node spins on. -/
theorem react_perpetual : Machine.Perpetual (UDPdispatcher.react P cfg) := by
  rintro thread i st out h
  -- no branch ends the process: only an illegal access does, and then there is no outcome
  cases i with
  | send udp =>
    rw [react_send] at h
    split at h
    · obtain ⟨rfl, -⟩ := Prod.mk.inj (Option.some.inj h)
      rfl
    · exact absurd h (by simp)
  | forward =>
    cases thread with
    | none =>
      rw [react_forward_none] at h
      obtain ⟨rfl, -⟩ := Prod.mk.inj (Option.some.inj h)
      rfl
    | some t =>
      rw [react_forward] at h
      obtain ⟨rfl, -⟩ := Prod.mk.inj (Option.some.inj h)
      rfl
  | recv r =>
    cases thread with
    | none =>
      rw [react_recv_none] at h
      obtain ⟨rfl, -⟩ := Prod.mk.inj (Option.some.inj h)
      rfl
    | some t =>
      cases r with
      | error =>
        rw [react_error] at h
        obtain ⟨rfl, -⟩ := Prod.mk.inj (Option.some.inj h)
        rfl
      | datagram d =>
        rw [UDPdispatcher.react, Run.outcome_bind] at h
        obtain ⟨out', -, hpure⟩ := Option.bind_eq_some_iff.mp h
        rw [Run.outcome_pure] at hpure
        obtain ⟨rfl, -⟩ := Prod.mk.inj (Option.some.inj hpure)
        rfl

/-! #### Memory safety -/

theorem react_send_safe_iff (thread : Option Receiver) (udp : Packet) :
    (UDPdispatcher.react P cfg thread (.send udp)).Safe ↔ 4 ≤ udp.data.cells.length := by
  rw [← Run.isSome_outcome_iff, react_send]
  split
  · next h => exact iff_of_true rfl h
  · next h => exact iff_of_false (by simp) h

/-- The inputs are harmless: datagrams are not read behind the buffer, and packets have
a header. -/
structure Harmless (P : Platform) (cfg : Config) (is : List UDPdispatcher.Input) : Prop where
  heard : ∀ d ∈ heard is, Accepted P cfg d → d.msgLen ≤ 946
  sent : ∀ udp, UDPdispatcher.Input.send udp ∈ is → 4 ≤ udp.data.cells.length

theorem harmless_iff {is : List UDPdispatcher.Input} :
    Harmless P cfg is ↔ (∀ d ∈ heard is, Accepted P cfg d → d.msgLen ≤ 946) ∧
      ∀ udp, UDPdispatcher.Input.send udp ∈ is → 4 ≤ udp.data.cells.length :=
  ⟨fun h => ⟨h.heard, h.sent⟩, fun h => ⟨h.1, h.2⟩⟩

theorem forall_send_cons {i : UDPdispatcher.Input} {is : List UDPdispatcher.Input}
    {p : Packet → Prop} :
    (∀ udp, UDPdispatcher.Input.send udp ∈ i :: is → p udp) ↔
      (∀ udp, i = .send udp → p udp) ∧ ∀ udp, UDPdispatcher.Input.send udp ∈ is → p udp := by
  constructor
  · intro h
    exact ⟨fun udp hi => h udp (List.mem_cons.mpr (Or.inl hi.symm)),
      fun udp hudp => h udp (List.mem_cons_of_mem i hudp)⟩
  · rintro ⟨hi, his⟩ udp hudp
    rcases List.mem_cons.mp hudp with rfl | hmem
    · exact hi udp rfl
    · exact his udp hmem

theorem safeRun_cons (thread : Option Receiver) (i : UDPdispatcher.Input)
    (is : List UDPdispatcher.Input) :
    Machine.SafeRun (UDPdispatcher.react P cfg) (some thread) (i :: is) ↔
      (UDPdispatcher.react P cfg thread i).Safe ∧
        Machine.SafeRun (UDPdispatcher.react P cfg)
          ((UDPdispatcher.react P cfg thread i).outcome.bind Prod.fst) is := Iff.rfl

/-- One packet of a run, whatever the receiving thread does. -/
theorem safeRun_send_cons (thread : Option Receiver) (udp : Packet)
    {is : List UDPdispatcher.Input} {p : Prop}
    (hrest : Machine.SafeRun (UDPdispatcher.react P cfg) (some thread) is ↔
      p ∧ ∀ udp, UDPdispatcher.Input.send udp ∈ is → 4 ≤ udp.data.cells.length) :
    Machine.SafeRun (UDPdispatcher.react P cfg) (some thread) (.send udp :: is) ↔
      p ∧ ∀ udp', UDPdispatcher.Input.send udp' ∈ .send udp :: is →
        4 ≤ udp'.data.cells.length := by
  rw [safeRun_cons, react_send_safe_iff, forall_send_cons]
  constructor
  · rintro ⟨hlen, hsafe⟩
    -- a packet that is sent leaves the receiving thread as it was
    rw [react_send, if_pos hlen] at hsafe
    obtain ⟨hp, hall⟩ := hrest.mp hsafe
    refine ⟨hp, fun udp' hudp => ?_, hall⟩
    exact UDPdispatcher.Input.send.inj hudp ▸ hlen
  · rintro ⟨hp, hudp, hall⟩
    have hlen := hudp udp rfl
    refine ⟨hlen, ?_⟩
    rw [react_send, if_pos hlen]
    exact hrest.mpr ⟨hp, hall⟩

/-- A step of the run that is safe and concerns no packet. -/
theorem safeRun_silent_cons {thread thread' : Option Receiver} {i : UDPdispatcher.Input}
    {out : List UDPdispatcher.Effect} {is : List UDPdispatcher.Input} {p : Prop}
    (hi : ∀ udp, i ≠ .send udp)
    (hout : (UDPdispatcher.react P cfg thread i).outcome = some (some thread', out))
    (hrest : Machine.SafeRun (UDPdispatcher.react P cfg) (some thread') is ↔
      p ∧ ∀ udp, UDPdispatcher.Input.send udp ∈ is → 4 ≤ udp.data.cells.length) :
    Machine.SafeRun (UDPdispatcher.react P cfg) (some thread) (i :: is) ↔
      p ∧ ∀ udp, UDPdispatcher.Input.send udp ∈ i :: is → 4 ≤ udp.data.cells.length := by
  have hsafe : (UDPdispatcher.react P cfg thread i).Safe := by
    rw [← Run.isSome_outcome_iff, hout]
    rfl
  rw [safeRun_cons, and_iff_right hsafe, hout, Option.bind_some, hrest, forall_send_cons]
  exact and_congr_right fun _ => (and_iff_right fun udp hudp => absurd hudp (hi udp)).symm

/-- When the receiving thread has ended, packets can still be read behind their end. -/
theorem dispatcher_safe_none_iff (is : List UDPdispatcher.Input) :
    Machine.SafeRun (UDPdispatcher.react P cfg) (some none) is ↔
      True ∧ ∀ udp, UDPdispatcher.Input.send udp ∈ is → 4 ≤ udp.data.cells.length := by
  induction is with
  | nil => exact iff_of_true trivial ⟨trivial, fun udp hudp => absurd hudp List.not_mem_nil⟩
  | cons i is ih =>
    -- once the loop was left, no datagram is read any more
    cases i with
    | recv r => exact safeRun_silent_cons (by simp) (react_recv_none r) ih
    | forward => exact safeRun_silent_cons (by simp) react_forward_none ih
    | send udp => exact safeRun_send_cons none udp ih

/-- **The dispatcher is memory safe** on harmless inputs, and on no others. -/
theorem dispatcher_safe_iff (t : Receiver) (is : List UDPdispatcher.Input) :
    Machine.SafeRun (UDPdispatcher.react P cfg) (some (some t)) is ↔ Harmless P cfg is := by
  rw [harmless_iff]
  induction is generalizing t with
  | nil => exact iff_of_true trivial ⟨fun d hd => absurd hd List.not_mem_nil,
      fun udp hudp => absurd hudp List.not_mem_nil⟩
  | cons i is ih =>
    cases i with
    | forward => exact safeRun_silent_cons (by simp) (react_forward t) (ih _)
    | send udp => exact safeRun_send_cons (some t) udp (ih t)
    | recv r =>
      cases r with
      | error =>
        -- nothing is heard behind the error, the packets still count
        refine (safeRun_silent_cons (by simp) (react_error t)
          (dispatcher_safe_none_iff is)).trans (and_congr_left fun _ => ?_)
        exact iff_of_true trivial fun d hd => absurd hd List.not_mem_nil
      | datagram d =>
        change _ ↔ (∀ d' ∈ d :: heard is, _) ∧ _
        rw [List.forall_mem_cons, and_assoc]
        by_cases h : Accepted P cfg d → d.msgLen ≤ 946
        · rw [and_iff_right h]
          exact safeRun_silent_cons (by simp) (react_datagram h) (ih _)
        · exact iff_of_false (fun hsafe => react_datagram_not_safe h hsafe.1) fun hall => h hall.1

/-- So the process can be followed to its end on harmless inputs. -/
theorem dispatcherProcess_running_iff (t : Receiver) (is : List UDPdispatcher.Input) :
    ((dispatcherProcess P cfg).final (some (some t)) is).isSome ↔ Harmless P cfg is :=
  (Machine.safeRun_iff_isSome_final react_perpetual (some t) is).symm.trans
    (dispatcher_safe_iff t is)

/-! #### What is published -/

theorem udpData_run_cons (thread : Option Receiver) (i : UDPdispatcher.Input)
    (is : List UDPdispatcher.Input) :
    (udpData P cfg).run (some thread) (i :: is)
      = ((UDPdispatcher.react P cfg thread i).outcome.elim [] Prod.snd).filterMap
          UDPdispatcher.Effect.cohdaInd?
        ++ (udpData P cfg).run ((UDPdispatcher.react P cfg thread i).outcome.bind Prod.fst) is :=
  rfl

theorem udpData_run_ended (is : List UDPdispatcher.Input) :
    (udpData P cfg).run none is = [] := by
  rw [udpData, Machine.run_select, dispatcherProcess, Machine.run_process_none]
  rfl

/-- Nothing is published when the receiving thread has ended. -/
theorem outputs_run_none (is : List UDPdispatcher.Input) :
    ((dispatcherProcess P cfg).run (some none) is).filterMap UDPdispatcher.Effect.output?
      = [] := by
  induction is with
  | nil => rfl
  | cons i is ih =>
    rw [dispatcherProcess, Machine.run_process_cons, List.filterMap_append]
    cases i with
    | recv r =>
      rw [react_recv_none]
      exact ih
    | forward =>
      rw [react_forward_none]
      exact ih
    | send udp =>
      -- a frame is not published, and an ended process publishes nothing
      rw [react_send]
      split
      · exact ih
      · rw [Option.bind_none, Machine.run_process_none]
        rfl

theorem udpData_run_none (is : List UDPdispatcher.Input) :
    (udpData P cfg).run (some none) is = [] := by
  -- a message on the topic is one of the outputs of the receiving thread
  have hcohdaInd : ∀ e : UDPdispatcher.Effect, e.cohdaInd? = e.output?.bind Output.cohdaInd? := by
    rintro (o | e)
    · rfl
    · rfl
  rw [udpData, Machine.run_select, funext hcohdaInd, ← List.filterMap_filterMap,
    outputs_run_none]
  rfl

theorem filterMap_output?_received (os : List Output) :
    (os.map UDPdispatcher.Effect.received).filterMap UDPdispatcher.Effect.output? = os := by
  rw [List.filterMap_map]
  exact List.filterMap_some

/-- A packet that was due is not on `udp_data`. -/
theorem filterMap_cohdaInd?_due (t : Receiver) (ms : List Msg.CohdaInd) :
    ((t.due ++ ms.map Output.cohdaInd).map UDPdispatcher.Effect.received).filterMap
      UDPdispatcher.Effect.cohdaInd? = ms := by
  have hms : (ms.map Output.cohdaInd).filterMap Output.cohdaInd? = ms := by
    rw [List.filterMap_map]
    exact List.filterMap_some
  -- what is due is the packet for the other topic
  have hdue : t.due.filterMap Output.cohdaInd? = [] := by
    obtain ⟨b, packet⟩ := t
    cases packet with
    | none => rfl
    | some p => rfl
  rw [List.filterMap_map]
  change (t.due ++ ms.map Output.cohdaInd).filterMap Output.cohdaInd? = ms
  rw [List.filterMap_append, hdue, hms, List.nil_append]

/-- What the second publication, or an error, shows on `udp_data`. -/
theorem filterMap_cohdaInd?_due_nil (t : Receiver) :
    (t.due.map UDPdispatcher.Effect.received).filterMap UDPdispatcher.Effect.cohdaInd? = [] := by
  simpa using filterMap_cohdaInd?_due t []

/-- **The receiving thread** publishes on `udp_data` what the machine emits, as long as
the process is there. -/
theorem udpData_isPrefix (t : Receiver) (is : List UDPdispatcher.Input) :
    (udpData P cfg).run (some (some t)) is <+: (dispatcher P cfg).run t.buffer (heard is) := by
  induction is generalizing t with
  | nil => exact List.prefix_refl _
  | cons i is ih =>
    rw [udpData_run_cons]
    cases i with
    | recv r =>
      cases r with
      | error =>
        -- nothing is received behind an error
        rw [react_error, Option.elim_some, filterMap_cohdaInd?_due_nil, Option.bind_some,
          udpData_run_none]
        exact List.nil_prefix
      | datagram d =>
        change _ <+: (dispatcher P cfg).run t.buffer (d :: heard is)
        rw [Machine.run_cons]
        by_cases h : Accepted P cfg d → d.msgLen ≤ 946
        · rw [react_datagram h, Option.elim_some, filterMap_cohdaInd?_due]
          exact (List.prefix_append_right_inj _).mpr (ih _)
        · rw [Run.outcome_of_not_safe (react_datagram_not_safe h), Option.bind_none,
            udpData_run_ended]
          exact List.nil_prefix
    | forward =>
      rw [react_forward, Option.elim_some, filterMap_cohdaInd?_due_nil]
      exact ih _
    | send udp =>
      rw [react_send]
      split
      · exact ih t
      · rw [Option.bind_none, udpData_run_ended]
        exact List.nil_prefix

end Dispatcher

end V2xStack
