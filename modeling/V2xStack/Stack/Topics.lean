import V2xStack.Stack.Dispatcher

/-!
# The topics of the dispatcher

What the dispatcher publishes on both of its topics, step by step.

`dispatcher_topics` says that the two topics keep together: the messages and the packets
are pairs, whatever the other thread does between the two publications of a pair; only the
last packet may still be to come. `initializeLoop_process` says that the steps of the
process make up the receive loop as it is coded.
-/

namespace V2xStack

open UDPdispatcher (Receiver)
open scoped List

section Topics

variable {P : Platform} {cfg : Config}

/-! ### Pairs -/

/-- The two messages for a datagram: its indication, with the receive buffer in some
state, and a packet with what the buffer takes of it. -/
def Reports (P : Platform) (cfg : Config) (d : Datagram) (out : List Output) : Prop :=
  ∃ b, out = [.cohdaInd (indication P.host b d), .udpPacket (forwarded cfg d)]

variable (P cfg) in
/-- What was due, and then the two messages for each of the datagrams, are published; but
the last packet may still be to come. -/
def Paired (due published : List Output) (ds : List Datagram) : Prop :=
  ∃ outs missing, List.Forall₂ (Reports P cfg) ds outs ∧
    published ++ missing = due ++ outs.flatten ∧ missing.length ≤ 1

/-- Before anything is published what is due is missing. -/
theorem paired_nil (t : Receiver) : Paired P cfg t.due [] [] :=
  ⟨[], t.due, List.Forall₂.nil, (List.append_nil _).symm, t.length_due_le⟩

/-- The second publication. -/
theorem Paired.publish_due {published : List Output} {ds : List Datagram}
    (h : Paired P cfg [] published ds) (due : List Output) :
    Paired P cfg due (due ++ published) ds := by
  obtain ⟨outs, missing, hreports, hpublished, hmissing⟩ := h
  refine ⟨outs, missing, hreports, ?_, hmissing⟩
  rw [List.append_assoc, hpublished, List.nil_append]

/-- The first one. The packet that is due from now on completes the pair. -/
theorem Paired.publish_message {published : List Output} {ds : List Datagram} {d : Datagram}
    (h : Paired P cfg [.udpPacket (forwarded cfg d)] published ds) (due : List Output)
    (b : RecvBuffer) :
    Paired P cfg due (due ++ .cohdaInd (indication P.host b d) :: published) (d :: ds) := by
  obtain ⟨outs, missing, hreports, hpublished, hmissing⟩ := h
  -- the packet still to come is the second half of the new pair
  refine ⟨_, missing, List.Forall₂.cons ⟨b, rfl⟩ hreports, ?_, hmissing⟩
  rw [List.append_assoc, List.cons_append, hpublished, List.flatten_cons]
  rfl

theorem accepted_heard_cons (d : Datagram) (is : List UDPdispatcher.Input) :
    accepted P cfg (heard (.recv (.datagram d) :: is))
      = if Accepted P cfg d then d :: accepted P cfg (heard is)
        else accepted P cfg (heard is) := by
  change (d :: heard is).filter _ = _
  rw [List.filter_cons]
  simp only [decide_eq_true_eq]
  rfl

theorem final_cons (thread : Option Receiver) (i : UDPdispatcher.Input)
    (is : List UDPdispatcher.Input) :
    (dispatcherProcess P cfg).final (some thread) (i :: is)
      = (dispatcherProcess P cfg).final
          ((UDPdispatcher.react P cfg thread i).outcome.bind Prod.fst) is := rfl

/-- One step of the topics, if the process goes on. -/
theorem outputs_run_cons {thread : Option Receiver} {i : UDPdispatcher.Input}
    {st : Option (Option Receiver)} {os : List Output}
    (h : (UDPdispatcher.react P cfg thread i).outcome = some (st, os.map .received))
    (is : List UDPdispatcher.Input) :
    ((dispatcherProcess P cfg).run (some thread) (i :: is)).filterMap
          UDPdispatcher.Effect.output?
        = os ++ ((dispatcherProcess P cfg).run st is).filterMap UDPdispatcher.Effect.output? ∧
      (dispatcherProcess P cfg).final (some thread) (i :: is)
        = (dispatcherProcess P cfg).final st is := by
  rw [final_cons, dispatcherProcess, Machine.run_process_cons, h, Option.elim_some,
    Option.bind_some, List.filterMap_append, filterMap_output?_received]
  exact ⟨rfl, rfl⟩

/-- And if it is not followed any further. -/
theorem outputs_run_cons_none {thread : Option Receiver} {i : UDPdispatcher.Input}
    (h : (UDPdispatcher.react P cfg thread i).outcome = none) (is : List UDPdispatcher.Input) :
    ((dispatcherProcess P cfg).run (some thread) (i :: is)).filterMap
          UDPdispatcher.Effect.output? = [] ∧
      ¬((dispatcherProcess P cfg).final (some thread) (i :: is)).isSome := by
  -- an illegal access leaves no step to take and nothing published
  rw [final_cons, dispatcherProcess, Machine.run_process_cons, h, Option.bind_none,
    Machine.run_process_none, Machine.final_process_none]
  exact ⟨rfl, by simp⟩

/-- The topics from any state of the receiving thread. -/
theorem dispatcher_topics_from (t : Receiver) (is : List UDPdispatcher.Input) :
    ∃ ds, ds <+: accepted P cfg (heard is) ∧
      Paired P cfg t.due (((dispatcherProcess P cfg).run (some (some t)) is).filterMap
        UDPdispatcher.Effect.output?) ds ∧
      (((dispatcherProcess P cfg).final (some (some t)) is).isSome →
        ds = accepted P cfg (heard is)) := by
  induction is generalizing t with
  | nil => exact ⟨[], List.prefix_refl _, paired_nil t, fun _ => rfl⟩
  | cons i is ih =>
    -- a step in which the process ends leaves the topics as they are
    have hended : (UDPdispatcher.react P cfg (some t) i).outcome = none →
        ∃ ds, ds <+: accepted P cfg (heard (i :: is)) ∧
          Paired P cfg t.due (((dispatcherProcess P cfg).run (some (some t))
            (i :: is)).filterMap UDPdispatcher.Effect.output?) ds ∧
          (((dispatcherProcess P cfg).final (some (some t)) (i :: is)).isSome →
            ds = accepted P cfg (heard (i :: is))) := by
      intro hnone
      obtain ⟨hrun, hfinal⟩ := outputs_run_cons_none hnone is
      rw [hrun]
      exact ⟨[], List.nil_prefix, paired_nil t, fun hsome => absurd hsome hfinal⟩
    cases i with
    | recv r =>
      cases r with
      | error =>
        -- what was due is published, and then the thread is gone
        obtain ⟨hrun, -⟩ := outputs_run_cons (react_error t) is
        rw [outputs_run_none] at hrun
        rw [hrun]
        exact ⟨[], List.nil_prefix,
          Paired.publish_due ⟨[], [], List.Forall₂.nil, rfl, Nat.zero_le 1⟩ t.due, fun _ => rfl⟩
      | datagram d =>
        by_cases h : Accepted P cfg d → d.msgLen ≤ 946
        · obtain ⟨hrun, hfinal⟩ := outputs_run_cons (react_datagram (t := t) h) is
          rw [hrun, hfinal, accepted_heard_cons]
          by_cases hacc : Accepted P cfg d
          · rw [emitted, forwarded?, if_pos hacc, if_pos hacc, if_pos hacc]
            obtain ⟨ds, hprefix, hpaired, hall⟩ :=
              ih ⟨t.buffer.recvfrom d.bytes, some (forwarded cfg d)⟩
            refine ⟨d :: ds, List.cons_prefix_cons.mpr ⟨rfl, hprefix⟩, ?_,
              fun hsome => congrArg _ (hall hsome)⟩
            rw [List.append_assoc]
            exact hpaired.publish_message t.due t.buffer
          · -- a datagram that is not accepted leads to no message
            rw [emitted, forwarded?, if_neg hacc, if_neg hacc, if_neg hacc, List.map_nil,
              List.append_nil]
            obtain ⟨ds, hprefix, hpaired, hall⟩ := ih ⟨t.buffer.recvfrom d.bytes, none⟩
            exact ⟨ds, hprefix, hpaired.publish_due t.due, hall⟩
        · exact hended (Run.outcome_of_not_safe (react_datagram_not_safe h))
    | forward =>
      obtain ⟨ds, hprefix, hpaired, hall⟩ := ih ⟨t.buffer, none⟩
      obtain ⟨hrun, hfinal⟩ := outputs_run_cons (react_forward t) is
      rw [hrun, hfinal]
      exact ⟨ds, hprefix, hpaired.publish_due t.due, hall⟩
    | send udp =>
      by_cases h : 4 ≤ udp.data.cells.length
      · -- a frame is not on the topics
        have hreact := (@react_send P cfg (some t) udp).trans (if_pos h)
        rw [final_cons, dispatcherProcess, Machine.run_process_cons, hreact]
        exact ih t
      · exact hended ((react_send (some t) udp).trans (if_neg h))

/-- **The topics keep together.** Whatever the threads are given and in whatever order, the
messages on `udp_data` and the packets on `converter/udp/in` are pairs, one pair for each
of the first accepted datagrams, but for the last packet, which may still be to come. If
the process can be followed to the end, no accepted datagram is left out. -/
theorem dispatcher_topics (P : Platform) (cfg : Config) (b : RecvBuffer)
    (is : List UDPdispatcher.Input) :
    ∃ ds outs missing, ds <+: accepted P cfg (heard is) ∧ List.Forall₂ (Reports P cfg) ds outs ∧
      ((dispatcherProcess P cfg).run (some (some (Receiver.started b))) is).filterMap
          UDPdispatcher.Effect.output? ++ missing = outs.flatten ∧
      missing.length ≤ 1 ∧
      (((dispatcherProcess P cfg).final (some (some (Receiver.started b))) is).isSome →
        ds = accepted P cfg (heard is)) := by
  obtain ⟨ds, hprefix, ⟨outs, missing, hreports, hpublished, hmissing⟩, hall⟩ :=
    @dispatcher_topics_from P cfg (Receiver.started b) is
  exact ⟨ds, outs, missing, hprefix, hreports, hpublished, hmissing, hall⟩

/-! ### The loop -/

theorem dispatcherProcess_run_none (rs : List RecvResult) :
    (dispatcherProcess P cfg).run (some none) (rs.map .recv ++ [.forward]) = [] := by
  -- after the loop neither a datagram nor the second publication has an effect
  induction rs with
  | nil =>
    change ((UDPdispatcher.react P cfg none .forward).outcome.elim [] Prod.snd) ++ [] = []
    rw [react_forward_none]
    rfl
  | cons r rs ih =>
    rw [List.map_cons, List.cons_append, dispatcherProcess, Machine.run_process_cons,
      react_recv_none]
    exact ih

/-- A run of the loop that stays inside the buffer does what the process does, behind what
was due. -/
theorem initializeLoop_result {t : Receiver} {rs : List RecvResult}
    (h : ∀ d ∈ received rs, Accepted P cfg d → d.msgLen ≤ 946) :
    ∃ out, (UDPdispatcher.initializeLoop P cfg t.buffer rs).result = some out ∧
      (dispatcherProcess P cfg).run (some (some t)) (rs.map .recv ++ [.forward])
        = (t.due ++ out).map .received := by
  induction rs generalizing t with
  | nil =>
    refine ⟨[], rfl, ?_⟩
    change ((UDPdispatcher.react P cfg (some t) .forward).outcome.elim [] Prod.snd) ++ [] = _
    rw [react_forward, List.append_nil, List.append_nil]
    rfl
  | cons r rs ih =>
    rw [List.map_cons, List.cons_append, dispatcherProcess, Machine.run_process_cons]
    cases r with
    | error =>
      refine ⟨[], rfl, ?_⟩
      rw [react_error, List.append_nil]
      exact (congrArg _ (dispatcherProcess_run_none rs)).trans (List.append_nil _)
    | datagram d =>
      rw [received, List.forall_mem_cons] at h
      obtain ⟨later, hlater, hrun⟩ :=
        ih (t := ⟨t.buffer.recvfrom d.bytes, forwarded? P cfg d⟩) h.2
      refine ⟨outputs P cfg t.buffer d ++ later, ?_, ?_⟩
      · rw [UDPdispatcher.initializeLoop, Run.result_bind, handle_outputs, Option.bind_some,
          Run.result_bind, hlater, Option.bind_some, Run.result_pure]
      · -- the message comes in this step, and the packet is due in the next one
        rw [react_datagram h.1]
        refine (congrArg _ hrun).trans ?_
        rw [Option.elim_some, ← List.map_append, outputs, List.append_assoc, List.append_assoc]
        rfl

theorem heard_map_recv (rs : List RecvResult) :
    heard (rs.map .recv ++ [.forward]) = received rs := by
  rw [heard, List.filterMap_append, List.filterMap_map]
  exact congrArg received ((List.append_nil _).trans List.filterMap_some)

/-- **The loop is the process.** With the same returns of `recvfrom`, and with the last
packet forwarded, the loop comes through if and only if the process is there in the end,
and then it has published the same on both topics. -/
theorem initializeLoop_process (P : Platform) (cfg : Config) (b : RecvBuffer)
    (rs : List RecvResult) :
    (UDPdispatcher.initializeLoop P cfg b rs).outcome.map (List.map UDPdispatcher.Effect.received)
      = ((dispatcherProcess P cfg).final (some (some (Receiver.started b)))
            (rs.map .recv ++ [.forward])).map fun _ =>
          (dispatcherProcess P cfg).run (some (some (Receiver.started b)))
            (rs.map .recv ++ [.forward]) := by
  have hsend : ∀ udp, UDPdispatcher.Input.send udp ∈ rs.map UDPdispatcher.Input.recv ++ [.forward] →
      4 ≤ udp.data.cells.length := by
    intro udp hudp
    rcases List.mem_append.mp hudp with hrecv | hforward
    · obtain ⟨r, -, hr⟩ := List.mem_map.mp hrecv
      exact absurd hr (by simp)
    · exact absurd (List.mem_singleton.mp hforward) (by simp)
  -- with no packet to be sent, only the datagrams decide on both sides
  have hrunning :=
    @dispatcherProcess_running_iff P cfg (Receiver.started b) (rs.map .recv ++ [.forward])
  rw [harmless_iff, heard_map_recv, and_iff_left hsend] at hrunning
  by_cases h : ∀ d ∈ received rs, Accepted P cfg d → d.msgLen ≤ 946
  · obtain ⟨out, hout, hrun⟩ := initializeLoop_result (t := Receiver.started b) h
    obtain ⟨st, hst⟩ := Option.isSome_iff_exists.mp (hrunning.mpr h)
    have hloop : (UDPdispatcher.initializeLoop P cfg b rs).result = some out := hout
    rw [Run.outcome_of_safe ((initializeLoop_safe_iff b rs).mpr h), hloop, hst, hrun]
    rfl
  · have hended := Option.not_isSome_iff_eq_none.mp (mt hrunning.mp h)
    rw [Run.outcome_of_not_safe (mt (initializeLoop_safe_iff b rs).mp h), hended]
    rfl

end Topics

end V2xStack
