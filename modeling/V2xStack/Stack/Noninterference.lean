import V2xStack.Foundation.Relation
import V2xStack.Stack.Network

/-!
# Noninterference of the stack

Everything that reaches the port goes through the receive buffer, and what is left there
is delivered behind the payloads of later datagrams. So the indications depend on the
buffer and on datagrams from other senders. What the services publish does not, as long as
the device's datagrams are well formed: a decoder leaves what is behind a message.

Two runs are compared, with different receive buffers and with different datagrams that
are not accepted. The relation is the one of `Network.Rel`: the queues hold messages and
indications of the same datagrams, and the services are in the same state.
-/

namespace V2xStack

open Wire
open UDPdispatcher (Receiver)
open scoped List

/-- The dispatcher gets a datagram that it does not accept. -/
def UDPdispatcher.Input.Foreign (P : Platform) (cfg : Config) : UDPdispatcher.Input → Prop
  | .recv (.datagram d) => ¬Accepted P cfg d
  | .recv .error => False
  | .forward => False
  | .send _ => False

/-- A step other than that. -/
def visible (P : Platform) (cfg : Config) : StackStep → Bool
  | .produce (.produce (.recv (.datagram d))) => decide (Accepted P cfg d)
  | _ => true

/-! ### The relations -/

section Relations

variable (P : Platform) (cfg : Config) (L : Packages) (s : Service)

/-- The process is there in both, or in none, and so is its receiving thread. -/
inductive SameThreads : Option (Option Receiver) → Option (Option Receiver) → Prop
  | ended : SameThreads none none
  | deaf : SameThreads (some none) (some none)
  | listening (t t' : Receiver) : SameThreads (some (some t)) (some (some t'))

theorem SameThreads.symm {st st' : Option (Option Receiver)} (h : SameThreads st st') :
    SameThreads st' st := by
  cases h with
  | ended => exact ended
  | deaf => exact deaf
  | listening t t' => exact listening t' t

theorem SameThreads.trans {st st' st'' : Option (Option Receiver)} (h : SameThreads st st')
    (h' : SameThreads st' st'') : SameThreads st st'' := by
  -- both threads ended, left the loop or still listen
  cases h with
  | ended => exact h'
  | deaf => exact h'
  | listening t t' =>
    cases h' with
    | listening _ t'' => exact listening t t''

/-- The same input, and a well-formed datagram if it is accepted. -/
def SpokenInput (i i' : UDPdispatcher.Input) : Prop :=
  i = i' ∧ ∀ d, i = .recv (.datagram d) → Accepted P cfg d → d.WellFormed L s

/-- Messages of the same well-formed datagram. -/
def SameMessage (m m' : Msg.CohdaInd) : Prop :=
  ∃ d b b', (d.WellFormed L s ∧ 78 ≤ d.bytes.length) ∧
    m = indication P.host b d ∧ m' = indication P.host b' d

/-- Indications of the same well-formed datagram. -/
def SameIndication (ind ind' : Msg.BtpDataIndication) : Prop :=
  ∃ d b b', (d.WellFormed L s ∧ 78 ≤ d.bytes.length) ∧
    ind = btpIndication P.host b d ∧ ind' = btpIndication P.host b' d

end Relations

/-! ### The dispatcher -/

section Dispatcher

variable {P : Platform} {cfg : Config} {L : Packages} {s : Service}

theorem udpData_emit_some (thread : Option Receiver) (i : UDPdispatcher.Input) :
    (udpData P cfg).emit (some thread) i
      = ((UDPdispatcher.react P cfg thread i).outcome.elim [] Prod.snd).filterMap
          UDPdispatcher.Effect.cohdaInd? := rfl

theorem udpData_next_some (thread : Option Receiver) (i : UDPdispatcher.Input) :
    (udpData P cfg).next (some thread) i
      = (UDPdispatcher.react P cfg thread i).outcome.bind Prod.fst := rfl

/-- A process that has received a datagram that it can bear. -/
theorem udpData_datagram {t : Receiver} {d : Datagram} (h : Accepted P cfg d → d.msgLen ≤ 946) :
    (udpData P cfg).emit (some (some t)) (.recv (.datagram d)) = emitted P cfg t.buffer d ∧
      (udpData P cfg).next (some (some t)) (.recv (.datagram d))
        = some (some ⟨t.buffer.recvfrom d.bytes, forwarded? P cfg d⟩) := by
  rw [udpData_emit_some, udpData_next_some, react_datagram h, Option.elim_some,
    filterMap_cohdaInd?_due]
  exact ⟨rfl, rfl⟩

/-- Behind an error it has no receiving thread, and nothing more is on `udp_data`. -/
theorem udpData_error (t : Receiver) :
    (udpData P cfg).emit (some (some t)) (.recv .error) = [] ∧
      (udpData P cfg).next (some (some t)) (.recv .error) = some none := by
  rw [udpData_emit_some, udpData_next_some, react_error, Option.elim_some,
    filterMap_cohdaInd?_due_nil]
  exact ⟨rfl, rfl⟩

/-- The second publication for a datagram is not on `udp_data` either. -/
theorem udpData_forward (t : Receiver) :
    (udpData P cfg).emit (some (some t)) .forward = [] ∧
      (udpData P cfg).next (some (some t)) .forward = some (some ⟨t.buffer, none⟩) := by
  rw [udpData_emit_some, udpData_next_some, react_forward, Option.elim_some,
    filterMap_cohdaInd?_due_nil]
  exact ⟨rfl, rfl⟩

/-- Packets to be sent leave the receiving thread alone, and end the process or not. -/
theorem udpData_send (thread : Option Receiver) (udp : Packet) :
    (udpData P cfg).emit (some thread) (.send udp) = [] ∧
      (udpData P cfg).next (some thread) (.send udp)
        = if 4 ≤ udp.data.cells.length then some thread else none := by
  rw [udpData_emit_some, udpData_next_some, react_send]
  split
  · exact ⟨rfl, rfl⟩
  · exact ⟨rfl, rfl⟩

/-- Without a receiving thread nothing happens to a return of `recvfrom`. -/
theorem udpData_recv_none (r : RecvResult) :
    (udpData P cfg).emit (some none) (.recv r) = [] ∧
      (udpData P cfg).next (some none) (.recv r) = some none := by
  rw [udpData_emit_some, udpData_next_some, react_recv_none]
  exact ⟨rfl, rfl⟩

theorem udpData_forward_none :
    (udpData P cfg).emit (some none) .forward = [] ∧
      (udpData P cfg).next (some none) .forward = some none := by
  rw [udpData_emit_some, udpData_next_some, react_forward_none]
  exact ⟨rfl, rfl⟩

/-- The messages of one datagram, from two buffers. -/
theorem sameMessage_emitted {b b' : RecvBuffer} {d : Datagram}
    (h : Accepted P cfg d → d.WellFormed L s) :
    List.Forall₂ (SameMessage P L s) (emitted P cfg b d) (emitted P cfg b' d) := by
  rw [emitted, emitted]
  -- one datagram read over two buffers: the messages differ in stale bytes at most
  split
  · next hacc =>
    exact List.Forall₂.cons ⟨d, b, b', ⟨h hacc, hacc.2⟩, rfl, rfl⟩ List.Forall₂.nil
  · exact List.Forall₂.nil

/-- **The dispatcher**: the buffer shows in what is behind a payload only. -/
theorem udpData_respects :
    (udpData P cfg).Respects SameThreads (SpokenInput P cfg L s) (SameMessage P L s) := by
  rintro st st' i _ hst ⟨rfl, hspoken⟩
  rcases hst with _ | _ | ⟨t, t'⟩
  · exact ⟨List.Forall₂.nil, SameThreads.ended⟩
  · -- without a receiving thread only a short packet does something
    cases i with
    | recv r =>
      obtain ⟨hemit, hnext⟩ := @udpData_recv_none P cfg r
      rw [hemit, hnext]
      exact ⟨List.Forall₂.nil, SameThreads.deaf⟩
    | forward =>
      obtain ⟨hemit, hnext⟩ := @udpData_forward_none P cfg
      rw [hemit, hnext]
      exact ⟨List.Forall₂.nil, SameThreads.deaf⟩
    | send udp =>
      obtain ⟨hemit, hnext⟩ := @udpData_send P cfg none udp
      rw [hemit, hnext]
      split
      · exact ⟨List.Forall₂.nil, SameThreads.deaf⟩
      · exact ⟨List.Forall₂.nil, SameThreads.ended⟩
  · cases i with
    | recv r =>
      cases r with
      | error =>
        obtain ⟨hemit, hnext⟩ := @udpData_error P cfg t
        obtain ⟨hemit', hnext'⟩ := @udpData_error P cfg t'
        rw [hemit, hnext, hemit', hnext']
        exact ⟨List.Forall₂.nil, SameThreads.deaf⟩
      | datagram d =>
        -- the process survives with both buffers: it does not depend on them
        have hwell : Accepted P cfg d → d.WellFormed L s := hspoken d rfl
        have hlen : Accepted P cfg d → d.msgLen ≤ 946 := fun hacc =>
          (Nat.le_of_lt (hwell hacc).short).trans (by decide)
        obtain ⟨hemit, hnext⟩ := udpData_datagram (t := t) hlen
        obtain ⟨hemit', hnext'⟩ := udpData_datagram (t := t') hlen
        rw [hemit, hnext, hemit', hnext']
        exact ⟨sameMessage_emitted hwell, SameThreads.listening _ _⟩
    | forward =>
      obtain ⟨hemit, hnext⟩ := @udpData_forward P cfg t
      obtain ⟨hemit', hnext'⟩ := @udpData_forward P cfg t'
      rw [hemit, hnext, hemit', hnext']
      exact ⟨List.Forall₂.nil, SameThreads.listening _ _⟩
    | send udp =>
      obtain ⟨hemit, hnext⟩ := @udpData_send P cfg (some t) udp
      obtain ⟨hemit', hnext'⟩ := @udpData_send P cfg (some t') udp
      rw [hemit, hnext, hemit', hnext']
      split
      · exact ⟨List.Forall₂.nil, SameThreads.listening t t'⟩
      · exact ⟨List.Forall₂.nil, SameThreads.ended⟩

/-- What the dispatcher does with a foreign datagram. -/
theorem udpData_foreign {i : UDPdispatcher.Input} (hi : i.Foreign P cfg)
    (st : Option (Option Receiver)) :
    (udpData P cfg).emit st i = [] ∧ SameThreads ((udpData P cfg).next st i) st := by
  cases i with
  | forward => exact hi.elim
  | send udp => exact hi.elim
  | recv r =>
    cases r with
    | error => exact hi.elim
    | datagram d =>
      have hd : ¬Accepted P cfg d := hi
      -- at most the buffer is another one
      rcases st with _ | _ | t
      · exact ⟨rfl, SameThreads.ended⟩
      · obtain ⟨hemit, hnext⟩ := @udpData_recv_none P cfg (.datagram d)
        rw [hemit, hnext]
        exact ⟨rfl, SameThreads.deaf⟩
      · obtain ⟨hemit, hnext⟩ := udpData_datagram (t := t) fun hacc => absurd hacc hd
        rw [hemit, hnext, emitted, if_neg hd]
        exact ⟨rfl, SameThreads.listening _ _⟩

/-- **A foreign datagram is not heard.** It changes the buffer. -/
theorem udpData_hides :
    (udpData P cfg).Hides SameThreads (UDPdispatcher.Input.Foreign P cfg) where
  silent st _ hi := (udpData_foreign hi st).1
  left st _ _ hi hst := (udpData_foreign hi st).2.trans hst
  right _ st' _ hi hst := hst.trans (udpData_foreign hi st').2.symm

end Dispatcher

/-! ### The BTP service -/

theorem btpProcess_emit_some {packet : Msg.CohdaInd}
    (h : packet.payload.length = packet.type.msg_length.toNat) :
    btpProcess.emit (some ()) (packet, ()) = [packet.image] ∧
      btpProcess.next (some ()) (packet, ()) = some () := by
  rw [(btpProcess_step _).1, (btpProcess_step _).2, udpCallback_outcome, if_pos h.le]
  exact ⟨rfl, rfl⟩

/-- **The BTP service** makes indications of one datagram of messages of one datagram. -/
theorem btpProcess_respects {P : Platform} {L : Packages} {s : Service} :
    btpProcess.Respects Eq (fun i i' => SameMessage P L s i.1 i'.1 ∧ i.2 = i'.2)
      (SameIndication P L s) := by
  rintro st _ ⟨_, u⟩ ⟨_, _⟩ rfl ⟨⟨d, b, b', hd, rfl, rfl⟩, rfl⟩
  cases st with
  | none => exact ⟨List.Forall₂.nil, rfl⟩
  | some v =>
    -- the payload of an accepted datagram is long enough for the copy, whatever the buffer
    obtain ⟨hemit, hnext⟩ :=
      btpProcess_emit_some (length_indication_payload P.host b d hd.1.short)
    obtain ⟨hemit', hnext'⟩ :=
      btpProcess_emit_some (length_indication_payload P.host b' d hd.1.short)
    rw [hemit, hnext, hemit', hnext', image_indication, image_indication]
    exact ⟨List.Forall₂.cons ⟨d, b, b', hd, rfl, rfl⟩ List.Forall₂.nil, rfl⟩

/-! ### The services -/

section Services

variable {P : Platform} {L : Packages} {s : Service}

section Form

variable {Q α β E : Type} {port : UInt16} {decode_per : List UInt8 → Option α}
  {convert : α → Run (Access Q) (Option β)} {ind ind' : Msg.BtpDataIndication}

/-- A service looks at the port and at what it decodes. -/
theorem onIndication_congr (hguard : ind.IsBtpB port ↔ ind'.IsBtpB port)
    (hdecode : ind.IsBtpB port → decode_per ind.data = decode_per ind'.data) :
    onIndication port decode_per convert ind = onIndication port decode_per convert ind' := by
  unfold onIndication
  by_cases h : ind.IsBtpB port
  · rw [if_pos h, if_pos (hguard.mp h), hdecode h]
  · rw [if_neg h, if_neg fun h' => h (hguard.mpr h')]

theorem stateless_congr {γ : Type} (f : Msg.BtpDataIndication → Run (Access Q) (List γ))
    (h : f ind = f ind') (st : Option Unit) (e : E) :
    let M := Machine.stateless fun i : Msg.BtpDataIndication × E => f i.1
    M.emit st (ind, e) = M.emit st (ind', e) ∧ M.next st (ind, e) = M.next st (ind', e) := by
  cases st with
  | none => exact ⟨rfl, rfl⟩
  | some u =>
    dsimp only
    rw [Machine.emit_stateless, Machine.emit_stateless, Machine.next_stateless,
      Machine.next_stateless, h]
    exact ⟨rfl, rfl⟩

end Form

theorem DenRxNode.onIndication_congr {e e' : DenRxNode.Event} (n : DenRxNode)
    (hnow : e.now = e'.now) (hcooldown : e.cooldown = e'.cooldown)
    (hguard : DenRxNode.Guard e.indication ↔ DenRxNode.Guard e'.indication)
    (hdecode : DenRxNode.Guard e.indication → e.decoded = e'.decoded) :
    n.onIndication e = n.onIndication e' := by
  unfold DenRxNode.onIndication
  -- an indication that is not for the service is dropped whatever it decodes to
  by_cases h : DenRxNode.Guard e.indication
  · rw [if_pos h, if_pos (hguard.mp h), hdecode h, hnow, hcooldown]
  · rw [if_neg h, if_neg fun h' => h (hguard.mpr h')]

/-- Indications for which the guard and the decoder say the same are the same to a
service. -/
theorem Service.step_congr {ind ind' : Msg.BtpDataIndication} (hguard : s.Guard ind ↔ s.Guard ind')
    (hdecode : s.Guard ind → s.decode L ind.data = s.decode L ind'.data) (st : Option s.Node)
    (e : s.Env) :
    (s.process L).emit st (ind, e) = (s.process L).emit st (ind', e) ∧
      (s.process L).next st (ind, e) = (s.process L).next st (ind', e) := by
  cases s with
  | caRx => exact stateless_congr _ (onIndication_congr hguard hdecode) st e
  | denRx =>
    cases st with
    | none => exact ⟨rfl, rfl⟩
    | some n =>
      -- only the decoded message and the clock decide what the DENM service does
      have hreact : DenRxNode.react L n (ind, e) = DenRxNode.react L n (ind', e) := by
        have hcall : n.onIndication (DenRxNode.event L (ind, e))
            = n.onIndication (DenRxNode.event L (ind', e)) :=
          DenRxNode.onIndication_congr n rfl rfl hguard hdecode
        unfold DenRxNode.react
        rw [hcall]
      change (DenRxNode.react L n (ind, e)).outcome.elim [] Prod.snd
          = (DenRxNode.react L n (ind', e)).outcome.elim [] Prod.snd ∧
        (DenRxNode.react L n (ind, e)).outcome.bind Prod.fst
          = (DenRxNode.react L n (ind', e)).outcome.bind Prod.fst
      rw [hreact]
      exact ⟨rfl, rfl⟩
  | cpRx => exact stateless_congr _ (onIndication_congr hguard hdecode) st e
  | cpTsRx => exact stateless_congr _ (onIndication_congr hguard hdecode) st e

/-- **A service** does the same with indications of one datagram. -/
theorem service_respects (hL : L.SelfDelimiting) :
    (s.process L).Respects Eq (fun i i' => SameIndication P L s i.1 i'.1 ∧ i.2 = i'.2) Eq := by
  rintro st _ ⟨_, e⟩ ⟨_, _⟩ rfl ⟨⟨d, b, b', ⟨hd, hlen⟩, rfl, rfl⟩, rfl⟩
  have hguard := guard_btpIndication_iff (b := b) P.host hlen s
  have hguard' := guard_btpIndication_iff (b := b') P.host hlen s
  obtain ⟨hemit, hnext⟩ := Service.step_congr (L := L) (hguard.trans hguard'.symm)
    (fun h => by
      -- the decoder stops before the bytes that differ
      have haddressed : d.AddressedTo s := hguard.mp h
      obtain ⟨asn1, hdecode⟩ := Option.isSome_iff_exists.mp (hd.decodes haddressed)
      obtain ⟨rest, hdata⟩ :=
        @btpIndication_data P.host b d hd.announced hd.short hlen
      obtain ⟨rest', hdata'⟩ :=
        @btpIndication_data P.host b' d hd.announced hd.short hlen
      rw [hdata, hdata', hL s _ rest asn1 hdecode, hL s _ rest' asn1 hdecode]) st e
  rw [hemit, hnext]
  exact ⟨List.forall₂_eq_eq_eq ▸ rfl, rfl⟩

end Services

/-! ### The stack -/

section Stack

variable {P : Platform} {cfg : Config} {L : Packages} {s : Service} {launch launch' : Launch}

/-- Two launches that enable the service and agree in its cooldown. -/
theorem stackLaunched_rel (henabled : launch.enabled s = launch'.enabled s)
    (hcooldown : launch.publish_cooldown_ = launch'.publish_cooldown_) :
    Network.Rel (N := stack P cfg L) (s := s)
      (Network.Rel (N := btpData P cfg) (s := ()) SameThreads (SameMessage P L s) Eq)
      (SameIndication P L s) Eq (stackLaunched P cfg L launch) (stackLaunched P cfg L launch') := by
  refine ⟨⟨SameThreads.listening _ _, List.Forall₂.nil, rfl⟩, List.Forall₂.nil, ?_⟩
  -- the launches agree on this service and on the cooldown; the buffers are not compared
  change (if launch.enabled s then _ else none) = if launch'.enabled s then _ else none
  rw [henabled, hcooldown]

/-- A step that is not visible lets the dispatcher hear a foreign datagram. -/
theorem hidden_of_not_visible (a : StackStep) (ha : visible P cfg a = false) :
    Network.Action.Hidden (Network.Action.Hidden (UDPdispatcher.Input.Foreign P cfg)) a := by
  unfold visible at ha
  split at ha
  · exact of_decide_eq_false ha
  · exact absurd ha (by decide)

/-- A step is related to itself when the device speaks in it. -/
theorem actionRel_self {a : StackStep}
    (ha : ∀ d, a = .produce (.produce (.recv (.datagram d))) → Accepted P cfg d →
      d.WellFormed L s) :
    Network.ActionRel (Network.ActionRel (SpokenInput P cfg L s)) a a := by
  cases a with
  | produce step =>
    refine Network.ActionRel.produce ?_
    cases step with
    | produce i =>
      refine Network.ActionRel.produce ⟨rfl, fun d hi hacc => ha d ?_ hacc⟩
      rw [hi]
    | take t e => exact Network.ActionRel.take (ε := fun _ => Unit) t e
    | lose t i => exact Network.ActionRel.lose t i
  | take t e => exact Network.ActionRel.take t e
  | lose t i => exact Network.ActionRel.lose t i

/-- **Noninterference.** What a service publishes depends neither on what the receive
buffer holds at the start nor on datagrams that are not accepted, whoever sends them and
whatever they leave in the buffer: two runs whose schedules agree but for the reception of
such datagrams publish the same, if the accepted ones are well formed for the service. -/
theorem stack_noninterference (P : Platform) (cfg : Config) (L : Packages)
    (hL : L.SelfDelimiting) (s : Service) (launch launch' : Launch)
    (henabled : launch.enabled s = launch'.enabled s)
    (hcooldown : launch.publish_cooldown_ = launch'.publish_cooldown_)
    (acts acts' : List StackStep)
    (hvisible : acts.filter (visible P cfg) = acts'.filter (visible P cfg))
    (hdevice : ∀ d, .recv (.datagram d) ∈ dispatcherInputs acts → Accepted P cfg d →
      d.WellFormed L s) :
    ((stack P cfg L).emitted s).run (stackLaunched P cfg L launch) acts
      = ((stack P cfg L).emitted s).run (stackLaunched P cfg L launch') acts' := by
  have hself : ∀ a ∈ acts, visible P cfg a = true →
      Network.ActionRel (Network.ActionRel (SpokenInput P cfg L s)) a a := by
    intro a ha _
    refine actionRel_self fun d hd hacc => hdevice d ?_ hacc
    subst hd
    exact List.mem_filterMap.mpr ⟨_, List.mem_filterMap.mpr ⟨_, ha, rfl⟩, rfl⟩
  -- the relation of the two nodes in front is the one of the producer of the stack
  have hrespects := Network.respects_emitted (N := stack P cfg L) (s := s)
    (Network.respects_emitted (N := btpData P cfg) (s := ()) udpData_respects
      btpProcess_respects) (service_respects hL)
  have hhides := Network.hides_emitted (N := stack P cfg L) (s := s) (I := SameIndication P L s)
    (S := Eq) (Network.hides_emitted (N := btpData P cfg) (s := ()) (I := SameMessage P L s)
      (S := Eq) udpData_hides)
  have hruns := (hrespects.run hhides (aligned_of_filter hidden_of_not_visible hself hvisible)
    (stackLaunched_rel henabled hcooldown)).1
  rwa [List.forall₂_eq_eq_eq] at hruns

/-- The message of the roadside unit from someone else, with more behind it. -/
def spoofedMessage : Datagram where
  sender := 0
  bytes := rsuMessage.bytes ++ List.replicate 100 0xFF

/-- The CAM between two such datagrams. -/
def spoofedSchedule : List StackStep :=
  [.produce (.produce (.recv (.datagram spoofedMessage))),
    .produce (.produce (.recv (.datagram rsuMessage))), .produce (.take () ()),
    .produce (.produce (.recv (.datagram spoofedMessage))), .take .caRx ()]

theorem spoofedSchedule_visible :
    rsuSchedule.filter (visible littleHost defaultConfig)
      = spoofedSchedule.filter (visible littleHost defaultConfig) := by
  have hspoofed : visible littleHost defaultConfig
      (.produce (.produce (.recv (.datagram spoofedMessage)))) = false := by decide
  have hrsu : visible littleHost defaultConfig
      (.produce (.produce (.recv (.datagram rsuMessage)))) = true := by decide
  simp only [rsuSchedule, spoofedSchedule, List.filter, hspoofed, hrsu]

theorem rsuSchedule_noninterference :
    ((stack littleHost defaultConfig rsuPackages).emitted .caRx).run
        (stackLaunched littleHost defaultConfig rsuPackages caLaunch) rsuSchedule
      = ((stack littleHost defaultConfig rsuPackages).emitted .caRx).run
        (stackLaunched littleHost defaultConfig rsuPackages
          { caLaunch with buffer := zeroBuffer.recvfrom spoofedMessage.bytes })
        spoofedSchedule := by
  refine stack_noninterference littleHost defaultConfig rsuPackages rsuPackages_selfDelimiting
    .caRx caLaunch { caLaunch with buffer := zeroBuffer.recvfrom spoofedMessage.bytes } rfl rfl
    rsuSchedule spoofedSchedule spoofedSchedule_visible fun d hd _ => ?_
  -- the device sends one datagram
  have hd : UDPdispatcher.Input.recv (.datagram d) ∈ [.recv (.datagram rsuMessage)] := hd
  rw [List.mem_singleton] at hd
  cases hd
  exact rsuMessage_wellFormed

end Stack

end V2xStack
