import V2xStack.Foundation.Network
import V2xStack.Its.CamEncoding
import V2xStack.Its.Services
import V2xStack.Stack.BtpService
import V2xStack.Stack.Dispatcher

/-!
# Runs of the stack

The networks of the receiving nodes, and what holds in every run of them.

`btpData` is the network of the dispatcher and the BTP service, which `udp_data` joins, and
`stack` the network of all nodes, which `/btp_data` joins. A run is given by a schedule: it
says which node makes the next step, and which message is lost. The queues of the
subscriptions (10 messages on `udp_data`, 20 on `/btp_data`, where a new message takes the
place of the oldest) and the publishers that `BtpPublisher` and the services create with
each message, which may not be matched with a subscription yet, are reasons to lose one;
the results hold whatever the reason is.

`arrived` are the datagrams of the device in a run, and the machines
`(stack P cfg L).consumed s` and `(stack P cfg L).emitted s` say what a service reads and
what it publishes.

`stack_consumed` is safety: a service reads the indications of some of these
datagrams, each at most once and in the order of their reception, and reads nothing else.
`stack_nodes_safe_iff` and `stack_services_safe_iff` say for any schedule when a node makes
no illegal access. `stack_running` says that none does while the device keeps to `MsgLen`
below 256 and sends messages that can be converted.
-/

namespace V2xStack

open Wire
open UDPdispatcher (Receiver)
open scoped List

/-! ### The networks -/

/-- The dispatcher and the BTP service, joined by `udp_data`. -/
def btpData (P : Platform) (cfg : Config) :
    Network Unit (Option (Option Receiver)) UDPdispatcher.Input Msg.CohdaInd
      (fun _ => Option Unit) (fun _ => Unit) (fun _ => Msg.BtpDataIndication) where
  producer := udpData P cfg
  consumer _ := btpProcess

/-- A step of the first two nodes. -/
abbrev BtpDataStep : Type := Network.Action Unit UDPdispatcher.Input fun _ => Unit

/-- All nodes, joined by `/btp_data`. -/
def stack (P : Platform) (cfg : Config) (L : Packages) :
    Network Service (btpData P cfg).State BtpDataStep Msg.BtpDataIndication
      (fun s => Option s.Node) Service.Env (Service.Published L) where
  producer := (btpData P cfg).emitted ()
  consumer s := s.process L

/-- A step of the stack. -/
abbrev StackStep : Type := Network.Action Service BtpDataStep Service.Env

/-- What is left to the launch files and to the memory at the start: which services are
enabled, the receive buffer, and the cooldown that a node holds before it is read. -/
structure Launch where
  enabled : Service → Bool
  buffer : RecvBuffer
  publish_cooldown_ : ℚ

section Stack

variable (P : Platform) (cfg : Config) (L : Packages) (launch : Launch)

/-- The first two nodes as they are launched. -/
def btpDataLaunched : (btpData P cfg).State where
  producer := some (some (Receiver.started launch.buffer))
  link _ := ⟨[], some ()⟩

/-- The stack as it is launched. A service that is not enabled does not run. -/
def stackLaunched : (stack P cfg L).State where
  producer := btpDataLaunched P cfg launch
  link s :=
    ⟨[], if launch.enabled s then some (s.started launch.publish_cooldown_) else none⟩

end Stack

/-- The steps of the first two nodes in a schedule. -/
def btpDataSteps (acts : List StackStep) : List BtpDataStep := acts.filterMap Network.Action.input?

/-- What the dispatcher reacts to in a schedule. -/
def dispatcherInputs (acts : List StackStep) : List UDPdispatcher.Input :=
  (btpDataSteps acts).filterMap Network.Action.input?

/-- The datagrams of a schedule that the dispatcher has to accept: those from the device
with both headers, up to the first receive error. Whether the dispatcher can be followed
to them makes no difference. -/
def arrived (P : Platform) (cfg : Config) (acts : List StackStep) : List Datagram :=
  accepted P cfg (heard (dispatcherInputs acts))

/-! ### At most once and in order -/

section Safety

variable {P : Platform} {cfg : Config} {L : Packages} {launch : Launch}

/-- The messages that the BTP service reads are those of a run of the dispatcher. -/
theorem btpData_consumed_sublist (steps : List BtpDataStep) :
    (((btpData P cfg).consumed ()).run (btpDataLaunched P cfg launch) steps).map Prod.fst <+
      (dispatcher P cfg).run launch.buffer (heard (steps.filterMap Network.Action.input?)) := by
  have hlink := (btpData P cfg).consumed_sublist () (btpDataLaunched P cfg launch) steps
  have hprefix := @udpData_isPrefix P cfg (Receiver.started launch.buffer)
    (steps.filterMap Network.Action.input?)
  exact ((List.sublist_append_left _ _).trans hlink).trans hprefix.sublist

/-- The indications that the BTP service publishes. -/
theorem btpData_emitted_sublist (steps : List BtpDataStep) :
    ((btpData P cfg).emitted ()).run (btpDataLaunched P cfg launch) steps <+
      ((dispatcher P cfg).run launch.buffer
        (heard (steps.filterMap Network.Action.input?))).map Msg.CohdaInd.image := by
  rw [Network.run_emitted_eq]
  -- an indication goes out for a message that was read, and each of these was published
  have hrun := btpProcess.run_sublist_flatMap btpProcess_emit_sublist (some ())
    (((btpData P cfg).consumed ()).run (btpDataLaunched P cfg launch) steps)
  rw [← List.map_eq_flatMap] at hrun
  refine hrun.trans ?_
  have hmap := (@btpData_consumed_sublist P cfg launch steps).map
    Msg.CohdaInd.image
  rwa [List.map_map] at hmap

/-- The indications that a service reads. -/
theorem stack_consumed_sublist (s : Service) (acts : List StackStep) :
    (((stack P cfg L).consumed s).run (stackLaunched P cfg L launch) acts).map Prod.fst <+
      ((dispatcher P cfg).run launch.buffer (heard (dispatcherInputs acts))).map
        Msg.CohdaInd.image := by
  have hlink := (stack P cfg L).consumed_sublist s (stackLaunched P cfg L launch) acts
  exact ((List.sublist_append_left _ _).trans hlink).trans
    (btpData_emitted_sublist (btpDataSteps acts))

/-- The indication is one that the datagram leads to, with the receive buffer in some
state. -/
def IndicationOf (host : Endian) (ind : Msg.BtpDataIndication) (d : Datagram) : Prop :=
  ∃ b, ind = btpIndication host b d

/-- The messages of the dispatcher are those of the accepted datagrams. -/
theorem dispatcher_run_forall₂ (b : RecvBuffer) (ds : List Datagram) :
    List.Forall₂ (fun m d => ∃ b', m = indication P.host b' d) ((dispatcher P cfg).run b ds)
      (accepted P cfg ds) := by
  induction ds generalizing b with
  | nil => exact List.Forall₂.nil
  | cons d ds ih =>
    rw [Machine.run_cons]
    change List.Forall₂ _ (emitted P cfg b d ++ _) ((d :: ds).filter _)
    -- an accepted datagram is reported once, any other one leaves only its bytes in the buffer
    by_cases h : Accepted P cfg d
    · rw [emitted, if_pos h, List.filter_cons_of_pos (by simpa using h)]
      exact List.Forall₂.cons ⟨b, rfl⟩ (ih _)
    · rw [emitted, if_neg h, List.filter_cons_of_neg (by simpa using h)]
      exact ih _

/-- So are the indications made of them. -/
theorem image_run_forall₂ (b : RecvBuffer) (ds : List Datagram) :
    List.Forall₂ (IndicationOf P.host) (((dispatcher P cfg).run b ds).map Msg.CohdaInd.image)
      (accepted P cfg ds) := by
  rw [List.forall₂_map_left_iff]
  refine (dispatcher_run_forall₂ b ds).imp fun m d hm => ?_
  obtain ⟨b', rfl⟩ := hm
  exact ⟨b', image_indication P.host b' d⟩

/-- The indications that a service reads are those of a sublist of the accepted
datagrams. -/
theorem stack_consumed_forall₂ (s : Service) (acts : List StackStep) :
    ∃ ds, List.Forall₂ (fun (i : Msg.BtpDataIndication × s.Env) d => IndicationOf P.host i.1 d)
        (((stack P cfg L).consumed s).run (stackLaunched P cfg L launch) acts) ds ∧
      ds <+ arrived P cfg acts := by
  -- each indication read has its datagram, and the datagrams keep their order
  obtain ⟨ds, hds, hsub⟩ := List.sublistForall₂_iff.mp <|
    sublistForall₂_of_sublist (stack_consumed_sublist (L := L) s acts)
      (image_run_forall₂ launch.buffer (heard (dispatcherInputs acts)))
  rw [List.forall₂_map_left_iff] at hds
  exact ⟨ds, hds, hsub⟩

/-- What a service publishes is made of the indications that it reads. -/
theorem stack_emitted_sublist (s : Service) (acts : List StackStep) :
    ((stack P cfg L).emitted s).run (stackLaunched P cfg L launch) acts <+
      (((stack P cfg L).consumed s).run (stackLaunched P cfg L launch) acts).flatMap
        fun i => s.answer L i.1 := by
  rw [Network.run_emitted_eq]
  exact (s.process L).run_sublist_flatMap s.emit_sublist _ _

end Safety

/-! ### What the device sends -/

/-- The three bytes of the datagram that the guard of the service looks at. -/
def Datagram.AddressedTo (d : Datagram) (s : Service) : Prop :=
  d.byte 4 = 2 ∧ beNat (slice d.bytes 8 2) = s.port

instance (d : Datagram) (s : Service) : Decidable (d.AddressedTo s) :=
  inferInstanceAs (Decidable (_ ∧ _))

/-- What the datagram carries behind its two headers. -/
def Datagram.payload (d : Datagram) : List UInt8 := d.bytes.drop 78

/-- The datagram is one that the service can make something of. -/
structure Datagram.WellFormed (L : Packages) (s : Service) (d : Datagram) : Prop where
  /-- `MsgLen` counts the payload, and what it likes of the headers, -/
  announced : d.bytes.length ≤ 78 + d.msgLen
  /-- and fits in eight bits. -/
  short : d.msgLen < 256
  /-- If the service is meant, it can decode the payload. -/
  decodes : d.AddressedTo s → (s.decode L d.payload).isSome

/-- What the service has to publish for the datagram. -/
def Datagram.answer (L : Packages) (s : Service) (d : Datagram) : List (s.Published L) :=
  if d.AddressedTo s then s.messages L d.payload else []

section Device

variable {P : Platform} {cfg : Config} {L : Packages} {s : Service} {host : Endian}
  {b : RecvBuffer} {d : Datagram}

/-- The data of an indication are the payload, and what the buffer holds behind it. -/
theorem btpIndication_data (hannounced : d.bytes.length ≤ 78 + d.msgLen)
    (hshort : d.msgLen < 256) (hlen : 78 ≤ d.bytes.length) :
    ∃ rest, (btpIndication host b d).data = d.payload ++ rest := by
  let region := (b.recvfrom d.bytes).region
  have hreceived : region.read 78 (d.bytes.length - 78) = d.payload := by
    rw [RecvBuffer.read_recvfrom (by unfold Datagram.recvLen; omega), slice, Datagram.payload,
      ← List.length_drop, List.take_length]
  -- `MsgLen` bytes are read from the payload on, so there is a rest behind it
  refine ⟨region.read (78 + (d.bytes.length - 78)) (78 + d.msgLen - d.bytes.length), ?_⟩
  calc (btpIndication host b d).data
      = writeAt (List.replicate (d.msgLen % 256) 0) 0 (region.read 78 d.msgLen) := rfl
    _ = region.read 78 d.msgLen := by
        refine writeAt_of_length_eq ?_
        rw [Region.length_read, List.length_replicate, Nat.mod_eq_of_lt hshort]
    _ = region.read 78 (d.bytes.length - 78 + (78 + d.msgLen - d.bytes.length)) := by
        congr 1
        omega
    _ = _ := by rw [Region.read_add, hreceived]

/-- A service answers an indication as it has to answer the datagram. -/
theorem answer_btpIndication (hL : L.SelfDelimiting) (hd : d.WellFormed L s)
    (hlen : 78 ≤ d.bytes.length) : s.answer L (btpIndication host b d) = d.answer L s := by
  have hguard := guard_btpIndication_iff (b := b) host hlen s
  by_cases h : d.AddressedTo s
  · -- behind the payload follow stale bytes, which the decoder does not look at
    obtain ⟨rest, hdata⟩ := @btpIndication_data host b d hd.announced hd.short hlen
    rw [Service.answer, if_pos (hguard.mpr h), Datagram.answer, if_pos h, hdata,
      Service.messages_append hL (hd.decodes h)]
  · rw [Service.answer, if_neg fun hg => h (hguard.mp hg), Datagram.answer, if_neg h]

theorem convertible_btpIndication (hL : L.SelfDelimiting) (hd : d.WellFormed L s)
    (hlen : 78 ≤ d.bytes.length)
    (hconvertible : d.AddressedTo s → s.ConvertibleData L d.payload) :
    s.Convertible L (btpIndication host b d) := by
  intro hguard
  have haddressed : d.AddressedTo s := (guard_btpIndication_iff host hlen s).mp hguard
  obtain ⟨rest, hdata⟩ := @btpIndication_data host b d hd.announced hd.short hlen
  -- the decoded message is that of the payload alone
  rw [hdata, Service.convertibleData_append hL (hd.decodes haddressed)]
  exact hconvertible haddressed

end Device

/-! ### A CAM on the wire -/

/-- The unaligned PER encoding of `rsuCam`. -/
def rsuPayload : List UInt8 :=
  [0x02, 0x02, 0x00, 0x00, 0x12, 0x67, 0x03, 0xE8, 0x00, 0xFA, 0x56, 0xA3, 0x10, 0x0E, 0x43, 0x0B,
    0xF8, 0x00, 0x64, 0x06, 0x47, 0x08, 0x42, 0xE5, 0x1E, 0x80]

/-- The CAM as the device delivers it: `MsgLen` counts 74 bytes of the headers. -/
def rsuMessage : Datagram where
  sender := 0x010210AC
  bytes := [4, 1, 0, 100] ++ [2, 7, 2, 0, 7, 0xD1, 0, 0] ++ List.replicate 66 0 ++ rsuPayload

/-- The released packages, with decoders that know one CAM. -/
def releasedPackages (payload : List UInt8) (cam : Asn1.Cam) : Packages where
  decodeCam data := if payload.isPrefixOf data then some cam else none
  decodeDenm _ := none
  decodeCpm _ := none
  decodeCpmTs _ := none
  asn_INTEGER2uint64 _ := none
  cam := .released
  denm := .released
  cpm := .released
  cpmTs := .released

theorem releasedPackages_selfDelimiting (payload : List UInt8) (cam : Asn1.Cam) :
    (releasedPackages payload cam).SelfDelimiting := by
  intro s data rest asn1 h
  cases s with
  | caRx =>
    change (if payload.isPrefixOf data then some cam else none) = some asn1 at h
    change (if payload.isPrefixOf (data ++ rest) then some cam else none) = some asn1
    split at h
    · next hprefix =>
      rw [if_pos, h]
      -- the payload in front stays in front when bytes are appended
      rw [List.isPrefixOf_iff_prefix] at hprefix ⊢
      exact hprefix.trans (List.prefix_append data rest)
    · exact absurd h (by simp)
  | denRx => exact absurd h (by simp [Service.decode, releasedPackages])
  | cpRx => exact absurd h (by simp [Service.decode, releasedPackages])
  | cpTsRx => exact absurd h (by simp [Service.decode, releasedPackages])

/-- They know `rsuCam`. -/
def rsuPackages : Packages := releasedPackages rsuPayload rsuCam

theorem rsuPackages_selfDelimiting : rsuPackages.SelfDelimiting :=
  releasedPackages_selfDelimiting rsuPayload rsuCam

theorem rsuMessage_wellFormed : rsuMessage.WellFormed rsuPackages .caRx where
  announced := by decide
  short := by decide
  decodes _ := by decide

/-- The stack with the CAM service only. -/
def caLaunch : Launch where
  enabled s := decide (s = .caRx)
  buffer := zeroBuffer
  publish_cooldown_ := 0

/-! ### Safety -/

section Runs

variable {P : Platform} {cfg : Config} {L : Packages} {launch : Launch}

/-- **At most once, in order, and nothing else.** In every run of the stack a service
reads indications of a sublist of the accepted datagrams. They are those that the receive
buffer, as it is launched and with every datagram in it, leads to: a sublist of them. And
the service publishes no more than it can decode and convert from what it reads. -/
theorem stack_consumed (P : Platform) (cfg : Config) (L : Packages) (launch : Launch)
    (s : Service) (acts : List StackStep) :
    List.SublistForall₂ (fun (i : Msg.BtpDataIndication × s.Env) d => IndicationOf P.host i.1 d)
        (((stack P cfg L).consumed s).run (stackLaunched P cfg L launch) acts)
        (arrived P cfg acts) ∧
      (((stack P cfg L).consumed s).run (stackLaunched P cfg L launch) acts).map Prod.fst <+
        ((dispatcher P cfg).run launch.buffer (heard (dispatcherInputs acts))).map
          Msg.CohdaInd.image ∧
      ((stack P cfg L).emitted s).run (stackLaunched P cfg L launch) acts <+
        (((stack P cfg L).consumed s).run (stackLaunched P cfg L launch) acts).flatMap
          fun i => s.answer L i.1 :=
  ⟨List.sublistForall₂_iff.mpr (stack_consumed_forall₂ s acts), stack_consumed_sublist s acts,
    stack_emitted_sublist s acts⟩

/-- Every accepted datagram is well formed for a service. -/
def DeviceSpeaks (P : Platform) (cfg : Config) (L : Packages) (s : Service)
    (acts : List StackStep) : Prop :=
  ∀ d ∈ arrived P cfg acts, d.WellFormed L s

/-- The messages to a service can be converted. -/
def DeviceConvertible (P : Platform) (cfg : Config) (L : Packages) (s : Service)
    (acts : List StackStep) : Prop :=
  ∀ d ∈ arrived P cfg acts, d.AddressedTo s →
    s.ConvertibleData L d.payload

theorem length_of_mem_accepted {ds : List Datagram} {d : Datagram}
    (h : d ∈ accepted P cfg ds) : 78 ≤ d.bytes.length :=
  (of_decide_eq_true (List.mem_filter.mp h).2 : Accepted P cfg d).2

/-- Indications of well-formed datagrams are answered as these. -/
theorem flatMap_answer_eq (hL : L.SelfDelimiting) {s : Service}
    {is : List (Msg.BtpDataIndication × s.Env)} {ds : List Datagram}
    (h : List.Forall₂ (fun (i : Msg.BtpDataIndication × s.Env) d => IndicationOf P.host i.1 d)
      is ds)
    (hds : ∀ d ∈ ds, d.WellFormed L s ∧ 78 ≤ d.bytes.length) :
    (is.flatMap fun i => s.answer L i.1) = ds.flatMap fun d => d.answer L s := by
  -- the answers agree indication by indication
  induction h with
  | nil => rfl
  | cons hind _ ih =>
    rw [List.forall_mem_cons] at hds
    obtain ⟨b, hb⟩ := hind
    rw [List.flatMap_cons, List.flatMap_cons, hb, answer_btpIndication hL hds.1.1 hds.1.2,
      ih hds.2]

/-- **From the wire to the topics of the services.** When the accepted datagrams are well
formed, a service publishes messages of theirs only: those which their payloads decode to,
at most once for each datagram and in the order of their reception. The stale bytes that
are delivered behind a payload never show. -/
theorem stack_published (P : Platform) (cfg : Config) (L : Packages) (launch : Launch)
    (hL : L.SelfDelimiting) (s : Service) (acts : List StackStep)
    (hdevice : DeviceSpeaks P cfg L s acts) :
    ((stack P cfg L).emitted s).run (stackLaunched P cfg L launch) acts <+
      (arrived P cfg acts).flatMap fun d => d.answer L s := by
  obtain ⟨ds, hds, hsub⟩ := @stack_consumed_forall₂ P cfg L launch s acts
  -- what a service answers is decided by the datagram, not by the bytes behind it
  have hanswer := flatMap_answer_eq hL hds fun d hd =>
    ⟨hdevice d (hsub.subset hd), length_of_mem_accepted (hsub.subset hd)⟩
  calc ((stack P cfg L).emitted s).run (stackLaunched P cfg L launch) acts
      <+ ds.flatMap fun d => d.answer L s := hanswer ▸ stack_emitted_sublist s acts
    _ <+ _ := hsub.flatMap _

/-- The device sends the CAM, and every node takes what is there. -/
def rsuSchedule : List StackStep :=
  [.produce (.produce (.recv (.datagram rsuMessage))), .produce (.take () ()), .take .caRx ()]

theorem accepted_rsuMessage :
    accepted littleHost defaultConfig (heard [.recv (.datagram rsuMessage)]) = [rsuMessage] := by
  decide

theorem deviceSpeaks_rsuMessage {acts : List StackStep}
    (h : dispatcherInputs acts = [.recv (.datagram rsuMessage)]) :
    DeviceSpeaks littleHost defaultConfig rsuPackages .caRx acts := by
  intro d hd
  rw [arrived, h, accepted_rsuMessage, List.mem_singleton] at hd
  exact hd ▸ rsuMessage_wellFormed

theorem rsuSchedule_published :
    ((stack littleHost defaultConfig rsuPackages).emitted .caRx).run
        (stackLaunched littleHost defaultConfig rsuPackages caLaunch) rsuSchedule <+
      (arrived littleHost defaultConfig rsuSchedule).flatMap fun d =>
        d.answer rsuPackages .caRx :=
  stack_published littleHost defaultConfig rsuPackages caLaunch rsuPackages_selfDelimiting .caRx
    rsuSchedule (deviceSpeaks_rsuMessage rfl)

/-! ### Illegal accesses -/

/-- The dispatcher can bear its inputs, and the BTP service what it makes of them: accepted
datagrams announce less than 256 bytes, and packets to be sent have a header. -/
structure Bearable (P : Platform) (cfg : Config) (is : List UDPdispatcher.Input) : Prop where
  short : ∀ d ∈ accepted P cfg (heard is), d.msgLen < 256
  header : ∀ udp, UDPdispatcher.Input.send udp ∈ is → 4 ≤ udp.data.cells.length

theorem Bearable.harmless {is : List UDPdispatcher.Input} (h : Bearable P cfg is) :
    Harmless P cfg is where
  heard d hd hacc :=
    le_trans (Nat.le_of_lt (h.short d (List.mem_filter.mpr ⟨hd, decide_eq_true hacc⟩)))
      (by decide)
  sent := h.header

theorem length_indication_payload (host : Endian) (b : RecvBuffer) (d : Datagram)
    (h : d.msgLen < 256) :
    (indication host b d).payload.length = (indication host b d).type.msg_length.toNat := by
  have hpay : (indication host b d).payload.length = d.msgLen := Region.length_read _ _ _
  have hlen : (indication host b d).type.msg_length.toNat = d.msgLen % 256 :=
    UInt8.toNat_ofNat'
  rw [hpay, hlen, Nat.mod_eq_of_lt h]

/-- The dispatcher is there, -/
theorem dispatcher_running {steps : List BtpDataStep}
    (h : Bearable P cfg (steps.filterMap Network.Action.input?)) :
    ((btpData P cfg).final (btpDataLaunched P cfg launch) steps).producer.isSome := by
  rw [Network.producer_final]
  exact (dispatcherProcess_running_iff _ _).mpr h.harmless

/-- and so is the BTP service: the payloads that it takes fit. -/
theorem btp_running {steps : List BtpDataStep}
    (h : Bearable P cfg (steps.filterMap Network.Action.input?)) :
    (((btpData P cfg).final (btpDataLaunched P cfg launch) steps).link ()).node.isSome := by
  rw [Network.node_final]
  refine (btpProcess_running_iff _).mpr fun i hi => ?_
  -- the message is the one of an accepted datagram
  have hmem := (@btpData_consumed_sublist P cfg launch steps).subset
    (List.mem_map_of_mem hi)
  obtain ⟨d, hd, b, hb⟩ := exists_mem_of_forall₂ (dispatcher_run_forall₂ _ _) hmem
  rw [hb]
  exact (length_indication_payload P.host b d (h.short d hd)).le

/-- A service is there: the messages that it reads can be converted. -/
theorem service_running (hL : L.SelfDelimiting) {s : Service} (henabled : launch.enabled s = true)
    {acts : List StackStep} (hdevice : DeviceSpeaks P cfg L s acts)
    (hconvertible : DeviceConvertible P cfg L s acts) :
    (((stack P cfg L).final (stackLaunched P cfg L launch) acts).link s).node.isSome := by
  rw [Network.node_final]
  have hstarted : ((stackLaunched P cfg L launch).link s).node
      = some (s.started launch.publish_cooldown_) := if_pos henabled
  obtain ⟨ds, hds, hsub⟩ := @stack_consumed_forall₂ P cfg L launch s acts
  refine Service.isSome_final (fun i hi => ?_) (by rw [hstarted]; rfl)
  -- the indication belongs to an accepted datagram
  obtain ⟨d, hd, b, hb⟩ := exists_mem_of_forall₂ hds hi
  have hacc := hsub.subset hd
  rw [hb]
  exact convertible_btpIndication hL (hdevice d hacc) (length_of_mem_accepted hacc)
    (hconvertible d hacc)

/-- **The first two nodes, exactly.** After any schedule the dispatcher has made an illegal
access if and only if an accepted datagram that it has heard announced more than the buffer
holds behind the headers, or a packet that it had to send had no header; whatever the two
threads have done in between. The BTP service has made one if and only if a message that
it has taken has a payload of 256 bytes or more. -/
theorem stack_nodes_safe_iff (P : Platform) (cfg : Config) (launch : Launch)
    (acts : List StackStep) :
    (Machine.SafeRun (UDPdispatcher.react P cfg) (some (some (Receiver.started launch.buffer)))
        (dispatcherInputs acts) ↔
      (∀ d ∈ heard (dispatcherInputs acts), Accepted P cfg d → d.msgLen ≤ 946) ∧
        ∀ udp, UDPdispatcher.Input.send udp ∈ dispatcherInputs acts →
          4 ≤ udp.data.cells.length) ∧
      (Machine.SafeRun BtpPublisher.react (some ())
          (((btpData P cfg).consumed ()).run (btpDataLaunched P cfg launch) (btpDataSteps acts)) ↔
        ∀ i ∈ ((btpData P cfg).consumed ()).run (btpDataLaunched P cfg launch)
          (btpDataSteps acts), i.1.payload.length < 256) := by
  refine ⟨(dispatcher_safe_iff _ _).trans harmless_iff, (btpProcess_safe_iff _).trans ?_⟩
  refine forall₂_congr fun i hi => ?_
  -- the message is the one of an accepted datagram, with the low byte of its length
  have hmem := (@btpData_consumed_sublist P cfg launch (btpDataSteps acts)).subset
    (List.mem_map_of_mem hi)
  obtain ⟨d, -, b, hb⟩ := exists_mem_of_forall₂ (dispatcher_run_forall₂ _ _) hmem
  have hpay : (indication P.host b d).payload.length = d.msgLen := Region.length_read _ _ _
  have hlen : (indication P.host b d).type.msg_length.toNat = d.msgLen % 256 :=
    UInt8.toNat_ofNat'
  rw [hb, hpay, hlen]
  omega

/-- **No node ends.** While the accepted datagrams announce less than 256 bytes and the
packets that are sent meanwhile have a header, the dispatcher and the BTP service are there
after every schedule; and so is each service that was launched, if its decoder leaves what
is behind a message and the datagrams are well formed for it and carry what it can convert.
Other services have no part in that. -/
theorem stack_running (P : Platform) (cfg : Config) (L : Packages) (launch : Launch)
    (acts : List StackStep) (hinputs : Bearable P cfg (dispatcherInputs acts)) :
    ((stack P cfg L).final (stackLaunched P cfg L launch) acts).producer.producer.isSome ∧
      (((stack P cfg L).final (stackLaunched P cfg L launch) acts).producer.link ()).node.isSome ∧
      ∀ s, launch.enabled s = true → L.SelfDelimiting → DeviceSpeaks P cfg L s acts →
        DeviceConvertible P cfg L s acts →
        (((stack P cfg L).final (stackLaunched P cfg L launch) acts).link s).node.isSome := by
  rw [Network.producer_final]
  exact ⟨dispatcher_running hinputs, btp_running hinputs,
    fun s henabled hL hs hconvertible => service_running hL henabled hs hconvertible⟩

/-- **The services, exactly.** After any schedule a service has made no illegal access if
and only if all indications that it has read for its port could be converted: it has
followed no null pointer, and read no alternative of a union that the tag does not
select. The DENM service looks only at the DENMs that its rate limit lets pass. -/
theorem stack_services_safe_iff (P : Platform) (cfg : Config) (L : Packages)
    (launch : Launch) (acts : List StackStep) :
    (∀ s, s ≠ .denRx →
      (Machine.SafeRun (s.react L) (some (s.started launch.publish_cooldown_))
          (((stack P cfg L).consumed s).run (stackLaunched P cfg L launch) acts) ↔
        ∀ i ∈ ((stack P cfg L).consumed s).run (stackLaunched P cfg L launch) acts,
          s.Convertible L i.1)) ∧
      (Machine.SafeRun (DenRxNode.react L) (some (.constructed launch.publish_cooldown_))
          (((stack P cfg L).consumed .denRx).run (stackLaunched P cfg L launch) acts) ↔
        ∀ asn1 ∈ denRx.run (.constructed launch.publish_cooldown_)
          ((((stack P cfg L).consumed .denRx).run (stackLaunched P cfg L launch) acts).map
            (DenRxNode.event L)),
          asn1.management.validityDuration.isSome) :=
  ⟨fun _ hs => Service.safeRun_iff hs launch.publish_cooldown_ _, DenRxNode.safeRun_iff _ _⟩

theorem bearable_rsuMessage :
    Bearable littleHost defaultConfig [.recv (.datagram rsuMessage)] where
  short := by
    rw [accepted_rsuMessage]
    intro d hd
    exact List.mem_singleton.mp hd ▸ rsuMessage_wellFormed.short
  header udp hudp := absurd hudp (by simp)

theorem rsuSchedule_running :
    ((stack littleHost defaultConfig rsuPackages).final
        (stackLaunched littleHost defaultConfig rsuPackages caLaunch)
        rsuSchedule).producer.producer.isSome ∧
      (((stack littleHost defaultConfig rsuPackages).final
        (stackLaunched littleHost defaultConfig rsuPackages caLaunch)
        rsuSchedule).producer.link ()).node.isSome ∧
      ∀ s, caLaunch.enabled s = true → rsuPackages.SelfDelimiting →
        DeviceSpeaks littleHost defaultConfig rsuPackages s rsuSchedule →
        DeviceConvertible littleHost defaultConfig rsuPackages s rsuSchedule →
        (((stack littleHost defaultConfig rsuPackages).final
          (stackLaunched littleHost defaultConfig rsuPackages caLaunch)
          rsuSchedule).link s).node.isSome :=
  stack_running littleHost defaultConfig rsuPackages caLaunch rsuSchedule bearable_rsuMessage

end Runs

end V2xStack
