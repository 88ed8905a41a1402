import V2xStack.Foundation.Process
import V2xStack.Udp.Indication

/-!
# The BTP service as a process

`BtpPublisher` takes the messages of `udp_data` one by one and publishes an indication for
each on `/btp_data`. It writes inside the indication exactly when the payload of the
message fits (`btpProcess_safe_iff`), and then the indication is the message's
`Msg.CohdaInd.image` (`btpProcess_run_eq`).
-/

namespace V2xStack

open Wire
open scoped List

/-- `BtpPublisher::udpCallback`: what `publish` makes of the message is published. -/
def BtpPublisher.udpCallback (msg : Msg.CohdaInd) :
    Run (Access UdpObject) (List Msg.BtpDataIndication) := do
  let btp_msg ← BtpPublisher.publish msg
  pure [btp_msg]

/-- One reaction of the node with its subscription to `udp_data`. -/
def BtpPublisher.react :
    Unit → Msg.CohdaInd × Unit →
      Run (Access UdpObject) (Option Unit × List Msg.BtpDataIndication) :=
  Machine.answering fun i => BtpPublisher.udpCallback i.1

def btpProcess : Machine (Option Unit) (Msg.CohdaInd × Unit) Msg.BtpDataIndication :=
  Machine.process BtpPublisher.react

/-- What `BtpPublisher::publish` makes of a message. -/
def Msg.CohdaInd.image (packet : Msg.CohdaInd) : Msg.BtpDataIndication where
  btp_type := packet.header.btp_type
  destination_port_info := packet.header.dest_info
  destination_port := packet.header.dest_port
  its_aid := packet.header.aid
  traffic_class := { id := packet.header.traffic_class }
  data := writeAt (List.replicate packet.type.msg_length.toNat 0) 0 packet.payload

/-- The indication of a datagram. -/
theorem image_indication (host : Endian) (b : RecvBuffer) (d : Datagram) :
    (indication host b d).image = btpIndication host b d := by
  have hlen : (indication host b d).type.msg_length.toNat = d.msgLen % 256 := UInt8.toNat_ofNat'
  rw [Msg.CohdaInd.image, hlen]
  rfl

theorem udpCallback_safe_iff (packet : Msg.CohdaInd) :
    (BtpPublisher.udpCallback packet).Safe ↔
      packet.payload.length ≤ packet.type.msg_length.toNat := by
  rw [BtpPublisher.udpCallback, Run.safe_bind, btpPublish_safe_iff]
  exact and_iff_left fun _ _ => Run.safe_pure _

/-- **One reaction**: to a message whose payload fits, and to no other. -/
theorem udpCallback_outcome (packet : Msg.CohdaInd) :
    (BtpPublisher.udpCallback packet).outcome
      = if packet.payload.length ≤ packet.type.msg_length.toNat then some [packet.image]
        else none := by
  split
  · next h => exact Run.outcome_of_safe ((udpCallback_safe_iff packet).mpr h)
  · next h => exact Run.outcome_of_not_safe fun hsafe => h ((udpCallback_safe_iff packet).mp hsafe)

/-- A step of the process, as one of a process without a state. -/
theorem btpProcess_step (i : Msg.CohdaInd × Unit) :
    btpProcess.emit (some ()) i = (BtpPublisher.udpCallback i.1).outcome.getD [] ∧
      btpProcess.next (some ()) i = (BtpPublisher.udpCallback i.1).outcome.map fun _ => () :=
  ⟨Machine.emit_stateless () i, Machine.next_stateless () i⟩

theorem btpProcess_emit_sublist (st : Option Unit) (i : Msg.CohdaInd × Unit) :
    btpProcess.emit st i <+ [i.1.image] := by
  cases st with
  | none => exact List.nil_sublist _
  | some u =>
    rw [(btpProcess_step i).1, udpCallback_outcome]
    -- the copy stays in the payload, or the process ends before it publishes
    split
    · exact List.Sublist.refl _
    · exact List.nil_sublist _

/-- **The BTP service is memory safe** when the payloads that it takes fit. -/
theorem btpProcess_safe_iff (is : List (Msg.CohdaInd × Unit)) :
    Machine.SafeRun BtpPublisher.react (some ()) is ↔
      ∀ i ∈ is, i.1.payload.length ≤ i.1.type.msg_length.toNat := by
  rw [BtpPublisher.react, Machine.safeRun_answering_iff]
  exact forall₂_congr fun i _ => udpCallback_safe_iff i.1

/-- Then it is there at the end, -/
theorem btpProcess_running_iff (is : List (Msg.CohdaInd × Unit)) :
    (btpProcess.final (some ()) is).isSome ↔
      ∀ i ∈ is, i.1.payload.length ≤ i.1.type.msg_length.toNat :=
  (Machine.safeRun_iff_isSome_final Machine.answering_perpetual () is).symm.trans
    (btpProcess_safe_iff is)

end V2xStack
