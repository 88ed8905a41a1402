import V2xStack.Foundation.Machine
import V2xStack.Foundation.Run
import V2xStack.Udp.Api

/-!
# The receive path

`UDPdispatcher::initialize` and `UDPdispatcher::publish` (`udp_dispatcher.cpp`)
and `BtpPublisher::publish` (`btp_data_service.cpp`): from a datagram on the
socket to the indication on `/btp_data`.

The dispatcher receives every datagram into one stack buffer of 1024 bytes,
before it looks at the sender. `RecvBuffer` is that buffer with the memory
behind it; `recvfrom` overwrites its first `min(len, 1024)` bytes. Both copies of
the path are bounded by lengths read from the message, not by the array they
touch. Such a copy is recorded as an access to its array and goes on with what
memory holds there: a copy out of the buffer continues behind it, a copy into
the indication drops what falls behind its end.

The file then says what one step does, in terms of the datagram and the buffer:
`RecvBuffer.read_recvfrom`, `publish_eq`, `handle_of_accepted` and
`deliver_of_accepted`. `dispatcher` is the loop as a machine whose hidden state
is the buffer, and `initializeLoop_emits` says that a run of the loop emits what the
machine does. It is a case of `initializeLoop_observed`, which carries any observation
of the loop body to a run.
-/

namespace V2xStack

open Wire

/-! ### The host -/

/-- What the nodes take from the host they run on: its byte order and the C
library's `inet_addr`. -/
structure Platform where
  host : Endian
  inet_addr : String → UInt32

/-- The parameters of `UDPdispatcher` that the receive loop reads. -/
structure Config where
  originatingIp : String

/-- `ntohs`. -/
def ntohs (host : Endian) (x : UInt16) : UInt16 := UInt16.ofNat (host.ntoh 2 x.toNat)

/-! ### The receive buffer -/

/-- `char buffer[1024]` of `initialize` and the memory behind it. -/
structure RecvBuffer where
  region : Region UInt8
  size : region.cells.length = 1024

/-- `recvfrom` into the buffer: bytes of the datagram that do not fit are
discarded. -/
def RecvBuffer.recvfrom (b : RecvBuffer) (bytes : List UInt8) : RecvBuffer where
  region := b.region.write 0 bytes
  size := (b.region.length_write_cells 0 bytes).trans b.size

/-- A datagram on the socket: `sender_addr.sin_addr.s_addr` and the bytes. -/
structure Datagram where
  sender : UInt32
  bytes : List UInt8
  deriving DecidableEq, Repr

/-- The length that `recvfrom` returns for a datagram. -/
def Datagram.recvLen (d : Datagram) : ℕ := min d.bytes.length 1024

/-- A return of `recvfrom`: an error, or a datagram. -/
inductive RecvResult
  | error
  | datagram (d : Datagram)
  deriving DecidableEq, Repr

/-- A message published by the dispatcher: on `udp_data` or on
`converter/udp/in`. -/
inductive Output
  | cohdaInd (m : Msg.CohdaInd)
  | udpPacket (m : Msg.UdpPacket)
  deriving DecidableEq, Repr

def Output.cohdaInd? : Output → Option Msg.CohdaInd
  | cohdaInd m => some m
  | udpPacket _ => none

def Output.udpPacket? : Output → Option Msg.UdpPacket
  | cohdaInd _ => none
  | udpPacket m => some m

/-! ### `UDPdispatcher` -/

namespace UDPdispatcher

/-- The header part of `publish`. The members that the code does not assign keep
their zero. -/
def indHeader (host : Endian) (ind : Region UInt8) : Msg.UDPDataIndHdr where
  btp_type := UInt8.ofNat (UDPBTPDataIndHdr.BTPType.load host ind)
  pkt_transport := UInt8.ofNat (UDPBTPDataIndHdr.PktTransport.load host ind)
  traffic_class := UInt8.ofNat (UDPBTPDataIndHdr.TrafficClass.load host ind)
  max_pkt_life_time := UInt8.ofNat (UDPBTPDataIndHdr.MaxPktLifetime.load host ind)
  dest_port := ntohs host (UInt16.ofNat (UDPBTPDataIndHdr.DestPort.load host ind))
  dest_info := UInt16.ofNat (UDPBTPDataIndHdr.DestInfo.load host ind)

/-- `UDPdispatcher::publish`. The 16-bit length is stored in the 8-bit
`msg_length`, and is the length of the copy out of the buffer. -/
def publish (host : Endian) (ind : Region UInt8) :
    Run (Access UdpObject) Msg.CohdaInd := do
  let msgLen := ntohs host (UInt16.ofNat (UDPBTPMsgType.MsgLen.load host ind))
  let type : Msg.UDPMsgType :=
    { version := UInt8.ofNat (UDPBTPMsgType.Version.load host ind)
      msg_id := UInt8.ofNat (UDPBTPMsgType.MsgID.load host ind)
      msg_length := msgLen.toUInt8 }
  -- the amount following the type, taken for the size of the payload
  let btpMsgSize := msgLen.toNat
  -- `std::copy(ind->Payload, ind->Payload + btpMsgSize, payload.begin())`
  Run.span .recvBuffer UDPBTPDataIndMsg.payloadOffset btpMsgSize ind.cells.length
  let payload := ind.read UDPBTPDataIndMsg.payloadOffset btpMsgSize
  pure { type, header := indHeader host ind, payload }

/-- The part of the loop body behind `recvfrom`. -/
def handle (P : Platform) (cfg : Config) (buffer : RecvBuffer) (d : Datagram) :
    Run (Access UdpObject) (List Output) :=
  -- the buffer was overwritten before the sender is looked at
  if d.sender = P.inet_addr cfg.originatingIp then
    if d.recvLen < UDPBTPMsgType.size + UDPBTPDataIndHdr.size then
      -- "Received packet too short for BTP header"
      pure []
    else do
      let ccu_ind ← publish P.host buffer.region
      pure [.cohdaInd ccu_ind,
        .udpPacket
          { address := cfg.originatingIp
            data := buffer.region.read 0 d.recvLen }]
  else
    pure []

/-- `UDPdispatcher::initialize` from the first `recvfrom` on: the loop ends at a
receive error. -/
def initializeLoop (P : Platform) (cfg : Config) :
    RecvBuffer → List RecvResult → Run (Access UdpObject) (List Output)
  | _, [] => pure []
  | _, .error :: _ => pure []
  | buffer, .datagram d :: rest => do
    let out ← handle P cfg (buffer.recvfrom d.bytes) d
    let later ← initializeLoop P cfg (buffer.recvfrom d.bytes) rest
    pure (out ++ later)

end UDPdispatcher

/-! ### `BtpPublisher` -/

namespace BtpPublisher

/-- `BtpPublisher::publish`: `data` gets the size `msg_length` and then the bytes
of the payload. -/
def publish (packet : Msg.CohdaInd) : Run (Access UdpObject) Msg.BtpDataIndication := do
  let btpSize := packet.type.msg_length.toNat
  -- `std::copy(payload.begin(), payload.end(), btp_msg.data.begin())`
  Run.span .indicationData 0 packet.payload.length btpSize
  pure
    { btp_type := packet.header.btp_type
      destination_port_info := packet.header.dest_info
      destination_port := packet.header.dest_port
      its_aid := packet.header.aid
      traffic_class := { id := packet.header.traffic_class }
      data := writeAt (List.replicate btpSize 0) 0 packet.payload }

end BtpPublisher

/-- A datagram through both nodes: what the dispatcher publishes on `udp_data`,
and what the BTP service makes of it. -/
def deliver (P : Platform) (cfg : Config) (buffer : RecvBuffer) (d : Datagram) :
    Run (Access UdpObject) (List Msg.BtpDataIndication) := do
  let out ← UDPdispatcher.handle P cfg (buffer.recvfrom d.bytes) d
  Run.forPush (out.filterMap Output.cohdaInd?) BtpPublisher.publish

/-! ### What one datagram does -/

/-- The dispatcher takes the datagram: it comes from the configured device and is
long enough for the two headers. -/
def Accepted (P : Platform) (cfg : Config) (d : Datagram) : Prop :=
  d.sender = P.inet_addr cfg.originatingIp ∧ 78 ≤ d.bytes.length

instance (P : Platform) (cfg : Config) : DecidablePred (Accepted P cfg) :=
  fun _ => inferInstanceAs (Decidable (_ ∧ _))

/-- The value of the datagram's `MsgLen` on the wire. -/
def Datagram.msgLen (d : Datagram) : ℕ := beNat (slice d.bytes 2 2)

/-- The byte of the datagram at an offset. -/
def Datagram.byte (d : Datagram) (i : ℕ) : UInt8 := d.bytes[i]?.getD 0

section Step

variable {P : Platform} {cfg : Config} {host : Endian} {b : RecvBuffer} {d : Datagram}

/-- Reading received bytes of the buffer reads the datagram. -/
theorem RecvBuffer.read_recvfrom {off len : ℕ} (h : off + len ≤ d.recvLen) :
    (b.recvfrom d.bytes).region.read off len = slice d.bytes off len :=
  b.region.read_write_of_le (by rw [b.size]; exact h)

/-- Behind the received bytes the buffer still holds what it held before. -/
theorem RecvBuffer.get_recvfrom_of_le {i : ℕ} (h : d.recvLen ≤ i) :
    (b.recvfrom d.bytes).region.get i = b.region.get i := by
  unfold Datagram.recvLen at h
  exact b.region.get_write_of_outside (by rw [b.size]; omega)

theorem load_recvfrom {f : Field} (h : f.stop ≤ d.recvLen) :
    f.load host (b.recvfrom d.bytes).region = host.load (slice d.bytes f.offset f.width) := by
  rw [Field.load, RecvBuffer.read_recvfrom h]

/-- `ntohs` of a 16-bit member is its big-endian value. -/
theorem toNat_ntohs_load {bs : List UInt8} (h : bs.length = 2) :
    (ntohs host (UInt16.ofNat (host.load bs))).toNat = beNat bs := by
  have hlt : host.load bs < 65536 := by
    have := host.load_lt bs
    rwa [h] at this
  have hbe : beNat bs < 65536 := by
    have := beNat_lt bs
    rwa [h] at this
  -- the conversion undoes the order of the host
  have hconv : host.ntoh 2 (host.load bs) = beNat bs := by
    rw [← h]
    exact host.ntoh_load bs
  rw [ntohs, UInt16.toNat_ofNat_of_lt' hlt, hconv, UInt16.toNat_ofNat_of_lt' hbe]

variable (host b) in
/-- What `publish` produces from the buffer after an accepted datagram. -/
def indication (d : Datagram) : Msg.CohdaInd where
  type :=
    { version := UInt8.ofNat (UDPBTPMsgType.Version.load host (b.recvfrom d.bytes).region)
      msg_id := UInt8.ofNat (UDPBTPMsgType.MsgID.load host (b.recvfrom d.bytes).region)
      msg_length := UInt8.ofNat d.msgLen }
  header := UDPdispatcher.indHeader host (b.recvfrom d.bytes).region
  payload := (b.recvfrom d.bytes).region.read 78 d.msgLen

/-- **One call of `publish`.** The payload is as long as `MsgLen` says, whatever
was received, and `msg_length` keeps the low eight bits of it. -/
theorem publish_eq (h : 78 ≤ d.bytes.length) :
    UDPdispatcher.publish host (b.recvfrom d.bytes).region
      = ⟨[.span .recvBuffer 78 d.msgLen 1024], some (indication host b d)⟩ := by
  have hrecv : 78 ≤ d.recvLen := by unfold Datagram.recvLen; omega
  -- the length member was received, so it is the datagram's
  have hlen : (ntohs host (UInt16.ofNat (UDPBTPMsgType.MsgLen.load host
      (b.recvfrom d.bytes).region))).toNat = d.msgLen := by
    have hstop : UDPBTPMsgType.MsgLen.stop ≤ d.recvLen := le_trans (by decide) hrecv
    rw [load_recvfrom hstop]
    exact toNat_ntohs_load (length_slice (le_trans (by decide) h))
  -- and the 8-bit member keeps it modulo 256
  have hu8 : (ntohs host (UInt16.ofNat (UDPBTPMsgType.MsgLen.load host
      (b.recvfrom d.bytes).region))).toUInt8 = UInt8.ofNat d.msgLen := by
    apply UInt8.toNat_inj.mp
    rw [UInt16.toNat_toUInt8, hlen, UInt8.toNat_ofNat']
  have hcells : (b.recvfrom d.bytes).region.cells.length = 1024 := (b.recvfrom d.bytes).size
  unfold UDPdispatcher.publish indication
  simp only [hlen, hu8, hcells]
  rfl

/-- An accepted datagram is published on both topics. -/
theorem handle_of_accepted (h : Accepted P cfg d) :
    UDPdispatcher.handle P cfg (b.recvfrom d.bytes) d
      = ⟨[.span .recvBuffer 78 d.msgLen 1024],
          some [.cohdaInd (indication P.host b d),
            .udpPacket
              { address := cfg.originatingIp
                data := (b.recvfrom d.bytes).region.read 0 d.recvLen }]⟩ := by
  -- what is received of it is not shorter than the headers
  have hlen : ¬d.recvLen < UDPBTPMsgType.size + UDPBTPDataIndHdr.size := by
    have h78 : UDPBTPMsgType.size + UDPBTPDataIndHdr.size = 78 := by decide
    have := h.2
    unfold Datagram.recvLen
    omega
  rw [UDPdispatcher.handle, if_pos h.1, if_neg hlen, publish_eq h.2]
  rfl

/-- Any other datagram is dropped. -/
theorem handle_of_not_accepted (h : ¬Accepted P cfg d) :
    UDPdispatcher.handle P cfg b d = pure [] := by
  unfold UDPdispatcher.handle
  split
  · -- the right sender, so the datagram is too short
    next hs =>
    refine if_pos ?_
    have h78 : UDPBTPMsgType.size + UDPBTPDataIndHdr.size = 78 := by decide
    have hlt : ¬78 ≤ d.bytes.length := fun hle => h ⟨hs, hle⟩
    unfold Datagram.recvLen
    omega
  · rfl

variable (host b) in
/-- What `BtpPublisher::publish` makes of it. -/
def btpIndication (d : Datagram) : Msg.BtpDataIndication where
  btp_type := (indication host b d).header.btp_type
  destination_port_info := (indication host b d).header.dest_info
  destination_port := (indication host b d).header.dest_port
  its_aid := (indication host b d).header.aid
  traffic_class := { id := (indication host b d).header.traffic_class }
  data := writeAt (List.replicate (d.msgLen % 256) 0) 0 (indication host b d).payload

/-- **Both hops.** One indication, and the two copies on record. -/
theorem deliver_of_accepted (h : Accepted P cfg d) :
    deliver P cfg b d
      = ⟨[.span .recvBuffer 78 d.msgLen 1024,
            .span .indicationData 0 d.msgLen (d.msgLen % 256)],
          some [btpIndication P.host b d]⟩ := by
  have hpay : (indication P.host b d).payload.length = d.msgLen := Region.length_read _ _ _
  have hlen : (indication P.host b d).type.msg_length.toNat = d.msgLen % 256 :=
    UInt8.toNat_ofNat'
  have hbtp : BtpPublisher.publish (indication P.host b d)
      = ⟨[.span .indicationData 0 d.msgLen (d.msgLen % 256)],
          some (btpIndication P.host b d)⟩ := by
    rw [BtpPublisher.publish, hpay, hlen]
    rfl
  rw [deliver, handle_of_accepted h]
  rw [Run.bind_of_some rfl]
  -- of the two messages one is on `udp_data`; the loop over it has one iteration
  have hpush : Run.forPush ([Output.cohdaInd (indication P.host b d),
      .udpPacket
        { address := cfg.originatingIp
          data := (b.recvfrom d.bytes).region.read 0 d.recvLen }].filterMap Output.cohdaInd?)
      BtpPublisher.publish
      = ⟨[.span .indicationData 0 d.msgLen (d.msgLen % 256)],
          some [btpIndication P.host b d]⟩ := by
    change (BtpPublisher.publish (indication P.host b d) >>= fun y => pure ([] ++ [y]))
      >>= pure = _
    rw [hbtp]
    rfl
  rw [hpush]
  rfl

end Step

/-! ### The loop as a machine -/

section Loop

variable (P : Platform) (cfg : Config)

/-- The messages on `udp_data` for one datagram. -/
def emitted (b : RecvBuffer) (d : Datagram) : List Msg.CohdaInd :=
  if Accepted P cfg d then [indication P.host b d] else []

/-- The receive loop, with the buffer as hidden state and the messages on
`udp_data` as outputs. -/
def dispatcher : Machine RecvBuffer Datagram Msg.CohdaInd where
  next b d := b.recvfrom d.bytes
  emit := emitted P cfg

/-- The messages that a run of the loop publishes on `udp_data`. -/
def published (b : RecvBuffer) (ds : List Datagram) : List Msg.CohdaInd :=
  match (UDPdispatcher.initializeLoop P cfg b (ds.map .datagram)).result with
  | some out => out.filterMap Output.cohdaInd?
  | none => []

theorem handle_emits (b : RecvBuffer) (d : Datagram) :
    ∃ out, (UDPdispatcher.handle P cfg (b.recvfrom d.bytes) d).result = some out ∧
      out.filterMap Output.cohdaInd? = emitted P cfg b d := by
  by_cases h : Accepted P cfg d
  · exact ⟨_, by rw [handle_of_accepted h], by rw [emitted, if_pos h]; rfl⟩
  · exact ⟨[], by rw [handle_of_not_accepted h]; rfl, by rw [emitted, if_neg h]; rfl⟩

/-- The loop never ends on a sequence of datagrams. Through any observation of the
published messages its run is the run of a machine over the buffer, if its body is
a step of the machine. -/
theorem initializeLoop_observed {β : Type} {obs : Output → Option β}
    {emit : RecvBuffer → Datagram → List β}
    (hemit : ∀ b d, ∃ out, (UDPdispatcher.handle P cfg (b.recvfrom d.bytes) d).result = some out ∧
      out.filterMap obs = emit b d) (b : RecvBuffer) (ds : List Datagram) :
    ∃ out, (UDPdispatcher.initializeLoop P cfg b (ds.map .datagram)).result = some out ∧
      out.filterMap obs = (Machine.mk (fun b d => b.recvfrom d.bytes) emit).run b ds := by
  induction ds generalizing b with
  | nil => exact ⟨[], rfl, rfl⟩
  | cons d ds ih =>
    obtain ⟨out, hout, hstep⟩ := hemit b d
    obtain ⟨later, hlater, hrun⟩ := ih (b.recvfrom d.bytes)
    -- the body for the first datagram, then the loop from the buffer that it leaves
    refine ⟨out ++ later, ?_, ?_⟩
    · rw [List.map_cons, UDPdispatcher.initializeLoop, Run.result_bind, hout, Option.bind_some,
        Run.result_bind, hlater, Option.bind_some, Run.result_pure]
    · rw [List.filterMap_append, hstep, hrun]
      rfl

/-- On `udp_data` it publishes what the machine emits. -/
theorem initializeLoop_emits (b : RecvBuffer) (ds : List Datagram) :
    ∃ out, (UDPdispatcher.initializeLoop P cfg b (ds.map .datagram)).result = some out ∧
      out.filterMap Output.cohdaInd? = (dispatcher P cfg).run b ds :=
  initializeLoop_observed P cfg (handle_emits P cfg) b ds

/-- **The loop refines the machine.** -/
theorem published_eq_run (b : RecvBuffer) (ds : List Datagram) :
    published P cfg b ds = (dispatcher P cfg).run b ds := by
  obtain ⟨out, hout, hrun⟩ := initializeLoop_emits P cfg b ds
  rw [published, hout]
  exact hrun

end Loop

/-! ### The default configuration

A little-endian host, the default parameters, and the shortest message of the
device. -/

/-- A little-endian host that knows the default address. -/
def littleHost : Platform where
  host := .little
  inet_addr s := if s = "172.16.2.1" then 0x010210AC else 0xFFFFFFFF

/-- The default of the parameter `originating_ip`. -/
def defaultConfig : Config := ⟨"172.16.2.1"⟩

/-- A receive buffer of zeros in zeroed memory. -/
def zeroBuffer : RecvBuffer := ⟨⟨List.replicate 1024 0, fun _ => 0⟩, List.length_replicate⟩

/-- A BTP-B message to port 2001 with an empty payload: `MsgLen` is 74. -/
def emptyMessage : Datagram where
  sender := 0x010210AC
  bytes := [4, 1, 0, 74] ++ [2, 7, 2, 0, 7, 0xD1, 0, 0] ++ List.replicate 66 0

end V2xStack
