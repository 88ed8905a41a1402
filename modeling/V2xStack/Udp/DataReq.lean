import V2xStack.Udp.Send

/-!
# What an outgoing packet becomes

The frame of `createCohdaBTP`, read by the packed layout of `tUDPBTPDataReqMsg`
and compared with the BTP-B packet it was made from. Both functions are covered:
they send the same frame.

* **Layout.** `FrameCorrect` is what a data request for the packet should be;
  `createCohdaBTP_correct` proves it for every packet that has a header and whose
  frame fits a datagram, on a host of either byte order.
* **Round trip.** `BtpB` is the meaning of a packet and `readBtpB` takes it back
  from a frame. The destination port information is parsed from the packet, but
  the member of the frame is assigned zero. A packet survives exactly when its
  port information is zero, and two packets that differ in nothing else have the
  same frame (`createCohdaBTP_roundTrip_iff`).
-/

namespace V2xStack

open Wire

/-- The integer a member has on the wire. -/
def wireValue (f : Field) (frame : List UInt8) : ℕ := beNat (f.read frame)

section Members

variable {host : Endian} {btp : Region UInt8}

/-- `dest_port` is the big-endian value of the first two bytes. -/
theorem toNat_destPort (hmin : 4 ≤ btp.cells.length) :
    (destPort btp).toNat = beNat (btp.cells.take 2) := by
  have htake : btp.cells.take 2 = [btp.get 0, btp.get 1] := by
    have hslice := slice_add btp.cells 0 1 1
    rw [slice_one (by omega), slice_one (by omega)] at hslice
    rw [Region.get_of_lt _ (by omega), Region.get_of_lt _ (by omega)]
    exact hslice
  have h0 := (btp.get 0).toNat_lt
  have h1 := (btp.get 1).toNat_lt
  -- the shifted byte stays below 16 bits, so nothing is cut off
  have hshift : (btp.get 0).toNat <<< 8 < 65536 := by
    rw [Nat.shiftLeft_eq]
    omega
  have hvalue : (destPort btp).toNat = (btp.get 0).toNat <<< 8 ||| (btp.get 1).toNat := by
    rw [destPort, UInt16.toNat_or, UInt16.toNat_shiftLeft]
    change (btp.get 0).toUInt16.toNat <<< 8 % 65536 ||| (btp.get 1).toUInt16.toNat = _
    rw [UInt8.toNat_toUInt16, UInt8.toNat_toUInt16, Nat.mod_eq_of_lt hshift]
  -- the low byte has no bit in common with the shifted one: the disjunction is a sum
  calc (destPort btp).toNat
      = (btp.get 0).toNat <<< 8 ||| (btp.get 1).toNat := hvalue
    _ = (btp.get 0).toNat <<< 8 + (btp.get 1).toNat :=
        (Nat.shiftLeft_add_eq_or_of_lt h1 _).symm
    _ = beNat (btp.cells.take 2) := by
        rw [htake, Nat.shiftLeft_eq]
        simp only [beNat, List.reverse_cons, List.reverse_nil, List.nil_append,
          List.cons_append, leNat_cons, leNat_nil]
        omega

/-- `DestPort` has the first two bytes of the packet. -/
theorem read_destPort (hmin : 4 ≤ btp.cells.length) :
    UDPBTPDataReqHdr.DestPort.read (frameOf btp host) = btp.cells.take 2 := by
  have hbytes := beBytes_beNat (btp.cells.take 2)
  rw [List.length_take, Nat.min_eq_left (by omega)] at hbytes
  rw [read_frameOf_of_write hmin (k := 7) rfl (by decide)]
  change host.store 2 _ = _
  rw [store_htons, toNat_destPort hmin, hbytes]

/-- `DestInfo` is zero, whatever the packet. -/
theorem read_destInfo (hmin : 4 ≤ btp.cells.length) :
    UDPBTPDataReqHdr.DestInfo.read (frameOf btp host) = [0, 0] :=
  read_frameOf_zero hmin (by decide) (by decide)

/-- A byte member has the value that was assigned. -/
theorem wireValue_of_byte {f : Field} {v k : ℕ} (hmin : 4 ≤ btp.cells.length)
    (hk : (headerWrites host (destPort btp) (UInt64.ofNat (btp.cells.length - 4)))[k]?
      = some (f, v))
    (hlater : ∀ g ∈ headerMembers.drop (k + 1), f.Disjoint g) (hwidth : f.width = 1) :
    wireValue f (frameOf btp host) = v % 256 := by
  -- one byte has no order
  have hstore : host.store 1 v = beBytes 1 v := by
    cases host
    · rfl
    · rfl
  rw [wireValue, read_frameOf_of_write hmin hk hlater, hwidth, hstore, beNat_beBytes, pow_one]

/-- A member that was assigned `htons` of an integer has that integer. -/
theorem wireValue_of_htons {f : Field} {x : UInt16} {k : ℕ} (hmin : 4 ≤ btp.cells.length)
    (hk : (headerWrites host (destPort btp) (UInt64.ofNat (btp.cells.length - 4)))[k]?
      = some (f, (htons host x).toNat))
    (hlater : ∀ g ∈ headerMembers.drop (k + 1), f.Disjoint g) (hwidth : f.width = 2) :
    wireValue f (frameOf btp host) = x.toNat := by
  rw [wireValue, read_frameOf_of_write hmin hk hlater, hwidth, store_htons,
    beNat_beBytes_of_lt x.toNat_lt]

end Members

/-! ### The layout of a data request -/

/-- The frame is a data request for the packet. -/
structure FrameCorrect (btp frame : List UInt8) : Prop where
  size : frame.length = 70 + (btp.length - 4)
  version : wireValue UDPBTPMsgType.Version frame = 4
  msgID : wireValue UDPBTPMsgType.MsgID frame = UDPBTP_MSG_DATAREQ
  msgLen : wireValue UDPBTPMsgType.MsgLen frame = frame.length - UDPBTPMsgType.size
  destPort : wireValue UDPBTPDataReqHdr.DestPort frame = beNat (btp.take 2)
  aid : wireValue UDPBTPDataReqHdr.AID frame = 0x24
  length : wireValue UDPBTPDataReqHdr.Length frame = btp.length - 4
  destination : UDPBTPDataReqHdr.Destination.read frame = List.replicate 16 0
  sspLen : wireValue UDPBTPDataReqHdr.SSPLen frame = 0
  sspBits : UDPBTPDataReqHdr.SSPBits.read frame = List.replicate 32 0
  payload : frame.drop UDPBTPDataReqMsg.payloadOffset = btp.drop 4

section Correct

variable {host : Endian} {btp : Region UInt8}

/-- `MsgLen` has the low 16 bits of the length. -/
theorem Sized.toNat_msgLen (h : Sized btp) :
    (UInt64.ofNat (btp.cells.length - 4)
      + UInt64.ofNat UDPBTPDataReqHdr.size).toUInt16.toNat
      = (btp.cells.length + 62) % 65536 := by
  have hmin := h.header
  have hmax := h.size
  -- the sum is cut off to 16 bits, the size of a vector does not get near 64
  have h66 : UInt64.ofNat UDPBTPDataReqHdr.size = UInt64.ofNat 66 := by decide
  rw [UInt64.toNat_toUInt16, UInt64.toNat_add, h.toNat_payload_size, h66,
    toNat_ofNat_size (by decide)]
  omega

/-- And `Length`. -/
theorem Sized.toNat_length (h : Sized btp) :
    (UInt64.ofNat (btp.cells.length - 4)).toUInt16.toNat = (btp.cells.length - 4) % 65536 := by
  rw [UInt64.toNat_toUInt16, h.toNat_payload_size]

/-- The two length members of the frame. -/
theorem Sized.wireValue_msgLen (h : Sized btp) :
    wireValue UDPBTPMsgType.MsgLen (frameOf btp host) = (btp.cells.length + 62) % 65536 := by
  rw [wireValue_of_htons h.header (k := 2) rfl (by decide) rfl, h.toNat_msgLen]

theorem Sized.wireValue_length (h : Sized btp) :
    wireValue UDPBTPDataReqHdr.Length (frameOf btp host) = (btp.cells.length - 4) % 65536 := by
  rw [wireValue_of_htons h.header (k := 26) rfl (by decide) rfl, h.toNat_length]

theorem frameOf_correct (h : Sendable btp) : FrameCorrect btp.cells (frameOf btp host) := by
  have hmin := h.header
  have hmax := h.fits
  have haid : UDPBTPDataReqHdr.AID.read (frameOf btp host) = beBytes 4 0x24 := by
    rw [read_frameOf_of_write hmin (k := 23) rfl (by decide)]
    exact store_htonl host 0x24
  refine
    { size := ?_
      version := wireValue_of_byte hmin (k := 0) rfl (by decide) rfl
      msgID := wireValue_of_byte hmin (k := 1) rfl (by decide) rfl
      msgLen := ?_
      destPort := ?_
      aid := ?_
      length := ?_
      destination := read_frameOf_zero hmin (by decide) (by decide)
      sspLen := wireValue_of_byte hmin (k := 22) rfl (by decide) rfl
      sspBits := read_frameOf_zero hmin (by decide) (by decide)
      payload := drop_frameOf hmin }
  · rw [length_frameOf]
    omega
  · -- what follows the message type is the header and the payload
    rw [h.sized.wireValue_msgLen, length_frameOf]
    change _ = btp.cells.length + 66 - 4
    omega
  · rw [wireValue, read_destPort hmin]
  · rw [wireValue, haid]
    decide
  · rw [h.sized.wireValue_length]
    omega

theorem dispatcher_createCohdaBTP_result (h : Sized btp) :
    (UDPdispatcher.createCohdaBTP host btp).result = some [.sendto (frameOf btp host)] := by
  rw [UDPdispatcher.createCohdaBTP, Run.result_bind, cohdaFrame_result h, Option.bind_some,
    Run.result_pure]

theorem converter_createCohdaBTP_result (h : Sized btp) :
    (UDPSenderConverter.createCohdaBTP host btp).result
      = some [.publish ⟨"172.16.2.1", frameOf btp host⟩, .sendto (frameOf btp host)] := by
  rw [UDPSenderConverter.createCohdaBTP, Run.result_bind, cohdaFrame_result h,
    Option.bind_some, Run.result_pure]

/-- The functions add no access to those of the body. -/
theorem dispatcher_createCohdaBTP_safe (h : Sized btp) :
    (UDPdispatcher.createCohdaBTP host btp).Safe :=
  (Run.safe_bind _ _).mpr ⟨cohdaFrame_safe h, fun _ _ => Run.safe_pure _⟩

theorem converter_createCohdaBTP_safe (h : Sized btp) :
    (UDPSenderConverter.createCohdaBTP host btp).Safe :=
  (Run.safe_bind _ _).mpr ⟨cohdaFrame_safe h, fun _ _ => Run.safe_pure _⟩

end Correct

/-- **Every transmitted frame is a correct data request.** For a packet with a
BTP-B header whose frame fits a datagram, both functions run safely and send one
frame of `70 + (btp.size() - 4)` bytes that parses as a data request for the
packet; the converter publishes the same frame. -/
theorem createCohdaBTP_correct (host : Endian) (btp : Region UInt8)
    (hmin : 4 ≤ btp.cells.length) (hmax : btp.cells.length - 4 + 70 ≤ 65507) :
    (UDPdispatcher.createCohdaBTP host btp).Safe ∧
      (UDPSenderConverter.createCohdaBTP host btp).Safe ∧
      ∃ frame, (UDPdispatcher.createCohdaBTP host btp).result = some [.sendto frame] ∧
        (UDPSenderConverter.createCohdaBTP host btp).result
          = some [.publish ⟨"172.16.2.1", frame⟩, .sendto frame] ∧
        FrameCorrect btp.cells frame := by
  have h : Sendable btp := ⟨hmin, hmax⟩
  exact ⟨dispatcher_createCohdaBTP_safe h.sized, converter_createCohdaBTP_safe h.sized,
    frameOf btp host, dispatcher_createCohdaBTP_result h.sized,
    converter_createCohdaBTP_result h.sized, frameOf_correct h⟩

/-- A packet to port 2001 with port information 1 and one byte of payload. -/
def portInfoPacket : Region UInt8 := ⟨[0x07, 0xD1, 0, 1, 0x2A], fun _ => 0⟩

/-- The same packet without port information. -/
def plainPacket : Region UInt8 := ⟨[0x07, 0xD1, 0, 0, 0x2A], fun _ => 0⟩

theorem plainPacket_correct :
    (UDPdispatcher.createCohdaBTP .little plainPacket).Safe ∧
      (UDPSenderConverter.createCohdaBTP .little plainPacket).Safe ∧
      ∃ frame, (UDPdispatcher.createCohdaBTP .little plainPacket).result
          = some [.sendto frame] ∧
        (UDPSenderConverter.createCohdaBTP .little plainPacket).result
          = some [.publish ⟨"172.16.2.1", frame⟩, .sendto frame] ∧
        FrameCorrect plainPacket.cells frame :=
  createCohdaBTP_correct .little plainPacket (by decide) (by decide)

/-! ### Reading a packet back -/

/-- A BTP-B packet: destination port, destination port information, payload. -/
structure BtpB where
  dest_port : UInt16
  dest_port_info : UInt16
  payload : List UInt8
  deriving DecidableEq, Repr

/-- The packet on the wire. -/
def BtpB.serialize (p : BtpB) : List UInt8 :=
  beBytes 2 p.dest_port.toNat ++ beBytes 2 p.dest_port_info.toNat ++ p.payload

/-- The packet that a frame carries. -/
def readBtpB (frame : List UInt8) : BtpB where
  dest_port := UInt16.ofNat (wireValue UDPBTPDataReqHdr.DestPort frame)
  dest_port_info := UInt16.ofNat (wireValue UDPBTPDataReqHdr.DestInfo frame)
  payload := frame.drop UDPBTPDataReqMsg.payloadOffset

/-- Both functions send a frame that carries the packet. -/
def RoundTrip (host : Endian) (btp : Region UInt8) : Prop :=
  ∃ frame, (UDPdispatcher.createCohdaBTP host btp).result = some [.sendto frame] ∧
    (UDPSenderConverter.createCohdaBTP host btp).result
      = some [.publish ⟨"172.16.2.1", frame⟩, .sendto frame] ∧
    (readBtpB frame).serialize = btp.cells

section RoundTrip

variable {host : Endian} {btp btp' : Region UInt8}

/-- A two-byte member is read back as its bytes. -/
theorem beBytes_wireValue {f : Field} {frame : List UInt8} (hwidth : f.width = 2)
    (hstop : f.stop ≤ frame.length) :
    beBytes 2 (UInt16.ofNat (wireValue f frame)).toNat = f.read frame := by
  have hlen : (f.read frame).length = 2 := (length_slice hstop).trans hwidth
  have hlt := beNat_lt (f.read frame)
  have hbytes := beBytes_beNat (f.read frame)
  -- two bytes fit the field, so the value is not wrapped
  rw [hlen] at hlt hbytes
  rw [wireValue, UInt16.toNat_ofNat_of_lt' hlt]
  exact hbytes

/-- What is read back is the packet with its port information cleared. -/
theorem serialize_readBtpB (hmin : 4 ≤ btp.cells.length) :
    (readBtpB (frameOf btp host)).serialize
      = btp.cells.take 2 ++ [0, 0] ++ btp.cells.drop 4 := by
  have hlen : 70 ≤ (frameOf btp host).length := by
    rw [length_frameOf]
    omega
  -- three members of the frame are read, each inside it
  have hport := beBytes_wireValue (f := UDPBTPDataReqHdr.DestPort) rfl
    (le_trans (by decide) hlen)
  have hinfo := beBytes_wireValue (f := UDPBTPDataReqHdr.DestInfo) rfl
    (le_trans (by decide) hlen)
  have hpayload : (frameOf btp host).drop UDPBTPDataReqMsg.payloadOffset = btp.cells.drop 4 :=
    drop_frameOf hmin
  simp only [BtpB.serialize, readBtpB]
  rw [hport, hinfo, hpayload, read_destPort hmin, read_destInfo hmin]

/-- A packet is its port, its port information and its payload. -/
theorem cells_eq (btp : Region UInt8) :
    btp.cells = btp.cells.take 2 ++ slice btp.cells 2 2 ++ btp.cells.drop 4 := by
  have hhead : btp.cells.take (2 + 2) = btp.cells.take 2 ++ slice btp.cells 2 2 :=
    List.take_add
  rw [← hhead, List.take_append_drop]

/-- The frame determines the port and the payload, and is determined by them. -/
theorem frameOf_inj_iff (hmin : 4 ≤ btp.cells.length) (hmin' : 4 ≤ btp'.cells.length) :
    frameOf btp host = frameOf btp' host ↔
      btp.cells.take 2 = btp'.cells.take 2 ∧ btp.cells.drop 4 = btp'.cells.drop 4 := by
  constructor
  · intro heq
    refine ⟨?_, ?_⟩
    · calc btp.cells.take 2
          = UDPBTPDataReqHdr.DestPort.read (frameOf btp host) := (read_destPort hmin).symm
        _ = UDPBTPDataReqHdr.DestPort.read (frameOf btp' host) := by rw [heq]
        _ = btp'.cells.take 2 := read_destPort hmin'
    · calc btp.cells.drop 4
          = (frameOf btp host).drop 70 := (drop_frameOf hmin).symm
        _ = (frameOf btp' host).drop 70 := by rw [heq]
        _ = btp'.cells.drop 4 := drop_frameOf hmin'
  · rintro ⟨hport, hpayload⟩
    -- the frame is made from the length, the port and the payload
    have hlen : btp.cells.length = btp'.cells.length := by
      have := congrArg List.length hpayload
      rw [List.length_drop, List.length_drop] at this
      omega
    have hdest : destPort btp = destPort btp' := by
      apply UInt16.toNat_inj.mp
      rw [toNat_destPort hmin, toNat_destPort hmin', hport]
    rw [frameOf, frameOf, headerOf, headerOf, hlen, hdest, hpayload]

end RoundTrip

/-- **The round trip, exactly.** A packet survives the frame if and only if its
destination port information is zero. Two packets are sent as the same frame, by
either function, if and only if they agree outside bytes 2 and 3. -/
theorem createCohdaBTP_roundTrip_iff (host : Endian) (btp btp' : Region UInt8)
    (hmin : 4 ≤ btp.cells.length) (hmax : btp.cells.length - 4 + 70 ≤ 65507)
    (hmin' : 4 ≤ btp'.cells.length) (hmax' : btp'.cells.length - 4 + 70 ≤ 65507) :
    (RoundTrip host btp ↔ slice btp.cells 2 2 = [0, 0]) ∧
      ((UDPdispatcher.createCohdaBTP host btp).result
          = (UDPdispatcher.createCohdaBTP host btp').result ↔
        btp.cells.take 2 = btp'.cells.take 2 ∧ btp.cells.drop 4 = btp'.cells.drop 4) ∧
      ((UDPSenderConverter.createCohdaBTP host btp).result
          = (UDPSenderConverter.createCohdaBTP host btp').result ↔
        btp.cells.take 2 = btp'.cells.take 2 ∧ btp.cells.drop 4 = btp'.cells.drop 4) := by
  have h : Sized btp := Sendable.sized ⟨hmin, hmax⟩
  have h' : Sized btp' := Sendable.sized ⟨hmin', hmax'⟩
  have hframe : frameOf btp host = frameOf btp' host ↔
      btp.cells.take 2 = btp'.cells.take 2 ∧ btp.cells.drop 4 = btp'.cells.drop 4 :=
    frameOf_inj_iff hmin hmin'
  refine ⟨⟨?_, ?_⟩, ?_, ?_⟩
  · rintro ⟨frame, hframe, -, hread⟩
    rw [dispatcher_createCohdaBTP_result h] at hframe
    obtain rfl : frameOf btp host = frame := by simpa using hframe
    -- the packet that is read back differs in bytes 2 and 3 at most
    rw [serialize_readBtpB hmin] at hread
    have hcells := hread.trans (cells_eq btp)
    exact (List.append_cancel_left (List.append_cancel_right hcells)).symm
  · intro hzero
    refine ⟨frameOf btp host, dispatcher_createCohdaBTP_result h,
      converter_createCohdaBTP_result h, ?_⟩
    rw [serialize_readBtpB hmin, ← hzero]
    exact (cells_eq btp).symm
  · rw [dispatcher_createCohdaBTP_result h, dispatcher_createCohdaBTP_result h', ← hframe]
    simp
  · rw [converter_createCohdaBTP_result h, converter_createCohdaBTP_result h', ← hframe]
    simp

theorem plainPacket_roundTrip :
    (RoundTrip .little plainPacket ↔ slice plainPacket.cells 2 2 = [0, 0]) ∧
      ((UDPdispatcher.createCohdaBTP .little plainPacket).result
          = (UDPdispatcher.createCohdaBTP .little portInfoPacket).result ↔
        plainPacket.cells.take 2 = portInfoPacket.cells.take 2 ∧
          plainPacket.cells.drop 4 = portInfoPacket.cells.drop 4) ∧
      ((UDPSenderConverter.createCohdaBTP .little plainPacket).result
          = (UDPSenderConverter.createCohdaBTP .little portInfoPacket).result ↔
        plainPacket.cells.take 2 = portInfoPacket.cells.take 2 ∧
          plainPacket.cells.drop 4 = portInfoPacket.cells.drop 4) :=
  createCohdaBTP_roundTrip_iff .little plainPacket portInfoPacket (by decide) (by decide)
    (by decide) (by decide)

/-- The port information 1 is lost, and the packet has the frame of another
one. -/
theorem portInfoPacket_lost :
    Sendable portInfoPacket ∧ ¬RoundTrip .little portInfoPacket ∧
      portInfoPacket.cells ≠ plainPacket.cells ∧
      (UDPdispatcher.createCohdaBTP .little portInfoPacket).result
        = (UDPdispatcher.createCohdaBTP .little plainPacket).result := by
  have h : Sendable portInfoPacket := ⟨by decide, by decide⟩
  have h' : Sendable plainPacket := ⟨by decide, by decide⟩
  refine ⟨h, ?_, by decide, ?_⟩
  · -- the frame is read as the packet without its port information
    rintro ⟨frame, hframe, -, hread⟩
    rw [dispatcher_createCohdaBTP_result h.sized] at hframe
    obtain rfl : frameOf portInfoPacket .little = frame := by simpa using hframe
    rw [serialize_readBtpB h.header] at hread
    exact absurd hread (by decide)
  · -- the two packets differ in the bytes that the frame does not have
    rw [dispatcher_createCohdaBTP_result h.sized, dispatcher_createCohdaBTP_result h'.sized,
      (frameOf_inj_iff h.header h'.header).mpr (by decide)]

end V2xStack
