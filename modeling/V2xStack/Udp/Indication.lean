import V2xStack.Udp.Receive

/-!
# What an accepted datagram becomes

The payload, the length and the addressing members of the indication on
`/btp_data`, compared with the datagram on the wire.

* **Payload.** `MsgLen` counts the header behind the message type, and `publish`
  takes it for the length of the payload, so the copied payload is 74 bytes too
  long; then its length goes through the 8-bit `msg_length`. No datagram whose
  lengths agree is delivered as its own payload (`payload_not_delivered`).
* **Bounds.** The only length that is checked is the one received. The payload is
  read from the buffer by `MsgLen`, and stays in bounds exactly for lengths up to 946
  (`payloadRead_in_bounds_iff`, and `initializeLoop_safe_iff` for a run of the
  loop). `data` is sized by `msg_length` and filled from the payload, so that copy
  stays in bounds exactly for lengths below 256 (`publish_in_bounds_iff`).
* **Addressing.** `dest_info` is copied without a byte swap, `source_port` and
  the AID are not copied at all. On a little-endian host an indication with the right
  members comes out exactly where this cannot be seen and the copies stay in bounds
  (`addressing_iff`).
-/

namespace V2xStack

open Wire

variable {P : Platform} {cfg : Config} {b : RecvBuffer} {d : Datagram}

/-! ### Payload -/

/-- The datagram is delivered as one indication whose data are its bytes behind
the headers. -/
def PayloadDelivered (P : Platform) (cfg : Config) (b : RecvBuffer) (d : Datagram) : Prop :=
  ∃ ind, (deliver P cfg b d).result = some [ind] ∧ ind.data = d.bytes.drop 78

/-- The delivered data have the length of the low byte of `MsgLen`. -/
theorem length_btpIndication_data (host : Endian) :
    (btpIndication host b d).data.length = d.msgLen % 256 := by
  rw [btpIndication, length_writeAt, List.length_replicate]

/-- An indication that is delivered has the payload's length only when the low
byte of `MsgLen` is that length. -/
theorem PayloadDelivered.msgLen_mod (h : Accepted P cfg d) (hp : PayloadDelivered P cfg b d) :
    d.msgLen % 256 = d.bytes.length - 78 := by
  obtain ⟨ind, hind, hdata⟩ := hp
  rw [deliver_of_accepted h] at hind
  obtain rfl : btpIndication P.host b d = ind := by simpa using hind
  have hlen := congrArg List.length hdata
  rwa [length_btpIndication_data, List.length_drop] at hlen

/-- **No payload arrives as it was sent.** For a datagram from the device whose
`MsgLen` agrees with its size, whatever its `Length` says, the delivered data are
never the payload: `MsgLen` and the payload length differ by 74, which no
reduction to eight bits makes up for. -/
theorem payload_not_delivered (P : Platform) (cfg : Config) (b : RecvBuffer) (d : Datagram)
    (hsender : d.sender = P.inet_addr cfg.originatingIp)
    (hmin : 78 ≤ d.bytes.length) (hmax : d.bytes.length ≤ 1024)
    (hmsgLen : d.msgLen = d.bytes.length - 4) :
    ¬PayloadDelivered P cfg b d := by
  intro hp
  have hmod := hp.msgLen_mod ⟨hsender, hmin⟩
  -- `n - 4` modulo 256 would be `n - 78`
  omega

theorem emptyMessage_not_delivered :
    ¬PayloadDelivered littleHost defaultConfig zeroBuffer emptyMessage :=
  payload_not_delivered littleHost defaultConfig zeroBuffer emptyMessage (by decide) (by decide)
    (by decide) (by decide)

/-- The empty message has consistent lengths, and 74 bytes are delivered for
it. -/
theorem emptyMessage_consistent_not_delivered :
    emptyMessage.sender = littleHost.inet_addr defaultConfig.originatingIp ∧
      emptyMessage.bytes.length = 78 ∧
      emptyMessage.msgLen = emptyMessage.bytes.length - 4 ∧
      beNat (slice emptyMessage.bytes 76 2) = emptyMessage.bytes.length - 78 ∧
      ¬PayloadDelivered littleHost defaultConfig zeroBuffer emptyMessage := by
  have hacc : Accepted littleHost defaultConfig emptyMessage := by decide
  refine ⟨hacc.1, by decide, by decide, by decide, fun hp => ?_⟩
  -- a delivered payload would need equal lengths modulo 256
  have hmod := hp.msgLen_mod hacc
  exact absurd hmod (by decide)

/-! ### Bounds of the copy out of the buffer -/

/-- The read of the payload ends inside the receive buffer exactly for lengths up to
the buffer's size without the headers. -/
theorem dispatcherPublish_safe_iff (host : Endian) (h : 78 ≤ d.bytes.length) :
    (UDPdispatcher.publish host (b.recvfrom d.bytes).region).Safe ↔ d.msgLen ≤ 946 := by
  rw [publish_eq h]
  constructor
  · intro hsafe
    -- the only access is the copy of `MsgLen` bytes from cell 78
    have hspan : 78 + d.msgLen ≤ 1024 := hsafe.legal _ List.mem_cons_self
    omega
  · intro hle
    refine ⟨?_, rfl⟩
    intro access haccess
    -- and conversely
    obtain rfl := List.mem_singleton.mp haccess
    change 78 + d.msgLen ≤ 1024
    omega

/-- The loop body behind `recvfrom`. -/
theorem handle_safe_iff :
    (UDPdispatcher.handle P cfg (b.recvfrom d.bytes) d).Safe ↔
      (Accepted P cfg d → d.msgLen ≤ 946) := by
  by_cases h : Accepted P cfg d
  · -- the two guards are passed, and `publish` is called
    rw [UDPdispatcher.handle, if_pos h.1, if_neg, Run.safe_bind,
      dispatcherPublish_safe_iff P.host h.2]
    · exact ⟨fun hsafe _ => hsafe.1, fun hle => ⟨hle h, fun _ _ => Run.safe_pure _⟩⟩
    · -- the length is not below that of the headers
      have h78 : UDPBTPMsgType.size + UDPBTPDataIndHdr.size = 78 := by decide
      have := h.2
      unfold Datagram.recvLen
      omega
  · rw [handle_of_not_accepted h]
    exact iff_of_true (Run.safe_pure _) fun hacc => absurd hacc h

/-- The datagrams that the loop receives: those in front of the first error. -/
def received : List RecvResult → List Datagram
  | [] => []
  | .error :: _ => []
  | .datagram d :: rest => d :: received rest

/-- **A run of the loop** stays inside the buffer exactly when every accepted
datagram does. -/
theorem initializeLoop_safe_iff (b : RecvBuffer) (rs : List RecvResult) :
    (UDPdispatcher.initializeLoop P cfg b rs).Safe ↔
      ∀ d ∈ received rs, Accepted P cfg d → d.msgLen ≤ 946 := by
  induction rs generalizing b with
  | nil => simp [UDPdispatcher.initializeLoop, received]
  | cons r rs ih =>
    cases r with
    | error => simp [UDPdispatcher.initializeLoop, received]
    | datagram d =>
      rw [UDPdispatcher.initializeLoop, received, List.forall_mem_cons, Run.safe_bind,
        handle_safe_iff]
      refine and_congr_right fun _ => ⟨fun hall => ?_, fun hrest out _ => ?_⟩
      · -- the loop goes on after every datagram
        obtain ⟨out, hout, -⟩ := handle_emits P cfg b d
        have hlater := hall out hout
        rw [Run.safe_bind] at hlater
        exact (ih _).mp hlater.1
      · rw [Run.safe_bind]
        exact ⟨(ih _).mpr hrest, fun _ _ => Run.safe_pure _⟩

/-- **The payload is read inside the buffer for lengths up to 946.** For every
datagram that passes the length check, whatever the buffer held, the range that
`publish` copies lies inside the 1024 bytes if and only if its `MsgLen` is at most
946. -/
theorem payloadRead_in_bounds_iff (host : Endian) (b : RecvBuffer) (d : Datagram)
    (h : 78 ≤ d.recvLen) :
    (UDPdispatcher.publish host (b.recvfrom d.bytes).region).AllAccesses Access.Legal ↔
      d.msgLen ≤ 946 := by
  have hlen : 78 ≤ d.bytes.length := le_trans h (Nat.min_le_left _ _)
  rw [← dispatcherPublish_safe_iff host hlen (b := b)]
  -- `publish` always returns, so only the accesses decide
  refine ⟨fun hlegal => ⟨hlegal, ?_⟩, fun hsafe => hsafe.legal⟩
  rw [publish_eq hlen]
  rfl

/-- A message header that announces as much as 16 bits can. -/
def maximalMessage : Datagram where
  sender := 0x010210AC
  bytes := [4, 1, 0xFF, 0xFF] ++ [2, 7, 2, 0, 7, 0xD1, 0, 0] ++ List.replicate 66 0

theorem emptyMessage_read_in_bounds :
    (UDPdispatcher.publish littleHost.host
        (zeroBuffer.recvfrom emptyMessage.bytes).region).AllAccesses Access.Legal ↔
      emptyMessage.msgLen ≤ 946 :=
  payloadRead_in_bounds_iff littleHost.host zeroBuffer emptyMessage (by decide)

/-- It passes the length check, and 65535 bytes are read from offset 78 on. -/
theorem maximalMessage_read_out_of_bounds :
    Accepted littleHost defaultConfig maximalMessage ∧ 78 ≤ maximalMessage.recvLen ∧
      maximalMessage.recvLen ≤ 1024 ∧
      ¬(UDPdispatcher.publish littleHost.host
        (zeroBuffer.recvfrom maximalMessage.bytes).region).AllAccesses Access.Legal := by
  have hacc : Accepted littleHost defaultConfig maximalMessage := by decide
  refine ⟨hacc, by decide, by decide, fun hlegal => ?_⟩
  rw [publish_eq hacc.2] at hlegal
  exact absurd (hlegal _ List.mem_cons_self) (by decide)

/-! ### Bounds of the copy into the indication -/

/-- The copy of `BtpPublisher::publish` stays inside `data`. -/
theorem btpPublish_safe_iff (ind : Msg.CohdaInd) :
    (BtpPublisher.publish ind).Safe ↔ ind.payload.length ≤ ind.type.msg_length.toNat := by
  rw [BtpPublisher.publish, Run.safe_bind, Run.safe_span, Nat.zero_add]
  exact and_iff_left fun _ _ => Run.safe_pure _

/-- **The copy is in bounds below 256.** For every accepted datagram and every
buffer, what the dispatcher publishes has `payload.size() <= msg_length`, and the
BTP service writes only inside `data`, if and only if `MsgLen` fits the 8-bit
member. -/
theorem publish_in_bounds_iff (P : Platform) (cfg : Config) (b : RecvBuffer) (d : Datagram)
    (h : Accepted P cfg d) :
    (∀ ind, (UDPdispatcher.publish P.host (b.recvfrom d.bytes).region).result = some ind →
        ind.payload.length ≤ ind.type.msg_length.toNat ∧ (BtpPublisher.publish ind).Safe)
      ↔ d.msgLen < 256 := by
  have hpay : (indication P.host b d).payload.length = d.msgLen := Region.length_read _ _ _
  have hlen : (indication P.host b d).type.msg_length.toNat = d.msgLen % 256 :=
    UInt8.toNat_ofNat'
  have hmod : d.msgLen ≤ d.msgLen % 256 ↔ d.msgLen < 256 := by omega
  -- there is one possible `ind`, with `MsgLen` bytes of payload
  rw [publish_eq h.2]
  constructor
  · intro hall
    have hle := (hall _ rfl).1
    rwa [hpay, hlen, hmod] at hle
  · intro hlt ind hind
    obtain rfl : indication P.host b d = ind := Option.some.inj hind
    rw [btpPublish_safe_iff, hpay, hlen, hmod]
    exact ⟨hlt, hlt⟩

/-- A message header that announces 256 further bytes. -/
def longMessage : Datagram where
  sender := 0x010210AC
  bytes := [4, 1, 1, 0] ++ [2, 7, 2, 0, 7, 0xD1, 0, 0] ++ List.replicate 66 0

theorem emptyMessage_in_bounds :
    Accepted littleHost defaultConfig emptyMessage ∧
      ∀ ind, (UDPdispatcher.publish littleHost.host
          (zeroBuffer.recvfrom emptyMessage.bytes).region).result = some ind →
        ind.payload.length ≤ ind.type.msg_length.toNat ∧ (BtpPublisher.publish ind).Safe := by
  have hacc : Accepted littleHost defaultConfig emptyMessage := by decide
  refine ⟨hacc, ?_⟩
  exact (publish_in_bounds_iff littleHost defaultConfig zeroBuffer emptyMessage hacc).mpr
    (by decide)

/-- 256 bytes are copied into no bytes. -/
theorem longMessage_out_of_bounds :
    Accepted littleHost defaultConfig longMessage ∧
      ∃ ind, (UDPdispatcher.publish littleHost.host
          (zeroBuffer.recvfrom longMessage.bytes).region).result = some ind ∧
        ind.payload.length = 256 ∧ ind.type.msg_length = 0 ∧
        ¬(BtpPublisher.publish ind).Safe := by
  have hacc : Accepted littleHost defaultConfig longMessage := by decide
  have hmsgLen : longMessage.msgLen = 256 := by decide
  have hpay : (indication littleHost.host zeroBuffer longMessage).payload.length = 256 :=
    (Region.length_read _ _ _).trans hmsgLen
  -- 256 is zero in the 8-bit member
  have hlen : (indication littleHost.host zeroBuffer longMessage).type.msg_length = 0 := by
    change UInt8.ofNat longMessage.msgLen = 0
    rw [hmsgLen]
    rfl
  refine ⟨hacc, indication littleHost.host zeroBuffer longMessage, ?_, hpay, hlen, ?_⟩
  · rw [publish_eq hacc.2]
  · -- 256 bytes are copied into none
    rw [btpPublish_safe_iff, hpay, hlen]
    decide

/-! ### Addressing -/

/-- The port information and the AID of an indication are the wire values. -/
def AddressingFaithful (d : Datagram) (ind : Msg.BtpDataIndication) : Prop :=
  (ind.btp_type = Msg.BTP_TYPE_B →
      ind.destination_port_info.toNat = beNat (slice d.bytes 10 2)) ∧
    (ind.btp_type = Msg.BTP_TYPE_A → ind.source_port.toNat = beNat (slice d.bytes 10 2)) ∧
    ind.its_aid.toNat = beNat (slice d.bytes 32 4)

theorem slice_one_byte {i : ℕ} (h : i < d.bytes.length) : slice d.bytes i 1 = [d.byte i] := by
  rw [slice_one h, Datagram.byte, List.getElem?_eq_getElem h, Option.getD_some]

theorem slice_two {i : ℕ} (h : i + 2 ≤ d.bytes.length) :
    slice d.bytes i 2 = [d.byte i, d.byte (i + 1)] := by
  rw [slice_add d.bytes i 1 1, slice_one_byte (by omega), slice_one_byte (by omega)]
  rfl

theorem slice_four {i : ℕ} (h : i + 4 ≤ d.bytes.length) :
    slice d.bytes i 4
      = [d.byte i, d.byte (i + 1), d.byte (i + 2), d.byte (i + 3)] := by
  rw [slice_add d.bytes i 2 2, slice_two (by omega), slice_two (by omega)]
  rfl

/-- The value of two bytes on the wire. -/
theorem beNat_slice_two {i : ℕ} (h : i + 2 ≤ d.bytes.length) :
    beNat (slice d.bytes i 2) = (d.byte (i + 1)).toNat + 256 * (d.byte i).toNat := by
  rw [slice_two h]
  simp [beNat]

/-- The value of four bytes on the wire. -/
theorem beNat_slice_four {i : ℕ} (h : i + 4 ≤ d.bytes.length) :
    beNat (slice d.bytes i 4) = (d.byte (i + 3)).toNat + 256 * ((d.byte (i + 2)).toNat
      + 256 * ((d.byte (i + 1)).toNat + 256 * (d.byte i).toNat)) := by
  rw [slice_four h]
  simp [beNat]

/-- `btp_type` is byte 4 of the datagram. -/
theorem btpIndication_btp_type (host : Endian) (h : 78 ≤ d.bytes.length) :
    (btpIndication host b d).btp_type = d.byte 4 := by
  have hrecv : UDPBTPDataIndHdr.BTPType.stop ≤ d.recvLen := by
    have : UDPBTPDataIndHdr.BTPType.stop = 5 := by decide
    unfold Datagram.recvLen
    omega
  change UInt8.ofNat (UDPBTPDataIndHdr.BTPType.load host (b.recvfrom d.bytes).region) = d.byte 4
  rw [load_recvfrom hrecv]
  change UInt8.ofNat (host.load (slice d.bytes 4 1)) = d.byte 4
  rw [slice_one_byte (by omega)]
  -- one byte is read the same on both hosts
  cases host
  · exact UInt8.ofNat_toNat
  · exact UInt8.ofNat_toNat

/-- On a little-endian host `destination_port_info` is the little-endian value of
its two bytes. -/
theorem btpIndication_destination_port_info (h : 78 ≤ d.bytes.length) :
    (btpIndication .little b d).destination_port_info.toNat
      = (d.byte 10).toNat + 256 * (d.byte 11).toNat := by
  -- the member was received, and is loaded without `ntohs`
  have hrecv : UDPBTPDataIndHdr.DestInfo.stop ≤ d.recvLen := by
    have : UDPBTPDataIndHdr.DestInfo.stop = 12 := by decide
    unfold Datagram.recvLen
    omega
  have h10 := (d.byte 10).toNat_lt
  have h11 := (d.byte 11).toNat_lt
  change (UInt16.ofNat (UDPBTPDataIndHdr.DestInfo.load .little
    (b.recvfrom d.bytes).region)).toNat = _
  rw [load_recvfrom hrecv]
  change (UInt16.ofNat (leNat (slice d.bytes 10 2))).toNat = _
  rw [slice_two (by omega)]
  change (UInt16.ofNat ((d.byte 10).toNat + 256 * ((d.byte 11).toNat + 256 * 0))).toNat = _
  rw [UInt16.toNat_ofNat']
  omega

/-- The two nodes come through exactly when both copies stay in bounds, and the second
bound is the stronger one. -/
theorem deliver_outcome (h : Accepted P cfg d) :
    (deliver P cfg b d).outcome
      = if d.msgLen < 256 then some [btpIndication P.host b d] else none := by
  rw [deliver_of_accepted h, Run.outcome]
  have hlegal : (⟨[.span .recvBuffer 78 d.msgLen 1024,
        .span .indicationData 0 d.msgLen (d.msgLen % 256)],
      some [btpIndication P.host b d]⟩ :
        Run (Access UdpObject) (List Msg.BtpDataIndication)).AllAccesses Access.Legal ↔
      d.msgLen < 256 := by
    constructor
    · intro hall
      -- the copy into the indication
      have hcopy : 0 + d.msgLen ≤ d.msgLen % 256 :=
        hall _ (List.mem_cons_of_mem _ List.mem_cons_self)
      omega
    · intro hlt access haccess
      rcases List.mem_cons.mp haccess with rfl | hrest
      · change 78 + d.msgLen ≤ 1024
        omega
      · obtain rfl := List.mem_singleton.mp hrest
        change 0 + d.msgLen ≤ d.msgLen % 256
        omega
  simp only [hlegal]

/-- The members of the indication, without a look at the copies. -/
theorem addressingFaithful_iff (h : 78 ≤ d.bytes.length) :
    AddressingFaithful d (btpIndication .little b d) ↔
      (d.byte 4 = Msg.BTP_TYPE_B → d.byte 10 = d.byte 11) ∧
        (d.byte 4 = Msg.BTP_TYPE_A → d.byte 10 = 0 ∧ d.byte 11 = 0) ∧
        (d.byte 32 = 0 ∧ d.byte 33 = 0 ∧ d.byte 34 = 0 ∧ d.byte 35 = 0) := by
  have hport : beNat (slice d.bytes 10 2) = (d.byte 11).toNat + 256 * (d.byte 10).toNat :=
    beNat_slice_two (by omega)
  have haid : beNat (slice d.bytes 32 4) = (d.byte 35).toNat + 256 * ((d.byte 34).toNat
      + 256 * ((d.byte 33).toNat + 256 * (d.byte 32).toNat)) :=
    beNat_slice_four (by omega)
  have hdest := @btpIndication_destination_port_info b d h
  have hzero : ∀ i, d.byte i = 0 ↔ (d.byte i).toNat = 0 := fun i => UInt8.toNat_inj.symm
  -- the two members that no hop assigns
  have hone : (btpIndication .little b d).source_port.toNat = 0 := rfl
  have htwo : (btpIndication .little b d).its_aid.toNat = 0 := rfl
  rw [AddressingFaithful, btpIndication_btp_type .little h]
  constructor
  · rintro ⟨hB, hA, hI⟩
    rw [hport, hdest] at hB
    rw [hport, hone] at hA
    rw [haid, htwo] at hI
    refine ⟨fun ht => UInt8.toNat_inj.mp ?_, fun ht => ?_, ?_⟩
    · -- the two byte orders give the same value only for equal bytes
      have := hB ht
      omega
    · have := hA ht
      rw [hzero, hzero]
      omega
    · simp only [hzero]
      omega
  · rintro ⟨hB, hA, hI⟩
    refine ⟨fun ht => ?_, fun ht => ?_, ?_⟩
    · rw [hdest, hport, hB ht]
    · rw [hone, hport, (hA ht).1, (hA ht).2]
      rfl
    · rw [htwo, haid, hI.1, hI.2.1, hI.2.2.1, hI.2.2.2]
      rfl

/-- **Addressing on a little-endian host.** An accepted datagram comes out as one
indication with the wire values exactly when its `MsgLen` fits the 8-bit member, so that
the indication is written in bounds, and the missing conversions cannot be seen: the port
information of a BTP-B message has two equal bytes, the source port of a BTP-A message is
zero, and so is the AID. -/
theorem addressing_iff (P : Platform) (cfg : Config) (b : RecvBuffer) (d : Datagram)
    (hhost : P.host = .little) (h : Accepted P cfg d) :
    (∃ ind, (deliver P cfg b d).outcome = some [ind] ∧ AddressingFaithful d ind) ↔
      d.msgLen < 256 ∧
        (d.byte 4 = Msg.BTP_TYPE_B → d.byte 10 = d.byte 11) ∧
        (d.byte 4 = Msg.BTP_TYPE_A → d.byte 10 = 0 ∧ d.byte 11 = 0) ∧
        (d.byte 32 = 0 ∧ d.byte 33 = 0 ∧ d.byte 34 = 0 ∧ d.byte 35 = 0) := by
  rw [← addressingFaithful_iff (b := b) h.2, deliver_outcome h, hhost]
  by_cases hlt : d.msgLen < 256
  · rw [if_pos hlt, and_iff_right hlt]
    constructor
    · rintro ⟨ind, hind, hfaithful⟩
      obtain rfl : btpIndication .little b d = ind := by simpa using hind
      exact hfaithful
    · intro hfaithful
      exact ⟨_, rfl, hfaithful⟩
  · -- the copy into the indication runs over its end, and nothing comes out
    rw [if_neg hlt]
    refine iff_of_false ?_ fun hall => hlt hall.1
    rintro ⟨ind, hind, -⟩
    exact absurd hind (by simp)

/-- A BTP-B message with destination port information 1. -/
def portInfoMessage : Datagram where
  sender := 0x010210AC
  bytes := [4, 1, 0, 74] ++ [2, 7, 2, 0, 7, 0xD1, 0, 1] ++ List.replicate 66 0

theorem emptyMessage_addressing :
    ∃ ind, (deliver littleHost defaultConfig zeroBuffer emptyMessage).outcome = some [ind] ∧
      AddressingFaithful emptyMessage ind :=
  (addressing_iff littleHost defaultConfig zeroBuffer emptyMessage rfl (by decide)).mpr
    (by decide)

/-- The port information 1 is delivered as 256. -/
theorem portInfoMessage_swapped :
    littleHost.host = .little ∧ Accepted littleHost defaultConfig portInfoMessage ∧
      ∃ ind, (deliver littleHost defaultConfig zeroBuffer portInfoMessage).outcome = some [ind] ∧
        ind.btp_type = Msg.BTP_TYPE_B ∧ beNat (slice portInfoMessage.bytes 10 2) = 1 ∧
        ind.destination_port_info.toNat = 256 ∧ ¬AddressingFaithful portInfoMessage ind := by
  have hacc : Accepted littleHost defaultConfig portInfoMessage := by decide
  have hwire : beNat (slice portInfoMessage.bytes 10 2) = 1 := by decide
  have htype : (btpIndication .little zeroBuffer portInfoMessage).btp_type
      = Msg.BTP_TYPE_B := by
    rw [btpIndication_btp_type .little hacc.2]
    decide
  -- without a conversion the two bytes are read in the order of the host
  have hinfo : (btpIndication .little zeroBuffer portInfoMessage).destination_port_info.toNat
      = 256 := by
    rw [btpIndication_destination_port_info hacc.2]
    decide
  refine ⟨rfl, hacc, btpIndication .little zeroBuffer portInfoMessage, ?_, htype, hwire, hinfo,
    fun hf => ?_⟩
  · rw [deliver_outcome hacc]
    exact if_pos (by decide)
  · -- the type is BTP-B, so the port information should be 1
    have := hf.1 htype
    rw [hinfo, hwire] at this
    exact absurd this (by decide)

end V2xStack
