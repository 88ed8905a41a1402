import V2xStack.Udp.Indication

/-!
# From the wire to a service

Every service node subscribes to `/btp_data` and looks at two members of an
indication before it decodes anything. The guards are those of the
`onIndication` functions of `ca_rx.cpp`, `den_rx.cpp`, `cp_rx.cpp` and
`cp_ts_rx.cpp`.

`guard_iff` follows the two members back to the wire, through both `publish`
functions, on a host of either byte order. `routing` is the result for the four
services: a guard is a condition on three bytes of the datagram and on nothing
else.
-/

namespace V2xStack

open Wire

/-! ### The guards -/

/-- A BTP-B indication for a port. -/
def Msg.BtpDataIndication.IsBtpB (port : UInt16) (indication : Msg.BtpDataIndication) : Prop :=
  indication.btp_type = Msg.BTP_TYPE_B ∧ indication.destination_port = port

instance (port : UInt16) : DecidablePred (Msg.BtpDataIndication.IsBtpB port) :=
  fun _ => inferInstanceAs (Decidable (_ ∧ _))

/-- The guard of `CaRxNode::onIndication`. -/
def CaRxNode.Guard (indication : Msg.BtpDataIndication) : Prop := indication.IsBtpB 2001

/-- The guard of `DenRxNode::onIndication`. -/
def DenRxNode.Guard (indication : Msg.BtpDataIndication) : Prop := indication.IsBtpB 2002

/-- The guard of `CpRxNode::onIndication`. -/
def CpRxNode.Guard (indication : Msg.BtpDataIndication) : Prop := indication.IsBtpB 2009

/-- The guard of `CpTsRxNode::onIndication`. -/
def CpTsRxNode.Guard (indication : Msg.BtpDataIndication) : Prop := indication.IsBtpB 2009

instance : DecidablePred CaRxNode.Guard :=
  fun ind => inferInstanceAs (Decidable (ind.IsBtpB 2001))

instance : DecidablePred DenRxNode.Guard :=
  fun ind => inferInstanceAs (Decidable (ind.IsBtpB 2002))

instance : DecidablePred CpRxNode.Guard :=
  fun ind => inferInstanceAs (Decidable (ind.IsBtpB 2009))

instance : DecidablePred CpTsRxNode.Guard :=
  fun ind => inferInstanceAs (Decidable (ind.IsBtpB 2009))

/-- The service nodes. -/
inductive Service
  | caRx
  | denRx
  | cpRx
  | cpTsRx
  deriving DecidableEq, Repr

namespace Service

def Guard : Service → Msg.BtpDataIndication → Prop
  | caRx => CaRxNode.Guard
  | denRx => DenRxNode.Guard
  | cpRx => CpRxNode.Guard
  | cpTsRx => CpTsRxNode.Guard

/-- The port of a service. -/
def port : Service → ℕ
  | caRx => 2001
  | denRx => 2002
  | cpRx => 2009
  | cpTsRx => 2009

/-- All guards have the same form. -/
theorem guard_iff (s : Service) (ind : Msg.BtpDataIndication) :
    s.Guard ind ↔ ind.btp_type = Msg.BTP_TYPE_B ∧ ind.destination_port.toNat = s.port := by
  cases s
  · exact and_congr_right fun _ => UInt16.toNat_inj.symm
  · exact and_congr_right fun _ => UInt16.toNat_inj.symm
  · exact and_congr_right fun _ => UInt16.toNat_inj.symm
  · exact and_congr_right fun _ => UInt16.toNat_inj.symm

end Service

/-! ### Back to the wire -/

section Wire

variable {b : RecvBuffer} {d : Datagram}

/-- `destination_port` is the big-endian value of bytes 8 and 9. -/
theorem btpIndication_destination_port (host : Endian) (h : 78 ≤ d.bytes.length) :
    (btpIndication host b d).destination_port.toNat = beNat (slice d.bytes 8 2) := by
  have hrecv : UDPBTPDataIndHdr.DestPort.stop ≤ d.recvLen := by
    have : UDPBTPDataIndHdr.DestPort.stop = 10 := by decide
    unfold Datagram.recvLen
    omega
  change (ntohs host (UInt16.ofNat (UDPBTPDataIndHdr.DestPort.load host
    (b.recvfrom d.bytes).region))).toNat = _
  -- the member is in the header, which was received
  rw [load_recvfrom hrecv]
  exact toNat_ntohs_load (length_slice (by change 8 + 2 ≤ _; omega))

/-- **One service.** -/
theorem guard_btpIndication_iff (host : Endian) (h : 78 ≤ d.bytes.length) (s : Service) :
    s.Guard (btpIndication host b d) ↔ d.byte 4 = 2 ∧ beNat (slice d.bytes 8 2) = s.port := by
  rw [s.guard_iff, btpIndication_btp_type host h, btpIndication_destination_port host h]
  rfl

end Wire

/-- **Routing from wire to service.** The guard of a service holds of the indication
for an accepted datagram if and only if byte 4 is 2 and the big-endian value of
bytes 8 and 9 is the port of the service; datagrams with the same three bytes pass
the same guards; and no indication passes the guards of services with different
ports. Only members of the header are looked at: what the copy of the payload does
when it leaves its array is not followed here. -/
theorem routing (P : Platform) (cfg : Config) (b : RecvBuffer) (d : Datagram)
    (h : Accepted P cfg d) :
    ∃ ind, (deliver P cfg b d).result = some [ind] ∧
      (∀ s : Service,
        s.Guard ind ↔ d.byte 4 = 2 ∧ beNat (slice d.bytes 8 2) = s.port) ∧
      (∀ b' d' ind', Accepted P cfg d' → (deliver P cfg b' d').result = some [ind'] →
        d'.byte 4 = d.byte 4 → d'.byte 8 = d.byte 8 → d'.byte 9 = d.byte 9 →
        ∀ s : Service, s.Guard ind' ↔ s.Guard ind) ∧
      (∀ s t : Service, s.Guard ind → t.Guard ind → s.port = t.port) := by
  have hguard : ∀ s : Service, s.Guard (btpIndication P.host b d) ↔
      d.byte 4 = 2 ∧ beNat (slice d.bytes 8 2) = s.port :=
    guard_btpIndication_iff P.host h.2
  refine ⟨btpIndication P.host b d, by rw [deliver_of_accepted h], hguard, ?_, ?_⟩
  · intro b' d' ind' h' hind' h4 h8 h9 s
    rw [deliver_of_accepted h'] at hind'
    obtain rfl : btpIndication P.host b' d' = ind' := by simpa using hind'
    -- the port of either datagram is made from its two bytes
    have hmin := h.2
    have hmin' := h'.2
    rw [hguard, guard_btpIndication_iff P.host h'.2, beNat_slice_two (by omega),
      beNat_slice_two (by omega), h4, h8, h9]
  · intro s t hs ht
    rw [hguard] at hs ht
    exact hs.2.symm.trans ht.2

theorem emptyMessage_routing :
    ∃ ind, (deliver littleHost defaultConfig zeroBuffer emptyMessage).result = some [ind] ∧
      (∀ s : Service,
        s.Guard ind ↔
          emptyMessage.byte 4 = 2 ∧ beNat (slice emptyMessage.bytes 8 2) = s.port) ∧
      (∀ b' d' ind', Accepted littleHost defaultConfig d' →
        (deliver littleHost defaultConfig b' d').result = some [ind'] →
        d'.byte 4 = emptyMessage.byte 4 → d'.byte 8 = emptyMessage.byte 8 →
        d'.byte 9 = emptyMessage.byte 9 → ∀ s : Service, s.Guard ind' ↔ s.Guard ind) ∧
      (∀ s t : Service, s.Guard ind → t.Guard ind → s.port = t.port) :=
  routing littleHost defaultConfig zeroBuffer emptyMessage (by decide)

end V2xStack
