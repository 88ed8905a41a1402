import V2xStack.Udp.Interference

/-!
# What the published header tells

`CohdaInd.header` has a member for every member of the received header, and
`UDPdispatcher::publish` assigns six of them. So two accepted datagrams have the
same header exactly when they agree in those six (`publishedHeader_eq_iff`), and a
difference in the security results, the destination area, the AID or the length is
lost unless something else differs (`headers_distinguished_iff`).
-/

namespace V2xStack

open Wire UDPBTPDataIndHdr

/-- The members that `publish` copies. -/
def copiedMembers : List Field :=
  [BTPType, PktTransport, TrafficClass, MaxPktLifetime, DestPort, DestInfo]

/-- The members that `CohdaInd.header` has a member of the same type for, with both
alternatives of the unions. -/
def slotMembers : List Field :=
  [BTPType, PktTransport, TrafficClass, MaxPktLifetime, DestPort, SrcPort, DestInfo,
   GN_ADDR_as_64, Lat, Long, Latitude, Longitude, Distance_a, Distance_b, Angle, Shape,
   AreaUnused, SecProfile, ParserResult, VerificationResult, SSPLen, AID, SSPBits, Length]

/-- The two headers agree on the wire in every member that there is a slot for. -/
def AgreeInSlots (d d' : Datagram) : Prop :=
  ∀ f ∈ slotMembers, f.read d.bytes = f.read d'.bytes

instance (d d' : Datagram) : Decidable (AgreeInSlots d d') :=
  inferInstanceAs (Decidable (∀ f ∈ slotMembers, f.read d.bytes = f.read d'.bytes))

/-- The header that is published for a datagram. -/
def publishedHeader (host : Endian) (b : RecvBuffer) (d : Datagram) :
    Option Msg.UDPDataIndHdr :=
  (UDPdispatcher.publish host (b.recvfrom d.bytes).region).result.map Msg.CohdaInd.header

section Members

variable {host : Endian} {b b' : RecvBuffer} {d d' : Datagram}

theorem publishedHeader_eq (h : 78 ≤ d.bytes.length) :
    publishedHeader host b d
      = some (UDPdispatcher.indHeader host (b.recvfrom d.bytes).region) := by
  rw [publishedHeader, publish_eq h]
  rfl

/-- A member of the header, as the bytes that were received. -/
theorem load_header_member {f : Field} (h : 78 ≤ d.bytes.length) (hf : f.stop ≤ 78) :
    f.load host (b.recvfrom d.bytes).region = host.load (f.read d.bytes) := by
  refine load_recvfrom (le_trans hf ?_)
  unfold Datagram.recvLen
  omega

theorem length_header_member {f : Field} (h : 78 ≤ d.bytes.length) (hf : f.stop ≤ 78) :
    (f.read d.bytes).length = f.width :=
  length_slice (le_trans hf h)

variable (host b b') in
/-- What the host reads of a member is what was received of it. -/
theorem load_eq_iff {f : Field} (h : 78 ≤ d.bytes.length) (h' : 78 ≤ d'.bytes.length)
    (hf : f.stop ≤ 78) :
    f.load host (b.recvfrom d.bytes).region = f.load host (b'.recvfrom d'.bytes).region ↔
      f.read d.bytes = f.read d'.bytes := by
  rw [load_header_member h hf, load_header_member h' hf]
  exact host.load_inj ((length_header_member h hf).trans (length_header_member h' hf).symm)

variable (host b) in
theorem load_lt {f : Field} (h : 78 ≤ d.bytes.length) (hf : f.stop ≤ 78) :
    f.load host (b.recvfrom d.bytes).region < 256 ^ f.width := by
  have hlt := host.load_lt (f.read d.bytes)
  rwa [length_header_member h hf, ← load_header_member h hf] at hlt

/-- A member of one byte. -/
theorem ofNat8_load_eq_iff {f : Field} (h : 78 ≤ d.bytes.length) (h' : 78 ≤ d'.bytes.length)
    (hf : f.stop ≤ 78) (hwidth : f.width = 1) :
    UInt8.ofNat (f.load host (b.recvfrom d.bytes).region)
        = UInt8.ofNat (f.load host (b'.recvfrom d'.bytes).region) ↔
      f.read d.bytes = f.read d'.bytes := by
  have hlt := load_lt host b h hf
  have hlt' := load_lt host b' h' hf
  -- a member of one byte fits the field
  rw [hwidth] at hlt hlt'
  rw [← load_eq_iff host b b' h h' hf, ← UInt8.toNat_inj,
    UInt8.toNat_ofNat_of_lt' hlt, UInt8.toNat_ofNat_of_lt' hlt']

/-- A member of two bytes, copied without a conversion. -/
theorem ofNat16_load_eq_iff {f : Field} (h : 78 ≤ d.bytes.length) (h' : 78 ≤ d'.bytes.length)
    (hf : f.stop ≤ 78) (hwidth : f.width = 2) :
    UInt16.ofNat (f.load host (b.recvfrom d.bytes).region)
        = UInt16.ofNat (f.load host (b'.recvfrom d'.bytes).region) ↔
      f.read d.bytes = f.read d'.bytes := by
  have hlt := load_lt host b h hf
  have hlt' := load_lt host b' h' hf
  -- and one of two bytes a field of 16 bits
  rw [hwidth] at hlt hlt'
  rw [← load_eq_iff host b b' h h' hf, ← UInt16.toNat_inj,
    UInt16.toNat_ofNat_of_lt' hlt, UInt16.toNat_ofNat_of_lt' hlt']

/-- A member of two bytes, converted with `ntohs`. -/
theorem ntohs_load_eq_iff {f : Field} (h : 78 ≤ d.bytes.length) (h' : 78 ≤ d'.bytes.length)
    (hf : f.stop ≤ 78) (hwidth : f.width = 2) :
    ntohs host (UInt16.ofNat (f.load host (b.recvfrom d.bytes).region))
        = ntohs host (UInt16.ofNat (f.load host (b'.recvfrom d'.bytes).region)) ↔
      f.read d.bytes = f.read d'.bytes := by
  have hlen := (length_header_member h hf).trans hwidth
  have hlen' := (length_header_member h' hf).trans hwidth
  -- on either host the value is the big-endian one, which tells the two bytes
  rw [load_header_member h hf, load_header_member h' hf, ← UInt16.toNat_inj,
    toNat_ntohs_load hlen, toNat_ntohs_load hlen', beNat_inj (hlen.trans hlen'.symm)]

/-- **Two headers are the same** exactly when the six members are. -/
theorem publishedHeader_eq_iff (h : 78 ≤ d.bytes.length) (h' : 78 ≤ d'.bytes.length) :
    publishedHeader host b d = publishedHeader host b' d' ↔
      ∀ f ∈ copiedMembers, f.read d.bytes = f.read d'.bytes := by
  rw [publishedHeader_eq h, publishedHeader_eq h', Option.some_inj]
  simp only [copiedMembers, List.forall_mem_cons]
  constructor
  · intro heq
    -- each member of the published header tells the bytes that it was read from
    exact ⟨(ofNat8_load_eq_iff h h' (by decide) rfl).mp
        (congrArg Msg.UDPDataIndHdr.btp_type heq),
      (ofNat8_load_eq_iff h h' (by decide) rfl).mp
        (congrArg Msg.UDPDataIndHdr.pkt_transport heq),
      (ofNat8_load_eq_iff h h' (by decide) rfl).mp
        (congrArg Msg.UDPDataIndHdr.traffic_class heq),
      (ofNat8_load_eq_iff h h' (by decide) rfl).mp
        (congrArg Msg.UDPDataIndHdr.max_pkt_life_time heq),
      (ntohs_load_eq_iff h h' (by decide) rfl).mp
        (congrArg Msg.UDPDataIndHdr.dest_port heq),
      (ofNat16_load_eq_iff h h' (by decide) rfl).mp
        (congrArg Msg.UDPDataIndHdr.dest_info heq),
      List.forall_mem_nil _⟩
  · rintro ⟨htype, htransport, hclass, hlifetime, hport, hinfo, -⟩
    -- and there is no member that was read from other bytes
    unfold UDPdispatcher.indHeader
    rw [(ofNat8_load_eq_iff h h' (by decide) rfl).mpr htype,
      (ofNat8_load_eq_iff h h' (by decide) rfl).mpr htransport,
      (ofNat8_load_eq_iff h h' (by decide) rfl).mpr hclass,
      (ofNat8_load_eq_iff h h' (by decide) rfl).mpr hlifetime,
      (ntohs_load_eq_iff h h' (by decide) rfl).mpr hport,
      (ofNat16_load_eq_iff h h' (by decide) rfl).mpr hinfo]

/-- The six members are bytes 4 to 11 of the datagram. -/
theorem copiedMembers_eq_iff :
    (∀ f ∈ copiedMembers, f.read d.bytes = f.read d'.bytes) ↔
      slice d.bytes 4 8 = slice d'.bytes 4 8 := by
  simp only [copiedMembers, List.forall_mem_cons, Field.read, slice_eq_iff]
  constructor
  · rintro ⟨htype, htransport, hclass, hlifetime, hport, hinfo, -⟩ i hmin hmax
    change ∀ i, 4 ≤ i → i < 5 → _ at htype
    change ∀ i, 5 ≤ i → i < 6 → _ at htransport
    change ∀ i, 6 ≤ i → i < 7 → _ at hclass
    change ∀ i, 7 ≤ i → i < 8 → _ at hlifetime
    change ∀ i, 8 ≤ i → i < 10 → _ at hport
    change ∀ i, 10 ≤ i → i < 12 → _ at hinfo
    -- every byte of the range is in one of the members
    rcases Nat.lt_or_ge i 5 with h5 | h5
    · exact htype i hmin h5
    rcases Nat.lt_or_ge i 6 with h6 | h6
    · exact htransport i h5 h6
    rcases Nat.lt_or_ge i 7 with h7 | h7
    · exact hclass i h6 h7
    rcases Nat.lt_or_ge i 8 with h8 | h8
    · exact hlifetime i h7 h8
    rcases Nat.lt_or_ge i 10 with h10 | h10
    · exact hport i h8 h10
    · exact hinfo i h10 hmax
  · intro h
    have hrange : ∀ off len, 4 ≤ off → off + len ≤ 12 →
        ∀ i, off ≤ i → i < off + len → d.bytes[i]? = d'.bytes[i]? :=
      fun off len hoff hlen i hmin hmax => h i (hoff.trans hmin) (by omega)
    exact ⟨hrange 4 1 (by decide) (by decide), hrange 5 1 (by decide) (by decide),
      hrange 6 1 (by decide) (by decide), hrange 7 1 (by decide) (by decide),
      hrange 8 2 (by decide) (by decide), hrange 10 2 (by decide) (by decide),
      List.forall_mem_nil _⟩

end Members

/-- **Loss of header information, exactly.** Two datagrams that pass the length
check and differ in a member that the header has a slot for are published with
different headers if and only if they differ in bytes 4 to 11, whatever the buffer
held. In particular the result of the security verification, byte 30, never makes a
difference. -/
theorem headers_distinguished_iff (host : Endian) (b b' : RecvBuffer) (d d' : Datagram)
    (h : 78 ≤ d.bytes.length) (h' : 78 ≤ d'.bytes.length) :
    ((¬AgreeInSlots d d' → publishedHeader host b d ≠ publishedHeader host b' d') ↔
        AgreeInSlots d d' ∨ slice d.bytes 4 8 ≠ slice d'.bytes 4 8) ∧
      ∀ x : UInt8,
        publishedHeader host b { d with bytes := d.bytes.set 30 x }
          = publishedHeader host b' d := by
  have hheader : publishedHeader host b d = publishedHeader host b' d' ↔
      slice d.bytes 4 8 = slice d'.bytes 4 8 := by
    rw [publishedHeader_eq_iff h h', copiedMembers_eq_iff]
  constructor
  · rw [ne_eq, hheader, ← ne_eq, ← or_iff_not_imp_left]
  · intro x
    have hset : 78 ≤ (d.bytes.set 30 x).length := by rwa [List.length_set]
    rw [publishedHeader_eq_iff hset h, copiedMembers_eq_iff]
    -- the byte lies behind the ones that are copied
    exact slice_eq_iff.mpr fun i _ _ => List.getElem?_set_ne (by omega)

/-- The empty message with a result of the security verification. -/
def verifiedMessage (result : UInt8) : Datagram :=
  { emptyMessage with bytes := emptyMessage.bytes.set 30 result }

theorem verifiedMessage_distinguished_iff :
    ((¬AgreeInSlots (verifiedMessage 0) (verifiedMessage 1) →
          publishedHeader .little zeroBuffer (verifiedMessage 0)
            ≠ publishedHeader .little zeroBuffer (verifiedMessage 1)) ↔
        AgreeInSlots (verifiedMessage 0) (verifiedMessage 1) ∨
          slice (verifiedMessage 0).bytes 4 8 ≠ slice (verifiedMessage 1).bytes 4 8) ∧
      ∀ x : UInt8,
        publishedHeader .little zeroBuffer
            { verifiedMessage 0 with bytes := (verifiedMessage 0).bytes.set 30 x }
          = publishedHeader .little zeroBuffer (verifiedMessage 0) :=
  headers_distinguished_iff .little zeroBuffer zeroBuffer (verifiedMessage 0) (verifiedMessage 1)
    (by decide) (by decide)

/-- A message that failed the verification has the header of one that passed it. -/
theorem verifiedMessage_not_distinguished :
    Accepted littleHost defaultConfig (verifiedMessage 0) ∧
      Accepted littleHost defaultConfig (verifiedMessage 1) ∧
      VerificationResult.read (verifiedMessage 0).bytes
        ≠ VerificationResult.read (verifiedMessage 1).bytes ∧
      publishedHeader littleHost.host zeroBuffer (verifiedMessage 0)
        = publishedHeader littleHost.host zeroBuffer (verifiedMessage 1) := by
  have hacc : Accepted littleHost defaultConfig (verifiedMessage 0) := by decide
  have hacc' : Accepted littleHost defaultConfig (verifiedMessage 1) := by decide
  refine ⟨hacc, hacc', by decide, ?_⟩
  -- the copied members agree, since the result of the verification is not one of them
  rw [publishedHeader_eq_iff hacc.2 hacc'.2]
  decide

end V2xStack
