import V2xStack.Udp.Receive

/-!
# The send path

`createCohdaBTP` of `UDPdispatcher` (`udp_dispatcher.cpp`) and of
`UDPSenderConverter` (`udp_sender_converter.cpp`): from a BTP-B packet on
`udp/out` to the data request that goes to the device.

The two functions have the same body up to the last `memcpy`; `cohdaFrame` is
that body, and they differ in what they do with the frame. `headerWrites` are
its assignments in the order of the source. Members of a union are assigned
under several names, so a byte of the header may be assigned more than once.

`frameOf` is the frame in closed form, `cohdaFrame_result` says that it is what the
body computes, and `cohdaFrame_safe` that nothing outside the packet or the frame is
touched. The lemmas at the end read single members of the frame.
-/

namespace V2xStack

open Wire

/-! ### The common body -/

/-- `htons`. -/
def htons (host : Endian) (x : UInt16) : UInt16 := UInt16.ofNat (host.hton 2 x.toNat)

/-- `htonl`. -/
def htonl (host : Endian) (x : UInt32) : UInt32 := UInt32.ofNat (host.hton 4 x.toNat)

section HeaderWrites

open UDPBTPMsgType UDPBTPDataReqHdr

/-- The assignments to the members of `msg->Type` and `msg->Hdr`. -/
def headerWrites (host : Endian) (dest_port : UInt16) (payload_size : UInt64) :
    List (Field × ℕ) :=
  [(Version, 4),
   (MsgID, 0),
   (MsgLen, (htons host
     (payload_size + UInt64.ofNat UDPBTPDataReqHdr.size).toUInt16).toNat),
   (BTPType, 2),
   (PktTransport, 7),
   (TrafficClass, 0x02),
   (MaxPktLifetime, 0),
   (DestPort, (htons host dest_port).toNat),
   -- two names of the same two bytes
   (DestInfo, (htons host 0).toNat),
   (SrcPort, (htons host 0).toNat),
   -- and again for the sixteen bytes of the destination
   (GN_ADDR_as_64, (htonl host 0).toNat),
   (LocationUnused, (htonl host 0).toNat),
   (Latitude, (htonl host 0).toNat),
   (Longitude, (htonl host 0).toNat),
   (Distance_a, (htons host 0).toNat),
   (Distance_b, (htons host 0).toNat),
   (Angle, (htons host 0).toNat),
   (Shape, 0),
   (AreaUnused, 0),
   (CommProfile, 0),
   (RepeatInterval, 0),
   (SecProfile, 0),
   (SSPLen, 0),
   (AID, (htonl host 0x24).toNat),
   -- `std::memset` of the whole array, then its first element again
   (SSPBits, 0),
   (⟨SSPBits.offset, 1⟩, 0x00),
   (Length, (htons host payload_size.toUInt16).toNat)]

/-- The assigned members. -/
def headerMembers : List Field :=
  [Version, MsgID, MsgLen, BTPType, PktTransport, TrafficClass, MaxPktLifetime, DestPort,
   DestInfo, SrcPort, GN_ADDR_as_64, LocationUnused, Latitude, Longitude, Distance_a,
   Distance_b, Angle, Shape, AreaUnused, CommProfile, RepeatInterval, SecProfile, SSPLen, AID,
   SSPBits, ⟨SSPBits.offset, 1⟩, Length]

/-- The members that are assigned a value other than zero. -/
def valueMembers : List Field :=
  [Version, MsgLen, BTPType, PktTransport, TrafficClass, DestPort, AID, Length]

end HeaderWrites

/-- Assign to a member of the message in `buffer`. -/
def assign (host : Endian) (buffer : List UInt8) (w : Field × ℕ) :
    Run (Access UdpObject) (List UInt8) := do
  Run.span .frame w.1.offset w.1.width buffer.length
  pure (w.1.write host buffer w.2)

/-- `btp[i]` of the packet, inside it or not. -/
def btpAt (btp : Region UInt8) (i : ℕ) : Run (Access UdpObject) UInt8 := do
  Run.span .btp i 1 btp.cells.length
  pure (btp.get i)

/-- The body that both functions have up to the last `memcpy`: the content of
`buffer`. Sizes are computed in `size_t`. -/
def cohdaFrame (host : Endian) (btp : Region UInt8) : Run (Access UdpObject) (List UInt8) := do
  let btp0 ← btpAt btp 0
  let btp1 ← btpAt btp 1
  let dest_port : UInt16 := btp0.toUInt16 <<< 8 ||| btp1.toUInt16
  let btp2 ← btpAt btp 2
  let btp3 ← btpAt btp 3
  -- not used below
  let _dest_port_info : UInt16 := btp2.toUInt16 <<< 8 ||| btp3.toUInt16
  let payload_size : UInt64 := UInt64.ofNat btp.cells.length - 4
  let total_size : UInt64 :=
    UInt64.ofNat UDPBTPMsgType.size + UInt64.ofNat UDPBTPDataReqHdr.size + payload_size
  let buffer ← (headerWrites host dest_port payload_size).foldlM (assign host)
    (List.replicate total_size.toNat 0)
  -- `std::memcpy(msg->Payload, payload_data, payload_size)`
  Run.span .btp 4 payload_size.toNat btp.cells.length
  Run.span .frame UDPBTPDataReqMsg.payloadOffset payload_size.toNat buffer.length
  pure (writeAt buffer UDPBTPDataReqMsg.payloadOffset (btp.read 4 payload_size.toNat))

/-- What the nodes do with a frame. -/
inductive SendEffect
  | sendto (data : List UInt8)
  | publish (m : Msg.UdpPacket)
  deriving DecidableEq, Repr

/-- `UDPdispatcher::createCohdaBTP`. -/
def UDPdispatcher.createCohdaBTP (host : Endian) (udp : Region UInt8) :
    Run (Access UdpObject) (List SendEffect) := do
  let buffer ← cohdaFrame host udp
  pure [.sendto buffer]

/-- `UDPSenderConverter::createCohdaBTP`. -/
def UDPSenderConverter.createCohdaBTP (host : Endian) (btp : Region UInt8) :
    Run (Access UdpObject) (List SendEffect) := do
  let buffer ← cohdaFrame host btp
  pure [.publish { address := "172.16.2.1", data := buffer }, .sendto buffer]

/-! ### Conversions -/

section Conversions

variable (host : Endian)

/-- The host stores a converted 16-bit integer as its big-endian bytes. -/
theorem store_htons (x : UInt16) : host.store 2 (htons host x).toNat = beBytes 2 x.toNat := by
  have hlt : host.hton 2 x.toNat < 65536 := by
    have h := host.load_lt (beBytes 2 x.toNat)
    rwa [length_beBytes] at h
  rw [htons, UInt16.toNat_ofNat_of_lt' hlt, host.store_hton]

theorem store_htonl (x : UInt32) : host.store 4 (htonl host x).toNat = beBytes 4 x.toNat := by
  have hlt : host.hton 4 x.toNat < 4294967296 := by
    have h := host.load_lt (beBytes 4 x.toNat)
    rwa [length_beBytes] at h
  rw [htonl, UInt32.toNat_ofNat_of_lt' hlt, host.store_hton]

@[simp] theorem htons_zero : htons host 0 = 0 := by
  cases host <;> decide

@[simp] theorem htonl_zero : htonl host 0 = 0 := by
  cases host <;> decide

end Conversions

/-! ### What the body computes -/

section Body

variable {host : Endian} {btp : Region UInt8}

theorem assign_result (buffer : List UInt8) (w : Field × ℕ) :
    (assign host buffer w).result = some (w.1.write host buffer w.2) := rfl

/-- The assignments one after the other. -/
theorem foldlM_assign_result (ws : List (Field × ℕ)) (buffer : List UInt8) :
    (ws.foldlM (assign host) buffer).result = some (writeAll host buffer ws) := by
  induction ws generalizing buffer with
  | nil => rfl
  | cons w ws ih =>
    rw [List.foldlM_cons, Run.result_bind, assign_result, Option.bind_some, ih]
    rfl

/-- Assignments to members that end inside the buffer are safe. -/
theorem foldlM_assign_safe {ws : List (Field × ℕ)} {buffer : List UInt8}
    (h : ∀ w ∈ ws, w.1.stop ≤ buffer.length) : (ws.foldlM (assign host) buffer).Safe := by
  induction ws generalizing buffer with
  | nil => exact Run.safe_pure buffer
  | cons w ws ih =>
    rw [List.forall_mem_cons] at h
    rw [List.foldlM_cons, Run.safe_bind]
    refine ⟨?_, fun b hb => ?_⟩
    · rw [assign, Run.safe_bind, Run.safe_span]
      exact ⟨h.1, fun _ _ => Run.safe_pure _⟩
    · -- an assignment keeps the length
      obtain rfl : w.1.write host buffer w.2 = b := Option.some.inj hb
      exact ih (by simpa using h.2)

theorem map_fst_headerWrites (dest_port : UInt16) (payload_size : UInt64) :
    (headerWrites host dest_port payload_size).map Prod.fst = headerMembers := rfl

/-- Every assigned member ends inside the header. -/
theorem stop_le_of_write {dest_port : UInt16} {payload_size : UInt64} {w : Field × ℕ}
    (h : w ∈ headerWrites host dest_port payload_size) : w.1.stop ≤ 70 := by
  have hstop : ∀ f ∈ headerMembers, f.stop ≤ 70 := by decide
  apply hstop
  rw [← map_fst_headerWrites dest_port payload_size]
  exact List.mem_map_of_mem h

theorem mem_valueMembers_or_zero {dest_port : UInt16} {payload_size : UInt64} {w : Field × ℕ}
    (h : w ∈ headerWrites host dest_port payload_size) : w.1 ∈ valueMembers ∨ w.2 = 0 := by
  simp only [headerWrites, htons_zero, htonl_zero, List.mem_cons, List.not_mem_nil,
    or_false] at h
  rcases h with rfl | rfl | rfl | rfl | rfl | rfl | rfl | rfl | rfl | rfl | rfl | rfl | rfl
    | rfl | rfl | rfl | rfl | rfl | rfl | rfl | rfl | rfl | rfl | rfl | rfl | rfl | rfl <;>
    simp [valueMembers]

variable (btp) in
/-- `dest_port` of the body. -/
def destPort : UInt16 := (btp.get 0).toUInt16 <<< 8 ||| (btp.get 1).toUInt16

variable (btp) in
/-- The assigned header, in a buffer for header and payload. -/
def headerOf (host : Endian) : List UInt8 :=
  writeAll host (List.replicate (btp.cells.length + 66) 0)
    (headerWrites host (destPort btp) (UInt64.ofNat (btp.cells.length - 4)))

variable (btp) in
/-- The frame for a packet. -/
def frameOf (host : Endian) : List UInt8 :=
  writeAt (headerOf btp host) 70 (btp.cells.drop 4)

/-- A packet that the length arithmetic of the body is right for: there is a
BTP-B header, and the frame fits a datagram. -/
structure Sendable (btp : Region UInt8) : Prop where
  header : 4 ≤ btp.cells.length
  fits : btp.cells.length - 4 + 70 ≤ 65507

/-- A packet with a BTP-B header, of any size that leaves the size of its frame
representable in `size_t`. -/
structure Sized (btp : Region UInt8) : Prop where
  header : 4 ≤ btp.cells.length
  size : btp.cells.length + 66 < 2 ^ 64

theorem Sendable.sized (h : Sendable btp) : Sized btp :=
  ⟨h.header, by have := h.fits; omega⟩

/-- A size that `size_t` can represent is not wrapped. -/
theorem toNat_ofNat_size {n : ℕ} (h : n < 2 ^ 64) : (UInt64.ofNat n).toNat = n := by
  rw [UInt64.toNat_ofNat', Nat.mod_eq_of_lt h]

theorem Sized.toNat_size (h : Sized btp) :
    (UInt64.ofNat btp.cells.length).toNat = btp.cells.length :=
  toNat_ofNat_size (by have := h.size; omega)

theorem Sized.toNat_payload_size (h : Sized btp) :
    (UInt64.ofNat (btp.cells.length - 4)).toNat = btp.cells.length - 4 :=
  toNat_ofNat_size (by have := h.size; omega)

/-- `btp.size() - 4` does not wrap around. -/
theorem Sized.payload_size (h : Sized btp) :
    UInt64.ofNat btp.cells.length - 4 = UInt64.ofNat (btp.cells.length - 4) := by
  have hle : (4 : UInt64) ≤ UInt64.ofNat btp.cells.length := by
    rw [UInt64.le_iff_toNat_le, h.toNat_size]
    exact h.header
  -- the subtraction of the source does not wrap
  apply UInt64.toNat_inj.mp
  rw [UInt64.toNat_sub_of_le _ _ hle, h.toNat_size, h.toNat_payload_size]
  rfl

theorem Sized.toNat_total_size (h : Sized btp) :
    (UInt64.ofNat UDPBTPMsgType.size + UInt64.ofNat UDPBTPDataReqHdr.size
      + UInt64.ofNat (btp.cells.length - 4)).toNat = btp.cells.length + 66 := by
  have hmin := h.header
  have hmax := h.size
  -- nor does the sum that the frame is allocated with
  have h70 : UInt64.ofNat UDPBTPMsgType.size + UInt64.ofNat UDPBTPDataReqHdr.size
      = UInt64.ofNat 70 := by decide
  rw [h70, UInt64.toNat_add, h.toNat_payload_size, toNat_ofNat_size (by decide)]
  omega

theorem read_payload (hmin : 4 ≤ btp.cells.length) :
    btp.read 4 (btp.cells.length - 4) = btp.cells.drop 4 := by
  apply List.ext_getElem?
  intro j
  -- what is read ends where the packet ends, so nothing comes from behind it
  by_cases hj : j < btp.cells.length - 4
  · rw [Region.getElem?_read _ hj, Region.get_of_lt _ (by omega), List.getElem?_drop,
      List.getElem?_eq_getElem]
  · rw [List.getElem?_eq_none (by rw [Region.length_read]; omega),
      List.getElem?_eq_none (by rw [List.length_drop]; omega)]

/-- **The body in closed form.** -/
theorem cohdaFrame_result (h : Sized btp) :
    (cohdaFrame host btp).result = some (frameOf btp host) := by
  have hread : ∀ i, (btpAt btp i).result = some (btp.get i) := fun _ => rfl
  simp only [cohdaFrame, Run.result_bind, hread, Option.bind_some, foldlM_assign_result,
    Run.result_span, Run.result_pure, h.payload_size, h.toNat_payload_size, h.toNat_total_size,
    read_payload h.header]
  rfl

/-- The four header bytes of the packet are there. -/
theorem Sized.btpAt_safe (h : Sized btp) {i : ℕ} (hi : i < 4) : (btpAt btp i).Safe := by
  rw [btpAt, Run.safe_bind, Run.safe_span]
  exact ⟨lt_of_lt_of_le hi h.header, fun _ _ => Run.safe_pure _⟩

/-- The assignments stay inside the buffer. -/
theorem Sized.headerWrites_safe (h : Sized btp) :
    ((headerWrites host (destPort btp) (UInt64.ofNat (btp.cells.length - 4))).foldlM
      (assign host) (List.replicate (btp.cells.length + 66) 0)).Safe := by
  have hmin := h.header
  refine foldlM_assign_safe fun w hw => ?_
  -- all members end within the 70 bytes of the headers
  have hstop : w.1.stop ≤ 70 := stop_le_of_write hw
  rw [List.length_replicate]
  omega

/-- **The body is safe.** Packet and frame are read and written inside their
bounds. -/
theorem cohdaFrame_safe (h : Sized btp) : (cohdaFrame host btp).Safe := by
  have hmin := h.header
  unfold cohdaFrame
  -- the four bytes of the BTP-B header
  rw [Run.safe_bind]
  refine ⟨h.btpAt_safe (by decide), fun b0 h0 => ?_⟩
  rw [Run.safe_bind]
  refine ⟨h.btpAt_safe (by decide), fun b1 h1 => ?_⟩
  rw [Run.safe_bind]
  refine ⟨h.btpAt_safe (by decide), fun b2 _ => ?_⟩
  rw [Run.safe_bind]
  refine ⟨h.btpAt_safe (by decide), fun b3 _ => ?_⟩
  obtain rfl : btp.get 0 = b0 := Option.some.inj h0
  obtain rfl : btp.get 1 = b1 := Option.some.inj h1
  simp only [h.payload_size, h.toNat_payload_size, h.toNat_total_size]
  -- the assignments to the header members
  rw [Run.safe_bind]
  refine ⟨h.headerWrites_safe, fun buffer hbuffer => ?_⟩
  rw [foldlM_assign_result] at hbuffer
  have hlen : buffer.length = btp.cells.length + 66 := by
    rw [← Option.some.inj hbuffer, length_writeAll, List.length_replicate]
  -- the source and the target of the `memcpy`
  rw [Run.safe_bind, Run.safe_span]
  refine ⟨by omega, fun _ _ => ?_⟩
  rw [Run.safe_bind, Run.safe_span, hlen]
  exact ⟨by change 70 + (btp.cells.length - 4) ≤ _; omega, fun _ _ => Run.safe_pure _⟩

end Body

/-! ### Reading the frame -/

section Frame

variable {host : Endian} {btp : Region UInt8}

@[simp] theorem length_headerOf : (headerOf btp host).length = btp.cells.length + 66 := by
  rw [headerOf, length_writeAll, List.length_replicate]

@[simp] theorem length_frameOf : (frameOf btp host).length = btp.cells.length + 66 := by
  rw [frameOf, length_writeAt, length_headerOf]

/-- The payload does not touch the header. -/
theorem read_frameOf {f : Field} (h : f.stop ≤ 70) :
    f.read (frameOf btp host) = f.read (headerOf btp host) :=
  slice_writeAt_of_disjoint (Or.inl h)

/-- A header member has what the last assignment to any of its bytes wrote. -/
theorem read_frameOf_of_write {f : Field} {v k : ℕ} (hmin : 4 ≤ btp.cells.length)
    (hk : (headerWrites host (destPort btp) (UInt64.ofNat (btp.cells.length - 4)))[k]?
      = some (f, v))
    (hlater : ∀ g ∈ headerMembers.drop (k + 1), f.Disjoint g) :
    f.read (frameOf btp host) = host.store f.width v := by
  have hstop : f.stop ≤ 70 := stop_le_of_write (List.mem_of_getElem? hk)
  rw [read_frameOf hstop]
  -- the last assignment that touches the member is the one that counts
  exact Field.read_writeAll host hk hlater (by rw [List.length_replicate]; omega)

/-- A member that shares no byte with a `valueMembers` member is zero: every
assignment to one of its bytes assigns zero. -/
theorem read_frameOf_zero {f : Field} (hmin : 4 ≤ btp.cells.length) (hstop : f.stop ≤ 70)
    (hdisj : ∀ g ∈ valueMembers, f.Disjoint g) :
    f.read (frameOf btp host) = List.replicate f.width 0 := by
  -- the member is assigned zero or not at all, in a frame of zeros
  have hwrites : ∀ w ∈ headerWrites host (destPort btp)
      (UInt64.ofNat (btp.cells.length - 4)), f.Disjoint w.1 ∨ w.2 = 0 :=
    fun w hw => (mem_valueMembers_or_zero hw).imp_left (hdisj w.1)
  have hbuffer : ∀ i, f.offset ≤ i → i < f.stop →
      (List.replicate (btp.cells.length + 66) (0 : UInt8))[i]? = some 0 := by
    intro i _ hi
    rw [List.getElem?_replicate, if_pos (by omega)]
  have hzero := Field.read_writeAll_zero host hwrites hbuffer
  rw [read_frameOf hstop]
  apply List.ext_getElem?
  intro j
  rw [Field.read, getElem?_slice, List.getElem?_replicate]
  split
  · next hj => exact hzero (f.offset + j) (Nat.le_add_right _ _) (Nat.add_lt_add_left hj _)
  · rfl

/-- The bytes behind the header are the payload. -/
theorem drop_frameOf (hmin : 4 ≤ btp.cells.length) :
    (frameOf btp host).drop 70 = btp.cells.drop 4 := by
  have hlen : (btp.cells.drop 4).length = btp.cells.length - 4 := List.length_drop
  -- the payload is copied behind the headers, at last
  have hslice : slice (frameOf btp host) 70 (btp.cells.drop 4).length = btp.cells.drop 4 :=
    slice_writeAt_self (by rw [length_headerOf, hlen]; omega)
  rw [slice, List.take_of_length_le (by rw [List.length_drop, length_frameOf, hlen]; omega)]
    at hslice
  exact hslice

end Frame

end V2xStack
