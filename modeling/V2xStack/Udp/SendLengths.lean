import V2xStack.Udp.DataReq

/-!
# The length arithmetic of the send path

`createCohdaBTP` takes a packet of any length. Its sizes are computed in
`size_t`: `btp.size() - 4` wraps around below a header, and the sum of the sizes
of type, header and payload wraps back, so that the buffer for an empty packet
has 66 bytes while its payload has almost `2 ^ 64`. `MsgLen` and `Length` keep
16 bits, of `payload_size + 66` and of `payload_size`.

`LengthsSafe` is what the arithmetic should give. It fails in two ways: a packet
without a header is read outside, and a packet with more than 65473 bytes is
published with a wrapped `MsgLen`. In between it holds
(`createCohdaBTP_lengthsSafe_iff`).

Whether the kernel sends a frame that it is handed is left open; what is
published does not depend on it.
-/

namespace V2xStack

open Wire

/-- `payload_size` of the body, in `size_t`. -/
def payloadSize (btp : Region UInt8) : UInt64 := UInt64.ofNat btp.cells.length - 4

/-- The frame of an effect. -/
def SendEffect.frame : SendEffect → List UInt8
  | .sendto data => data
  | .publish m => m.data

/-- Whether the frame leaves the node: `sends` says which frames `sendto` does not
refuse. -/
def SendEffect.leaves (sends : List UInt8 → Bool) : SendEffect → Bool
  | .sendto data => sends data
  | .publish _ => true

/-- The payload size is the one of the packet, and the frame has it untruncated. -/
structure FrameLengths (btp : Region UInt8) (frame : List UInt8) : Prop where
  payload_size : (payloadSize btp).toNat + 4 = btp.cells.length
  msgLen : wireValue UDPBTPMsgType.MsgLen frame = (payloadSize btp).toNat + 66
  length : wireValue UDPBTPDataReqHdr.Length frame = (payloadSize btp).toNat

/-- Nothing leaves the node, or what does has the right lengths. Either way no
access leaves the packet or the buffer: a run with such an access is undefined
and cannot count as one that sends nothing. -/
structure LengthsSafe (sends : List UInt8 → Bool) (btp : Region UInt8)
    (run : Run (Access UdpObject) (List SendEffect)) : Prop where
  safe : run.Safe
  lengths : ∀ effects, run.result = some effects →
    (∀ e ∈ effects, e.leaves sends = false) ∨
      ∀ e ∈ effects, e.leaves sends = true → FrameLengths btp e.frame

section Lengths

variable {host : Endian} {btp : Region UInt8}

/-- A two-byte member cannot hold more than 16 bits. -/
theorem wireValue_lt {f : Field} (hwidth : f.width = 2) (frame : List UInt8) :
    wireValue f frame < 65536 := by
  have hlen : (f.read frame).length ≤ 2 := by
    rw [Field.read, slice, List.length_take, hwidth]
    exact Nat.min_le_left _ _
  -- of two bytes, or of fewer where the frame ends
  calc wireValue f frame
      < 256 ^ (f.read frame).length := beNat_lt _
    _ ≤ 256 ^ 2 := Nat.pow_le_pow_right (by decide) hlen

/-- Below a header the subtraction has wrapped, above 65473 bytes `MsgLen` is too
small: the lengths of a frame are right for the packets in between only. -/
theorem FrameLengths.bounds {frame : List UInt8} (h : FrameLengths btp frame) :
    4 ≤ btp.cells.length ∧ btp.cells.length ≤ 65473 := by
  have hsize := h.payload_size
  have hmsgLen := h.msgLen
  have hlt := wireValue_lt (f := UDPBTPMsgType.MsgLen) rfl frame
  -- `payload_size + 4` is at least 4, and `payload_size + 66` is below 65536
  omega

/-- And for these they are. -/
theorem frameOf_lengths (hmin : 4 ≤ btp.cells.length) (hmax : btp.cells.length ≤ 65473) :
    FrameLengths btp (frameOf btp host) := by
  have h : Sized btp := ⟨hmin, by omega⟩
  -- with a header the subtraction does not wrap
  have hsize : (payloadSize btp).toNat = btp.cells.length - 4 := by
    rw [payloadSize, h.payload_size, h.toNat_payload_size]
  refine ⟨?_, ?_, ?_⟩
  · omega
  · rw [h.wireValue_msgLen, hsize]
    omega
  · rw [h.wireValue_length, hsize]
    omega

/-- The body always ends with a frame, since a machine carries out what leaves the
arrays. -/
theorem cohdaFrame_isSome (host : Endian) (btp : Region UInt8) :
    ∃ frame, (cohdaFrame host btp).result = some frame := by
  have hread : ∀ i, (btpAt btp i).result = some (btp.get i) := fun _ => rfl
  simp only [cohdaFrame, Run.result_bind, hread, Option.bind_some, foldlM_assign_result,
    Run.result_span, Run.result_pure, Option.some.injEq, exists_eq']

/-- A function that hands out the frame of the body, and nothing else, is safe when
the body and the lengths of the frame are. -/
theorem lengthsSafe_of_frameOf {sends : List UInt8 → Bool}
    {run : Run (Access UdpObject) (List SendEffect)} {effects : List SendEffect}
    (hsafe : run.Safe) (hresult : run.result = some effects)
    (hframe : ∀ e ∈ effects, e.frame = frameOf btp host)
    (hlengths : FrameLengths btp (frameOf btp host)) : LengthsSafe sends btp run := by
  refine ⟨hsafe, fun effects' heffects => Or.inr fun e he _ => ?_⟩
  -- there is one list of effects, and one frame in it
  obtain rfl : effects = effects' := Option.some.inj (hresult.symm.trans heffects)
  rw [hframe e he]
  exact hlengths

end Lengths

/-- **When the length arithmetic is safe.** Exactly for the packets with a header
whose data request fits `MsgLen`, whatever frames the kernel refuses. -/
theorem createCohdaBTP_lengthsSafe_iff (host : Endian) (sends : List UInt8 → Bool)
    (btp : Region UInt8) :
    LengthsSafe sends btp (UDPdispatcher.createCohdaBTP host btp) ∧
        LengthsSafe sends btp (UDPSenderConverter.createCohdaBTP host btp) ↔
      4 ≤ btp.cells.length ∧ btp.cells.length ≤ 65473 := by
  constructor
  · -- the converter publishes whatever frame it has made
    rintro ⟨-, hconverter⟩
    obtain ⟨frame, hframe⟩ := cohdaFrame_isSome host btp
    have hresult : (UDPSenderConverter.createCohdaBTP host btp).result
        = some [.publish ⟨"172.16.2.1", frame⟩, .sendto frame] := by
      rw [UDPSenderConverter.createCohdaBTP, Run.result_bind, hframe]
      rfl
    rcases hconverter.lengths _ hresult with hnothing | hlengths
    · -- publishing does not ask the kernel
      exact absurd (hnothing _ List.mem_cons_self) (by simp [SendEffect.leaves])
    · exact (hlengths _ List.mem_cons_self rfl).bounds
  · rintro ⟨hmin, hmax⟩
    have h : Sized btp := ⟨hmin, by omega⟩
    have hlengths : FrameLengths btp (frameOf btp host) := frameOf_lengths hmin hmax
    exact ⟨lengthsSafe_of_frameOf (dispatcher_createCohdaBTP_safe h)
        (dispatcher_createCohdaBTP_result h) (by simp [SendEffect.frame]) hlengths,
      lengthsSafe_of_frameOf (converter_createCohdaBTP_safe h)
        (converter_createCohdaBTP_result h) (by simp [SendEffect.frame]) hlengths⟩

/-- One byte more than `MsgLen` has room for. -/
def oversizedPacket : Region UInt8 := ⟨List.replicate 65474 0, fun _ => 0⟩

/-- A packet without a header. -/
def headerlessPacket : Region UInt8 := ⟨[], fun _ => 0⟩

/-- The converter makes no wrong access for the oversized packet, and publishes a
frame whose `MsgLen` is 0 in place of 65536. The first byte of the empty packet is
read outside it by both functions. -/
theorem oversizedPacket_not_lengthsSafe :
    (UDPSenderConverter.createCohdaBTP .little oversizedPacket).Safe ∧
      (payloadSize oversizedPacket).toNat + 66 = 65536 ∧
      (∃ frame, (UDPSenderConverter.createCohdaBTP .little oversizedPacket).result
          = some [.publish ⟨"172.16.2.1", frame⟩, .sendto frame] ∧
        wireValue UDPBTPMsgType.MsgLen frame = 0) ∧
      ¬LengthsSafe (fun _ => true) oversizedPacket
        (UDPSenderConverter.createCohdaBTP .little oversizedPacket) ∧
      ¬(UDPdispatcher.createCohdaBTP .little headerlessPacket).Safe ∧
      ¬(UDPSenderConverter.createCohdaBTP .little headerlessPacket).Safe := by
  have hlen : oversizedPacket.cells.length = 65474 := List.length_replicate
  have h : Sized oversizedPacket := ⟨by omega, by omega⟩
  have hmsgLen : wireValue UDPBTPMsgType.MsgLen (frameOf oversizedPacket .little) = 0 := by
    rw [h.wireValue_msgLen, hlen]
  have hsize : (payloadSize oversizedPacket).toNat + 66 = 65536 := by
    rw [payloadSize, h.payload_size, h.toNat_payload_size, hlen]
  have hresult : (UDPSenderConverter.createCohdaBTP .little oversizedPacket).result
      = some [.publish ⟨"172.16.2.1", frameOf oversizedPacket .little⟩,
        .sendto (frameOf oversizedPacket .little)] :=
    converter_createCohdaBTP_result h
  -- the first access of the body
  have hread : ¬(btpAt headerlessPacket 0).Safe := by
    rw [btpAt, Run.safe_bind, Run.safe_span]
    rintro ⟨hspan, -⟩
    exact absurd hspan (by decide)
  refine ⟨converter_createCohdaBTP_safe h, hsize, ⟨_, hresult, hmsgLen⟩, fun hsafe => ?_,
    fun hsafe => ?_, fun hsafe => ?_⟩
  · rcases hsafe.lengths _ hresult with hnothing | hlengths
    · exact absurd (hnothing _ List.mem_cons_self) (by decide)
    · have := (hlengths _ List.mem_cons_self rfl).bounds
      omega
  · exact hread ((Run.safe_bind _ _).mp ((Run.safe_bind _ _).mp hsafe).1).1
  · exact hread ((Run.safe_bind _ _).mp ((Run.safe_bind _ _).mp hsafe).1).1

end V2xStack
