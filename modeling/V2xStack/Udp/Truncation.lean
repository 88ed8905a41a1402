import Mathlib.Data.List.TakeDrop
import V2xStack.Udp.Interference

/-!
# Truncation in the receive buffer

The interface reads messages of up to `UDP_DATA_READ_BUFFER` bytes, the dispatcher
receives into a quarter of that. `recvfrom` discards what does not fit, and the
length it returns is then the length of the buffer: nothing in the loop tells a
cut datagram from a whole one.

`handle_packets` is what the loop body publishes on `converter/udp/in`: an accepted
datagram up to the size of the buffer. So the body publishes nothing or the whole
datagram exactly when the datagram fits (`handle_wholeOrNothing_iff`), and a run of
the loop publishes the accepted datagrams, in their order and whole, exactly when
all of them fit (`packets_whole_iff`).
-/

namespace V2xStack

open Wire

/-- The packet that carries the bytes. -/
def Config.packet (cfg : Config) (data : List UInt8) : Msg.UdpPacket where
  address := cfg.originatingIp
  data := data

/-- Either nothing was published for the datagram, or one packet with exactly its
bytes. -/
def WholeOrNothing (d : Datagram) (out : List Output) : Prop :=
  out = [] ∨ ∃ p, out.filterMap Output.udpPacket? = [p] ∧ p.data = d.bytes

section Step

variable {P : Platform} {cfg : Config} {b : RecvBuffer} {d : Datagram}

/-- What is copied out of the buffer is the datagram up to its size. -/
theorem read_recvfrom_recvLen :
    (b.recvfrom d.bytes).region.read 0 d.recvLen = d.bytes.take 1024 := by
  rw [RecvBuffer.read_recvfrom (Nat.zero_add d.recvLen).le, slice, List.drop_zero,
    Datagram.recvLen, Nat.min_comm, ← List.take_eq_take_min]

variable (P cfg) in
/-- The packets for one datagram. -/
def packets (_ : RecvBuffer) (d : Datagram) : List Msg.UdpPacket :=
  if Accepted P cfg d then [cfg.packet (d.bytes.take 1024)] else []

variable (P cfg) in
/-- **One datagram.** What the loop body publishes, and that it publishes nothing
for a datagram it does not accept. -/
theorem handle_packets (b : RecvBuffer) (d : Datagram) :
    ∃ out, (UDPdispatcher.handle P cfg (b.recvfrom d.bytes) d).result = some out ∧
      out.filterMap Output.udpPacket? = packets P cfg b d ∧ (¬Accepted P cfg d → out = []) := by
  by_cases h : Accepted P cfg d
  · -- one packet, with what the buffer has of the datagram
    refine ⟨_, by rw [handle_of_accepted h], ?_, fun hnot => absurd h hnot⟩
    rw [packets, if_pos h, ← read_recvfrom_recvLen (b := b)]
    rfl
  · exact ⟨[], by rw [handle_of_not_accepted h]; rfl, by rw [packets, if_neg h]; rfl,
      fun _ => rfl⟩

/-- The packet for an accepted datagram is whole only if the datagram fits. -/
theorem length_le_of_wholeOrNothing (hacc : Accepted P cfg d) {out : List Output}
    (hout : (UDPdispatcher.handle P cfg (b.recvfrom d.bytes) d).result = some out)
    (hwhole : WholeOrNothing d out) : d.bytes.length ≤ 1024 := by
  obtain ⟨out', hout', hpackets, -⟩ := handle_packets P cfg b d
  obtain rfl : out = out' := Option.some.inj (hout.symm.trans hout')
  rw [packets, if_pos hacc] at hpackets
  rcases hwhole with rfl | ⟨p, hp, hdata⟩
  · exact absurd hpackets (by simp)
  · -- the packet is the datagram, cut and uncut
    obtain rfl : cfg.packet (d.bytes.take 1024) = p :=
      (List.cons.inj (hpackets.symm.trans hp)).1
    exact (List.take_eq_self_iff _).mp hdata

end Step

/-- **No silent truncation, exactly.** Whatever the buffer held, the loop body
publishes nothing for a datagram or all of it, if and only if the datagram does not
come from the configured device or has at most 1024 bytes. -/
theorem handle_wholeOrNothing_iff (P : Platform) (cfg : Config) (b : RecvBuffer) (d : Datagram) :
    (∃ out, (UDPdispatcher.handle P cfg (b.recvfrom d.bytes) d).result = some out ∧
        WholeOrNothing d out) ↔
      (d.sender = P.inet_addr cfg.originatingIp → d.bytes.length ≤ 1024) := by
  constructor
  · rintro ⟨out, hout, hwhole⟩ hsender
    by_contra hlong
    -- a datagram that does not fit is long enough to be accepted
    have hacc : Accepted P cfg d := ⟨hsender, by omega⟩
    exact hlong (length_le_of_wholeOrNothing hacc hout hwhole)
  · intro hfits
    obtain ⟨out, hout, hpackets, hdropped⟩ := handle_packets P cfg b d
    refine ⟨out, hout, ?_⟩
    by_cases hacc : Accepted P cfg d
    · rw [packets, if_pos hacc] at hpackets
      exact Or.inr ⟨_, hpackets, (List.take_eq_self_iff _).mpr (hfits hacc.1)⟩
    · exact Or.inl (hdropped hacc)

/-- The shortest message of the device with trailing bytes. -/
def paddedMessage (n : ℕ) : Datagram where
  sender := emptyMessage.sender
  bytes := emptyMessage.bytes ++ List.replicate n 0

/-- One byte more than the buffer has, and far less than the interface reads. -/
theorem paddedMessage_truncated :
    (paddedMessage 947).sender = littleHost.inet_addr defaultConfig.originatingIp ∧
      (paddedMessage 947).bytes.length ≤ UDP_DATA_READ_BUFFER ∧
      ¬∃ out, (UDPdispatcher.handle littleHost defaultConfig
          (zeroBuffer.recvfrom (paddedMessage 947).bytes) (paddedMessage 947)).result = some out ∧
        WholeOrNothing (paddedMessage 947) out := by
  have hlen : (paddedMessage 947).bytes.length = 1025 := by
    rw [paddedMessage, List.length_append, List.length_replicate]
    rfl
  have hacc : Accepted littleHost defaultConfig (paddedMessage 947) :=
    ⟨by decide, by rw [hlen]; decide⟩
  refine ⟨by decide, by rw [hlen]; decide, ?_⟩
  -- a whole packet would have no more bytes than the buffer
  rintro ⟨out, hout, hwhole⟩
  have hle := length_le_of_wholeOrNothing hacc hout hwhole
  rw [hlen] at hle
  exact absurd hle (by decide)

/-! ### Runs -/

section Run

variable (P : Platform) (cfg : Config)

/-- The packets of a run of the loop: the accepted datagrams, each up to the size of
the buffer. -/
theorem initializeLoop_packets (b : RecvBuffer) (ds : List Datagram) :
    ∃ out, (UDPdispatcher.initializeLoop P cfg b (ds.map .datagram)).result = some out ∧
      out.filterMap Output.udpPacket?
        = (accepted P cfg ds).map fun d => cfg.packet (d.bytes.take 1024) := by
  have hstep : ∀ b d, ∃ out,
      (UDPdispatcher.handle P cfg (b.recvfrom d.bytes) d).result = some out ∧
        out.filterMap Output.udpPacket? = packets P cfg b d := by
    intro b d
    obtain ⟨out, hout, hpackets, -⟩ := handle_packets P cfg b d
    exact ⟨out, hout, hpackets⟩
  obtain ⟨out, hout, hrun⟩ := initializeLoop_observed P cfg hstep b ds
  refine ⟨out, hout, ?_⟩
  have hflat : (Machine.mk (fun b d => b.recvfrom d.bytes) (packets P cfg)).run b ds
      = (accepted P cfg ds).flatMap fun d => [cfg.packet (d.bytes.take 1024)] := by
    refine Machine.run_eq_flatMap _ ?_ ?_ b
    · intro s d hd
      exact if_neg (by simpa using hd)
    · -- the packet of an accepted datagram does not depend on the buffer
      intro d _ hd s
      exact if_pos (by simpa using hd)
  rw [hrun, hflat, List.map_eq_flatMap]

/-- The whole datagram, as a packet. -/
def Datagram.whole (cfg : Config) (d : Datagram) : Msg.UdpPacket := cfg.packet d.bytes

/-- **Whole datagrams over a run.** The loop publishes the accepted datagrams of a
history, in their order and each with all of its bytes, if and only if every
datagram of the configured device has at most 1024 bytes. -/
theorem packets_whole_iff (P : Platform) (cfg : Config) (b : RecvBuffer) (ds : List Datagram) :
    (∃ out, (UDPdispatcher.initializeLoop P cfg b (ds.map .datagram)).result = some out ∧
        out.filterMap Output.udpPacket? = (accepted P cfg ds).map (Datagram.whole cfg)) ↔
      ∀ d ∈ ds, d.sender = P.inet_addr cfg.originatingIp → d.bytes.length ≤ 1024 := by
  obtain ⟨out, hout, hpackets⟩ := initializeLoop_packets P cfg b ds
  constructor
  · rintro ⟨out', hout', hwhole⟩ d hd hsender
    obtain rfl : out = out' := Option.some.inj (hout.symm.trans hout')
    -- a longer one from the device is accepted, and its packet is cut off
    by_contra hlong
    have hacc : d ∈ accepted P cfg ds :=
      List.mem_filter.mpr ⟨hd, by simpa [Accepted, hsender] using by omega⟩
    have heq := List.map_inj_left.mp (hpackets.symm.trans hwhole) d hacc
    exact hlong ((List.take_eq_self_iff _).mp (congrArg Msg.UdpPacket.data heq))
  · intro hfits
    refine ⟨out, hout, hpackets.trans (List.map_inj_left.mpr fun d hd => ?_)⟩
    -- the accepted ones come from the device, so they fit
    obtain ⟨hmem, hacc⟩ := List.mem_filter.mp hd
    have hacc' : Accepted P cfg d := by simpa using hacc
    rw [Datagram.whole, List.take_of_length_le (hfits d hmem hacc'.1)]

end Run

end V2xStack
