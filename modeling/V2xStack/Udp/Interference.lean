import V2xStack.Udp.Receive

/-!
# Interference through the receive buffer

The dispatcher's buffer is written by every datagram that arrives and read by the
length that an accepted datagram announces. What it publishes should be a
function of the accepted datagrams alone: not of the buffer before the first one,
and not of datagrams from other senders or too short ones in between.

The loop is the machine `dispatcher`, its visible inputs are the accepted
datagrams, and `Machine.run_eq_run` reduces the property to one step: a step on
an accepted datagram must emit something that does not depend on the buffer.
`indication_eq` says that it does when the announced payload was received,
`78 + MsgLen <= recv_len`. `published_independent_iff` is the result over whole
histories, and it is exact: one accepted datagram that announces more than was
received makes the first byte behind it visible, and a datagram from another
sender right before it chooses that byte.
-/

namespace V2xStack

open Wire

variable {P : Platform} {cfg : Config}

/-- The announced payload of the datagram lies inside what was received. -/
def FullyReceived (d : Datagram) : Prop := 78 + d.msgLen ≤ d.recvLen

instance : DecidablePred FullyReceived := fun _ => inferInstanceAs (Decidable (_ ≤ _))

/-! ### One step -/

section Step

variable {host : Endian} {b : RecvBuffer} {d : Datagram}

/-- The members of a received header do not depend on the buffer. -/
theorem load_eq_load {f : Field} (h : f.stop ≤ d.recvLen) (b b' : RecvBuffer) :
    f.load host (b.recvfrom d.bytes).region = f.load host (b'.recvfrom d.bytes).region := by
  rw [load_recvfrom h, load_recvfrom h]

theorem indHeader_eq (h : 78 ≤ d.recvLen) (b b' : RecvBuffer) :
    UDPdispatcher.indHeader host (b.recvfrom d.bytes).region
      = UDPdispatcher.indHeader host (b'.recvfrom d.bytes).region := by
  -- every member of the header ends in front of what is not received
  have hstop : ∀ f : Field, f.stop ≤ 78 →
      f.load host (b.recvfrom d.bytes).region = f.load host (b'.recvfrom d.bytes).region :=
    fun f hf => load_eq_load (le_trans hf h) b b'
  unfold UDPdispatcher.indHeader
  rw [hstop _ (by decide : UDPBTPDataIndHdr.BTPType.stop ≤ 78),
    hstop _ (by decide : UDPBTPDataIndHdr.PktTransport.stop ≤ 78),
    hstop _ (by decide : UDPBTPDataIndHdr.TrafficClass.stop ≤ 78),
    hstop _ (by decide : UDPBTPDataIndHdr.MaxPktLifetime.stop ≤ 78),
    hstop _ (by decide : UDPBTPDataIndHdr.DestPort.stop ≤ 78),
    hstop _ (by decide : UDPBTPDataIndHdr.DestInfo.stop ≤ 78)]

/-- **A step on a fully received datagram** emits the same from every buffer. -/
theorem indication_eq (h : FullyReceived d) (b b' : RecvBuffer) :
    indication host b d = indication host b' d := by
  have hrecv : 78 ≤ d.recvLen := le_trans (Nat.le_add_right 78 _) h
  have hstop : ∀ f : Field, f.stop ≤ 78 →
      f.load host (b.recvfrom d.bytes).region = f.load host (b'.recvfrom d.bytes).region :=
    fun f hf => load_eq_load (le_trans hf hrecv) b b'
  unfold indication
  -- the header and the span of the payload are inside the datagram
  rw [hstop _ (by decide : UDPBTPMsgType.Version.stop ≤ 78),
    hstop _ (by decide : UDPBTPMsgType.MsgID.stop ≤ 78), indHeader_eq hrecv b b',
    RecvBuffer.read_recvfrom h, RecvBuffer.read_recvfrom h]

/-- When more is announced than was received, the payload has the cell behind the
received bytes, as it was before the datagram. -/
theorem indication_leaks (hlen : 78 ≤ d.bytes.length) (h : ¬FullyReceived d) (b : RecvBuffer) :
    (indication host b d).payload[d.recvLen - 78]? = some (b.region.get d.recvLen) := by
  have hrecv : 78 ≤ d.recvLen := by unfold Datagram.recvLen; omega
  -- the first byte behind the received ones is still payload
  have hlt : d.recvLen - 78 < d.msgLen := by unfold FullyReceived at h; omega
  change ((b.recvfrom d.bytes).region.read 78 d.msgLen)[d.recvLen - 78]? = _
  rw [Region.getElem?_read _ hlt, Nat.add_sub_cancel' hrecv,
    RecvBuffer.get_recvfrom_of_le le_rfl]

end Step

/-! ### A sender that chooses the byte -/

/-- A datagram that fills the buffer with one value, from an address that is not
the configured one. -/
def fillDatagram (P : Platform) (cfg : Config) (x : UInt8) : Datagram where
  sender := P.inet_addr cfg.originatingIp + 1
  bytes := List.replicate 1024 x

/-- A buffer in memory that holds one value throughout. -/
def fillBuffer (x : UInt8) : RecvBuffer :=
  ⟨⟨List.replicate 1024 x, fun _ => x⟩, List.length_replicate⟩

theorem not_accepted_fillDatagram (x : UInt8) : ¬Accepted P cfg (fillDatagram P cfg x) := by
  rintro ⟨hsender, -⟩
  have hone : (1 : UInt32) = 0 := UInt32.add_eq_left.mp hsender
  exact absurd hone (by decide)

/-- Behind the buffer memory never changes. -/
theorem final_beyond (b : RecvBuffer) (ds : List Datagram) :
    ((dispatcher P cfg).final b ds).region.beyond = b.region.beyond := by
  induction ds generalizing b with
  | nil => rfl
  | cons d ds ih => exact ih _

/-- After a fill of the buffer every cell has the value, whatever came before. -/
theorem get_recvfrom_fill (x : UInt8) (ds : List Datagram) (i : ℕ) :
    ((((dispatcher P cfg).final (fillBuffer x) ds).recvfrom
      (fillDatagram P cfg x).bytes).region).get i = x := by
  have hlen : (fillDatagram P cfg x).bytes.length = 1024 := List.length_replicate
  by_cases hi : i < 1024
  · -- a cell of the buffer is overwritten
    rw [RecvBuffer.recvfrom, Region.get_write_of_inside _ (by rwa [hlen])
      (by rwa [RecvBuffer.size])]
    exact List.getElem_replicate ..
  · -- a cell behind it is never written, by no datagram
    rw [RecvBuffer.recvfrom, Region.get_write_of_outside _ (Or.inl (by rw [hlen]; omega)),
      Region.get, List.getElem?_eq_none (by rw [RecvBuffer.size]; omega), Option.getD_none,
      final_beyond]
    rfl

/-! ### Histories -/

/-- The datagrams of a history that the dispatcher accepts. -/
def accepted (P : Platform) (cfg : Config) (ds : List Datagram) : List Datagram :=
  ds.filter fun d => Accepted P cfg d

/-- What is published on `udp_data` for the history is determined by its accepted
datagrams: any history with the same ones, from any buffer, publishes the same. -/
def PublishedIndependent (P : Platform) (cfg : Config) (ds : List Datagram) : Prop :=
  ∀ b b' ds', accepted P cfg ds' = accepted P cfg ds →
    published P cfg b ds' = published P cfg b' ds

theorem length_run (b : RecvBuffer) (ds : List Datagram) :
    ((dispatcher P cfg).run b ds).length = (accepted P cfg ds).length := by
  induction ds generalizing b with
  | nil => rfl
  | cons d ds ih =>
    rw [Machine.run_cons, List.length_append, ih]
    change (emitted P cfg b d).length + (accepted P cfg ds).length = _
    -- one message for an accepted datagram, none for another
    by_cases h : Accepted P cfg d
    · rw [emitted, if_pos h, accepted, accepted, List.filter_cons_of_pos (by simpa using h),
        List.length_cons, Nat.add_comm]
      rfl
    · rw [emitted, if_neg h, accepted, accepted, List.filter_cons_of_neg (by simpa using h)]
      exact Nat.zero_add _

/-- A fill is not among the accepted datagrams. -/
theorem accepted_append_fill (pre rest : List Datagram) (x : UInt8) :
    accepted P cfg (pre ++ fillDatagram P cfg x :: rest) = accepted P cfg (pre ++ rest) := by
  rw [accepted, accepted, List.filter_append, List.filter_append,
    List.filter_cons_of_neg (by simp [not_accepted_fillDatagram])]

/-- A run with a fill right before an accepted datagram: the message for it comes
after the messages for `pre`, and is made from the filled buffer. -/
theorem run_append_fill {d : Datagram} (hacc : Accepted P cfg d) (pre post : List Datagram)
    (x : UInt8) :
    ∃ rest, (dispatcher P cfg).run (fillBuffer x) (pre ++ fillDatagram P cfg x :: d :: post)
      = (dispatcher P cfg).run (fillBuffer x) pre
        ++ indication P.host (((dispatcher P cfg).final (fillBuffer x) pre).recvfrom
            (fillDatagram P cfg x).bytes) d :: rest := by
  refine ⟨(dispatcher P cfg).run ((((dispatcher P cfg).final (fillBuffer x) pre).recvfrom
    (fillDatagram P cfg x).bytes).recvfrom d.bytes) post, ?_⟩
  rw [Machine.run_append, Machine.run_cons, Machine.run_cons]
  -- the fill emits nothing, `d` its message
  change _ ++ (emitted P cfg _ (fillDatagram P cfg x) ++ (emitted P cfg _ d ++ _)) = _
  rw [emitted, if_neg (not_accepted_fillDatagram x), emitted, if_pos hacc]
  rfl

/-- **A short datagram interferes.** Were the published messages a function of the
accepted datagrams, every one of these would be fully received: otherwise fills
with 0 and with 1 right before it are told apart. -/
theorem fullyReceived_of_independent {ds : List Datagram} (hind : PublishedIndependent P cfg ds)
    {d : Datagram} (hd : d ∈ ds) (hacc : Accepted P cfg d) : FullyReceived d := by
  by_contra hnot
  obtain ⟨pre, post, rfl⟩ := List.append_of_mem hd
  -- both histories have the accepted datagrams of the given one
  have heq : (dispatcher P cfg).run (fillBuffer 0) (pre ++ fillDatagram P cfg 0 :: d :: post)
      = (dispatcher P cfg).run (fillBuffer 1)
          (pre ++ fillDatagram P cfg 1 :: d :: post) := by
    rw [← published_eq_run, ← published_eq_run,
      hind _ (fillBuffer 0) _ (accepted_append_fill pre (d :: post) 0),
      hind _ (fillBuffer 0) _ (accepted_append_fill pre (d :: post) 1)]
  obtain ⟨rest0, h0⟩ := run_append_fill hacc pre post 0
  obtain ⟨rest1, h1⟩ := run_append_fill hacc pre post 1
  rw [h0, h1] at heq
  -- up to `d` the runs emit equally many messages, so they differ at `d`
  have hcons := List.append_inj_right heq (by rw [length_run, length_run])
  have hleak := congrArg (fun m => m.payload[d.recvLen - 78]?) (List.cons.inj hcons).1
  simp only [indication_leaks hacc.2 hnot, get_recvfrom_fill] at hleak
  exact absurd (Option.some.inj hleak) (by decide)

/-- **Unwinding.** When every accepted datagram is fully received, the accepted
datagrams determine what is published. -/
theorem independent_of_fullyReceived {ds : List Datagram}
    (hall : ∀ d ∈ ds, Accepted P cfg d → FullyReceived d) : PublishedIndependent P cfg ds := by
  intro b b' ds' hfilter
  rw [published_eq_run, published_eq_run]
  refine Machine.run_eq_run _ (fun d => [indication P.host b d]) ?_ ?_ hfilter b b'
  · -- a datagram that is not accepted is silent
    intro s d hd
    exact if_neg (by simpa using hd)
  · -- a fully received one says the same from every buffer
    intro d hd s
    replace hd : d ∈ accepted P cfg ds := hfilter ▸ hd
    obtain ⟨hmem, hacc⟩ := List.mem_filter.mp hd
    have hacc' : Accepted P cfg d := by simpa using hacc
    change emitted P cfg s d = _
    rw [emitted, if_pos hacc', indication_eq (hall d hmem hacc') s b]

/-- **Noninterference of the receive loop, exactly.** What a history publishes is
determined by its accepted datagrams, whatever the buffer held and whatever else
arrived, if and only if every accepted datagram was fully received:
`78 + MsgLen <= recv_len`. -/
theorem published_independent_iff (P : Platform) (cfg : Config) (ds : List Datagram) :
    PublishedIndependent P cfg ds ↔ ∀ d ∈ ds, Accepted P cfg d → FullyReceived d := by
  constructor
  · intro hind d hd hacc
    exact fullyReceived_of_independent hind hd hacc
  · intro hall
    exact independent_of_fullyReceived hall

/-- The empty message is published with 74 zeros or with 74 ones, after what the
buffer held. -/
theorem emptyMessage_published_differs :
    accepted littleHost defaultConfig [emptyMessage] = [emptyMessage] ∧
      published littleHost defaultConfig (fillBuffer 0) [emptyMessage]
        ≠ published littleHost defaultConfig (fillBuffer 1) [emptyMessage] := by
  have hacc : Accepted littleHost defaultConfig emptyMessage := by decide
  have hnot : ¬FullyReceived emptyMessage := by decide
  -- either way one message is published
  have hpub : ∀ b, published littleHost defaultConfig b [emptyMessage]
      = [indication littleHost.host b emptyMessage] := by
    intro b
    rw [published_eq_run, Machine.run_cons, Machine.run_nil, List.append_nil]
    change emitted littleHost defaultConfig b emptyMessage = _
    rw [emitted, if_pos hacc]
  refine ⟨by decide, fun heq => ?_⟩
  rw [hpub, hpub] at heq
  -- its first byte behind the datagram is the one the buffer was filled with
  have hleak := congrArg (fun m => m.payload[emptyMessage.recvLen - 78]?) (List.cons.inj heq).1
  simp only [indication_leaks hacc.2 hnot] at hleak
  exact absurd (Option.some.inj hleak) (by decide)

end V2xStack
