import V2xStack.Its.CamRetraction
import V2xStack.Its.CamRoundTrip

/-!
# What the CAM conversions keep apart

The image and the kernels of the two `convertCam`, over the members that one of the two
touches. The types of the model have no others: the special vehicle container, the further
optional members of the vehicle containers, such as the lane position or the lateral
acceleration, and on the other side the time stamp are dropped in any case, and nothing is
said of them.

The decoder reaches the canonical messages and no others (`convertCam_range_iff`). Of two
vehicle CAMs whose integers fit it makes the same message if and only if they have the same
`image`, so of the members that are touched the three that the image clears are lost, and no
others (`convertCam_eq_convertCam_iff`).

The encoder makes the same ASN.1 CAM of two messages if and only if they are `Alike`: they
may differ behind a cleared flag, and in the bits of a field of flags above its octet
(`convertCam_encoded_eq_iff`).

At last the flags themselves. ASN.1 counts the bits of a string from the most significant
one, the masks of the ROS messages from the least significant one. `reverse_byte` carries
a flag to the flag of the same number (`reverse_byte_testBit`), and so do the conversions,
in both directions (`convertCam_flags`).
-/

namespace V2xStack

/-! ### The decoder -/

section Decoder

/-- **The image of the decoder** are the canonical messages, as far as the members go that
are touched. -/
theorem convertCam_range_iff (F : CamFormat) (m : Msg.CAM F) :
    (∃ a : Asn1.Cam, a.convertCam F = some m) ↔ m.Canonical := by
  constructor
  · rintro ⟨a, ha⟩
    rw [a.convertCam_eq_decoded] at ha
    exact Option.some.inj ha ▸ canonical_decoded a
  · intro h
    exact ⟨m.convertCam, (convertCam_convertCam_eq_iff m).mpr h⟩

variable {F : CamFormat}

end Decoder

/-! ### The encoder -/

section Encoder

/-- The octet of a field of flags. -/
def flagOctet {f : IntFormat} (v : f.Value) : UInt8 := UInt8.ofInt v.val

theorem reversedOctet_eq_iff {f g : IntFormat} (v : f.Value) (w : g.Value) :
    reversedOctet v = reversedOctet w ↔ flagOctet v = flagOctet w := by
  constructor
  · -- reversing twice gives the octet back
    intro h
    have hreverse := congrArg reverse_byte h
    rwa [reversedOctet, reversedOctet, reverse_byte_reverse_byte,
      reverse_byte_reverse_byte] at hreverse
  · intro h
    exact congrArg reverse_byte h

theorem Asn1.ItsPduHeader.ofMsg_injective {F : ItsPduHeaderFormat} :
    Function.Injective (Asn1.ItsPduHeader.ofMsg (F := F)) := by
  intro h h' heq
  have hversion := IntFormat.Value.ext (congrArg Asn1.ItsPduHeader.protocolVersion heq)
  have hid := IntFormat.Value.ext (congrArg Asn1.ItsPduHeader.messageID heq)
  have hstation := IntFormat.Value.ext (congrArg Asn1.ItsPduHeader.stationID heq)
  -- encoding stores each value unchanged, so the members can be read off
  cases h
  cases h'
  rw [Msg.ItsPduHeader.mk.injEq]
  exact ⟨hversion, hid, hstation⟩

theorem Asn1.Measured.ofMsg_injective {F : MeasuredFormat} :
    Function.Injective (Asn1.Measured.ofMsg (F := F)) :=
  Function.LeftInverse.injective Msg.Measured.ofAsn1_ofMsg

theorem Asn1.ReferencePosition.ofMsg_injective {F : ReferencePositionFormat} :
    Function.Injective (Asn1.ReferencePosition.ofMsg (F := F)) :=
  Function.LeftInverse.injective Msg.ReferencePosition.ofAsn1_ofMsg

theorem Asn1.PathPoint.ofMsg_injective {F : LowFrequencyFormat} :
    Function.Injective (Asn1.PathPoint.ofMsg (F := F)) :=
  Function.LeftInverse.injective Msg.PathPoint.ofAsn1_ofMsg

/-- The container apart from the acceleration control. -/
def Msg.HighFrequencyContainer.motion {F : HighFrequencyFormat}
    (hfc : Msg.HighFrequencyContainer F) : Msg.HighFrequencyContainer F :=
  { hfc with has_acceleration_control := false, acceleration_control := 0 }

/-- The same to the encoder. -/
structure Msg.HighFrequencyContainer.Alike {F : HighFrequencyFormat}
    (hfc hfc' : Msg.HighFrequencyContainer F) : Prop where
  motion : hfc.motion = hfc'.motion
  has_acceleration_control : hfc.has_acceleration_control = hfc'.has_acceleration_control
  acceleration_control : hfc.has_acceleration_control = true →
    flagOctet hfc.acceleration_control = flagOctet hfc'.acceleration_control

structure Msg.LowFrequencyContainer.Alike {F : LowFrequencyFormat}
    (lfc lfc' : Msg.LowFrequencyContainer F) : Prop where
  vehicle_role : lfc.vehicle_role = lfc'.vehicle_role
  exterior_lights : flagOctet lfc.exterior_lights = flagOctet lfc'.exterior_lights
  path_history : lfc.path_history = lfc'.path_history

structure Msg.CAM.Alike {F : CamFormat} (m m' : Msg.CAM F) : Prop where
  its_header : m.its_header = m'.its_header
  generation_delta_time : m.generation_delta_time = m'.generation_delta_time
  station_type : m.station_type = m'.station_type
  reference_position : m.reference_position = m'.reference_position
  high_frequency_container : m.high_frequency_container.Alike m'.high_frequency_container
  has_low_frequency_container :
    m.has_low_frequency_container = m'.has_low_frequency_container
  low_frequency_container : m.has_low_frequency_container = true →
    m.low_frequency_container.Alike m'.low_frequency_container

/-- The bit string of the acceleration control. -/
def Msg.HighFrequencyContainer.controlString {F : HighFrequencyFormat}
    (hfc : Msg.HighFrequencyContainer F) : Option Asn1.BitString :=
  if hfc.has_acceleration_control then
    some { buf := [reversedOctet hfc.acceleration_control] }
  else
    none

theorem Msg.HighFrequencyContainer.controlString_eq_iff {F : HighFrequencyFormat}
    (hfc hfc' : Msg.HighFrequencyContainer F) :
    hfc.controlString = hfc'.controlString ↔
      hfc.has_acceleration_control = hfc'.has_acceleration_control ∧
        (hfc.has_acceleration_control = true →
          flagOctet hfc.acceleration_control = flagOctet hfc'.acceleration_control) := by
  rw [← reversedOctet_eq_iff, controlString, controlString]
  -- the bit string is there on one side only when the two flags differ
  cases hfc.has_acceleration_control with
  | false =>
    cases hfc'.has_acceleration_control with
    | false => simp
    | true => simp
  | true =>
    cases hfc'.has_acceleration_control with
    | false => simp
    | true => simp

theorem Msg.HighFrequencyContainer.ofMsg_eq_iff {F : HighFrequencyFormat}
    (hfc hfc' : Msg.HighFrequencyContainer F) :
    Asn1.BasicVehicleContainerHighFrequency.ofMsg hfc
        = Asn1.BasicVehicleContainerHighFrequency.ofMsg hfc' ↔ hfc.Alike hfc' := by
  constructor
  · intro h
    -- decoding gives the rest of the container again
    have hmotion := congrArg (fun c =>
      Msg.HighFrequencyContainer.ofAsn1 F (.basicVehicleContainerHighFrequency c)) h
    simp only [Msg.HighFrequencyContainer.ofAsn1_ofMsg] at hmotion
    have hcontrol : hfc.controlString = hfc'.controlString :=
      congrArg Asn1.BasicVehicleContainerHighFrequency.accelerationControl h
    obtain ⟨hflag, hoctet⟩ := (hfc.controlString_eq_iff hfc').mp hcontrol
    exact ⟨hmotion, hflag, hoctet⟩
  · rintro ⟨hmotion, hflag, hoctet⟩
    have hcontrol := (hfc.controlString_eq_iff hfc').mpr ⟨hflag, hoctet⟩
    -- the flag and the field are read for the control string only
    have hparts : ∀ c : Msg.HighFrequencyContainer F,
        Asn1.BasicVehicleContainerHighFrequency.ofMsg c
          = { Asn1.BasicVehicleContainerHighFrequency.ofMsg c.motion with
              accelerationControl := c.controlString } := fun _ => rfl
    rw [hparts hfc, hparts hfc', hmotion, hcontrol]

theorem Msg.LowFrequencyContainer.ofMsg_eq_iff {F : LowFrequencyFormat}
    (lfc lfc' : Msg.LowFrequencyContainer F) :
    Asn1.BasicVehicleContainerLowFrequency.ofMsg lfc
        = Asn1.BasicVehicleContainerLowFrequency.ofMsg lfc' ↔ lfc.Alike lfc' := by
  unfold Asn1.BasicVehicleContainerLowFrequency.ofMsg
  rw [Run.pushAll_eq_map, Run.pushAll_eq_map]
  constructor
  · intro h
    obtain ⟨hrole, hlights, hpath⟩ := Asn1.BasicVehicleContainerLowFrequency.mk.inj h
    -- one octet is written for the lights, with its bits reversed
    have hoctet := (List.cons.inj (congrArg Asn1.BitString.buf hlights)).1
    exact ⟨IntFormat.Value.ext hrole, (reversedOctet_eq_iff _ _).mp hoctet,
      (List.map_injective_iff.mpr Asn1.PathPoint.ofMsg_injective) hpath⟩
  · rintro ⟨hrole, hoctet, hpath⟩
    rw [hrole, (reversedOctet_eq_iff _ _).mpr hoctet, hpath]

/-- The low frequency part of the encoder. -/
theorem Msg.CAM.lowFrequency_eq_iff {F : CamFormat} (m m' : Msg.CAM F) :
    m.convertCam.cam.camParameters.lowFrequencyContainer
        = m'.convertCam.cam.camParameters.lowFrequencyContainer ↔
      m.has_low_frequency_container = m'.has_low_frequency_container ∧
        (m.has_low_frequency_container = true →
          m.low_frequency_container.Alike m'.low_frequency_container) := by
  rw [← Msg.LowFrequencyContainer.ofMsg_eq_iff, Msg.CAM.convertCam, Msg.CAM.convertCam]
  dsimp only
  -- the container is written exactly under its flag, so mixed cases differ
  cases m.has_low_frequency_container with
  | false =>
    cases m'.has_low_frequency_container with
    | false => simp
    | true => simp
  | true =>
    cases m'.has_low_frequency_container with
    | false => simp
    | true => simp

/-- **The kernel of the encoder**, on the members that are touched. Two messages are encoded
to the same CAM exactly when they are alike: they agree in all of these but what is behind
a cleared flag, and the bits of a field of flags above its octet. -/
theorem convertCam_encoded_eq_iff {F : CamFormat} (m m' : Msg.CAM F) :
    m.convertCam = m'.convertCam ↔ m.Alike m' := by
  constructor
  · intro h
    have hcam := congrArg Asn1.Cam.cam h
    have hparams := congrArg Asn1.CoopAwareness.camParameters hcam
    have hbasic := congrArg Asn1.CamParameters.basicContainer hparams
    have hhigh := Asn1.HighFrequencyContainer.basicVehicleContainerHighFrequency.inj
      (congrArg Asn1.CamParameters.highFrequencyContainer hparams)
    have hlow := (m.lowFrequency_eq_iff m').mp
      (congrArg Asn1.CamParameters.lowFrequencyContainer hparams)
    exact ⟨Asn1.ItsPduHeader.ofMsg_injective (congrArg Asn1.Cam.header h),
      IntFormat.Value.ext (congrArg Asn1.CoopAwareness.generationDeltaTime hcam),
      IntFormat.Value.ext (congrArg Asn1.BasicContainer.stationType hbasic),
      Asn1.ReferencePosition.ofMsg_injective
        (congrArg Asn1.BasicContainer.referencePosition hbasic),
      (m.high_frequency_container.ofMsg_eq_iff _).mp hhigh, hlow.1, hlow.2⟩
  · rintro ⟨hheader, htime, hstation, hposition, hhigh, hflag, hlow⟩
    have hlow := (m.lowFrequency_eq_iff m').mpr ⟨hflag, hlow⟩
    -- what is encoded is made of parts that the two messages agree in
    have hparts : ∀ c : Msg.CAM F, c.convertCam =
        ⟨.ofMsg c.its_header, c.generation_delta_time.val,
          ⟨c.station_type.val, .ofMsg c.reference_position⟩,
          .basicVehicleContainerHighFrequency (.ofMsg c.high_frequency_container),
          c.convertCam.cam.camParameters.lowFrequencyContainer⟩ := fun _ => rfl
    rw [hparts m, hparts m', hheader, htime, hstation, hposition,
      (m.high_frequency_container.ofMsg_eq_iff _).mpr hhigh, hlow]

end Encoder

/-! ### Flags -/

section Flags

/-- Bit `k` of a bit string, counted from the first one: the most significant bit of the
first octet. -/
def Asn1.BitString.bit (s : Asn1.BitString) (k : ℕ) : Bool :=
  match s.buf[k / 8]? with
  | some b => b.toNat.testBit (7 - k % 8)
  | none => false

/-- The flag with the mask `1 << k`. -/
def flagBit {f : IntFormat} (v : f.Value) (k : ℕ) : Bool := (flagOctet v).toNat.testBit k

/-- `reverse_byte` mirrors the bits. -/
theorem reverse_byte_testBit (b : UInt8) {k : ℕ} (hk : k < 8) :
    (reverse_byte b).toNat.testBit k = b.toNat.testBit (7 - k) := by
  have hall : ∀ (n : Fin 256) (k : Fin 8),
      (reverse_byte (UInt8.ofNat n)).toNat.testBit k = (UInt8.ofNat n).toNat.testBit (7 - k) := by
    decide +kernel
  have h := hall ⟨b.toNat, b.toNat_lt⟩ ⟨k, hk⟩
  rwa [UInt8.ofNat_toNat] at h

theorem bit_singleton (b : UInt8) {k : ℕ} (hk : k < 8) (unused : ℕ) :
    (Asn1.BitString.mk [b] unused).bit k = b.toNat.testBit (7 - k) := by
  rw [Asn1.BitString.bit, Nat.div_eq_of_lt hk, Nat.mod_eq_of_lt hk]
  rfl

/-- The octet that is written has the flags of the field. -/
theorem bit_reversedOctet {f : IntFormat} (v : f.Value) {k : ℕ} (hk : k < 8) :
    (Asn1.BitString.mk [reversedOctet v] 0).bit k = flagBit v k := by
  rw [bit_singleton _ hk, ← reverse_byte_testBit _ hk, reversedOctet, reverse_byte_reverse_byte]
  rfl

/-- The field that is assigned has the flags of the octet. -/
theorem flagBit_assign {f : IntFormat} (hf : f.Holds (Set.Icc 0 255)) (b : UInt8) {k : ℕ}
    (hk : k < 8) (unused : ℕ) :
    flagBit (f.assign (reverse_byte b).toNat) k = (Asn1.BitString.mk [b] unused).bit k := by
  -- an octet with its bits reversed is an octet, which the field holds
  have hrange : f.InRange (reverse_byte b).toNat := by
    refine hf _ ⟨Int.natCast_nonneg _, ?_⟩
    have hlt := (reverse_byte b).toNat_lt
    omega
  rw [← bit_reversedOctet _ hk, reversedOctet_assign hrange, bit_singleton b hk,
    bit_singleton b hk]

/-- Lights of one octet are assigned to the field. -/
theorem Msg.LowFrequencyContainer.ofAsn1_exterior_lights {F : LowFrequencyFormat}
    {lfc : Asn1.BasicVehicleContainerLowFrequency} {b : UInt8}
    (hb : lfc.exteriorLights.buf = [b]) :
    (Msg.LowFrequencyContainer.ofAsn1 F lfc).exterior_lights
      = F.exterior_lights.assign (reverse_byte b).toNat := by
  rw [Msg.LowFrequencyContainer.ofAsn1, hb]

/-- **Flags keep their numbers.** Flag `k` of one octet of the exterior lights in a decoded
message is bit `k` of a string of one octet; and bit `k` of the strings that are encoded, of
the exterior lights and of the acceleration control, is flag `k` of the field. -/
theorem convertCam_flags (F : CamFormat)
    (hlights : F.low_frequency_container.exterior_lights.Holds (Set.Icc 0 255)) :
    (∀ (a : Asn1.Cam) (lfc : Asn1.BasicVehicleContainerLowFrequency),
        a.basicLowFrequency = some lfc → lfc.exteriorLights.buf.length = 1 →
        ∃ m, a.convertCam F = some m ∧ ∀ k < 8,
          flagBit m.low_frequency_container.exterior_lights k = lfc.exteriorLights.bit k) ∧
      ∀ m : Msg.CAM F,
        (m.has_low_frequency_container = true →
          ∃ lfc, m.convertCam.basicLowFrequency = some lfc ∧ ∀ k < 8,
            lfc.exteriorLights.bit k = flagBit m.low_frequency_container.exterior_lights k) ∧
        (m.high_frequency_container.has_acceleration_control = true →
          ∃ hfc s, m.convertCam.cam.camParameters.highFrequencyContainer
              = .basicVehicleContainerHighFrequency hfc ∧
            hfc.accelerationControl = some s ∧ ∀ k < 8,
              s.bit k = flagBit m.high_frequency_container.acceleration_control k) := by
  refine ⟨fun a lfc hlfc hlength => ?_, fun m => ⟨fun hflag => ?_, fun hflag => ?_⟩⟩
  · -- decoding: the one octet of the string is reversed into the field
    obtain ⟨b, hb⟩ := List.length_eq_one_iff.mp hlength
    refine ⟨a.decoded F, a.convertCam_eq_decoded F, fun k hk => ?_⟩
    have hdecoded : (a.decoded F).low_frequency_container.exterior_lights
        = F.low_frequency_container.exterior_lights.assign (reverse_byte b).toNat := by
      rw [Asn1.Cam.decoded, hlfc]
      exact Msg.LowFrequencyContainer.ofAsn1_exterior_lights hb
    have hstring : lfc.exteriorLights = ⟨[b], lfc.exteriorLights.bits_unused⟩ := by
      rw [← hb]
    -- and the field is wide enough for an octet
    rw [hdecoded, hstring, flagBit_assign hlights b hk]
  · -- encoding: the octet of the field is reversed into the string
    refine ⟨.ofMsg m.low_frequency_container, ?_, fun k hk => bit_reversedOctet _ hk⟩
    rw [Asn1.Cam.basicLowFrequency, Msg.CAM.convertCam, if_pos hflag]
  · -- and the same for the acceleration control
    refine ⟨.ofMsg m.high_frequency_container, _, rfl, if_pos hflag, fun k hk => ?_⟩
    exact bit_reversedOctet _ hk

theorem released_flags :
    (∀ (a : Asn1.Cam) (lfc : Asn1.BasicVehicleContainerLowFrequency),
        a.basicLowFrequency = some lfc → lfc.exteriorLights.buf.length = 1 →
        ∃ m, a.convertCam .released = some m ∧ ∀ k < 8,
          flagBit m.low_frequency_container.exterior_lights k = lfc.exteriorLights.bit k) ∧
      ∀ m : Msg.CAM .released,
        (m.has_low_frequency_container = true →
          ∃ lfc, m.convertCam.basicLowFrequency = some lfc ∧ ∀ k < 8,
            lfc.exteriorLights.bit k = flagBit m.low_frequency_container.exterior_lights k) ∧
        (m.high_frequency_container.has_acceleration_control = true →
          ∃ hfc s, m.convertCam.cam.camParameters.highFrequencyContainer
              = .basicVehicleContainerHighFrequency hfc ∧
            hfc.accelerationControl = some s ∧ ∀ k < 8,
              s.bit k = flagBit m.high_frequency_container.acceleration_control k) :=
  convertCam_flags .released (IntFormat.holds_Icc (by decide) (by decide))

end Flags

end V2xStack
