import V2xStack.Its.Cam

/-!
# A CAM that was received and sent again

`convertCam` to ASN.1 followed by `convertCam` from ASN.1: what a ROS CAM is after
it was encoded and decoded.

Here nothing has to fit, because the ASN.1 side holds every ROS value. Each part
comes back by its own lemma `ofAsn1_ofMsg`. Four things in a ROS CAM do not: a
message identifier, an acceleration control, a low frequency container behind a
cleared flag, and exterior lights that are no octet. `Canonical` says that the
message has none of them, and `convertCam_convertCam_eq_iff` that it comes back
exactly then. `Asn1.Cam.decoded` is what the decoder makes of any ASN.1 CAM
(`convertCam_eq_decoded`). It is canonical whatever it was decoded from, so decoding
a second time changes nothing (`convertCam_retraction`).
-/

namespace V2xStack

/-! ### Part by part -/

section Parts

/-- The message identifier is the part of the header that does not come back. -/
theorem Msg.ItsPduHeader.ofAsn1_ofMsg {F : ItsPduHeaderFormat} (h : Msg.ItsPduHeader F) :
    Msg.ItsPduHeader.ofAsn1 F (.ofMsg h) = { h with message_id := 0 } := by
  simp only [Msg.ItsPduHeader.ofAsn1, Asn1.ItsPduHeader.ofMsg, IntFormat.assign_val]

@[simp] theorem Msg.Measured.ofAsn1_ofMsg {F : MeasuredFormat} (q : Msg.Measured F) :
    Msg.Measured.ofAsn1 F (.ofMsg q) = q := by
  simp only [Msg.Measured.ofAsn1, Asn1.Measured.ofMsg, IntFormat.assign_val]

@[simp] theorem Msg.ReferencePosition.ofAsn1_ofMsg {F : ReferencePositionFormat}
    (refpos : Msg.ReferencePosition F) :
    Msg.ReferencePosition.ofAsn1 F (.ofMsg refpos) = refpos := by
  simp only [Msg.ReferencePosition.ofAsn1, Asn1.ReferencePosition.ofMsg, IntFormat.assign_val,
    Msg.Measured.ofAsn1_ofMsg]

/-- The acceleration control is the part of the container that does not come
back. -/
theorem Msg.HighFrequencyContainer.ofAsn1_ofMsg {F : HighFrequencyFormat}
    (hfc : Msg.HighFrequencyContainer F) :
    Msg.HighFrequencyContainer.ofAsn1 F (.basicVehicleContainerHighFrequency (.ofMsg hfc))
      = { hfc with has_acceleration_control := false, acceleration_control := 0 } := by
  simp only [Msg.HighFrequencyContainer.ofAsn1, Asn1.BasicVehicleContainerHighFrequency.ofMsg,
    IntFormat.assign_val, Msg.Measured.ofAsn1_ofMsg]

variable {F : LowFrequencyFormat}

/-- A path point comes back, with the value for an absent time as an absent
time. -/
theorem Msg.PathPoint.ofAsn1_ofMsg (p : Msg.PathPoint F) :
    Msg.PathPoint.ofAsn1 F (.ofMsg p) = p := by
  obtain ⟨lat, long, alt, time⟩ := p
  by_cases htime : time = F.UNAVAILABLE
  · simp [Msg.PathPoint.ofAsn1, Asn1.PathPoint.ofMsg, htime]
  · simp [Msg.PathPoint.ofAsn1, Asn1.PathPoint.ofMsg, htime]

/-- The path comes back point by point, whatever its length. -/
theorem Msg.PathPoint.map_ofAsn1_ofMsg (ps : List (Msg.PathPoint F)) :
    (ps.map Asn1.PathPoint.ofMsg).map (Msg.PathPoint.ofAsn1 F) = ps := by
  induction ps with
  | nil => rfl
  | cons p ps ih => rw [List.map_cons, List.map_cons, p.ofAsn1_ofMsg, ih]

/-- The field holds what an octet of flags is assigned as. -/
def IsOctet {f : IntFormat} (v : f.Value) : Prop := ∃ b : UInt8, v = f.assign b.toNat

/-- Reading the octet that was written gives the field again exactly when it held
one. -/
theorem assign_reversedOctet_eq_iff {f : IntFormat} (v : f.Value) :
    f.assign (reverse_byte (reversedOctet v)).toNat = v ↔ IsOctet v := by
  rw [reversedOctet, reverse_byte_reverse_byte]
  constructor
  · intro h
    exact ⟨UInt8.ofInt v.val, h.symm⟩
  · rintro ⟨b, rfl⟩
    exact IntFormat.assign_ofInt_val b

/-- The low frequency container comes back when its lights are an octet. -/
theorem Msg.LowFrequencyContainer.ofAsn1_ofMsg (lfc : Msg.LowFrequencyContainer F) :
    Msg.LowFrequencyContainer.ofAsn1 F (.ofMsg lfc)
      = { lfc with
          exterior_lights :=
            F.exterior_lights.assign
              (reverse_byte (reversedOctet lfc.exterior_lights)).toNat } := by
  simp only [Msg.LowFrequencyContainer.ofAsn1, Asn1.BasicVehicleContainerLowFrequency.ofMsg,
    Run.pushAll_eq_map, IntFormat.assign_val, Msg.PathPoint.map_ofAsn1_ofMsg]

end Parts

/-! ### The whole message -/

section Message

variable {F : CamFormat}

/-- A ROS CAM without what the encoder and the decoder do not both handle. -/
structure Msg.CAM.Canonical (m : Msg.CAM F) : Prop where
  message_id : m.its_header.message_id = 0
  has_acceleration_control : m.high_frequency_container.has_acceleration_control = false
  acceleration_control : m.high_frequency_container.acceleration_control = 0
  low_frequency_container :
    m.has_low_frequency_container = false → m.low_frequency_container = {}
  exterior_lights : IsOctet m.low_frequency_container.exterior_lights

/-- What a message is after it was encoded and decoded. -/
def Msg.CAM.reencoded (m : Msg.CAM F) : Msg.CAM F :=
  { m with
    its_header := { m.its_header with message_id := 0 }
    high_frequency_container :=
      { m.high_frequency_container with
        has_acceleration_control := false
        acceleration_control := 0 }
    low_frequency_container :=
      if m.has_low_frequency_container then
        { m.low_frequency_container with
          exterior_lights :=
            F.low_frequency_container.exterior_lights.assign
              (reverse_byte
                (reversedOctet m.low_frequency_container.exterior_lights)).toNat }
      else
        {} }

/-- **Encoded and decoded.** -/
theorem convertCam_convertCam_eq_reencoded (m : Msg.CAM F) :
    m.convertCam.convertCam F = some m.reencoded := by
  obtain ⟨header, time, station, refpos, high, flag, low⟩ := m
  -- the flag decides whether the low-frequency container is encoded at all
  cases flag with
  | false =>
    simp only [Asn1.Cam.convertCam, Msg.CAM.convertCam, Msg.CAM.reencoded,
      Msg.ItsPduHeader.ofAsn1_ofMsg, Msg.ReferencePosition.ofAsn1_ofMsg,
      Msg.HighFrequencyContainer.ofAsn1_ofMsg, IntFormat.assign_val, Bool.false_eq_true, if_false]
  | true =>
    simp only [Asn1.Cam.convertCam, Msg.CAM.convertCam, Msg.CAM.reencoded,
      Msg.ItsPduHeader.ofAsn1_ofMsg, Msg.ReferencePosition.ofAsn1_ofMsg,
      Msg.HighFrequencyContainer.ofAsn1_ofMsg, Msg.LowFrequencyContainer.ofAsn1_ofMsg,
      IntFormat.assign_val, if_true]

/-- **What comes back, exactly.** -/
theorem convertCam_convertCam_eq_iff (m : Msg.CAM F) :
    m.convertCam.convertCam F = some m ↔ m.Canonical := by
  rw [convertCam_convertCam_eq_reencoded, Option.some_inj]
  constructor
  · intro h
    have hheader := congrArg Msg.CAM.its_header h
    have hhigh := congrArg Msg.CAM.high_frequency_container h
    have hlow := congrArg Msg.CAM.low_frequency_container h
    refine ⟨(congrArg Msg.ItsPduHeader.message_id hheader).symm,
      (congrArg Msg.HighFrequencyContainer.has_acceleration_control hhigh).symm,
      (congrArg Msg.HighFrequencyContainer.acceleration_control hhigh).symm, ?_, ?_⟩
    · intro hflag
      rw [← hlow, Msg.CAM.reencoded, if_neg (by rw [hflag]; decide)]
    · -- the lights that came back are an octet
      rw [← hlow, Msg.CAM.reencoded]
      split
      · exact ⟨_, rfl⟩
      · exact ⟨0, IntFormat.assign_zero.symm⟩
  · rintro ⟨hid, hflag, hacc, hlow, hlights⟩
    obtain ⟨⟨version, id, stationID⟩, time, station, refpos, high, flag, low⟩ := m
    obtain ⟨heading, speed, drive, length, width, longAcc, curv, mode, yaw, hasAcc, acc⟩ := high
    dsimp only at hid hflag hacc hlow hlights
    subst hid hflag hacc
    cases flag with
    | false => simp [Msg.CAM.reencoded, hlow rfl]
    | true =>
      simp [Msg.CAM.reencoded, (assign_reversedOctet_eq_iff low.exterior_lights).mpr hlights]

/-! ### Decoded messages -/

/-- The lights of a decoded container are an octet: the one of the bit string, or
zero for a bit string of another size. -/
theorem isOctet_ofAsn1 {F : LowFrequencyFormat} (lfc : Asn1.BasicVehicleContainerLowFrequency) :
    IsOctet (Msg.LowFrequencyContainer.ofAsn1 F lfc).exterior_lights := by
  unfold Msg.LowFrequencyContainer.ofAsn1
  dsimp only
  split
  · exact ⟨_, rfl⟩
  · exact ⟨0, IntFormat.assign_zero.symm⟩

/-- No alternative of the high frequency container is read for an acceleration
control. -/
theorem ofAsn1_acceleration_control {F : HighFrequencyFormat}
    (c : Asn1.HighFrequencyContainer) :
    (Msg.HighFrequencyContainer.ofAsn1 F c).has_acceleration_control = false ∧
      (Msg.HighFrequencyContainer.ofAsn1 F c).acceleration_control = 0 := by
  cases c with
  | nothing => exact ⟨rfl, rfl⟩
  | basicVehicleContainerHighFrequency hfc => exact ⟨rfl, rfl⟩
  | rsuContainerHighFrequency => exact ⟨rfl, rfl⟩

/-- The low frequency container, if it is the one of a basic vehicle. -/
def Asn1.Cam.basicLowFrequency (a : Asn1.Cam) :
    Option Asn1.BasicVehicleContainerLowFrequency :=
  match a.cam.camParameters.lowFrequencyContainer with
  | some (.basicVehicleContainerLowFrequency lfc) => some lfc
  | _ => none

variable (F) in
/-- The decoded message. -/
def Asn1.Cam.decoded (a : Asn1.Cam) : Msg.CAM F where
  its_header := .ofAsn1 F.its_header a.header
  generation_delta_time := F.generation_delta_time.assign a.cam.generationDeltaTime
  station_type := F.station_type.assign a.cam.camParameters.basicContainer.stationType
  reference_position :=
    .ofAsn1 F.reference_position a.cam.camParameters.basicContainer.referencePosition
  high_frequency_container :=
    .ofAsn1 F.high_frequency_container a.cam.camParameters.highFrequencyContainer
  has_low_frequency_container := a.basicLowFrequency.isSome
  low_frequency_container :=
    (a.basicLowFrequency.map
      (Msg.LowFrequencyContainer.ofAsn1 F.low_frequency_container)).getD {}

variable (F) in
/-- **The conversion in closed form.** It never returns a null pointer. -/
theorem Asn1.Cam.convertCam_eq_decoded (a : Asn1.Cam) :
    a.convertCam F = some (a.decoded F) := by
  obtain ⟨header, time, basic, high, low⟩ := a
  -- only the optional container is chosen by a branch of the source
  cases low with
  | none => rfl
  | some c =>
    cases c with
    | basicVehicleContainerLowFrequency lfc => rfl
    | other => rfl

/-- Whatever was decoded, the result is canonical. -/
theorem canonical_decoded (a : Asn1.Cam) : (a.decoded F).Canonical := by
  obtain ⟨hflag, hacc⟩ := ofAsn1_acceleration_control (F := F.high_frequency_container)
    a.cam.camParameters.highFrequencyContainer
  refine ⟨rfl, hflag, hacc, ?_, ?_⟩
  · -- without the container its members keep the zeros of an empty message
    intro hflag
    have hnone : a.basicLowFrequency = none :=
      Option.isNone_iff_eq_none.mp (Option.isSome_eq_false_iff.mp hflag)
    rw [Asn1.Cam.decoded, hnone]
    rfl
  · rw [Asn1.Cam.decoded]
    -- the lights are either that zero or the octet that was read
    cases a.basicLowFrequency with
    | none => exact ⟨0, IntFormat.assign_zero.symm⟩
    | some lfc => exact isOctet_ofAsn1 lfc

end Message

/-- **Decoding is a retraction on its image.** Every ASN.1 CAM is decoded to a ROS
CAM that is exactly what it is after it was encoded and decoded again. -/
theorem convertCam_retraction (F : CamFormat) (a : Asn1.Cam) :
    ∃ m, a.convertCam F = some m ∧ m.convertCam.convertCam F = some m := by
  refine ⟨a.decoded F, a.convertCam_eq_decoded F, ?_⟩
  exact (convertCam_convertCam_eq_iff _).mpr (canonical_decoded a)

end V2xStack
