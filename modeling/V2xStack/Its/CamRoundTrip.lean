import V2xStack.Its.Cam

/-!
# A CAM there and back

`convertCam` from ASN.1 followed by `convertCam` to ASN.1, for messages whose
integers fit their ROS fields.

Each container has its own round trip: `ofMsg_ofAsn1` of the basic container, of
the high frequency container, of a path point and of the low frequency container.
`convertCam_convertCam` assembles them: the message comes back as
`Asn1.Cam.image`, which clears the three members that one direction handles and
the other does not. They are the message identifier and the acceleration
control, which the first function never reads, and exterior lights that are not
one octet, for which it publishes zero. `convertCam_fidelity_iff` says that the
message survives exactly when none of the three can be seen.
-/

namespace V2xStack

namespace Asn1

/-! ### Messages that fit -/

/-- Every integer of the container is in the range of its field; an acceleration
control is one octet whose bits the field can hold. -/
structure BasicVehicleContainerHighFrequency.Fits (F : HighFrequencyFormat)
    (hfc : BasicVehicleContainerHighFrequency) : Prop where
  heading : hfc.heading.Fits F.heading
  speed : hfc.speed.Fits F.speed
  driveDirection : F.drive_direction.InRange hfc.driveDirection
  vehicleLength : hfc.vehicleLength.Fits F.vehicle_length
  vehicleWidth : F.vehicle_width.InRange hfc.vehicleWidth
  longitudinalAcceleration : hfc.longitudinalAcceleration.Fits F.longitudinal_acceleration
  curvature : hfc.curvature.Fits F.curvature
  curvatureCalculationMode :
    F.curvature_calculation_mode.InRange hfc.curvatureCalculationMode
  yawRate : hfc.yawRate.Fits F.yaw_rate
  accelerationControl : ∀ s, hfc.accelerationControl = some s →
    ∃ b, s.buf = [b] ∧ F.acceleration_control.InRange (reverse_byte b).toNat

/-- Every integer of the point is in range, and a time that is present is not the
value for an absent one. -/
structure PathPoint.Fits (F : LowFrequencyFormat) (p : PathPoint) : Prop where
  deltaLatitude : F.delta_latitude.InRange p.pathPosition.deltaLatitude
  deltaLongitude : F.delta_longitude.InRange p.pathPosition.deltaLongitude
  deltaAltitude : F.delta_altitude.InRange p.pathPosition.deltaAltitude
  pathDeltaTime : ∀ t, p.pathDeltaTime = some t →
    F.path_delta_time.InRange t ∧ t ≠ F.UNAVAILABLE.val

structure BasicVehicleContainerLowFrequency.Fits (F : LowFrequencyFormat)
    (lfc : BasicVehicleContainerLowFrequency) : Prop where
  vehicleRole : F.vehicle_role.InRange lfc.vehicleRole
  exteriorLights : ∀ b, lfc.exteriorLights.buf = [b] →
    F.exterior_lights.InRange (reverse_byte b).toNat
  pathHistory : ∀ p ∈ lfc.pathHistory, p.Fits F

/-- The CAM of a vehicle: the high frequency container is the basic vehicle one, a
low frequency container is the basic vehicle one, and every integer is in the
range of its field. -/
structure CoopAwareness.Fits (F : CamFormat) (ca : CoopAwareness) : Prop where
  generationDeltaTime : F.generation_delta_time.InRange ca.generationDeltaTime
  stationType : F.station_type.InRange ca.camParameters.basicContainer.stationType
  referencePosition :
    ca.camParameters.basicContainer.referencePosition.Fits F.reference_position
  highFrequency : ∃ hfc, ca.camParameters.highFrequencyContainer
      = .basicVehicleContainerHighFrequency hfc ∧ hfc.Fits F.high_frequency_container
  lowFrequency : ∀ c, ca.camParameters.lowFrequencyContainer = some c →
    ∃ lfc, c = .basicVehicleContainerLowFrequency lfc ∧ lfc.Fits F.low_frequency_container

structure Cam.Fits (F : CamFormat) (a : Cam) : Prop where
  header : a.header.Fits F.its_header
  cam : a.cam.Fits F

end Asn1

/-! ### Container by container -/

section Containers

/-- Writing the octet that was read gives it again. -/
theorem reversedOctet_assign {f : IntFormat} {b : UInt8}
    (h : f.InRange (reverse_byte b).toNat) :
    reversedOctet (f.assign (reverse_byte b).toNat) = b := by
  -- the held value is a byte, so the conversion to eight bits keeps it
  have hof : UInt8.ofInt ((reverse_byte b).toNat : ℤ) = reverse_byte b := by
    apply UInt8.toNat_inj.mp
    have hlt := (reverse_byte b).toNat_lt
    rw [UInt8.ofInt, UInt8.toNat_ofNat']
    omega
  rw [reversedOctet, IntFormat.assign_val_of_inRange h, hof, reverse_byte_reverse_byte]

theorem reversedOctet_zero {f : IntFormat} : reversedOctet (0 : f.Value) = 0 := by
  change reverse_byte (UInt8.ofInt 0) = 0
  decide

/-- The high frequency container comes back without acceleration control. -/
theorem Asn1.BasicVehicleContainerHighFrequency.ofMsg_ofAsn1 {F : HighFrequencyFormat}
    {hfc : Asn1.BasicVehicleContainerHighFrequency} (h : hfc.Fits F) :
    Asn1.BasicVehicleContainerHighFrequency.ofMsg
        (Msg.HighFrequencyContainer.ofAsn1 F (.basicVehicleContainerHighFrequency hfc))
      = { hfc with accelerationControl := none } := by
  -- every measured member fits; only the control flags are not decoded, and so not encoded
  simp only [Asn1.BasicVehicleContainerHighFrequency.ofMsg, Msg.HighFrequencyContainer.ofAsn1,
    Asn1.Measured.ofMsg_ofAsn1 h.heading, Asn1.Measured.ofMsg_ofAsn1 h.speed,
    Asn1.Measured.ofMsg_ofAsn1 h.vehicleLength,
    Asn1.Measured.ofMsg_ofAsn1 h.longitudinalAcceleration,
    Asn1.Measured.ofMsg_ofAsn1 h.curvature, Asn1.Measured.ofMsg_ofAsn1 h.yawRate,
    IntFormat.assign_val_of_inRange h.driveDirection,
    IntFormat.assign_val_of_inRange h.vehicleWidth,
    IntFormat.assign_val_of_inRange h.curvatureCalculationMode, Bool.false_eq_true, if_false]

variable {F : LowFrequencyFormat}

/-- A path point comes back as it was. -/
theorem Asn1.PathPoint.ofMsg_ofAsn1 {p : Asn1.PathPoint} (h : p.Fits F) :
    Asn1.PathPoint.ofMsg (Msg.PathPoint.ofAsn1 F p) = p := by
  obtain ⟨pos, time⟩ := p
  have hpos : Asn1.DeltaReferencePosition.mk (F.delta_latitude.assign pos.deltaLatitude).val
      (F.delta_longitude.assign pos.deltaLongitude).val
      (F.delta_altitude.assign pos.deltaAltitude).val = pos := by
    rw [IntFormat.assign_val_of_inRange h.deltaLatitude,
      IntFormat.assign_val_of_inRange h.deltaLongitude,
      IntFormat.assign_val_of_inRange h.deltaAltitude]
  cases time with
  | none => simp [Asn1.PathPoint.ofMsg, Msg.PathPoint.ofAsn1, hpos]
  | some t =>
    obtain ⟨hrange, hne⟩ := h.pathDeltaTime t rfl
    -- the assigned time is not taken for an absent one
    have hassign : F.path_delta_time.assign t ≠ F.UNAVAILABLE := by
      intro heq
      rw [← heq, IntFormat.assign_val_of_inRange hrange] at hne
      exact hne rfl
    simp [Asn1.PathPoint.ofMsg, Msg.PathPoint.ofAsn1, hpos, hassign,
      IntFormat.assign_val_of_inRange hrange]

/-- The path comes back point by point, whatever its length. -/
theorem Asn1.PathPoint.map_ofMsg_ofAsn1 {ps : List Asn1.PathPoint} (h : ∀ p ∈ ps, p.Fits F) :
    (ps.map (Msg.PathPoint.ofAsn1 F)).map Asn1.PathPoint.ofMsg = ps := by
  induction ps with
  | nil => rfl
  | cons p ps ih =>
    rw [List.forall_mem_cons] at h
    rw [List.map_cons, List.map_cons, Asn1.PathPoint.ofMsg_ofAsn1 h.1, ih h.2]

/-- What the exterior lights come back as: one octet, zero for a string of any
other size. -/
def Asn1.BitString.lights (s : Asn1.BitString) : Asn1.BitString where
  buf := [match s.buf with | [b] => b | _ => 0]

/-- The low frequency container comes back with one octet of lights. -/
theorem Asn1.BasicVehicleContainerLowFrequency.ofMsg_ofAsn1
    {lfc : Asn1.BasicVehicleContainerLowFrequency} (h : lfc.Fits F) :
    Asn1.BasicVehicleContainerLowFrequency.ofMsg (Msg.LowFrequencyContainer.ofAsn1 F lfc)
      = { lfc with exteriorLights := lfc.exteriorLights.lights } := by
  have hoctet : reversedOctet (Msg.LowFrequencyContainer.ofAsn1 F lfc).exterior_lights
      = match lfc.exteriorLights.buf with | [b] => b | _ => 0 := by
    have hlights := h.exteriorLights
    change reversedOctet (match lfc.exteriorLights.buf with
      | [b] => F.exterior_lights.assign (reverse_byte b).toNat
      | _ => 0) = _
    split
    · next b hbuf => exact reversedOctet_assign (hlights b hbuf)
    · -- any other size is published as zero
      exact reversedOctet_zero
  unfold Asn1.BasicVehicleContainerLowFrequency.ofMsg
  rw [hoctet]
  simp only [Msg.LowFrequencyContainer.ofAsn1, Run.pushAll_eq_map,
    IntFormat.assign_val_of_inRange h.vehicleRole,
    Asn1.PathPoint.map_ofMsg_ofAsn1 h.pathHistory]
  rfl

end Containers

/-! ### The whole message -/

/-- What a message that fits comes back as. -/
def Asn1.Cam.image (a : Asn1.Cam) : Asn1.Cam where
  header := { a.header with messageID := 0 }
  cam :=
    { a.cam with
      camParameters :=
        { basicContainer := a.cam.camParameters.basicContainer
          highFrequencyContainer :=
            match a.cam.camParameters.highFrequencyContainer with
            | .basicVehicleContainerHighFrequency hfc =>
              .basicVehicleContainerHighFrequency { hfc with accelerationControl := none }
            | c => c
          lowFrequencyContainer :=
            match a.cam.camParameters.lowFrequencyContainer with
            | some (.basicVehicleContainerLowFrequency lfc) =>
              some (.basicVehicleContainerLowFrequency
                { lfc with exteriorLights := lfc.exteriorLights.lights })
            | c => c } }

/-- **There and back.** -/
theorem convertCam_convertCam {F : CamFormat} {a : Asn1.Cam} (h : a.Fits F) :
    ∃ m, a.convertCam F = some m ∧ m.convertCam = a.image := by
  obtain ⟨header, time, ⟨station, refpos⟩, hf, lf⟩ := a
  obtain ⟨hfc, rfl, hhfc⟩ := h.cam.highFrequency
  -- one round trip for each container
  have hheader := Asn1.ItsPduHeader.ofMsg_ofAsn1 h.header
  have htime : (F.generation_delta_time.assign time).val = time :=
    IntFormat.assign_val_of_inRange h.cam.generationDeltaTime
  have hstation : (F.station_type.assign station).val = station :=
    IntFormat.assign_val_of_inRange h.cam.stationType
  have hrefpos := Asn1.ReferencePosition.ofMsg_ofAsn1 h.cam.referencePosition
  have hhigh := Asn1.BasicVehicleContainerHighFrequency.ofMsg_ofAsn1 hhfc
  cases lf with
  | none =>
    refine ⟨_, rfl, ?_⟩
    simp only [Msg.CAM.convertCam, Asn1.Cam.image, hheader, htime, hstation, hrefpos, hhigh,
      Bool.false_eq_true, if_false]
  | some c =>
    obtain ⟨lfc, rfl, hlfc⟩ := h.cam.lowFrequency c rfl
    refine ⟨_, rfl, ?_⟩
    simp only [Msg.CAM.convertCam, Asn1.Cam.image, hheader, htime, hstation, hrefpos, hhigh,
      Asn1.BasicVehicleContainerLowFrequency.ofMsg_ofAsn1 hlfc, if_true]

/-- The octets of the acceleration control count, not how many of their bits are
used. -/
def Asn1.HighFrequencyContainer.octets : Asn1.HighFrequencyContainer → Asn1.HighFrequencyContainer
  | .basicVehicleContainerHighFrequency hfc =>
    .basicVehicleContainerHighFrequency
      { hfc with
        accelerationControl := hfc.accelerationControl.map fun s => { s with bits_unused := 0 } }
  | c => c

/-- The two messages agree in header, basic container, high frequency container
and low frequency container. -/
structure CamFidelity (a b : Asn1.Cam) : Prop where
  header : a.header = b.header
  basicContainer : a.cam.camParameters.basicContainer = b.cam.camParameters.basicContainer
  highFrequencyContainer : a.cam.camParameters.highFrequencyContainer.octets
    = b.cam.camParameters.highFrequencyContainer.octets
  lowFrequencyContainer :
    a.cam.camParameters.lowFrequencyContainer = b.cam.camParameters.lowFrequencyContainer

/-- A bit string is its own `lights` exactly when it is one full octet. -/
theorem Asn1.BitString.lights_eq_iff (s : Asn1.BitString) :
    s.lights = s ↔ ∃ b, s = { buf := [b] } := by
  constructor
  · intro h
    exact ⟨_, h.symm⟩
  · rintro ⟨b, rfl⟩
    rfl

/-- The image of a message is the message exactly when none of the three cleared
members can be seen. -/
theorem camFidelity_image_iff {F : CamFormat} {a : Asn1.Cam} (h : a.Fits F) :
    CamFidelity a.image a ↔
      a.header.messageID = 0 ∧
        (∀ hfc, a.cam.camParameters.highFrequencyContainer
            = .basicVehicleContainerHighFrequency hfc → hfc.accelerationControl = none) ∧
        (∀ lfc, a.cam.camParameters.lowFrequencyContainer
            = some (.basicVehicleContainerLowFrequency lfc) →
          ∃ b, lfc.exteriorLights = { buf := [b] }) := by
  constructor
  · rintro ⟨hheader, -, hhigh, hlow⟩
    refine ⟨(congrArg Asn1.ItsPduHeader.messageID hheader).symm, ?_, ?_⟩
    · intro hfc hhf
      simp only [Asn1.Cam.image, hhf] at hhigh
      have hacc := congrArg Asn1.BasicVehicleContainerHighFrequency.accelerationControl
        (Asn1.HighFrequencyContainer.basicVehicleContainerHighFrequency.inj hhigh)
      exact Option.map_eq_none_iff.mp hacc.symm
    · intro lfc hlf
      simp only [Asn1.Cam.image, hlf] at hlow
      have hlights := congrArg Asn1.BasicVehicleContainerLowFrequency.exteriorLights
        (Asn1.LowFrequencyContainer.basicVehicleContainerLowFrequency.inj
          (Option.some.inj hlow))
      exact (Asn1.BitString.lights_eq_iff _).mp hlights
  · rintro ⟨hid, hacc, hlights⟩
    obtain ⟨hfc, hhf, -⟩ := h.cam.highFrequency
    refine ⟨?_, rfl, ?_, ?_⟩
    · simp only [Asn1.Cam.image, ← hid]
    · simp only [Asn1.Cam.image, hhf, ← hacc hfc hhf]
    · cases hlf : a.cam.camParameters.lowFrequencyContainer with
      | none => simp only [Asn1.Cam.image, hlf]
      | some c =>
        -- a low frequency container is the basic vehicle one
        obtain ⟨lfc, rfl, -⟩ := h.cam.lowFrequency c hlf
        have hown := (Asn1.BitString.lights_eq_iff _).mpr (hlights lfc hlf)
        simp only [Asn1.Cam.image, hlf, hown]

/-- **Fidelity, exactly.** A vehicle CAM whose integers fit survives the two
conversions if and only if its message identifier is zero, it has no acceleration
control, and its exterior lights, if it has a low frequency container, are one
full octet. -/
theorem convertCam_fidelity_iff (F : CamFormat) (a : Asn1.Cam) (h : a.Fits F) :
    (∃ m, a.convertCam F = some m ∧ CamFidelity m.convertCam a) ↔
      a.header.messageID = 0 ∧
        (∀ hfc, a.cam.camParameters.highFrequencyContainer
            = .basicVehicleContainerHighFrequency hfc → hfc.accelerationControl = none) ∧
        (∀ lfc, a.cam.camParameters.lowFrequencyContainer
            = some (.basicVehicleContainerLowFrequency lfc) →
          ∃ b, lfc.exteriorLights = { buf := [b] }) := by
  obtain ⟨m, hm, himage⟩ := convertCam_convertCam h
  rw [← camFidelity_image_iff h]
  constructor
  · -- there is one result, and it comes back as the image
    rintro ⟨m', hm', hfid⟩
    obtain rfl : m = m' := Option.some.inj (hm.symm.trans hm')
    rwa [himage] at hfid
  · intro hfid
    exact ⟨m, hm, himage ▸ hfid⟩

/-! ### A vehicle -/

/-- A passenger car with one path point. -/
def carAwareness : Asn1.CoopAwareness where
  generationDeltaTime := 1000
  camParameters :=
    { basicContainer :=
        { stationType := 5
          referencePosition :=
            { latitude := 487600000
              longitude := 114200000
              positionConfidenceEllipse := ⟨50, 50, 900⟩
              altitude := ⟨37000, 15⟩ } }
      highFrequencyContainer :=
        .basicVehicleContainerHighFrequency
          { heading := ⟨900, 10⟩
            speed := ⟨1400, 5⟩
            driveDirection := 0
            vehicleLength := ⟨45, 0⟩
            vehicleWidth := 18
            longitudinalAcceleration := ⟨-3, 10⟩
            curvature := ⟨0, 7⟩
            curvatureCalculationMode := 2
            yawRate := ⟨-120, 8⟩ }
      lowFrequencyContainer :=
        some (.basicVehicleContainerLowFrequency
          { vehicleRole := 0
            exteriorLights := { buf := [0x80] }
            pathHistory := [{ pathPosition := ⟨-120, 340, 0⟩, pathDeltaTime := some 50 }] }) }

/-- Its CAM, by the message identifier. -/
def carCam (messageID : ℤ) : Asn1.Cam where
  header := { protocolVersion := 2, messageID, stationID := 4711 }
  cam := carAwareness

theorem carAwareness_fits : carAwareness.Fits .released where
  generationDeltaTime := by decide
  stationType := by decide
  referencePosition :=
    ⟨⟨by decide, by decide⟩, by decide, by decide, by decide, by decide, by decide⟩
  highFrequency :=
    ⟨_, rfl, ⟨by decide, by decide⟩, ⟨by decide, by decide⟩, by decide, ⟨by decide, by decide⟩,
      by decide, ⟨by decide, by decide⟩, ⟨by decide, by decide⟩, by decide,
      ⟨by decide, by decide⟩, fun s hs => absurd hs (by simp)⟩
  lowFrequency := by
    intro c hc
    obtain rfl := Option.some.inj hc
    refine ⟨_, rfl, by decide, ?_, ?_⟩
    · intro b hb
      obtain rfl : 0x80 = b := by simpa using hb
      decide
    · intro p hp
      obtain rfl := List.mem_singleton.mp hp
      refine ⟨by decide, by decide, by decide, fun t ht => ?_⟩
      obtain rfl := Option.some.inj ht
      decide

theorem carCam_zero_fidelity :
    (∃ m, (carCam 0).convertCam .released = some m ∧ CamFidelity m.convertCam (carCam 0)) ↔
      (carCam 0).header.messageID = 0 ∧
        (∀ hfc, (carCam 0).cam.camParameters.highFrequencyContainer
            = .basicVehicleContainerHighFrequency hfc → hfc.accelerationControl = none) ∧
        (∀ lfc, (carCam 0).cam.camParameters.lowFrequencyContainer
            = some (.basicVehicleContainerLowFrequency lfc) →
          ∃ b, lfc.exteriorLights = { buf := [b] }) :=
  convertCam_fidelity_iff .released (carCam 0)
    ⟨⟨by decide, by decide, by decide⟩, carAwareness_fits⟩

/-- A CAM has message identifier 2, and comes back with 0. -/
theorem carCam_two_not_fidelity :
    (carCam 2).Fits .released ∧
      ¬∃ m, (carCam 2).convertCam .released = some m ∧
        CamFidelity m.convertCam (carCam 2) := by
  have hfits : (carCam 2).Fits .released :=
    ⟨⟨by decide, by decide, by decide⟩, carAwareness_fits⟩
  refine ⟨hfits, ?_⟩
  rintro ⟨m, hm, hfid⟩
  obtain ⟨m', hm', himage⟩ := convertCam_convertCam hfits
  obtain rfl : m = m' := Option.some.inj (hm.symm.trans hm')
  rw [himage] at hfid
  -- the decoder leaves the message id at zero, so it is not 2 again after the encoder
  have hid := congrArg Asn1.ItsPduHeader.messageID hfid.header
  exact absurd hid (by decide)

end V2xStack
