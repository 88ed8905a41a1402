import V2xStack.Foundation.OptionalMember
import V2xStack.Its.CamRetraction
import V2xStack.Its.CamRoundTrip
import V2xStack.Its.CpmObjects

/-!
# Presence flags

An optional member of an ASN.1 message is a flag and a field of the ROS message:
the flag says whether the member is there, and the field behind a flag that is set
has its value. `Truthful` states this for one member.

The flag and the field are assigned by separate statements, and two of the four
optional members of the vehicle data do not get both. The acceleration control of a
CAM gets neither: `convertCam` from ASN.1 does not read it, although `convertCam` to
ASN.1 writes it. The vehicle width of a CPM gets the flag alone. The low frequency
container and the vehicle length get both.

`camFlags_iff` and `cpmFlags_iff` say for which messages all flags are truthful, and
`presenceFlags_iff` puts them together. A field can have a value only if the value
fits, so this is part of both conditions.
-/

namespace V2xStack

/-! ### Values that are held -/

section Held

/-- The field has the two values of the quantity. -/
def Msg.Measured.Holds {F : MeasuredFormat} (m : Msg.Measured F) (q : Asn1.Measured) : Prop :=
  m.value.val = q.value ∧ m.confidence.val = q.confidence

theorem Msg.Measured.ofAsn1_holds_iff {F : MeasuredFormat} {q : Asn1.Measured} :
    (Msg.Measured.ofAsn1 F q).Holds q ↔ q.Fits F := by
  constructor
  · rintro ⟨hvalue, hconfidence⟩
    exact ⟨IntFormat.assign_val_eq_iff.mp hvalue, IntFormat.assign_val_eq_iff.mp hconfidence⟩
  · rintro ⟨hvalue, hconfidence⟩
    exact ⟨IntFormat.assign_val_eq_iff.mpr hvalue, IntFormat.assign_val_eq_iff.mpr hconfidence⟩

/-- The field has the bits of the string, the first one lowest. -/
def HoldsBits {f : IntFormat} (v : f.Value) (s : Asn1.BitString) : Prop :=
  ∃ b, s.buf = [b] ∧ v.val = (reverse_byte b).toNat

variable {F : LowFrequencyFormat}

/-- The point has the deltas and the time of the element, or the constant for an
absent time. -/
structure Msg.PathPoint.Holds (q : Msg.PathPoint F) (p : Asn1.PathPoint) : Prop where
  delta_latitude : q.delta_latitude.val = p.pathPosition.deltaLatitude
  delta_longitude : q.delta_longitude.val = p.pathPosition.deltaLongitude
  delta_altitude : q.delta_altitude.val = p.pathPosition.deltaAltitude
  path_delta_time : q.path_delta_time.val = p.pathDeltaTime.getD F.UNAVAILABLE.val

/-- The container has the role, the lights and, point by point, the path of the
other. -/
structure Msg.LowFrequencyContainer.Holds (m : Msg.LowFrequencyContainer F)
    (lfc : Asn1.BasicVehicleContainerLowFrequency) : Prop where
  vehicle_role : m.vehicle_role.val = lfc.vehicleRole
  exterior_lights : HoldsBits m.exterior_lights lfc.exteriorLights
  path_history : List.Forall₂ Msg.PathPoint.Holds m.path_history lfc.pathHistory

variable (F) in
/-- The integers of the point are in the ranges of their ROS fields. -/
structure Asn1.PathPoint.FitsFields (p : Asn1.PathPoint) : Prop where
  deltaLatitude : F.delta_latitude.InRange p.pathPosition.deltaLatitude
  deltaLongitude : F.delta_longitude.InRange p.pathPosition.deltaLongitude
  deltaAltitude : F.delta_altitude.InRange p.pathPosition.deltaAltitude
  pathDeltaTime : ∀ t, p.pathDeltaTime = some t → F.path_delta_time.InRange t

variable (F) in
/-- The integers of the container are in the ranges of their ROS fields, and its lights
are one octet. -/
structure Asn1.BasicVehicleContainerLowFrequency.FitsFields
    (lfc : Asn1.BasicVehicleContainerLowFrequency) : Prop where
  vehicleRole : F.vehicle_role.InRange lfc.vehicleRole
  exteriorLights : ∃ b, lfc.exteriorLights.buf = [b] ∧
    F.exterior_lights.InRange (reverse_byte b).toNat
  pathHistory : ∀ p ∈ lfc.pathHistory, p.FitsFields F

theorem Msg.PathPoint.ofAsn1_holds_iff {p : Asn1.PathPoint} :
    (Msg.PathPoint.ofAsn1 F p).Holds p ↔ p.FitsFields F := by
  obtain ⟨pos, time⟩ := p
  constructor
  · rintro ⟨hlat, hlong, halt, htime⟩
    refine ⟨IntFormat.assign_val_eq_iff.mp hlat, IntFormat.assign_val_eq_iff.mp hlong,
      IntFormat.assign_val_eq_iff.mp halt, ?_⟩
    rintro t rfl
    exact IntFormat.assign_val_eq_iff.mp htime
  · rintro ⟨hlat, hlong, halt, htime⟩
    refine ⟨IntFormat.assign_val_eq_iff.mpr hlat, IntFormat.assign_val_eq_iff.mpr hlong,
      IntFormat.assign_val_eq_iff.mpr halt, ?_⟩
    cases time with
    -- the constant is a value of the field, so it is held whatever it is
    | none => rfl
    | some t => exact IntFormat.assign_val_eq_iff.mpr (htime t rfl)

/-- The lights are held when they are one octet that the field can have. -/
theorem holdsBits_ofAsn1_iff {lfc : Asn1.BasicVehicleContainerLowFrequency} :
    HoldsBits (Msg.LowFrequencyContainer.ofAsn1 F lfc).exterior_lights lfc.exteriorLights ↔
      ∃ b, lfc.exteriorLights.buf = [b] ∧ F.exterior_lights.InRange (reverse_byte b).toNat := by
  refine exists_congr fun b => and_congr_right fun hbuf => ?_
  rw [Msg.LowFrequencyContainer.ofAsn1, hbuf]
  exact IntFormat.assign_val_eq_iff

/-- The low frequency container is held exactly when it fits, however long its path
is. -/
theorem Msg.LowFrequencyContainer.ofAsn1_holds_iff
    {lfc : Asn1.BasicVehicleContainerLowFrequency} :
    (Msg.LowFrequencyContainer.ofAsn1 F lfc).Holds lfc ↔ lfc.FitsFields F := by
  -- the history holds the points when every pushed point holds its own
  have hpath : List.Forall₂ Msg.PathPoint.Holds
      (Msg.LowFrequencyContainer.ofAsn1 F lfc).path_history lfc.pathHistory ↔
      ∀ p ∈ lfc.pathHistory, p.FitsFields F := by
    change List.Forall₂ _ (Run.pushAll lfc.pathHistory (Msg.PathPoint.ofAsn1 F)) _ ↔ _
    rw [Run.pushAll_eq_map, List.forall₂_map_left_iff, List.forall₂_same]
    exact forall₂_congr fun p _ => Msg.PathPoint.ofAsn1_holds_iff
  constructor
  · rintro ⟨hrole, hlights, hpoints⟩
    exact ⟨IntFormat.assign_val_eq_iff.mp hrole, holdsBits_ofAsn1_iff.mp hlights,
      hpath.mp hpoints⟩
  · rintro ⟨hrole, hlights, hpoints⟩
    exact ⟨IntFormat.assign_val_eq_iff.mpr hrole, holdsBits_ofAsn1_iff.mpr hlights,
      hpath.mpr hpoints⟩

end Held

/-! ### The CAM -/

section Cam

variable {F : CamFormat}

/-- The two flags of the CAM are truthful about the message it was converted from,
whose high frequency container is given. -/
structure CamFlags (a : Asn1.Cam) (hfc : Asn1.BasicVehicleContainerHighFrequency)
    (m : Msg.CAM F) : Prop where
  acceleration_control :
    Truthful m.high_frequency_container.has_acceleration_control hfc.accelerationControl
      (HoldsBits m.high_frequency_container.acceleration_control)
  low_frequency_container :
    Truthful m.has_low_frequency_container a.basicLowFrequency m.low_frequency_container.Holds

/-- **The flags of a CAM, exactly.** -/
theorem camFlags_iff (F : CamFormat) (a : Asn1.Cam)
    (hfc : Asn1.BasicVehicleContainerHighFrequency) :
    (∃ m, a.convertCam F = some m ∧ CamFlags a hfc m) ↔
      hfc.accelerationControl = none ∧
        ∀ lfc, a.basicLowFrequency = some lfc → lfc.FitsFields F.low_frequency_container := by
  -- no alternative is read for the acceleration control, so its flag is never set
  have hacc : (a.decoded F).high_frequency_container.has_acceleration_control = false :=
    (ofAsn1_acceleration_control a.cam.camParameters.highFrequencyContainer).1
  -- behind the other flag is the image of the container
  have hheld : Truthful (a.decoded F).has_low_frequency_container a.basicLowFrequency
      (a.decoded F).low_frequency_container.Holds ↔
      ∀ lfc, a.basicLowFrequency = some lfc → lfc.FitsFields F.low_frequency_container := by
    refine truthful_isSome_iff.trans (forall₂_congr fun lfc hlfc => ?_)
    rw [Asn1.Cam.decoded, hlfc]
    exact Msg.LowFrequencyContainer.ofAsn1_holds_iff
  rw [a.convertCam_eq_decoded]
  constructor
  · rintro ⟨m, hm, hflags⟩
    obtain rfl := Option.some.inj hm
    exact ⟨truthful_false_iff.mp (hacc ▸ hflags.acceleration_control),
      hheld.mp hflags.low_frequency_container⟩
  · rintro ⟨hnone, hrange⟩
    refine ⟨_, rfl, ?_, hheld.mpr hrange⟩
    rw [hacc]
    exact truthful_false_iff.mpr hnone

end Cam

/-! ### The CPM -/

section Cpm

variable {F : OriginatingVehicleFormat} {v : Asn1.OriginatingVehicleContainer}

/-- The two flags of the vehicle container are truthful about the container it was
converted from. -/
structure CpmFlags (v : Asn1.OriginatingVehicleContainer)
    (m : Msg.OriginatingVehicleContainer F) : Prop where
  vehicle_length : Truthful m.has_vehicle_length v.vehicleLength m.vehicle_length.Holds
  vehicle_width : Truthful m.has_vehicle_width v.vehicleWidth fun w => m.vehicle_width.val = w

/-- The width that is published is zero. -/
theorem cpmFlags_image_iff :
    CpmFlags v (v.image F) ↔
      (∀ w, v.vehicleWidth = some w → w = 0) ∧
        ∀ q, v.vehicleLength = some q → q.Fits F.vehicle_length := by
  have hlength : Truthful (v.image F).has_vehicle_length v.vehicleLength
      (v.image F).vehicle_length.Holds ↔
      ∀ q, v.vehicleLength = some q → q.Fits F.vehicle_length := by
    refine truthful_isSome_iff.trans (forall₂_congr fun q hq => ?_)
    rw [Asn1.OriginatingVehicleContainer.image, hq]
    exact Msg.Measured.ofAsn1_holds_iff
  -- the value behind the flag was not assigned
  have hwidth : Truthful (v.image F).has_vehicle_width v.vehicleWidth
      (fun w => (v.image F).vehicle_width.val = w) ↔ ∀ w, v.vehicleWidth = some w → w = 0 :=
    truthful_isSome_iff.trans (forall₂_congr fun w _ => eq_comm)
  constructor
  · intro h
    exact ⟨hwidth.mp h.vehicle_width, hlength.mp h.vehicle_length⟩
  · rintro ⟨hw, hl⟩
    exact ⟨hlength.mpr hl, hwidth.mpr hw⟩

/-- The perceived objects do not touch the vehicle container. -/
theorem convertCpm_vehicle {F : CpmFormat} {a : Asn1.Cpm}
    {station : Asn1.StationDataContainer}
    (h : a.cpmParameters.stationDataContainer = some station) :
    ∃ m, (a.convertCpm F).result = some m ∧
      m.originating_vehicle_container
        = station.originatingVehicleContainer.image F.originating_vehicle_container := by
  rw [Asn1.Cpm.convertCpm, Run.result_bind, convertHeader_eq_headerImage h, Option.bind_some,
    Asn1.Cpm.assignObjects]
  -- whether objects are announced, present or neither, only their list is assigned
  split
  · cases a.cpmParameters.perceivedObjectContainer with
    | none => exact ⟨_, rfl, rfl⟩
    | some objects =>
      rw [Run.result_ifPresent_some, Run.result_bind, convertObjects_result]
      exact ⟨_, rfl, rfl⟩
  · exact ⟨_, rfl, rfl⟩

/-- **The flags of a CPM, exactly.** -/
theorem cpmFlags_iff (F : CpmFormat) {a : Asn1.Cpm} {station : Asn1.StationDataContainer}
    (h : a.cpmParameters.stationDataContainer = some station) :
    (∃ m, (a.convertCpm F).result = some m ∧
        CpmFlags station.originatingVehicleContainer m.originating_vehicle_container) ↔
      (∀ w, station.originatingVehicleContainer.vehicleWidth = some w → w = 0) ∧
        ∀ q, station.originatingVehicleContainer.vehicleLength = some q →
          q.Fits F.originating_vehicle_container.vehicle_length := by
  -- the message is converted in one way only, and the flags are those of the vehicle container
  obtain ⟨m, hm, hvehicle⟩ := convertCpm_vehicle (F := F) h
  rw [← cpmFlags_image_iff, ← hvehicle]
  constructor
  · rintro ⟨m', hm', hflags⟩
    obtain rfl : m = m' := Option.some.inj (hm.symm.trans hm')
    exact hflags
  · intro hflags
    exact ⟨m, hm, hflags⟩

end Cpm

/-- **Presence flags, exactly.** The flags of the CAM of a basic vehicle are truthful
if and only if it has no acceleration control and its low frequency container, if it
is a basic vehicle's, fits. Those of the CPM of a vehicle are truthful if and only if
it has no width but zero, and its length, if it has one, fits. -/
theorem presenceFlags_iff (F : CamFormat) (G : CpmFormat) :
    (∀ (a : Asn1.Cam) (hfc : Asn1.BasicVehicleContainerHighFrequency),
      a.cam.camParameters.highFrequencyContainer = .basicVehicleContainerHighFrequency hfc →
      ((∃ m, a.convertCam F = some m ∧ CamFlags a hfc m) ↔
        hfc.accelerationControl = none ∧
          ∀ lfc, a.basicLowFrequency = some lfc → lfc.FitsFields F.low_frequency_container)) ∧
    ∀ (a : Asn1.Cpm) (station : Asn1.StationDataContainer),
      a.cpmParameters.stationDataContainer = some station →
      station.present = .originatingVehicleContainer →
      ((∃ m, (a.convertCpm G).result = some m ∧
          CpmFlags station.originatingVehicleContainer m.originating_vehicle_container) ↔
        (∀ w, station.originatingVehicleContainer.vehicleWidth = some w → w = 0) ∧
          ∀ q, station.originatingVehicleContainer.vehicleLength = some q →
            q.Fits G.originating_vehicle_container.vehicle_length) := by
  constructor
  · intro a hfc _
    exact camFlags_iff F a hfc
  · intro a station hstation _
    exact cpmFlags_iff G hstation

/-! ### A vehicle -/

/-- A high frequency container, by its acceleration control. -/
def controlledHighFrequency (accelerationControl : Option Asn1.BitString) :
    Asn1.BasicVehicleContainerHighFrequency where
  heading := ⟨900, 10⟩
  speed := ⟨1400, 5⟩
  driveDirection := 0
  vehicleLength := ⟨45, 0⟩
  vehicleWidth := 18
  longitudinalAcceleration := ⟨-3, 10⟩
  curvature := ⟨0, 7⟩
  curvatureCalculationMode := 2
  yawRate := ⟨-120, 8⟩
  accelerationControl := accelerationControl

/-- Its CAM, with a low frequency container of one path point. -/
def controlledCam (accelerationControl : Option Asn1.BitString) : Asn1.Cam where
  header := { protocolVersion := 2, messageID := 2, stationID := 4711 }
  cam :=
    { carAwareness with
      camParameters :=
        { carAwareness.camParameters with
          highFrequencyContainer :=
            .basicVehicleContainerHighFrequency
              (controlledHighFrequency accelerationControl) } }

/-- The station data of a vehicle of 4.5 m, by its width. -/
def vehicleStation (vehicleWidth : Option ℤ) : Asn1.StationDataContainer where
  present := .originatingVehicleContainer
  originatingVehicleContainer :=
    { heading := ⟨900, 10⟩
      speed := ⟨1400, 5⟩
      driveDirection := 0
      vehicleLength := some ⟨45, 0⟩
      vehicleWidth := vehicleWidth }

theorem controlledCam_lowFrequency_fitsFields (accelerationControl : Option Asn1.BitString) :
    ∀ lfc, (controlledCam accelerationControl).basicLowFrequency = some lfc →
      lfc.FitsFields CamFormat.released.low_frequency_container := by
  intro lfc hlfc
  obtain rfl := Option.some.inj hlfc
  refine ⟨by decide, ⟨_, rfl, by decide⟩, fun p hp => ?_⟩
  obtain rfl := List.mem_singleton.mp hp
  refine ⟨by decide, by decide, by decide, fun t ht => ?_⟩
  obtain rfl := Option.some.inj ht
  decide

theorem controlledCam_none_presenceFlags :
    (∃ m, (controlledCam none).convertCam .released = some m ∧
        CamFlags (controlledCam none) (controlledHighFrequency none) m) ∧
      ∃ m, ((stationCpm (some (vehicleStation none))).convertCpm .released).result = some m ∧
        CpmFlags (vehicleStation none).originatingVehicleContainer
          m.originating_vehicle_container := by
  obtain ⟨hcam, hcpm⟩ := presenceFlags_iff .released .released
  refine ⟨(hcam (controlledCam none) _ rfl).mpr
    ⟨rfl, controlledCam_lowFrequency_fitsFields none⟩, ?_⟩
  refine (hcpm (stationCpm (some (vehicleStation none))) _ rfl rfl).mpr ⟨?_, ?_⟩
  · intro w hw
    exact absurd hw (by simp [vehicleStation])
  · intro q hq
    obtain rfl := Option.some.inj hq
    exact ⟨by decide, by decide⟩

/-- A pressed brake pedal is published without its flag, and a width of 1.8 m with
its flag as zero. -/
theorem controlledCam_brake_not_presenceFlags :
    (¬∃ m, (controlledCam (some { buf := [0x80], bits_unused := 1 })).convertCam .released
          = some m ∧
        CamFlags (controlledCam (some { buf := [0x80], bits_unused := 1 }))
          (controlledHighFrequency (some { buf := [0x80], bits_unused := 1 })) m) ∧
      ¬∃ m, ((stationCpm (some (vehicleStation (some 18)))).convertCpm .released).result
          = some m ∧
        CpmFlags (vehicleStation (some 18)).originatingVehicleContainer
          m.originating_vehicle_container := by
  constructor
  · intro h
    -- the acceleration control is not read, its flag stays false
    have hnone := ((camFlags_iff _ _ _).mp h).1
    exact absurd hnone (by simp [controlledHighFrequency])
  · intro h
    -- the width is not copied, so only a width of zero would be right
    have hwidth := (cpmFlags_iff .released (a := stationCpm _) rfl).mp h
    exact absurd (hwidth.1 18 rfl) (by decide)

end V2xStack
