import V2xStack.Its.CamRetraction
import V2xStack.Its.CamRoundTrip
import V2xStack.Its.Ranges

/-!
# What the CAM encoder produces

`convertCam` to ASN.1 always writes the basic vehicle alternatives, and writes its bit
strings as one octet and its path with as many points as the ROS message has.

So a CAM that was decoded comes back as one of a basic vehicle whatever it was: the test
for another high frequency container is commented out in the decoder, and the data of
such a message are the ones of a ROS message that was not filled
(`convertCam_sameStation_iff`). And the schema's size constraints hold for the path and
the exterior lights of any message with at most 40 points, but never for an acceleration
control, which has seven bits (`convertCam_sizeConstraints_iff`).
-/

namespace V2xStack

open Asn1.Range

/-! ### The kind of station -/

namespace Asn1

/-- The tag of `HighFrequencyContainer_t`. -/
inductive HighFrequencyContainerPR
  | nothing
  | basicVehicleContainerHighFrequency
  | rsuContainerHighFrequency
  deriving DecidableEq, Repr

def HighFrequencyContainer.present : HighFrequencyContainer → HighFrequencyContainerPR
  | .nothing => .nothing
  | .basicVehicleContainerHighFrequency _ => .basicVehicleContainerHighFrequency
  | .rsuContainerHighFrequency => .rsuContainerHighFrequency

/-- The tag of `LowFrequencyContainer_t`. -/
inductive LowFrequencyContainerPR
  | basicVehicleContainerLowFrequency
  | other
  deriving DecidableEq, Repr

def LowFrequencyContainer.present : LowFrequencyContainer → LowFrequencyContainerPR
  | .basicVehicleContainerLowFrequency _ => .basicVehicleContainerLowFrequency
  | .other => .other

/-- `b` has the high frequency alternative of `a`, and the low frequency alternative
if `a` has one. -/
structure SameStation (a b : Cam) : Prop where
  highFrequencyContainer : b.cam.camParameters.highFrequencyContainer.present
    = a.cam.camParameters.highFrequencyContainer.present
  lowFrequencyContainer : ∀ c, a.cam.camParameters.lowFrequencyContainer = some c →
    b.cam.camParameters.lowFrequencyContainer.map LowFrequencyContainer.present = some c.present

/-- The containers of the message are those of a basic vehicle. -/
structure Cam.OfBasicVehicle (a : Cam) : Prop where
  highFrequencyContainer : a.cam.camParameters.highFrequencyContainer.present
    = .basicVehicleContainerHighFrequency
  lowFrequencyContainer : ∀ c, a.cam.camParameters.lowFrequencyContainer = some c →
    c.present = .basicVehicleContainerLowFrequency

end Asn1

section Station

variable {F : CamFormat}

/-- Every message that the encoder writes is one of a basic vehicle. -/
theorem Msg.CAM.convertCam_ofBasicVehicle (m : Msg.CAM F) : m.convertCam.OfBasicVehicle where
  highFrequencyContainer := rfl
  lowFrequencyContainer := by
    intro c hc
    obtain ⟨header, time, station, refpos, high, flag, low⟩ := m
    cases flag with
    -- without the flag no container is allocated
    | false => exact absurd hc (by simp [Msg.CAM.convertCam])
    | true =>
      obtain rfl := Option.some.inj hc
      rfl

/-- Only a basic vehicle's message can have the station of an encoded one. -/
theorem ofBasicVehicle_of_sameStation {a : Asn1.Cam} {m : Msg.CAM F}
    (h : Asn1.SameStation a m.convertCam) : a.OfBasicVehicle where
  highFrequencyContainer := h.highFrequencyContainer.symm
  lowFrequencyContainer := by
    intro c hc
    obtain ⟨c', hc', hpresent⟩ := Option.map_eq_some_iff.mp (h.lowFrequencyContainer c hc)
    rw [← hpresent]
    exact m.convertCam_ofBasicVehicle.lowFrequencyContainer c' hc'

variable (F) in
/-- What was decoded from a basic vehicle's message is encoded as one again. -/
theorem sameStation_decoded {a : Asn1.Cam} (h : a.OfBasicVehicle) :
    Asn1.SameStation a (a.decoded F).convertCam where
  highFrequencyContainer := h.highFrequencyContainer.symm
  lowFrequencyContainer := by
    intro c hc
    -- the encoder writes a vehicle container, whichever container was there
    cases c with
    | basicVehicleContainerLowFrequency lfc =>
      simp [Msg.CAM.convertCam, Asn1.Cam.decoded, Asn1.Cam.basicLowFrequency, hc,
        Asn1.LowFrequencyContainer.present]
    | other => exact absurd (h.lowFrequencyContainer _ hc) (by decide)

/-- The conversion reports an error, or the result is encoded with the station of the
message. -/
def StationKept (F : CamFormat) (a : Asn1.Cam) : Prop :=
  a.convertCam F = none ∨ ∃ m, a.convertCam F = some m ∧ Asn1.SameStation a m.convertCam

end Station

/-- **The kind of station, exactly.** The conversion never reports an error: it returns
a message for every CAM, which is encoded as that of a basic vehicle, and which is not
filled from a high frequency container of another kind. So the kind of station is kept
if and only if the containers were those of a basic vehicle. -/
theorem convertCam_sameStation_iff (F : CamFormat) (a : Asn1.Cam) :
    (∃ m, a.convertCam F = some m ∧ m.convertCam.OfBasicVehicle ∧
        (a.cam.camParameters.highFrequencyContainer.present
            ≠ .basicVehicleContainerHighFrequency → m.high_frequency_container = {})) ∧
      (StationKept F a ↔ a.OfBasicVehicle) := by
  rw [StationKept, a.convertCam_eq_decoded]
  constructor
  -- only the basic vehicle alternative is read, so any other leaves the defaults
  · refine ⟨_, rfl, Msg.CAM.convertCam_ofBasicVehicle _, fun hother => ?_⟩
    rw [Asn1.Cam.decoded]
    cases h : a.cam.camParameters.highFrequencyContainer with
    | nothing => rfl
    | basicVehicleContainerHighFrequency hfc => exact absurd (by rw [h]; rfl) hother
    | rsuContainerHighFrequency => rfl
  · constructor
    · rintro (herror | ⟨m, _, hsame⟩)
      -- a closed form is never an error
      · exact absurd herror (by simp)
      · exact ofBasicVehicle_of_sameStation hsame
    · intro h
      exact Or.inr ⟨_, rfl, sameStation_decoded F h⟩

/-- The CAM of a roadside unit. -/
def rsuCam : Asn1.Cam where
  header := { protocolVersion := 2, messageID := 2, stationID := 4711 }
  cam :=
    { carAwareness with
      camParameters :=
        { basicContainer :=
            { carAwareness.camParameters.basicContainer with stationType := 15 }
          highFrequencyContainer := .rsuContainerHighFrequency } }

/-- It is published, and written as a basic vehicle's. -/
theorem rsuCam_not_stationKept : ¬StationKept .released rsuCam := by
  rintro (herror | ⟨m, _, hsame⟩)
  · rw [Asn1.Cam.convertCam_eq_decoded] at herror
    exact absurd herror (by simp)
  · have hbasic := (ofBasicVehicle_of_sameStation hsame).highFrequencyContainer
    exact absurd hbasic (by decide)

/-! ### Size constraints -/

namespace Asn1

/-- The number of bits of the string. -/
def BitString.length (s : BitString) : ℕ := 8 * s.buf.length - s.bits_unused

/-- The size constraints of the schema. -/
structure Cam.SizeConstraints (a : Cam) : Prop where
  accelerationControl : ∀ hfc s, a.cam.camParameters.highFrequencyContainer
    = .basicVehicleContainerHighFrequency hfc → hfc.accelerationControl = some s → s.length = 7
  exteriorLights : ∀ lfc, a.cam.camParameters.lowFrequencyContainer
    = some (.basicVehicleContainerLowFrequency lfc) → lfc.exteriorLights.length = 8
  pathHistory : ∀ lfc, a.cam.camParameters.lowFrequencyContainer
    = some (.basicVehicleContainerLowFrequency lfc) → lfc.pathHistory.length ≤ 40

end Asn1

section Sizes

/-- The recipe of both bit strings: one octet, of which no bit is marked as unused. -/
theorem length_octet (b : UInt8) : ({ buf := [b] } : Asn1.BitString).length = 8 := rfl

/-- An acceleration control is written as eight bits. -/
theorem accelerationControl_length_iff {F : HighFrequencyFormat}
    {hfc : Msg.HighFrequencyContainer F} :
    (∀ s, (Asn1.BasicVehicleContainerHighFrequency.ofMsg hfc).accelerationControl = some s →
        s.length = 7) ↔
      hfc.has_acceleration_control = false := by
  unfold Asn1.BasicVehicleContainerHighFrequency.ofMsg
  cases hfc.has_acceleration_control with
  | false => simp
  -- under the flag a whole octet is written, where the type asks for seven bits
  | true => simp [length_octet]

/-- The path keeps its length. -/
theorem length_pathHistory_ofMsg {F : LowFrequencyFormat} (lfc : Msg.LowFrequencyContainer F) :
    (Asn1.BasicVehicleContainerLowFrequency.ofMsg lfc).pathHistory.length
      = lfc.path_history.length := by
  rw [Asn1.BasicVehicleContainerLowFrequency.ofMsg, Run.pushAll_eq_map, List.length_map]

variable {F : CamFormat}

/-- The low frequency container that is written. -/
theorem Msg.CAM.convertCam_lowFrequency_iff {m : Msg.CAM F}
    {lfc : Asn1.BasicVehicleContainerLowFrequency} :
    m.convertCam.cam.camParameters.lowFrequencyContainer
        = some (.basicVehicleContainerLowFrequency lfc) ↔
      m.has_low_frequency_container = true ∧ .ofMsg m.low_frequency_container = lfc := by
  unfold Msg.CAM.convertCam
  cases m.has_low_frequency_container with
  | false => simp
  | true => simp

/-- **The size constraints, exactly.** Whatever its values are, a ROS CAM is encoded
within the size constraints of the schema if and only if it has no acceleration control
and, with a low frequency container, a path of at most 40 points. -/
theorem convertCam_sizeConstraints_iff (m : Msg.CAM F) :
    m.convertCam.SizeConstraints ↔
      m.high_frequency_container.has_acceleration_control = false ∧
        (m.has_low_frequency_container = true →
          m.low_frequency_container.path_history.length ≤ 40) := by
  rw [← accelerationControl_length_iff]
  constructor
  · intro h
    refine ⟨fun s hs => h.accelerationControl _ s rfl hs, fun hflag => ?_⟩
    rw [← length_pathHistory_ofMsg]
    exact h.pathHistory _ (Msg.CAM.convertCam_lowFrequency_iff.mpr ⟨hflag, rfl⟩)
  · rintro ⟨hacc, hpath⟩
    refine ⟨?_, ?_, ?_⟩
    · intro hfc s hhf hs
      obtain rfl := Asn1.HighFrequencyContainer.basicVehicleContainerHighFrequency.inj hhf
      exact hacc s hs
    · -- the lights need all eight bits
      intro lfc hlf
      obtain ⟨-, rfl⟩ := Msg.CAM.convertCam_lowFrequency_iff.mp hlf
      exact length_octet _
    · intro lfc hlf
      obtain ⟨hflag, rfl⟩ := Msg.CAM.convertCam_lowFrequency_iff.mp hlf
      rw [length_pathHistory_ofMsg]
      exact hpath hflag

end Sizes

/-! ### A message in the ranges of the schema -/

namespace Msg

/-- The value and the confidence are in their ranges. -/
def Measured.In {F : MeasuredFormat} (V C : Set ℤ) (m : Measured F) : Prop :=
  m.value.val ∈ V ∧ m.confidence.val ∈ C

structure ReferencePosition.InRanges {F : ReferencePositionFormat} (p : ReferencePosition F) :
    Prop where
  latitude : p.latitude.val ∈ Latitude
  longitude : p.longitude.val ∈ Longitude
  semi_major_confidence : p.semi_major_confidence.val ∈ SemiAxisLength
  semi_minor_confidence : p.semi_minor_confidence.val ∈ SemiAxisLength
  semi_major_orientation : p.semi_major_orientation.val ∈ HeadingValue
  altitude : p.altitude.In AltitudeValue AltitudeConfidence

structure HighFrequencyContainer.InRanges {F : HighFrequencyFormat}
    (hfc : HighFrequencyContainer F) : Prop where
  heading : hfc.heading.In HeadingValue HeadingConfidence
  speed : hfc.speed.In SpeedValue SpeedConfidence
  drive_direction : hfc.drive_direction.val ∈ DriveDirection
  vehicle_length : hfc.vehicle_length.In VehicleLengthValue VehicleLengthConfidenceIndication
  vehicle_width : hfc.vehicle_width.val ∈ VehicleWidth
  longitudinal_acceleration :
    hfc.longitudinal_acceleration.In LongitudinalAccelerationValue AccelerationConfidence
  curvature : hfc.curvature.In CurvatureValue CurvatureConfidence
  curvature_calculation_mode : hfc.curvature_calculation_mode.val ∈ CurvatureCalculationMode
  yaw_rate : hfc.yaw_rate.In YawRateValue YawRateConfidence

/-- A time that is not the constant for an absent one is in range. -/
structure PathPoint.InRanges {F : LowFrequencyFormat} (p : PathPoint F) : Prop where
  delta_latitude : p.delta_latitude.val ∈ DeltaLatitude
  delta_longitude : p.delta_longitude.val ∈ DeltaLongitude
  delta_altitude : p.delta_altitude.val ∈ DeltaAltitude
  path_delta_time : p.path_delta_time ≠ F.UNAVAILABLE → p.path_delta_time.val ∈ PathDeltaTime

structure LowFrequencyContainer.InRanges {F : LowFrequencyFormat}
    (lfc : LowFrequencyContainer F) : Prop where
  vehicle_role : lfc.vehicle_role.val ∈ VehicleRole
  path_history : ∀ p ∈ lfc.path_history, p.InRanges

/-- Every integer of the message is in its range; the bits of the acceleration control
and of the exterior lights are any, and the path has any length. -/
structure CAM.InRanges {F : CamFormat} (m : CAM F) : Prop where
  protocol_version : m.its_header.protocol_version.val ∈ ProtocolVersion
  message_id : m.its_header.message_id.val ∈ MessageID
  station_id : m.its_header.station_id.val ∈ StationID
  generation_delta_time : m.generation_delta_time.val ∈ GenerationDeltaTime
  station_type : m.station_type.val ∈ Asn1.Range.StationType
  reference_position : m.reference_position.InRanges
  high_frequency_container : m.high_frequency_container.InRanges
  low_frequency_container :
    m.has_low_frequency_container = true → m.low_frequency_container.InRanges

end Msg

/-- The message of a car whose brake pedal is pressed. -/
def brakingCar : Msg.CAM .released :=
  { (carCam 2).decoded .released with
    high_frequency_container :=
      { ((carCam 2).decoded .released).high_frequency_container with
        has_acceleration_control := true
        acceleration_control := IntFormat.uint8.assign 1 } }

/-- It is in the ranges of the schema, and encoded outside the size constraints. -/
theorem brakingCar_not_sizeConstraints :
    brakingCar.InRanges ∧ ¬brakingCar.convertCam.SizeConstraints := by
  constructor
  · refine ⟨by decide, by decide, by decide, by decide, by decide, ?_, ?_, fun _ => ?_⟩
    · exact ⟨by decide, by decide, by decide, by decide, by decide, by decide, by decide⟩
    · exact ⟨⟨by decide, by decide⟩, ⟨by decide, by decide⟩, by decide,
        ⟨by decide, by decide⟩, by decide, ⟨by decide, by decide⟩, ⟨by decide, by decide⟩,
        by decide, ⟨by decide, by decide⟩⟩
    · refine ⟨by decide, fun p hp => ?_⟩
      obtain rfl := List.mem_singleton.mp hp
      exact ⟨by decide, by decide, by decide, by decide⟩
  · -- the acceleration control of the encoded message has eight bits
    intro h
    have hlength := h.accelerationControl _ _ rfl rfl
    exact absurd hlength (by decide)

end V2xStack
