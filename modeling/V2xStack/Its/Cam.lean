import V2xStack.Foundation.Run
import V2xStack.Its.DataElements

/-!
# Cooperative awareness messages

The two `convertCam` of `ca_message.cpp`, between the ASN.1 CAM and the ROS CAM.

The C++ functions are overloads told apart by their argument; here they are
`Asn1.Cam.convertCam` and `Msg.CAM.convertCam`. Each is one long list of
assignments in the source, taken apart here container by container: `ofAsn1` is
the part of the first function that fills a container of the ROS message, `ofMsg`
the part of the second that fills a container of the ASN.1 message. What a
function does not assign keeps the zero it is constructed with; an optional
member of the ASN.1 structures that is not allocated is absent.

The ASN.1 structures have the members that the conversions read or write.
-/

namespace V2xStack

namespace Asn1

/-- `BasicContainer_t`. -/
structure BasicContainer where
  stationType : ℤ
  referencePosition : ReferencePosition
  deriving DecidableEq, Repr

/-- `BasicVehicleContainerHighFrequency_t`. -/
structure BasicVehicleContainerHighFrequency where
  heading : Measured
  speed : Measured
  driveDirection : ℤ
  vehicleLength : Measured
  vehicleWidth : ℤ
  longitudinalAcceleration : Measured
  curvature : Measured
  curvatureCalculationMode : ℤ
  yawRate : Measured
  accelerationControl : Option BitString := none
  deriving DecidableEq, Repr

/-- `HighFrequencyContainer_t`, by its tag. -/
inductive HighFrequencyContainer
  | nothing
  | basicVehicleContainerHighFrequency (c : BasicVehicleContainerHighFrequency)
  | rsuContainerHighFrequency
  deriving DecidableEq, Repr

/-- `DeltaReferencePosition_t`. -/
structure DeltaReferencePosition where
  deltaLatitude : ℤ
  deltaLongitude : ℤ
  deltaAltitude : ℤ
  deriving DecidableEq, Repr

/-- `PathPoint_t`. -/
structure PathPoint where
  pathPosition : DeltaReferencePosition
  pathDeltaTime : Option ℤ := none
  deriving DecidableEq, Repr

/-- `BasicVehicleContainerLowFrequency_t`. -/
structure BasicVehicleContainerLowFrequency where
  vehicleRole : ℤ
  exteriorLights : BitString
  pathHistory : List PathPoint
  deriving DecidableEq, Repr

/-- `LowFrequencyContainer_t`: its only alternative, or no known one. -/
inductive LowFrequencyContainer
  | basicVehicleContainerLowFrequency (c : BasicVehicleContainerLowFrequency)
  | other
  deriving DecidableEq, Repr

/-- `CamParameters_t`. -/
structure CamParameters where
  basicContainer : BasicContainer
  highFrequencyContainer : HighFrequencyContainer
  lowFrequencyContainer : Option LowFrequencyContainer := none
  deriving DecidableEq, Repr

/-- `CoopAwareness_t`. -/
structure CoopAwareness where
  generationDeltaTime : ℤ
  camParameters : CamParameters
  deriving DecidableEq, Repr

/-- `vanetza::asn1::r1::Cam`. -/
structure Cam where
  header : ItsPduHeader
  cam : CoopAwareness
  deriving DecidableEq, Repr

end Asn1

/-! ### The ROS message -/

structure HighFrequencyFormat where
  heading : MeasuredFormat
  speed : MeasuredFormat
  drive_direction : IntFormat
  vehicle_length : MeasuredFormat
  vehicle_width : IntFormat
  longitudinal_acceleration : MeasuredFormat
  curvature : MeasuredFormat
  curvature_calculation_mode : IntFormat
  yaw_rate : MeasuredFormat
  acceleration_control : IntFormat

structure LowFrequencyFormat where
  vehicle_role : IntFormat
  exterior_lights : IntFormat
  delta_latitude : IntFormat
  delta_longitude : IntFormat
  delta_altitude : IntFormat
  path_delta_time : IntFormat
  /-- `PathDeltaTime::UNAVAILABLE`. -/
  UNAVAILABLE : path_delta_time.Value

/-- The formats of the fields of `ros_etsi_its_msgs::msg::CAM`. -/
structure CamFormat where
  its_header : ItsPduHeaderFormat
  generation_delta_time : IntFormat
  station_type : IntFormat
  reference_position : ReferencePositionFormat
  high_frequency_container : HighFrequencyFormat
  low_frequency_container : LowFrequencyFormat

/-- The formats of the released message package. -/
def CamFormat.released : CamFormat where
  its_header := ⟨.uint8, .uint8, .uint32⟩
  generation_delta_time := .uint16
  station_type := .uint8
  reference_position := ⟨.int32, .int32, .uint16, .uint16, .uint16, ⟨.int32, .uint8⟩⟩
  high_frequency_container :=
    { heading := ⟨.uint16, .uint8⟩
      speed := ⟨.uint16, .uint8⟩
      drive_direction := .uint8
      vehicle_length := ⟨.uint16, .uint8⟩
      vehicle_width := .uint8
      longitudinal_acceleration := ⟨.int16, .uint8⟩
      curvature := ⟨.int16, .uint8⟩
      curvature_calculation_mode := .uint8
      yaw_rate := ⟨.int16, .uint8⟩
      acceleration_control := .uint8 }
  low_frequency_container :=
    { vehicle_role := .uint8
      exterior_lights := .uint8
      delta_latitude := .int32
      delta_longitude := .int32
      delta_altitude := .int16
      path_delta_time := .uint16
      UNAVAILABLE := 0 }

namespace Msg

structure HighFrequencyContainer (F : HighFrequencyFormat) where
  heading : Measured F.heading := {}
  speed : Measured F.speed := {}
  drive_direction : F.drive_direction.Value := 0
  vehicle_length : Measured F.vehicle_length := {}
  vehicle_width : F.vehicle_width.Value := 0
  longitudinal_acceleration : Measured F.longitudinal_acceleration := {}
  curvature : Measured F.curvature := {}
  curvature_calculation_mode : F.curvature_calculation_mode.Value := 0
  yaw_rate : Measured F.yaw_rate := {}
  has_acceleration_control : Bool := false
  acceleration_control : F.acceleration_control.Value := 0
  deriving DecidableEq, Repr

/-- A path point; the three deltas are in its `path_position`. -/
structure PathPoint (F : LowFrequencyFormat) where
  delta_latitude : F.delta_latitude.Value := 0
  delta_longitude : F.delta_longitude.Value := 0
  delta_altitude : F.delta_altitude.Value := 0
  path_delta_time : F.path_delta_time.Value := 0
  deriving DecidableEq, Repr

structure LowFrequencyContainer (F : LowFrequencyFormat) where
  vehicle_role : F.vehicle_role.Value := 0
  exterior_lights : F.exterior_lights.Value := 0
  path_history : List (PathPoint F) := []
  deriving DecidableEq, Repr

/-- `ros_etsi_its_msgs::msg::CAM`. -/
structure CAM (F : CamFormat) where
  its_header : ItsPduHeader F.its_header := {}
  generation_delta_time : F.generation_delta_time.Value := 0
  station_type : F.station_type.Value := 0
  reference_position : ReferencePosition F.reference_position := {}
  high_frequency_container : HighFrequencyContainer F.high_frequency_container := {}
  has_low_frequency_container : Bool := false
  low_frequency_container : LowFrequencyContainer F.low_frequency_container := {}
  deriving DecidableEq, Repr

end Msg

/-! ### From ASN.1 to ROS -/

/-- The high frequency part. Only the basic vehicle alternative is read, and of
it not the acceleration control. -/
def Msg.HighFrequencyContainer.ofAsn1 (F : HighFrequencyFormat) :
    Asn1.HighFrequencyContainer → Msg.HighFrequencyContainer F
  | .basicVehicleContainerHighFrequency hfc =>
    { heading := .ofAsn1 F.heading hfc.heading
      speed := .ofAsn1 F.speed hfc.speed
      drive_direction := F.drive_direction.assign hfc.driveDirection
      vehicle_length := .ofAsn1 F.vehicle_length hfc.vehicleLength
      vehicle_width := F.vehicle_width.assign hfc.vehicleWidth
      longitudinal_acceleration :=
        .ofAsn1 F.longitudinal_acceleration hfc.longitudinalAcceleration
      curvature := .ofAsn1 F.curvature hfc.curvature
      curvature_calculation_mode :=
        F.curvature_calculation_mode.assign hfc.curvatureCalculationMode
      yaw_rate := .ofAsn1 F.yaw_rate hfc.yawRate }
  -- "TODO: implement parsing for rsuContainerHighFrequency"
  | _ => {}

/-- The body of the loop over `pathHistory`. -/
def Msg.PathPoint.ofAsn1 (F : LowFrequencyFormat) (p : Asn1.PathPoint) : Msg.PathPoint F where
  delta_latitude := F.delta_latitude.assign p.pathPosition.deltaLatitude
  delta_longitude := F.delta_longitude.assign p.pathPosition.deltaLongitude
  delta_altitude := F.delta_altitude.assign p.pathPosition.deltaAltitude
  -- first `UNAVAILABLE`, then the time if there is one
  path_delta_time :=
    match p.pathDeltaTime with
    | some t => F.path_delta_time.assign t
    | none => F.UNAVAILABLE

/-- The low frequency part. -/
def Msg.LowFrequencyContainer.ofAsn1 (F : LowFrequencyFormat)
    (lfc : Asn1.BasicVehicleContainerLowFrequency) : Msg.LowFrequencyContainer F where
  vehicle_role := F.vehicle_role.assign lfc.vehicleRole
  -- "need to reverse bits from asn1c bit string to match our bit masks"
  exterior_lights :=
    match lfc.exteriorLights.buf with
    | [b] => F.exterior_lights.assign (reverse_byte b).toNat
    | _ => 0
  path_history := Run.pushAll lfc.pathHistory (Msg.PathPoint.ofAsn1 F)

/-- `convertCam` from ASN.1. The result is a pointer that the source never sets
to null: the check for a missing high frequency container is commented out. -/
def Asn1.Cam.convertCam (F : CamFormat) (asn1 : Asn1.Cam) : Option (Msg.CAM F) :=
  let params := asn1.cam.camParameters
  let msg : Msg.CAM F :=
    { its_header := .ofAsn1 F.its_header asn1.header
      generation_delta_time := F.generation_delta_time.assign asn1.cam.generationDeltaTime
      station_type := F.station_type.assign params.basicContainer.stationType
      reference_position :=
        .ofAsn1 F.reference_position params.basicContainer.referencePosition
      high_frequency_container :=
        .ofAsn1 F.high_frequency_container params.highFrequencyContainer }
  match params.lowFrequencyContainer with
  | some (.basicVehicleContainerLowFrequency lfc) =>
    some
      { msg with
        has_low_frequency_container := true
        low_frequency_container := .ofAsn1 F.low_frequency_container lfc }
  | _ => some msg

/-! ### From ROS to ASN.1 -/

/-- The octet that a field of flags is written as. -/
def reversedOctet {f : IntFormat} (v : f.Value) : UInt8 := reverse_byte (UInt8.ofInt v.val)

section ToAsn1

variable {F : CamFormat}

/-- The high frequency part: always the basic vehicle alternative. -/
def Asn1.BasicVehicleContainerHighFrequency.ofMsg {F : HighFrequencyFormat}
    (hfc : Msg.HighFrequencyContainer F) : Asn1.BasicVehicleContainerHighFrequency where
  heading := .ofMsg hfc.heading
  speed := .ofMsg hfc.speed
  driveDirection := hfc.drive_direction.val
  longitudinalAcceleration := .ofMsg hfc.longitudinal_acceleration
  curvature := .ofMsg hfc.curvature
  curvatureCalculationMode := hfc.curvature_calculation_mode.val
  yawRate := .ofMsg hfc.yaw_rate
  vehicleLength := .ofMsg hfc.vehicle_length
  vehicleWidth := hfc.vehicle_width.val
  -- one byte, of which no bit is marked as unused
  accelerationControl :=
    if hfc.has_acceleration_control then
      some { buf := [reversedOctet hfc.acceleration_control] }
    else
      none

/-- The body of the loop over `path_history.points`. -/
def Asn1.PathPoint.ofMsg {F : LowFrequencyFormat} (p : Msg.PathPoint F) : Asn1.PathPoint where
  pathDeltaTime :=
    if p.path_delta_time ≠ F.UNAVAILABLE then some p.path_delta_time.val else none
  pathPosition :=
    { deltaAltitude := p.delta_altitude.val
      deltaLatitude := p.delta_latitude.val
      deltaLongitude := p.delta_longitude.val }

/-- The low frequency part. -/
def Asn1.BasicVehicleContainerLowFrequency.ofMsg {F : LowFrequencyFormat}
    (lfc : Msg.LowFrequencyContainer F) : Asn1.BasicVehicleContainerLowFrequency where
  vehicleRole := lfc.vehicle_role.val
  exteriorLights := { buf := [reversedOctet lfc.exterior_lights] }
  pathHistory := Run.pushAll lfc.path_history Asn1.PathPoint.ofMsg

/-- `convertCam` to ASN.1. -/
def Msg.CAM.convertCam (m : Msg.CAM F) : Asn1.Cam where
  header := .ofMsg m.its_header
  cam :=
    { generationDeltaTime := m.generation_delta_time.val
      camParameters :=
        { basicContainer :=
            { stationType := m.station_type.val
              referencePosition := .ofMsg m.reference_position }
          highFrequencyContainer :=
            .basicVehicleContainerHighFrequency (.ofMsg m.high_frequency_container)
          lowFrequencyContainer :=
            if m.has_low_frequency_container then
              some (.basicVehicleContainerLowFrequency (.ofMsg m.low_frequency_container))
            else
              none } }

end ToAsn1

end V2xStack
