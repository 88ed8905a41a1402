import V2xStack.Foundation.Run
import V2xStack.Its.DataElements

/-!
# Collective perception messages, release 1

`convertCpm` of `cp_message.cpp`, from the ASN.1 CPM to the ROS CPM.

Pointers and unions matter here, so the conversion is a `Run`: following a
pointer and reading an alternative of a CHOICE are recorded. An optional member
is an `Option`. A CHOICE is a C union with a tag, and the union is read by name;
the field of that name is what the bytes of the union denote when they are read
as that alternative, whether the tag selects it or not.

The loop over the perceived objects writes into one record that is declared in
front of it. `fill` is one iteration as a function of the record, and the loop
passes the record on.
-/

namespace V2xStack

/-- The pointers, arrays and alternatives that `convertCpm` reads through. -/
inductive CpmPlace
  | stationDataContainer
  | originatingVehicleContainer
  | vehicleLength
  | perceivedObjectContainer
  | objectAge
  | classification
  | classificationList
  | person
  | vehicle
  deriving DecidableEq, Repr

namespace Asn1

/-- The tag of `StationDataContainer_t`. -/
inductive StationDataContainerPR
  | nothing
  | originatingVehicleContainer
  | originatingRSUContainer
  deriving DecidableEq, Repr

/-- `OriginatingVehicleContainer_t`. Of the width only the presence is read. -/
structure OriginatingVehicleContainer where
  heading : Measured
  speed : Measured
  driveDirection : ℤ
  vehicleLength : Option Measured := none
  vehicleWidth : Option ℤ := none
  deriving DecidableEq, Repr

/-- `StationDataContainer_t`. -/
structure StationDataContainer where
  present : StationDataContainerPR
  originatingVehicleContainer : OriginatingVehicleContainer
  deriving DecidableEq, Repr

/-- The tag of `ObjectClass__class`. -/
inductive ObjectClassPR
  | nothing
  | vehicle
  | person
  | animal
  | other
  deriving DecidableEq, Repr

/-- `VehicleSubclassType_t`, with one case for all values that have no name in the
conversion. -/
inductive VehicleSubclassType
  | moped
  | motorcycle
  | passengerCar
  | bus
  | lightTruck
  | heavyTruck
  | trailer
  | specialVehicles
  | tram
  | unnamed
  deriving DecidableEq, Repr

/-- `ObjectClass_t`: the tag of `Class` and the type of `choice.vehicle`. -/
structure ObjectClass where
  present : ObjectClassPR
  vehicleType : VehicleSubclassType
  deriving DecidableEq, Repr

/-- `PerceivedObject_t`. -/
structure PerceivedObject where
  objectID : ℤ
  timeOfMeasurement : ℤ
  objectAge : Option ℤ := none
  objectConfidence : ℤ
  xDistance : Measured
  yDistance : Measured
  xSpeed : Measured
  ySpeed : Measured
  classification : Option (List ObjectClass) := none
  deriving DecidableEq, Repr

/-- `CpmManagementContainer_t`. -/
structure CpmManagementContainer where
  stationType : ℤ
  referencePosition : ReferencePosition
  deriving DecidableEq, Repr

/-- `CpmParameters_t`. -/
structure CpmParameters where
  managementContainer : CpmManagementContainer
  stationDataContainer : Option StationDataContainer
  perceivedObjectContainer : Option (List PerceivedObject)
  numberOfPerceivedObjects : ℤ
  deriving DecidableEq, Repr

/-- `vanetza::asn1::r1::Cpm`; the parameters are in its `cpm`. -/
structure Cpm where
  header : ItsPduHeader
  generationDeltaTime : ℤ
  cpmParameters : CpmParameters
  deriving DecidableEq, Repr

end Asn1

/-! ### The ROS message -/

/-- The constants of `ros_etsi_its_msgs::msg::StationType` that a classification
is assigned. -/
inductive StationType
  | UNKNOWN
  | PEDESTRIAN
  | MOPED
  | MOTORCYCLE
  | PASSENGER_CAR
  | BUS
  | LIGHT_TRUCK
  | HEAVY_TRUCK
  | TRAILER
  | SPECIAL_VEHICLE
  | TRAM
  deriving DecidableEq, Repr

structure OriginatingVehicleFormat where
  heading : MeasuredFormat
  speed : MeasuredFormat
  drive_direction : IntFormat
  vehicle_length : MeasuredFormat
  vehicle_width : IntFormat

structure PerceivedObjectFormat where
  object_id : IntFormat
  time_of_measurement : IntFormat
  object_age : IntFormat
  object_confidence : IntFormat
  x_distance : MeasuredFormat
  y_distance : MeasuredFormat
  x_speed : MeasuredFormat
  y_speed : MeasuredFormat
  classification : IntFormat
  /-- The values of the constants. -/
  stationType : StationType → classification.Value

/-- The formats of the fields of `ros_etsi_its_msgs::msg::CPM`. -/
structure CpmFormat where
  its_header : ItsPduHeaderFormat
  generation_delta_time : IntFormat
  station_type : IntFormat
  reference_position : ReferencePositionFormat
  originating_vehicle_container : OriginatingVehicleFormat
  number_of_perceived_objects : IntFormat
  perceived_object : PerceivedObjectFormat

/-- The formats of the released message package. -/
def CpmFormat.released : CpmFormat where
  its_header := ⟨.uint8, .uint8, .uint32⟩
  generation_delta_time := .uint16
  station_type := .uint8
  reference_position := ⟨.int32, .int32, .uint16, .uint16, .uint16, ⟨.int32, .uint8⟩⟩
  originating_vehicle_container :=
    ⟨⟨.uint16, .uint8⟩, ⟨.uint16, .uint8⟩, .uint8, ⟨.uint16, .uint8⟩, .uint8⟩
  number_of_perceived_objects := .uint8
  perceived_object :=
    { object_id := .uint8
      time_of_measurement := .int16
      object_age := .uint16
      object_confidence := .uint8
      x_distance := ⟨.int32, .uint8⟩
      y_distance := ⟨.int32, .uint8⟩
      x_speed := ⟨.int16, .uint8⟩
      y_speed := ⟨.int16, .uint8⟩
      classification := .uint8
      stationType := fun
        | .UNKNOWN => IntFormat.uint8.assign 0
        | .PEDESTRIAN => IntFormat.uint8.assign 1
        | .MOPED => IntFormat.uint8.assign 3
        | .MOTORCYCLE => IntFormat.uint8.assign 4
        | .PASSENGER_CAR => IntFormat.uint8.assign 5
        | .BUS => IntFormat.uint8.assign 6
        | .LIGHT_TRUCK => IntFormat.uint8.assign 7
        | .HEAVY_TRUCK => IntFormat.uint8.assign 8
        | .TRAILER => IntFormat.uint8.assign 9
        | .SPECIAL_VEHICLE => IntFormat.uint8.assign 10
        | .TRAM => IntFormat.uint8.assign 11 }

namespace Msg

structure OriginatingVehicleContainer (F : OriginatingVehicleFormat) where
  heading : Measured F.heading := {}
  speed : Measured F.speed := {}
  drive_direction : F.drive_direction.Value := 0
  has_vehicle_length : Bool := false
  vehicle_length : Measured F.vehicle_length := {}
  has_vehicle_width : Bool := false
  vehicle_width : F.vehicle_width.Value := 0
  deriving DecidableEq, Repr

structure PerceivedObject (F : PerceivedObjectFormat) where
  object_id : F.object_id.Value := 0
  time_of_measurement : F.time_of_measurement.Value := 0
  object_age : F.object_age.Value := 0
  object_confidence : F.object_confidence.Value := 0
  x_distance : Measured F.x_distance := {}
  y_distance : Measured F.y_distance := {}
  x_speed : Measured F.x_speed := {}
  y_speed : Measured F.y_speed := {}
  classification : F.classification.Value := 0
  deriving DecidableEq, Repr

/-- `ros_etsi_its_msgs::msg::CPM`. -/
structure CPM (F : CpmFormat) where
  its_header : ItsPduHeader F.its_header := {}
  generation_delta_time : F.generation_delta_time.Value := 0
  station_type : F.station_type.Value := 0
  reference_position : ReferencePosition F.reference_position := {}
  originating_vehicle_container :
    OriginatingVehicleContainer F.originating_vehicle_container := {}
  number_of_perceived_objects : F.number_of_perceived_objects.Value := 0
  list_of_perceived_objects : List (PerceivedObject F.perceived_object) := []
  deriving DecidableEq, Repr

end Msg

/-! ### Station data -/

/-- `stationDataContainer->choice.originatingVehicleContainer`, as it stands in
the source in front of every member that is read. -/
def Asn1.Cpm.originatingVehicle (asn1 : Asn1.Cpm) :
    Run (Access CpmPlace) Asn1.OriginatingVehicleContainer := do
  let station ← Run.deref .stationDataContainer asn1.cpmParameters.stationDataContainer
  Run.member .originatingVehicleContainer
    (station.present == .originatingVehicleContainer) station.originatingVehicleContainer

section Station

variable (F : OriginatingVehicleFormat) (asn1 : Asn1.Cpm)

/-- The vehicle length, if the message has one. -/
def Asn1.Cpm.assignVehicleLength (msg : Msg.OriginatingVehicleContainer F) :
    Run (Access CpmPlace) (Msg.OriginatingVehicleContainer F) := do
  let vehicle ← asn1.originatingVehicle
  Run.ifPresent .vehicleLength vehicle.vehicleLength
    (fun length => pure
      { msg with
        has_vehicle_length := true
        vehicle_length := .ofAsn1 F.vehicle_length length })
    (pure msg)

/-- The vehicle width: the assignment of its value is commented out. -/
def Asn1.Cpm.assignVehicleWidth (msg : Msg.OriginatingVehicleContainer F) :
    Run (Access CpmPlace) (Msg.OriginatingVehicleContainer F) := do
  let vehicle ← asn1.originatingVehicle
  pure (if vehicle.vehicleWidth.isSome then { msg with has_vehicle_width := true } else msg)

/-- The station data part. -/
def Asn1.Cpm.convertStationData :
    Run (Access CpmPlace) (Msg.OriginatingVehicleContainer F) := do
  let msg : Msg.OriginatingVehicleContainer F :=
    -- each of these reads follows both pointers anew
    { heading :=
        { value := F.heading.value.assign (← asn1.originatingVehicle).heading.value
          confidence :=
            F.heading.confidence.assign (← asn1.originatingVehicle).heading.confidence }
      speed :=
        { value := F.speed.value.assign (← asn1.originatingVehicle).speed.value
          confidence := F.speed.confidence.assign (← asn1.originatingVehicle).speed.confidence }
      drive_direction :=
        F.drive_direction.assign (← asn1.originatingVehicle).driveDirection }
  let msg ← asn1.assignVehicleLength F msg
  asn1.assignVehicleWidth F msg

end Station

/-! ### Perceived objects -/

section Objects

variable (F : PerceivedObjectFormat)

/-- The `switch` over the vehicle type. -/
def vehicleStationType : Asn1.VehicleSubclassType → StationType
  | .moped => .MOPED
  | .motorcycle => .MOTORCYCLE
  | .passengerCar => .PASSENGER_CAR
  | .bus => .BUS
  | .lightTruck => .LIGHT_TRUCK
  | .heavyTruck => .HEAVY_TRUCK
  | .trailer => .TRAILER
  | .specialVehicles => .SPECIAL_VEHICLE
  | .tram => .TRAM
  -- `default`
  | .unnamed => .UNKNOWN

/-- The classification by the first class. Every tag but `person` reads
`choice.vehicle`. -/
def Asn1.ObjectClass.classify (c : Asn1.ObjectClass) : Run (Access CpmPlace) StationType :=
  if c.present = .person then do
    -- a reference to `choice.person` that is not used
    Run.member .person (c.present == .person) ()
    pure .PEDESTRIAN
  else do
    let type ← Run.member .vehicle (c.present == .vehicle) c.vehicleType
    pure (vehicleStationType type)

/-- The assignments of one iteration that are made for every object. -/
def Msg.PerceivedObject.assignMandatory (perceived_object : Msg.PerceivedObject F)
    (objCont : Asn1.PerceivedObject) : Msg.PerceivedObject F :=
  { perceived_object with
    object_id := F.object_id.assign objCont.objectID
    time_of_measurement := F.time_of_measurement.assign objCont.timeOfMeasurement
    object_confidence := F.object_confidence.assign objCont.objectConfidence
    x_distance := .ofAsn1 F.x_distance objCont.xDistance
    y_distance := .ofAsn1 F.y_distance objCont.yDistance
    x_speed := .ofAsn1 F.x_speed objCont.xSpeed
    y_speed := .ofAsn1 F.y_speed objCont.ySpeed }

/-- The age, if the object has one. -/
def Msg.PerceivedObject.assignAge (perceived_object : Msg.PerceivedObject F)
    (objCont : Asn1.PerceivedObject) : Run (Access CpmPlace) (Msg.PerceivedObject F) :=
  Run.ifPresent .objectAge objCont.objectAge
    (fun age => pure { perceived_object with object_age := F.object_age.assign age })
    (pure perceived_object)

/-- The classification, if the object has a list of classes that is not empty. -/
def Msg.PerceivedObject.assignClassification (perceived_object : Msg.PerceivedObject F)
    (objCont : Asn1.PerceivedObject) : Run (Access CpmPlace) (Msg.PerceivedObject F) :=
  Run.ifPresent .classification objCont.classification
    (fun list =>
      if 0 < list.length then do
        let first ← Run.index .classificationList list 0
        let type ← first.classify
        pure { perceived_object with classification := F.stationType type }
      else
        pure perceived_object)
    (pure perceived_object)

/-- One iteration: what `perceived_object` is after it, from what it was before. -/
def Msg.PerceivedObject.fill (perceived_object : Msg.PerceivedObject F)
    (objCont : Asn1.PerceivedObject) :
    Run (Access CpmPlace) (Msg.PerceivedObject F) := do
  let perceived_object := perceived_object.assignMandatory F objCont
  -- the two members that may keep what the iteration before left
  let perceived_object ← perceived_object.assignAge F objCont
  perceived_object.assignClassification F objCont

/-- The loop: each iteration goes on with the record of the one before and
appends a copy of it. -/
def Asn1.Cpm.convertObjects (objects : List Asn1.PerceivedObject) :
    Run (Access CpmPlace) (List (Msg.PerceivedObject F)) := do
  -- `perceived_object` is declared in front of the loop
  let (_, list) ← objects.foldlM (fun (perceived_object, list) objCont => do
    let perceived_object ← perceived_object.fill F objCont
    pure (perceived_object, list ++ [perceived_object])) (({} : Msg.PerceivedObject F), [])
  pure list

end Objects

/-! ### The conversion -/

section Conversion

variable (F : CpmFormat) (asn1 : Asn1.Cpm)

/-- The parts in front of the perceived objects. -/
def Asn1.Cpm.convertHeader : Run (Access CpmPlace) (Msg.CPM F) := do
  let management := asn1.cpmParameters.managementContainer
  let originating_vehicle_container ←
    asn1.convertStationData F.originating_vehicle_container
  pure
    { its_header := .ofAsn1 F.its_header asn1.header
      generation_delta_time := F.generation_delta_time.assign asn1.generationDeltaTime
      station_type := F.station_type.assign management.stationType
      reference_position := .ofAsn1 F.reference_position management.referencePosition
      originating_vehicle_container
      number_of_perceived_objects :=
        F.number_of_perceived_objects.assign asn1.cpmParameters.numberOfPerceivedObjects }

/-- The perceived object part. -/
def Asn1.Cpm.assignObjects (msg : Msg.CPM F) : Run (Access CpmPlace) (Msg.CPM F) :=
  -- the number that the message announces, not the length of its list
  if 0 < msg.number_of_perceived_objects.val then
    Run.ifPresent .perceivedObjectContainer asn1.cpmParameters.perceivedObjectContainer
      (fun objects => do
        let list ← Asn1.Cpm.convertObjects F.perceived_object objects
        pure { msg with list_of_perceived_objects := list })
      (pure msg)
  else
    pure msg

/-- `convertCpm`. The result is a pointer that the source never sets to null. -/
def Asn1.Cpm.convertCpm : Run (Access CpmPlace) (Msg.CPM F) := do
  let msg ← asn1.convertHeader F
  asn1.assignObjects F msg

end Conversion

end V2xStack
