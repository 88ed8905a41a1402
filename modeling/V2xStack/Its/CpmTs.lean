import V2xStack.Foundation.Run
import V2xStack.Its.DataElements

/-!
# Collective perception messages, release 2

`convertCpm` of `cp_ts_message.cpp`, from the release 2 ASN.1 CPM
(`Vanetza_ITS2_…`, here `Its2`) to the ROS message of `etsi_its_cpm_ts_msgs`
(here `TsMsg`).

The conversion is a `Run`: every pointer that is followed is recorded. An
optional member is an `Option`, a list element and a mandatory member are never
null. The alternatives of the map reference and of the shape are read only under
their tag, so these CHOICEs are inductive types; so is a wrapped container, whose
data belong to its identifier.

Each container kind, and each part of it, has a function under the name of its
type; the loops over lists are `Run.forPush`.
-/

namespace V2xStack

/-- The pointers that `convertCpm` follows. -/
inductive CpmTsPlace
  | mapReference
  | region
  | zCoordinate
  | objectId
  | positionZCoordinate
  deriving DecidableEq, Repr

/-! ### The ASN.1 message -/

namespace Its2

/-- `A_SEQUENCE_OF` of asn1c: `count` elements in an array of `size` cells. -/
structure AsnList (α : Type) where
  array : List α
  size : ℕ
  count_le : array.length ≤ size

/-- The identifier of a road segment or intersection. -/
structure ReferenceID where
  id : ℤ
  region : Option ℤ := none
  deriving DecidableEq, Repr

/-- `Vanetza_ITS2_MapReference_t`. -/
inductive MapReference
  | nothing
  | roadsegment (r : ReferenceID)
  | intersection (r : ReferenceID)
  deriving DecidableEq, Repr

/-- `OriginatingRsuContainer`. -/
structure OriginatingRsuContainer where
  mapReference : Option MapReference := none
  deriving DecidableEq, Repr

/-- `Vanetza_ITS2_SensorInformation_t`. -/
structure SensorInformation where
  sensorId : ℤ
  sensorType : ℤ
  shadowingApplies : Bool
  deriving DecidableEq, Repr

/-- `Vanetza_ITS2_CartesianPosition3d_t`. -/
structure CartesianPosition3d where
  xCoordinate : ℤ
  yCoordinate : ℤ
  zCoordinate : Option ℤ := none
  deriving DecidableEq, Repr

/-- `Vanetza_ITS2_RadialShapeDetails_t`. -/
structure RadialShapeDetails where
  range : ℤ
  horizontalOpeningAngleStart : ℤ
  horizontalOpeningAngleEnd : ℤ
  deriving DecidableEq, Repr

/-- `Vanetza_ITS2_RadialShapes_t`. -/
structure RadialShapes where
  refPointId : ℤ
  xCoordinate : ℤ
  yCoordinate : ℤ
  radialShapesList : List RadialShapeDetails
  deriving DecidableEq, Repr

/-- `Vanetza_ITS2_Shape_t`. A radial shape has the members of the details of one
of several. -/
inductive Shape
  | nothing
  | rectangular (semiLength semiBreadth : ℤ)
  | circular (radius : ℤ)
  | polygonal (polygon : List CartesianPosition3d)
  | elliptical (semiMajorAxisLength semiMinorAxisLength : ℤ)
  | radial (r : RadialShapeDetails)
  | radialShapes (r : RadialShapes)
  deriving DecidableEq, Repr

/-- `Vanetza_ITS2_PerceptionRegion_t`. -/
structure PerceptionRegion where
  measurementDeltaTime : ℤ
  perceptionRegionConfidence : ℤ
  perceptionRegionShape : Shape
  shadowingApplies : Bool
  deriving DecidableEq, Repr

/-- `Vanetza_ITS2_PerceivedObject_t`; the coordinates are in its `position`. -/
structure PerceivedObject where
  objectId : Option ℤ := none
  measurementDeltaTime : ℤ
  xCoordinate : Asn1.Measured
  yCoordinate : Asn1.Measured
  zCoordinate : Option Asn1.Measured := none
  deriving DecidableEq, Repr

/-- `PerceivedObjectContainer`. -/
structure PerceivedObjectContainer where
  numberOfPerceivedObjects : ℤ
  perceivedObjects : List PerceivedObject
  deriving DecidableEq, Repr

/-- `Vanetza_ITS2_WrappedCpmContainer_t`, by the identifier of its container. -/
inductive WrappedCpmContainer
  | originatingVehicle (orientationAngle : Asn1.Measured)
  | originatingRsu (c : OriginatingRsuContainer)
  | sensorInformation (list : List SensorInformation)
  | perceptionRegion (list : List PerceptionRegion)
  | perceivedObject (c : PerceivedObjectContainer)
  | other (id : ℤ) (unknown : id < 1 ∨ 5 < id)

def WrappedCpmContainer.containerId : WrappedCpmContainer → ℤ
  | originatingVehicle _ => 1
  | originatingRsu _ => 2
  | sensorInformation _ => 3
  | perceptionRegion _ => 4
  | perceivedObject _ => 5
  | other id _ => id

/-- `ManagementContainer`; the reference time is an `INTEGER_t`, a string of
octets. -/
structure ManagementContainer where
  referenceTime : List UInt8
  referencePosition : Asn1.ReferencePosition
  deriving DecidableEq, Repr

/-- `vanetza::asn1::r2::Cpm`; the containers are in its `payload`. -/
structure Cpm where
  header : Asn1.ItsPduHeader
  managementContainer : ManagementContainer
  cpmContainers : AsnList WrappedCpmContainer

end Its2

/-! ### The ROS message -/

structure ReferenceIDFormat where
  id : IntFormat
  region : IntFormat

structure SensorInformationFormat where
  sensor_id : IntFormat
  sensor_type : IntFormat

structure CartesianPosition3dFormat where
  x_coordinate : IntFormat
  y_coordinate : IntFormat
  z_coordinate : IntFormat

structure RadialShapeDetailsFormat where
  range : IntFormat
  horizontal_opening_angle_start : IntFormat
  horizontal_opening_angle_end : IntFormat

structure RadialShapesFormat where
  ref_point_id : IntFormat
  x_coordinate : IntFormat
  y_coordinate : IntFormat
  details : RadialShapeDetailsFormat

structure ShapeFormat where
  semi_length : IntFormat
  semi_breadth : IntFormat
  radius : IntFormat
  position : CartesianPosition3dFormat
  semi_major_axis_length : IntFormat
  semi_minor_axis_length : IntFormat
  radial : RadialShapeDetailsFormat
  radial_shapes : RadialShapesFormat

structure PerceptionRegionFormat where
  measurement_delta_time : IntFormat
  perception_region_confidence : IntFormat
  shape : ShapeFormat

structure TsPerceivedObjectFormat where
  object_id : IntFormat
  measurement_delta_time : IntFormat
  x_coordinate : MeasuredFormat
  y_coordinate : MeasuredFormat
  z_coordinate : MeasuredFormat

structure WrappedCpmContainerFormat where
  container_id : IntFormat
  orientation_angle : MeasuredFormat
  roadsegment : ReferenceIDFormat
  intersection : ReferenceIDFormat
  sensor_information : SensorInformationFormat
  perception_region : PerceptionRegionFormat
  number_of_perceived_objects : IntFormat
  perceived_object : TsPerceivedObjectFormat

/-- The formats of the fields of `CollectivePerceptionMessage`. -/
structure CpmTsFormat where
  header : ItsPduHeaderFormat
  reference_position : ReferencePositionFormat
  cpm_container : WrappedCpmContainerFormat

/-- The formats of the released message package. -/
def CpmTsFormat.released : CpmTsFormat where
  header := ⟨.uint8, .uint8, .uint32⟩
  reference_position := ⟨.int32, .int32, .uint16, .uint16, .uint16, ⟨.int32, .uint8⟩⟩
  cpm_container :=
    { container_id := .uint8
      orientation_angle := ⟨.uint16, .uint8⟩
      roadsegment := ⟨.uint16, .uint16⟩
      intersection := ⟨.uint16, .uint16⟩
      sensor_information := ⟨.uint8, .uint8⟩
      perception_region :=
        { measurement_delta_time := .int16
          perception_region_confidence := .uint8
          shape :=
            { semi_length := .uint16
              semi_breadth := .uint16
              radius := .uint16
              position := ⟨.int16, .int16, .int16⟩
              semi_major_axis_length := .uint16
              semi_minor_axis_length := .uint16
              radial := ⟨.uint16, .uint16, .uint16⟩
              radial_shapes := ⟨.uint8, .int16, .int16, ⟨.uint16, .uint16, .uint16⟩⟩ } }
      number_of_perceived_objects := .uint8
      perceived_object :=
        { object_id := .uint16
          measurement_delta_time := .int16
          x_coordinate := ⟨.int32, .uint16⟩
          y_coordinate := ⟨.int32, .uint16⟩
          z_coordinate := ⟨.int32, .uint16⟩ } }

namespace TsMsg

structure ReferenceID (F : ReferenceIDFormat) where
  id : F.id.Value := 0
  region_is_present : Bool := false
  region : F.region.Value := 0
  deriving DecidableEq, Repr

/-- The values of `MapReference::choice`. -/
inductive MapReferenceChoice
  | nothing
  | roadsegment
  | intersection
  deriving DecidableEq, Repr

structure OriginatingRsuContainer (F : WrappedCpmContainerFormat) where
  map_reference_is_present : Bool := false
  choice : MapReferenceChoice := .nothing
  roadsegment : ReferenceID F.roadsegment := {}
  intersection : ReferenceID F.intersection := {}
  deriving DecidableEq, Repr

structure SensorInformation (F : SensorInformationFormat) where
  sensor_id : F.sensor_id.Value := 0
  sensor_type : F.sensor_type.Value := 0
  shadowing_applies : Bool := false
  deriving DecidableEq, Repr

structure CartesianPosition3d (F : CartesianPosition3dFormat) where
  x_coordinate : F.x_coordinate.Value := 0
  y_coordinate : F.y_coordinate.Value := 0
  z_coordinate_is_present : Bool := false
  z_coordinate : F.z_coordinate.Value := 0
  deriving DecidableEq, Repr

structure RadialShapeDetails (F : RadialShapeDetailsFormat) where
  range : F.range.Value := 0
  horizontal_opening_angle_start : F.horizontal_opening_angle_start.Value := 0
  horizontal_opening_angle_end : F.horizontal_opening_angle_end.Value := 0
  deriving DecidableEq, Repr

structure RadialShapes (F : RadialShapesFormat) where
  ref_point_id : F.ref_point_id.Value := 0
  x_coordinate : F.x_coordinate.Value := 0
  y_coordinate : F.y_coordinate.Value := 0
  radial_shapes_list : List (RadialShapeDetails F.details) := []
  deriving DecidableEq, Repr

/-- The values of `Shape::choice`. -/
inductive ShapeChoice
  | nothing
  | rectangular
  | circular
  | polygonal
  | elliptical
  | radial
  | radialShapes
  deriving DecidableEq, Repr

/-- `perception_region_shape`, with the members of all alternatives. -/
structure Shape (F : ShapeFormat) where
  choice : ShapeChoice := .nothing
  semi_length : F.semi_length.Value := 0
  semi_breadth : F.semi_breadth.Value := 0
  radius : F.radius.Value := 0
  polygon : List (CartesianPosition3d F.position) := []
  semi_major_axis_length : F.semi_major_axis_length.Value := 0
  semi_minor_axis_length : F.semi_minor_axis_length.Value := 0
  /-- The angles of `radial` are called `stationary_horizontal_opening_angle_…`. -/
  radial : RadialShapeDetails F.radial := {}
  radial_shapes : RadialShapes F.radial_shapes := {}
  deriving DecidableEq, Repr

structure PerceptionRegion (F : PerceptionRegionFormat) where
  measurement_delta_time : F.measurement_delta_time.Value := 0
  perception_region_confidence : F.perception_region_confidence.Value := 0
  perception_region_shape : Shape F.shape := {}
  shadowing_applies : Bool := false
  deriving DecidableEq, Repr

/-- `PerceivedObject`; the coordinates are in its `position`. -/
structure PerceivedObject (F : TsPerceivedObjectFormat) where
  object_id_is_present : Bool := false
  object_id : F.object_id.Value := 0
  measurement_delta_time : F.measurement_delta_time.Value := 0
  x_coordinate : Msg.Measured F.x_coordinate := {}
  y_coordinate : Msg.Measured F.y_coordinate := {}
  z_coordinate_is_present : Bool := false
  z_coordinate : Msg.Measured F.z_coordinate := {}
  deriving DecidableEq, Repr

/-- `WrappedCpmContainer`, with the data of all kinds. -/
structure WrappedCpmContainer (F : WrappedCpmContainerFormat) where
  container_id : F.container_id.Value := 0
  orientation_angle : Msg.Measured F.orientation_angle := {}
  originating_rsu_container : OriginatingRsuContainer F := {}
  sensor_information_container : List (SensorInformation F.sensor_information) := []
  perception_region_container : List (PerceptionRegion F.perception_region) := []
  number_of_perceived_objects : F.number_of_perceived_objects.Value := 0
  perceived_objects : List (PerceivedObject F.perceived_object) := []
  deriving DecidableEq, Repr

/-- `etsi_its_cpm_ts_msgs::msg::CollectivePerceptionMessage`. -/
structure CollectivePerceptionMessage (F : CpmTsFormat) where
  header : Msg.ItsPduHeader F.header := {}
  reference_time : UInt64 := 0
  reference_position : Msg.ReferencePosition F.reference_position := {}
  cpm_containers : List (WrappedCpmContainer F.cpm_container) := []
  deriving DecidableEq, Repr

end TsMsg

/-! ### The parts of the conversion -/

/-- An identifier and its optional region, which is cast to 16 bits on the way. -/
def Its2.ReferenceID.convert (F : ReferenceIDFormat) (r : Its2.ReferenceID) :
    Run (Access CpmTsPlace) (TsMsg.ReferenceID F) :=
  let msg : TsMsg.ReferenceID F := { id := F.id.assign r.id }
  Run.ifPresent .region r.region
    (fun region => pure
      { msg with
        region_is_present := true
        region := F.region.assign (IntFormat.uint16.wrap region) })
    (pure msg)

/-- `case 2`: the pointer to the map reference is followed to read its tag. -/
def Its2.OriginatingRsuContainer.convert (F : WrappedCpmContainerFormat)
    (c : Its2.OriginatingRsuContainer) :
    Run (Access CpmTsPlace) (TsMsg.OriginatingRsuContainer F) := do
  match ← Run.deref .mapReference c.mapReference with
  -- a tag of zero: the flag stays as the constructor left it
  | .nothing => pure {}
  | .roadsegment r => do
    let roadsegment ← r.convert F.roadsegment
    pure { map_reference_is_present := true, choice := .roadsegment, roadsegment }
  | .intersection r => do
    let intersection ← r.convert F.intersection
    pure { map_reference_is_present := true, choice := .intersection, intersection }

/-- The body of the loop of `case 3`. -/
def Its2.SensorInformation.convert (F : SensorInformationFormat) (s : Its2.SensorInformation) :
    Run (Access CpmTsPlace) (TsMsg.SensorInformation F) :=
  pure
    { sensor_id := F.sensor_id.assign s.sensorId
      sensor_type := F.sensor_type.assign s.sensorType
      shadowing_applies := s.shadowingApplies }

/-- The body of the loop over a polygon. -/
def Its2.CartesianPosition3d.convert (F : CartesianPosition3dFormat)
    (p : Its2.CartesianPosition3d) : Run (Access CpmTsPlace) (TsMsg.CartesianPosition3d F) :=
  let msg : TsMsg.CartesianPosition3d F :=
    { x_coordinate := F.x_coordinate.assign p.xCoordinate
      y_coordinate := F.y_coordinate.assign p.yCoordinate }
  Run.ifPresent .zCoordinate p.zCoordinate
    (fun z => pure
      { msg with
        z_coordinate_is_present := true
        -- `static_cast<short int>` in front of the assignment
        z_coordinate := F.z_coordinate.assign (IntFormat.int16.wrap z) })
    (pure msg)

/-- The members of a radial shape, and the body of the loop over several. -/
def TsMsg.RadialShapeDetails.ofAsn1 (F : RadialShapeDetailsFormat)
    (r : Its2.RadialShapeDetails) : TsMsg.RadialShapeDetails F where
  range := F.range.assign r.range
  horizontal_opening_angle_start :=
    F.horizontal_opening_angle_start.assign r.horizontalOpeningAngleStart
  horizontal_opening_angle_end :=
    F.horizontal_opening_angle_end.assign r.horizontalOpeningAngleEnd

/-- The `switch` over the tag of a shape. -/
def Its2.Shape.convert (F : ShapeFormat) :
    Its2.Shape → Run (Access CpmTsPlace) (TsMsg.Shape F)
  | .nothing => pure {}
  | .rectangular semiLength semiBreadth =>
    pure
      { choice := .rectangular
        semi_length := F.semi_length.assign semiLength
        semi_breadth := F.semi_breadth.assign semiBreadth }
  | .circular radius =>
    pure { choice := .circular, radius := F.radius.assign radius }
  | .polygonal polygon => do
    let polygon ← Run.forPush polygon fun p => p.convert F.position
    pure { choice := .polygonal, polygon }
  | .elliptical semiMajorAxisLength semiMinorAxisLength =>
    pure
      { choice := .elliptical
        semi_major_axis_length := F.semi_major_axis_length.assign semiMajorAxisLength
        semi_minor_axis_length := F.semi_minor_axis_length.assign semiMinorAxisLength }
  | .radial r =>
    pure { choice := .radial, radial := .ofAsn1 F.radial r }
  | .radialShapes r => do
    let radial_shapes_list ← Run.forPush r.radialShapesList fun details =>
      pure (TsMsg.RadialShapeDetails.ofAsn1 F.radial_shapes.details details)
    pure
      { choice := .radialShapes
        radial_shapes :=
          { ref_point_id := F.radial_shapes.ref_point_id.assign r.refPointId
            x_coordinate := F.radial_shapes.x_coordinate.assign r.xCoordinate
            y_coordinate := F.radial_shapes.y_coordinate.assign r.yCoordinate
            radial_shapes_list } }

/-- The body of the loop of `case 4`. -/
def Its2.PerceptionRegion.convert (F : PerceptionRegionFormat) (r : Its2.PerceptionRegion) :
    Run (Access CpmTsPlace) (TsMsg.PerceptionRegion F) := do
  let perception_region_shape ← r.perceptionRegionShape.convert F.shape
  pure
    { measurement_delta_time := F.measurement_delta_time.assign r.measurementDeltaTime
      perception_region_confidence :=
        F.perception_region_confidence.assign r.perceptionRegionConfidence
      perception_region_shape
      shadowing_applies := r.shadowingApplies }

section PerceivedObject

variable (F : TsPerceivedObjectFormat) (o : Its2.PerceivedObject)

/-- The object identifier, if the object has one. -/
def Its2.PerceivedObject.assignId (msg : TsMsg.PerceivedObject F) :
    Run (Access CpmTsPlace) (TsMsg.PerceivedObject F) :=
  Run.ifPresent .objectId o.objectId
    (fun id => pure
      { msg with
        object_id_is_present := true
        -- `static_cast<short unsigned int>` in front of the assignment
        object_id := F.object_id.assign (IntFormat.uint16.wrap id) })
    (pure msg)

/-- The z coordinate, if the position has one. -/
def Its2.PerceivedObject.assignZ (msg : TsMsg.PerceivedObject F) :
    Run (Access CpmTsPlace) (TsMsg.PerceivedObject F) :=
  Run.ifPresent .positionZCoordinate o.zCoordinate
    (fun z => pure
      { msg with
        z_coordinate_is_present := true
        z_coordinate := .ofAsn1 F.z_coordinate z })
    (pure msg)

/-- The body of the loop of `case 5`. -/
def Its2.PerceivedObject.convert : Run (Access CpmTsPlace) (TsMsg.PerceivedObject F) := do
  let msg ← o.assignId F {}
  o.assignZ F
    { msg with
      measurement_delta_time := F.measurement_delta_time.assign o.measurementDeltaTime
      x_coordinate := .ofAsn1 F.x_coordinate o.xCoordinate
      y_coordinate := .ofAsn1 F.y_coordinate o.yCoordinate }

end PerceivedObject

/-! ### The conversion -/

/-- The body of the loop over the containers: the `switch` over the identifier. -/
def Its2.WrappedCpmContainer.convert (F : WrappedCpmContainerFormat)
    (c : Its2.WrappedCpmContainer) :
    Run (Access CpmTsPlace) (TsMsg.WrappedCpmContainer F) := do
  let wrapped_cont : TsMsg.WrappedCpmContainer F :=
    { container_id := F.container_id.assign c.containerId }
  match c with
  | .originatingVehicle orientationAngle =>
    pure
      { wrapped_cont with
        orientation_angle := .ofAsn1 F.orientation_angle orientationAngle }
  | .originatingRsu rsu => do
    let originating_rsu_container ← rsu.convert F
    pure { wrapped_cont with originating_rsu_container }
  | .sensorInformation list => do
    let sensor_information_container ←
      Run.forPush list fun s => s.convert F.sensor_information
    pure { wrapped_cont with sensor_information_container }
  | .perceptionRegion list => do
    let perception_region_container ←
      Run.forPush list fun r => r.convert F.perception_region
    pure { wrapped_cont with perception_region_container }
  | .perceivedObject container => do
    let perceived_objects ←
      Run.forPush container.perceivedObjects fun o => o.convert F.perceived_object
    pure
      { wrapped_cont with
        number_of_perceived_objects :=
          F.number_of_perceived_objects.assign container.numberOfPerceivedObjects
        perceived_objects }
  -- `default`: the container is pushed with its identifier alone
  | .other _ _ => pure wrapped_cont

/-- `convertCpm`. The result is a pointer that the source never sets to null.
`asn_INTEGER2uint64` is asn1c's; on an error it leaves its target alone. -/
def Its2.Cpm.convertCpm (asn_INTEGER2uint64 : List UInt8 → Option UInt64) (F : CpmTsFormat)
    (asn1 : Its2.Cpm) :
    Run (Access CpmTsPlace) (TsMsg.CollectivePerceptionMessage F) := do
  let msg : TsMsg.CollectivePerceptionMessage F :=
    { header :=
        { protocol_version := F.header.protocol_version.assign asn1.header.protocolVersion
          message_id := F.header.message_id.assign asn1.header.messageID
          station_id := F.header.station_id.assign asn1.header.stationID }
      reference_time := (asn_INTEGER2uint64 asn1.managementContainer.referenceTime).getD 0
      reference_position :=
        .ofAsn1 F.reference_position asn1.managementContainer.referencePosition }
  -- the test is on the capacity of the list, the loop runs over its elements
  if 0 < asn1.cpmContainers.size then do
    let cpm_containers ←
      Run.forPush asn1.cpmContainers.array fun c => c.convert F.cpm_container
    pure { msg with cpm_containers }
  else
    pure msg

end V2xStack
