import V2xStack.Its.CpmTsAccess

/-!
# Structure of a converted release 2 CPM

What `convertCpm` makes of the containers of a release 2 CPM.

For each part, `Image` says what the published part must be: its lists correspond
element by element, an optional member is flagged present exactly when the source
has it, and of the members of the alternatives only those of the source's own are
set. `Fits` says that the integers of the part are in the ranges of their fields,
and `convert_image` that the conversion of a part that fits returns its image; the
lists go by `Run.forall₂_forPush`. The result for the message is
`convertCpm_preserves_structure`.
-/

namespace V2xStack

/-- Three fields are assigned through a cast to 16 bits. They hold no more than what
the cast keeps. -/
structure WrappedCpmContainerFormat.Casts (F : WrappedCpmContainerFormat) : Prop where
  roadsegment : F.roadsegment.region.Within .uint16
  intersection : F.intersection.region.Within .uint16
  z_coordinate : F.perception_region.shape.position.z_coordinate.Within .int16
  object_id : F.perceived_object.object_id.Within .uint16

namespace Its2

/-! ### Map references -/

section ReferenceID

variable {F : ReferenceIDFormat}

variable (F) in
structure ReferenceID.Fits (r : ReferenceID) : Prop where
  id : F.id.InRange r.id
  region : ∀ region, r.region = some region → F.region.InRange region

structure ReferenceID.Image (r : ReferenceID) (m : TsMsg.ReferenceID F) : Prop where
  id : m.id.val = r.id
  region_is_present : m.region_is_present = r.region.isSome
  region : m.region.val = r.region.getD 0

theorem ReferenceID.convert_image (hF : F.region.Within .uint16) {r : ReferenceID}
    (hfits : r.Fits F) : ∃ m, (r.convert F).result = some m ∧ r.Image m := by
  obtain ⟨id, region⟩ := r
  have hid := IntFormat.assign_val_of_inRange hfits.id
  -- an absent region leaves the flag and the zero of the new record
  cases region with
  | none => exact ⟨_, rfl, hid, rfl, rfl⟩
  | some region =>
    exact ⟨_, rfl, hid, rfl, IntFormat.assign_wrap_val hF (hfits.region region rfl)⟩

end ReferenceID

section Rsu

variable {F : WrappedCpmContainerFormat}

variable (F) in
def MapReference.Fits : MapReference → Prop
  | .nothing => True
  | .roadsegment r => r.Fits F.roadsegment
  | .intersection r => r.Fits F.intersection

/-- The published choice has the tag of the source, and only its alternative is
set. -/
def MapReference.Image (ref : MapReference) (m : TsMsg.OriginatingRsuContainer F) : Prop :=
  match ref with
  | .nothing => m = {}
  | .roadsegment r =>
    m = { map_reference_is_present := true, choice := .roadsegment,
          roadsegment := m.roadsegment } ∧ r.Image m.roadsegment
  | .intersection r =>
    m = { map_reference_is_present := true, choice := .intersection,
          intersection := m.intersection } ∧ r.Image m.intersection

theorem OriginatingRsuContainer.convert_image (hF : F.Casts) {c : OriginatingRsuContainer}
    {ref : MapReference} (href : c.mapReference = some ref) (hfits : ref.Fits F) :
    ∃ m, (c.convert F).result = some m ∧ ref.Image m := by
  rw [OriginatingRsuContainer.convert, Run.result_bind, Run.result_deref, href,
    Option.bind_some]
  -- the `switch` over the tag
  cases ref with
  | nothing => exact ⟨_, rfl, rfl⟩
  | roadsegment r =>
    obtain ⟨m, hm, himage⟩ := ReferenceID.convert_image hF.roadsegment hfits
    exact ⟨_, by rw [Run.result_bind, hm]; rfl, rfl, himage⟩
  | intersection r =>
    obtain ⟨m, hm, himage⟩ := ReferenceID.convert_image hF.intersection hfits
    exact ⟨_, by rw [Run.result_bind, hm]; rfl, rfl, himage⟩

end Rsu

/-! ### Sensors, perception regions and their shapes -/

section SensorInformation

variable {F : SensorInformationFormat}

variable (F) in
structure SensorInformation.Fits (s : SensorInformation) : Prop where
  sensorId : F.sensor_id.InRange s.sensorId
  sensorType : F.sensor_type.InRange s.sensorType

structure SensorInformation.Image (s : SensorInformation) (m : TsMsg.SensorInformation F) :
    Prop where
  sensor_id : m.sensor_id.val = s.sensorId
  sensor_type : m.sensor_type.val = s.sensorType
  shadowing_applies : m.shadowing_applies = s.shadowingApplies

theorem SensorInformation.convert_image {s : SensorInformation} (hfits : s.Fits F) :
    ∃ m, (s.convert F).result = some m ∧ s.Image m :=
  ⟨_, rfl, IntFormat.assign_val_of_inRange hfits.sensorId,
    IntFormat.assign_val_of_inRange hfits.sensorType, rfl⟩

end SensorInformation

section CartesianPosition3d

variable {F : CartesianPosition3dFormat}

variable (F) in
structure CartesianPosition3d.Fits (p : CartesianPosition3d) : Prop where
  xCoordinate : F.x_coordinate.InRange p.xCoordinate
  yCoordinate : F.y_coordinate.InRange p.yCoordinate
  zCoordinate : ∀ z, p.zCoordinate = some z → F.z_coordinate.InRange z

structure CartesianPosition3d.Image (p : CartesianPosition3d)
    (m : TsMsg.CartesianPosition3d F) : Prop where
  x_coordinate : m.x_coordinate.val = p.xCoordinate
  y_coordinate : m.y_coordinate.val = p.yCoordinate
  z_coordinate_is_present : m.z_coordinate_is_present = p.zCoordinate.isSome
  z_coordinate : m.z_coordinate.val = p.zCoordinate.getD 0

theorem CartesianPosition3d.convert_image (hF : F.z_coordinate.Within .int16)
    {p : CartesianPosition3d} (hfits : p.Fits F) :
    ∃ m, (p.convert F).result = some m ∧ p.Image m := by
  obtain ⟨x, y, z⟩ := p
  have hx := IntFormat.assign_val_of_inRange hfits.xCoordinate
  have hy := IntFormat.assign_val_of_inRange hfits.yCoordinate
  -- the optional coordinate goes through an `int16_t` before it is assigned
  cases z with
  | none => exact ⟨_, rfl, hx, hy, rfl, rfl⟩
  | some z =>
    exact ⟨_, rfl, hx, hy, rfl, IntFormat.assign_wrap_val hF (hfits.zCoordinate z rfl)⟩

end CartesianPosition3d

section RadialShapes

variable {F : RadialShapesFormat} {D : RadialShapeDetailsFormat}

variable (D) in
structure RadialShapeDetails.Fits (r : RadialShapeDetails) : Prop where
  range : D.range.InRange r.range
  horizontalOpeningAngleStart :
    D.horizontal_opening_angle_start.InRange r.horizontalOpeningAngleStart
  horizontalOpeningAngleEnd :
    D.horizontal_opening_angle_end.InRange r.horizontalOpeningAngleEnd

structure RadialShapeDetails.Image (r : RadialShapeDetails) (m : TsMsg.RadialShapeDetails D) :
    Prop where
  range : m.range.val = r.range
  horizontal_opening_angle_start :
    m.horizontal_opening_angle_start.val = r.horizontalOpeningAngleStart
  horizontal_opening_angle_end :
    m.horizontal_opening_angle_end.val = r.horizontalOpeningAngleEnd

theorem RadialShapeDetails.ofAsn1_image {r : RadialShapeDetails} (hfits : r.Fits D) :
    r.Image (TsMsg.RadialShapeDetails.ofAsn1 D r) where
  range := IntFormat.assign_val_of_inRange hfits.range
  horizontal_opening_angle_start :=
    IntFormat.assign_val_of_inRange hfits.horizontalOpeningAngleStart
  horizontal_opening_angle_end :=
    IntFormat.assign_val_of_inRange hfits.horizontalOpeningAngleEnd

variable (F) in
structure RadialShapes.Fits (r : RadialShapes) : Prop where
  refPointId : F.ref_point_id.InRange r.refPointId
  xCoordinate : F.x_coordinate.InRange r.xCoordinate
  yCoordinate : F.y_coordinate.InRange r.yCoordinate
  radialShapesList : ∀ details ∈ r.radialShapesList, details.Fits F.details

structure RadialShapes.Image (r : RadialShapes) (m : TsMsg.RadialShapes F) : Prop where
  ref_point_id : m.ref_point_id.val = r.refPointId
  x_coordinate : m.x_coordinate.val = r.xCoordinate
  y_coordinate : m.y_coordinate.val = r.yCoordinate
  radial_shapes_list :
    List.Forall₂ RadialShapeDetails.Image r.radialShapesList m.radial_shapes_list

end RadialShapes

section Shape

variable {F : ShapeFormat}

variable (F) in
def Shape.Fits : Shape → Prop
  | .nothing => True
  | .rectangular semiLength semiBreadth =>
    F.semi_length.InRange semiLength ∧ F.semi_breadth.InRange semiBreadth
  | .circular radius => F.radius.InRange radius
  | .polygonal polygon => ∀ p ∈ polygon, p.Fits F.position
  | .elliptical semiMajorAxisLength semiMinorAxisLength =>
    F.semi_major_axis_length.InRange semiMajorAxisLength ∧
      F.semi_minor_axis_length.InRange semiMinorAxisLength
  | .radial r => r.Fits F.radial
  | .radialShapes r => r.Fits F.radial_shapes

/-- The published choice has the tag of the source, and only the members of its
alternative are set. -/
def Shape.Image (s : Shape) (m : TsMsg.Shape F) : Prop :=
  match s with
  | .nothing => m = {}
  | .rectangular semiLength semiBreadth =>
    m = { choice := .rectangular, semi_length := m.semi_length,
          semi_breadth := m.semi_breadth } ∧
      m.semi_length.val = semiLength ∧ m.semi_breadth.val = semiBreadth
  | .circular radius =>
    m = { choice := .circular, radius := m.radius } ∧ m.radius.val = radius
  | .polygonal polygon =>
    m = { choice := .polygonal, polygon := m.polygon } ∧
      List.Forall₂ CartesianPosition3d.Image polygon m.polygon
  | .elliptical semiMajorAxisLength semiMinorAxisLength =>
    m = { choice := .elliptical, semi_major_axis_length := m.semi_major_axis_length,
          semi_minor_axis_length := m.semi_minor_axis_length } ∧
      m.semi_major_axis_length.val = semiMajorAxisLength ∧
      m.semi_minor_axis_length.val = semiMinorAxisLength
  | .radial r =>
    m = { choice := .radial, radial := m.radial } ∧ r.Image m.radial
  | .radialShapes r =>
    m = { choice := .radialShapes, radial_shapes := m.radial_shapes } ∧
      r.Image m.radial_shapes

theorem Shape.convert_image (hF : F.position.z_coordinate.Within .int16) {s : Shape}
    (hfits : s.Fits F) : ∃ m, (s.convert F).result = some m ∧ s.Image m := by
  cases s with
  | nothing => exact ⟨_, rfl, rfl⟩
  | rectangular semiLength semiBreadth =>
    exact ⟨_, rfl, rfl, IntFormat.assign_val_of_inRange hfits.1,
      IntFormat.assign_val_of_inRange hfits.2⟩
  | circular radius => exact ⟨_, rfl, rfl, IntFormat.assign_val_of_inRange hfits⟩
  | polygonal polygon =>
    -- a new record for each point, so nothing is carried to the next one
    obtain ⟨ps, hps, himages⟩ := Run.forall₂_forPush fun p hp =>
      CartesianPosition3d.convert_image hF (hfits p hp)
    exact ⟨_, by rw [Shape.convert, Run.result_bind, hps]; rfl, rfl, himages⟩
  | elliptical semiMajorAxisLength semiMinorAxisLength =>
    exact ⟨_, rfl, rfl, IntFormat.assign_val_of_inRange hfits.1,
      IntFormat.assign_val_of_inRange hfits.2⟩
  | radial r => exact ⟨_, rfl, rfl, RadialShapeDetails.ofAsn1_image hfits⟩
  | radialShapes r =>
    -- the details have no optional members: their loop is a map
    have hlist : (Run.forPush r.radialShapesList fun details =>
        (pure (TsMsg.RadialShapeDetails.ofAsn1 F.radial_shapes.details details)
          : Run (Access CpmTsPlace) _)).result
        = some (r.radialShapesList.map (.ofAsn1 F.radial_shapes.details)) :=
      Run.result_forPush fun _ _ => rfl
    refine ⟨_, by rw [Shape.convert, Run.result_bind, hlist]; rfl, rfl,
      IntFormat.assign_val_of_inRange hfits.refPointId,
      IntFormat.assign_val_of_inRange hfits.xCoordinate,
      IntFormat.assign_val_of_inRange hfits.yCoordinate, ?_⟩
    rw [List.forall₂_map_right_iff, List.forall₂_same]
    exact fun details hdetails =>
      RadialShapeDetails.ofAsn1_image (hfits.radialShapesList details hdetails)

end Shape

section PerceptionRegion

variable {F : PerceptionRegionFormat}

variable (F) in
structure PerceptionRegion.Fits (r : PerceptionRegion) : Prop where
  measurementDeltaTime : F.measurement_delta_time.InRange r.measurementDeltaTime
  perceptionRegionConfidence :
    F.perception_region_confidence.InRange r.perceptionRegionConfidence
  perceptionRegionShape : r.perceptionRegionShape.Fits F.shape

structure PerceptionRegion.Image (r : PerceptionRegion) (m : TsMsg.PerceptionRegion F) :
    Prop where
  measurement_delta_time : m.measurement_delta_time.val = r.measurementDeltaTime
  perception_region_confidence :
    m.perception_region_confidence.val = r.perceptionRegionConfidence
  perception_region_shape : r.perceptionRegionShape.Image m.perception_region_shape
  shadowing_applies : m.shadowing_applies = r.shadowingApplies

theorem PerceptionRegion.convert_image (hF : F.shape.position.z_coordinate.Within .int16)
    {r : PerceptionRegion} (hfits : r.Fits F) :
    ∃ m, (r.convert F).result = some m ∧ r.Image m := by
  obtain ⟨shape, hshape, himage⟩ := Shape.convert_image hF hfits.perceptionRegionShape
  exact ⟨_, by rw [PerceptionRegion.convert, Run.result_bind, hshape]; rfl,
    IntFormat.assign_val_of_inRange hfits.measurementDeltaTime,
    IntFormat.assign_val_of_inRange hfits.perceptionRegionConfidence, himage, rfl⟩

end PerceptionRegion

/-! ### Perceived objects -/

section PerceivedObject

variable {F : TsPerceivedObjectFormat}

variable (F) in
structure PerceivedObject.Fits (o : PerceivedObject) : Prop where
  objectId : ∀ id, o.objectId = some id → F.object_id.InRange id
  measurementDeltaTime : F.measurement_delta_time.InRange o.measurementDeltaTime
  xCoordinate : o.xCoordinate.Fits F.x_coordinate
  yCoordinate : o.yCoordinate.Fits F.y_coordinate
  zCoordinate : ∀ z, o.zCoordinate = some z → z.Fits F.z_coordinate

structure PerceivedObject.Image (o : PerceivedObject) (m : TsMsg.PerceivedObject F) :
    Prop where
  object_id_is_present : m.object_id_is_present = o.objectId.isSome
  object_id : m.object_id.val = o.objectId.getD 0
  measurement_delta_time : m.measurement_delta_time.val = o.measurementDeltaTime
  x_coordinate : Asn1.Measured.ofMsg m.x_coordinate = o.xCoordinate
  y_coordinate : Asn1.Measured.ofMsg m.y_coordinate = o.yCoordinate
  z_coordinate_is_present : m.z_coordinate_is_present = o.zCoordinate.isSome
  z_coordinate : Asn1.Measured.ofMsg m.z_coordinate = o.zCoordinate.getD ⟨0, 0⟩

theorem PerceivedObject.convert_image (hF : F.object_id.Within .uint16) {o : PerceivedObject}
    (hfits : o.Fits F) : ∃ m, (o.convert F).result = some m ∧ o.Image m := by
  obtain ⟨objectId, delta, x, y, z⟩ := o
  have hdelta := IntFormat.assign_val_of_inRange hfits.measurementDeltaTime
  have hx := Asn1.Measured.ofMsg_ofAsn1 hfits.xCoordinate
  have hy := Asn1.Measured.ofMsg_ofAsn1 hfits.yCoordinate
  -- the two optional members are assigned independently
  cases objectId with
  | none =>
    cases z with
    | none => exact ⟨_, rfl, rfl, rfl, hdelta, hx, hy, rfl, rfl⟩
    | some z =>
      have hz := Asn1.Measured.ofMsg_ofAsn1 (hfits.zCoordinate z rfl)
      exact ⟨_, rfl, rfl, rfl, hdelta, hx, hy, rfl, hz⟩
  | some id =>
    have hid := IntFormat.assign_wrap_val hF (hfits.objectId id rfl)
    cases z with
    | none => exact ⟨_, rfl, rfl, hid, hdelta, hx, hy, rfl, rfl⟩
    | some z =>
      have hz := Asn1.Measured.ofMsg_ofAsn1 (hfits.zCoordinate z rfl)
      exact ⟨_, rfl, rfl, hid, hdelta, hx, hy, rfl, hz⟩

end PerceivedObject

/-! ### Containers -/

section WrappedCpmContainer

variable {F : WrappedCpmContainerFormat}

variable (F) in
/-- The data of a container, whichever its kind, are in the ranges of their
fields. -/
def WrappedCpmContainer.DataFits : WrappedCpmContainer → Prop
  | .originatingVehicle orientationAngle => orientationAngle.Fits F.orientation_angle
  | .originatingRsu c => ∀ ref, c.mapReference = some ref → ref.Fits F
  | .sensorInformation list => ∀ s ∈ list, s.Fits F.sensor_information
  | .perceptionRegion list => ∀ r ∈ list, r.Fits F.perception_region
  | .perceivedObject c =>
    F.number_of_perceived_objects.InRange c.numberOfPerceivedObjects ∧
      ∀ o ∈ c.perceivedObjects, o.Fits F.perceived_object
  | .other _ _ => True

variable (F) in
structure WrappedCpmContainer.Fits (c : WrappedCpmContainer) : Prop where
  containerId : F.container_id.InRange c.containerId
  data : c.DataFits F

/-- Of the data of the entry, only the part of the source's kind is set. -/
def WrappedCpmContainer.DataImage (c : WrappedCpmContainer) (w : TsMsg.WrappedCpmContainer F) :
    Prop :=
  match c with
  | .originatingVehicle orientationAngle =>
    w = { container_id := w.container_id, orientation_angle := w.orientation_angle } ∧
      Asn1.Measured.ofMsg w.orientation_angle = orientationAngle
  | .originatingRsu c =>
    w = { container_id := w.container_id,
          originating_rsu_container := w.originating_rsu_container } ∧
      ∃ ref, c.mapReference = some ref ∧ ref.Image w.originating_rsu_container
  | .sensorInformation list =>
    w = { container_id := w.container_id,
          sensor_information_container := w.sensor_information_container } ∧
      List.Forall₂ SensorInformation.Image list w.sensor_information_container
  | .perceptionRegion list =>
    w = { container_id := w.container_id,
          perception_region_container := w.perception_region_container } ∧
      List.Forall₂ PerceptionRegion.Image list w.perception_region_container
  | .perceivedObject c =>
    w = { container_id := w.container_id,
          number_of_perceived_objects := w.number_of_perceived_objects,
          perceived_objects := w.perceived_objects } ∧
      w.number_of_perceived_objects.val = c.numberOfPerceivedObjects ∧
      List.Forall₂ PerceivedObject.Image c.perceivedObjects w.perceived_objects
  | .other _ _ => w = { container_id := w.container_id }

structure WrappedCpmContainer.Image (c : WrappedCpmContainer)
    (w : TsMsg.WrappedCpmContainer F) : Prop where
  container_id : w.container_id.val = c.containerId
  data : c.DataImage w

theorem WrappedCpmContainer.convert_image (hF : F.Casts) {c : WrappedCpmContainer}
    (href : c.HasMapReference) (hfits : c.Fits F) :
    ∃ w, (c.convert F).result = some w ∧ c.Image w := by
  have hid := IntFormat.assign_val_of_inRange hfits.containerId
  have hdata := hfits.data
  -- the `switch` over the identifier; each branch writes one part of a new record
  cases c with
  | originatingVehicle orientationAngle =>
    exact ⟨_, rfl, hid, rfl, Asn1.Measured.ofMsg_ofAsn1 hdata⟩
  | originatingRsu c =>
    -- the tag is read through the pointer, so there has to be a map reference
    obtain ⟨ref, href⟩ := Option.isSome_iff_exists.mp href
    obtain ⟨m, hm, himage⟩ := OriginatingRsuContainer.convert_image hF href (hdata ref href)
    exact ⟨_, by rw [WrappedCpmContainer.convert, Run.result_bind, hm]; rfl, hid, rfl, ref,
      href, himage⟩
  | sensorInformation list =>
    obtain ⟨ms, hms, himages⟩ := Run.forall₂_forPush fun s hs =>
      SensorInformation.convert_image (hdata s hs)
    exact ⟨_, by rw [WrappedCpmContainer.convert, Run.result_bind, hms]; rfl, hid, rfl,
      himages⟩
  | perceptionRegion list =>
    obtain ⟨ms, hms, himages⟩ := Run.forall₂_forPush fun r hr =>
      PerceptionRegion.convert_image hF.z_coordinate (hdata r hr)
    exact ⟨_, by rw [WrappedCpmContainer.convert, Run.result_bind, hms]; rfl, hid, rfl,
      himages⟩
  | perceivedObject c =>
    obtain ⟨ms, hms, himages⟩ := Run.forall₂_forPush fun o ho =>
      PerceivedObject.convert_image hF.object_id (hdata.2 o ho)
    exact ⟨_, by rw [WrappedCpmContainer.convert, Run.result_bind, hms]; rfl, hid, rfl,
      IntFormat.assign_val_of_inRange hdata.1, himages⟩
  | other id unknown =>
    -- the `default` branch: the identifier is all that is published
    exact ⟨_, rfl, hid, rfl⟩

end WrappedCpmContainer

/-! ### The whole message -/

section Frame

variable (asn_INTEGER2uint64 : List UInt8 → Option UInt64) (F : CpmTsFormat)

/-- The reference time as it is published: zero when it cannot be read. -/
def Cpm.referenceTime (a : Cpm) : UInt64 :=
  (asn_INTEGER2uint64 a.managementContainer.referenceTime).getD 0

/-- The published message without its containers. -/
def Cpm.frame (a : Cpm) (cpm_containers : List (TsMsg.WrappedCpmContainer F.cpm_container)) :
    TsMsg.CollectivePerceptionMessage F where
  header :=
    { protocol_version := F.header.protocol_version.assign a.header.protocolVersion
      message_id := F.header.message_id.assign a.header.messageID
      station_id := F.header.station_id.assign a.header.stationID }
  reference_time := a.referenceTime asn_INTEGER2uint64
  reference_position := .ofAsn1 F.reference_position a.managementContainer.referencePosition
  cpm_containers := cpm_containers

/-- **The conversion in closed form.** The published containers are those of the loop,
also when the array has no cells. -/
theorem Cpm.convertCpm_eq_frame (a : Cpm) :
    (a.convertCpm asn_INTEGER2uint64 F).result
      = (Run.forPush a.cpmContainers.array fun c => c.convert F.cpm_container).result.map
          (a.frame asn_INTEGER2uint64 F) := by
  unfold Cpm.convertCpm
  dsimp only
  split
  · rw [Run.result_bind]
    cases (Run.forPush a.cpmContainers.array fun c => c.convert F.cpm_container).result with
    | none => rfl
    | some containers => rfl
  · next hsize =>
    -- a list without containers is not looped over
    rw [AsnList.array_eq_nil hsize]
    rfl

end Frame

end Its2

/-- **Structure of a release 2 CPM.** When its roadside units have map references and
its integers are in the ranges of their fields, the message has one entry for each
container, in order, and the entry is the image of the container. An entry depends
on its container alone: whatever the rest of two messages, and wherever in them a
container stands, it is published as the same entry. -/
theorem convertCpm_preserves_structure (asn_INTEGER2uint64 : List UInt8 → Option UInt64)
    (F : CpmTsFormat) (a : Its2.Cpm) (hF : F.cpm_container.Casts)
    (href : ∀ c ∈ a.cpmContainers.array, c.HasMapReference)
    (hfits : ∀ c ∈ a.cpmContainers.array, c.Fits F.cpm_container) :
    ∃ m, (a.convertCpm asn_INTEGER2uint64 F).result = some m ∧
      List.Forall₂ Its2.WrappedCpmContainer.Image a.cpmContainers.array m.cpm_containers ∧
      ∀ (a' : Its2.Cpm) (m' : TsMsg.CollectivePerceptionMessage F),
        (a'.convertCpm asn_INTEGER2uint64 F).result = some m' →
        ∀ i j : ℕ, a.cpmContainers.array[i]? = a'.cpmContainers.array[j]? →
          m.cpm_containers[i]? = m'.cpm_containers[j]? := by
  obtain ⟨containers, hcontainers, himages⟩ := Run.forall₂_forPush fun c hc =>
    Its2.WrappedCpmContainer.convert_image hF (href c hc) (hfits c hc)
  have hm := a.convertCpm_eq_frame asn_INTEGER2uint64 F
  rw [hcontainers, Option.map_some] at hm
  refine ⟨_, hm, himages, fun a' m' hm' i j hij => ?_⟩
  -- both entries are what the loop body makes of the one container
  rw [a'.convertCpm_eq_frame, Option.map_eq_some_iff] at hm'
  obtain ⟨containers', hcontainers', rfl⟩ := hm'
  change containers[i]? = containers'[j]?
  rw [Run.getElem?_of_forPush hcontainers, Run.getElem?_of_forPush hcontainers', hij]

theorem released_casts : CpmTsFormat.released.cpm_container.Casts :=
  ⟨fun _ h => h, fun _ h => h, fun _ h => h, fun _ h => h⟩

/-- A roadside unit at an intersection: its map reference, a free area of one corner,
an object with an identifier and without height, and a container of a later
release. -/
def intersectionCpm : Its2.Cpm where
  header := { protocolVersion := 2, messageID := 14, stationID := 815 }
  managementContainer := rsuCpm.managementContainer
  cpmContainers :=
    { array :=
        [.originatingRsu { mapReference := some (.intersection { id := 300, region := some 7 }) },
          .perceptionRegion
            [{ measurementDeltaTime := -5
               perceptionRegionConfidence := 95
               perceptionRegionShape :=
                .polygonal [{ xCoordinate := -40, yCoordinate := 25, zCoordinate := some (-3) }]
               shadowingApplies := true }],
          .perceivedObject
            { numberOfPerceivedObjects := 1
              perceivedObjects :=
                [{ objectId := some 12
                   measurementDeltaTime := 10
                   xCoordinate := ⟨1250, 40⟩
                   yCoordinate := ⟨-300, 40⟩ }] },
          .other 9 (Or.inr (by decide))]
      size := 4
      count_le := le_rfl }

theorem intersectionCpm_fits :
    ∀ c ∈ intersectionCpm.cpmContainers.array, c.Fits CpmTsFormat.released.cpm_container := by
  refine List.forall_mem_cons.mpr ⟨⟨by decide, ?_⟩, List.forall_mem_cons.mpr ⟨⟨by decide, ?_⟩,
    List.forall_mem_cons.mpr ⟨⟨by decide, by decide, ?_⟩, List.forall_mem_singleton.mpr
      ⟨by decide, trivial⟩⟩⟩⟩
  · rintro _ ⟨⟩
    refine ⟨by decide, ?_⟩
    rintro _ ⟨⟩
    decide
  · refine List.forall_mem_singleton.mpr ⟨by decide, by decide, ?_⟩
    refine List.forall_mem_singleton.mpr ⟨by decide, by decide, ?_⟩
    rintro _ ⟨⟩
    decide
  · refine List.forall_mem_singleton.mpr ⟨?_, by decide, ⟨by decide, by decide⟩,
      ⟨by decide, by decide⟩, ?_⟩
    · rintro _ ⟨⟩
      decide
    · rintro _ ⟨⟩

theorem intersectionCpm_structure :
    ∃ m, (intersectionCpm.convertCpm (fun _ => some 0) .released).result = some m ∧
      List.Forall₂ Its2.WrappedCpmContainer.Image intersectionCpm.cpmContainers.array
        m.cpm_containers ∧
      ∀ (a' : Its2.Cpm) (m' : TsMsg.CollectivePerceptionMessage .released),
        (a'.convertCpm (fun _ => some 0) .released).result = some m' →
        ∀ i j : ℕ, intersectionCpm.cpmContainers.array[i]? = a'.cpmContainers.array[j]? →
          m.cpm_containers[i]? = m'.cpm_containers[j]? :=
  convertCpm_preserves_structure (fun _ => some 0) .released intersectionCpm released_casts
    (by simp [intersectionCpm, Its2.WrappedCpmContainer.HasMapReference]) intersectionCpm_fits

end V2xStack
