import Mathlib.Data.List.Forall2
import V2xStack.Foundation.OptionalMember
import V2xStack.Its.CpmTsStructure

/-!
# What a release 2 CPM keeps

The conversion of a release 2 CPM drops many members: velocities, accelerations, angles,
classifications, the reference points of most shapes, the rate information and more. The
types `Its2` have the members that it reads and no others, and of these it loses and
confuses none. That is what is said here, and nothing about the rest of a message.

The image of a part tells the part: `image_leftUnique` says so for each of them, down the
structure of the message. Of the containers the identifier tells the kind, of shapes and map
references the choice. `convertCpmTs_eq_iff` puts it together: two messages that fit are
published as the same one exactly when they have the same header, position and containers,
and reference times that `asn_INTEGER2uint64` reads as the same number.
-/

namespace V2xStack

namespace Its2

/-! ### Images tell their parts -/

section Parts

theorem ReferenceID.image_leftUnique {F : ReferenceIDFormat} :
    Relator.LeftUnique (ReferenceID.Image (F := F)) := by
  rintro ⟨id, region⟩ ⟨id', region'⟩ m h h'
  obtain rfl : id = id' := h.id.symm.trans h'.id
  obtain rfl : region = region' :=
    isSome_getD_inj (h.region_is_present.symm.trans h'.region_is_present)
      (h.region.symm.trans h'.region)
  rfl

/-- The choice of an image is the tag of the map reference. -/
def MapReference.choice : MapReference → TsMsg.MapReferenceChoice
  | .nothing => .nothing
  | .roadsegment _ => .roadsegment
  | .intersection _ => .intersection

theorem MapReference.image_choice {F : WrappedCpmContainerFormat} {ref : MapReference}
    {m : TsMsg.OriginatingRsuContainer F} (h : ref.Image m) : m.choice = ref.choice := by
  cases ref with
  | nothing => exact congrArg TsMsg.OriginatingRsuContainer.choice h
  | roadsegment r => exact congrArg TsMsg.OriginatingRsuContainer.choice h.1
  | intersection r => exact congrArg TsMsg.OriginatingRsuContainer.choice h.1

theorem MapReference.image_leftUnique {F : WrappedCpmContainerFormat} :
    Relator.LeftUnique (MapReference.Image (F := F)) := by
  intro ref ref' m h h'
  -- references of the same choice are left to compare
  have hchoice : ref.choice = ref'.choice := (image_choice h).symm.trans (image_choice h')
  cases ref with
  | nothing =>
    match ref', hchoice with
    | .nothing, _ => rfl
  | roadsegment r =>
    match ref', hchoice, h' with
    | .roadsegment r', _, h' => rw [ReferenceID.image_leftUnique h.2 h'.2]
  | intersection r =>
    match ref', hchoice, h' with
    | .intersection r', _, h' => rw [ReferenceID.image_leftUnique h.2 h'.2]

theorem SensorInformation.image_leftUnique {F : SensorInformationFormat} :
    Relator.LeftUnique (SensorInformation.Image (F := F)) := by
  rintro ⟨id, type, shadowing⟩ ⟨id', type', shadowing'⟩ m h h'
  obtain rfl : id = id' := h.sensor_id.symm.trans h'.sensor_id
  obtain rfl : type = type' := h.sensor_type.symm.trans h'.sensor_type
  obtain rfl : shadowing = shadowing' := h.shadowing_applies.symm.trans h'.shadowing_applies
  rfl

theorem CartesianPosition3d.image_leftUnique {F : CartesianPosition3dFormat} :
    Relator.LeftUnique (CartesianPosition3d.Image (F := F)) := by
  rintro ⟨x, y, z⟩ ⟨x', y', z'⟩ m h h'
  obtain rfl : x = x' := h.x_coordinate.symm.trans h'.x_coordinate
  obtain rfl : y = y' := h.y_coordinate.symm.trans h'.y_coordinate
  -- the flag says whether the coordinate was there, the member which value it had
  obtain rfl : z = z' :=
    isSome_getD_inj (h.z_coordinate_is_present.symm.trans h'.z_coordinate_is_present)
      (h.z_coordinate.symm.trans h'.z_coordinate)
  rfl

theorem RadialShapeDetails.image_leftUnique {D : RadialShapeDetailsFormat} :
    Relator.LeftUnique (RadialShapeDetails.Image (D := D)) := by
  rintro ⟨range, start, stop⟩ ⟨range', start', stop'⟩ m h h'
  obtain rfl : range = range' := h.range.symm.trans h'.range
  obtain rfl : start = start' :=
    h.horizontal_opening_angle_start.symm.trans h'.horizontal_opening_angle_start
  obtain rfl : stop = stop' :=
    h.horizontal_opening_angle_end.symm.trans h'.horizontal_opening_angle_end
  rfl

theorem RadialShapes.image_leftUnique {F : RadialShapesFormat} :
    Relator.LeftUnique (RadialShapes.Image (F := F)) := by
  rintro ⟨ref, x, y, list⟩ ⟨ref', x', y', list'⟩ m h h'
  obtain rfl : ref = ref' := h.ref_point_id.symm.trans h'.ref_point_id
  obtain rfl : x = x' := h.x_coordinate.symm.trans h'.x_coordinate
  obtain rfl : y = y' := h.y_coordinate.symm.trans h'.y_coordinate
  -- the lists agree entry by entry
  obtain rfl : list = list' :=
    RadialShapeDetails.image_leftUnique.forall₂ h.radial_shapes_list h'.radial_shapes_list
  rfl

/-- The choice of an image is the tag of the shape. -/
def Shape.choice : Shape → TsMsg.ShapeChoice
  | .nothing => .nothing
  | .rectangular _ _ => .rectangular
  | .circular _ => .circular
  | .polygonal _ => .polygonal
  | .elliptical _ _ => .elliptical
  | .radial _ => .radial
  | .radialShapes _ => .radialShapes

theorem Shape.image_choice {F : ShapeFormat} {s : Shape} {m : TsMsg.Shape F} (h : s.Image m) :
    m.choice = s.choice := by
  -- every alternative sets its own `choice`
  cases s with
  | nothing => exact congrArg TsMsg.Shape.choice h
  | rectangular semiLength semiBreadth => exact congrArg TsMsg.Shape.choice h.1
  | circular radius => exact congrArg TsMsg.Shape.choice h.1
  | polygonal polygon => exact congrArg TsMsg.Shape.choice h.1
  | elliptical semiMajorAxisLength semiMinorAxisLength => exact congrArg TsMsg.Shape.choice h.1
  | radial r => exact congrArg TsMsg.Shape.choice h.1
  | radialShapes r => exact congrArg TsMsg.Shape.choice h.1

theorem Shape.image_leftUnique {F : ShapeFormat} :
    Relator.LeftUnique (Shape.Image (F := F)) := by
  intro s s' m h h'
  -- only shapes of the same choice have a common image
  have hchoice : s.choice = s'.choice := (image_choice h).symm.trans (image_choice h')
  cases s with
  | nothing =>
    match s', hchoice with
    | .nothing, _ => rfl
  | rectangular semiLength semiBreadth =>
    match s', hchoice, h' with
    | .rectangular semiLength' semiBreadth', _, h' =>
      rw [← h.2.1, ← h.2.2, ← h'.2.1, ← h'.2.2]
  | circular radius =>
    match s', hchoice, h' with
    | .circular radius', _, h' => rw [← h.2, ← h'.2]
  | polygonal polygon =>
    match s', hchoice, h' with
    | .polygonal polygon', _, h' =>
      rw [CartesianPosition3d.image_leftUnique.forall₂ h.2 h'.2]
  | elliptical semiMajorAxisLength semiMinorAxisLength =>
    match s', hchoice, h' with
    | .elliptical semiMajorAxisLength' semiMinorAxisLength', _, h' =>
      rw [← h.2.1, ← h.2.2, ← h'.2.1, ← h'.2.2]
  | radial r =>
    match s', hchoice, h' with
    | .radial r', _, h' => rw [RadialShapeDetails.image_leftUnique h.2 h'.2]
  | radialShapes r =>
    match s', hchoice, h' with
    | .radialShapes r', _, h' => rw [RadialShapes.image_leftUnique h.2 h'.2]

theorem PerceptionRegion.image_leftUnique {F : PerceptionRegionFormat} :
    Relator.LeftUnique (PerceptionRegion.Image (F := F)) := by
  rintro ⟨delta, confidence, shape, shadowing⟩ ⟨delta', confidence', shape', shadowing'⟩ m h h'
  obtain rfl : delta = delta' := h.measurement_delta_time.symm.trans h'.measurement_delta_time
  obtain rfl : confidence = confidence' :=
    h.perception_region_confidence.symm.trans h'.perception_region_confidence
  obtain rfl : shape = shape' :=
    Shape.image_leftUnique h.perception_region_shape h'.perception_region_shape
  obtain rfl : shadowing = shadowing' := h.shadowing_applies.symm.trans h'.shadowing_applies
  rfl

theorem PerceivedObject.image_leftUnique {F : TsPerceivedObjectFormat} :
    Relator.LeftUnique (PerceivedObject.Image (F := F)) := by
  rintro ⟨id, delta, x, y, z⟩ ⟨id', delta', x', y', z'⟩ m h h'
  -- the two optional members have a flag each
  obtain rfl : id = id' :=
    isSome_getD_inj (h.object_id_is_present.symm.trans h'.object_id_is_present)
      (h.object_id.symm.trans h'.object_id)
  obtain rfl : delta = delta' := h.measurement_delta_time.symm.trans h'.measurement_delta_time
  obtain rfl : x = x' := h.x_coordinate.symm.trans h'.x_coordinate
  obtain rfl : y = y' := h.y_coordinate.symm.trans h'.y_coordinate
  obtain rfl : z = z' :=
    isSome_getD_inj (h.z_coordinate_is_present.symm.trans h'.z_coordinate_is_present)
      (h.z_coordinate.symm.trans h'.z_coordinate)
  rfl

/-- The kinds of containers. -/
inductive ContainerKind
  | originatingVehicle
  | originatingRsu
  | sensorInformation
  | perceptionRegion
  | perceivedObject
  | other
  deriving DecidableEq

/-- The kind that the `switch` takes an identifier for. -/
def containerKind (id : ℤ) : ContainerKind :=
  if id = 1 then .originatingVehicle
  else if id = 2 then .originatingRsu
  else if id = 3 then .sensorInformation
  else if id = 4 then .perceptionRegion
  else if id = 5 then .perceivedObject
  else .other

def WrappedCpmContainer.kind : WrappedCpmContainer → ContainerKind
  | originatingVehicle _ => .originatingVehicle
  | originatingRsu _ => .originatingRsu
  | sensorInformation _ => .sensorInformation
  | perceptionRegion _ => .perceptionRegion
  | perceivedObject _ => .perceivedObject
  | other _ _ => .other

/-- The identifier tells the kind. -/
theorem WrappedCpmContainer.kind_eq (c : WrappedCpmContainer) :
    c.kind = containerKind c.containerId := by
  cases c with
  | originatingVehicle orientationAngle => rfl
  | originatingRsu rsu => rfl
  | sensorInformation list => rfl
  | perceptionRegion list => rfl
  | perceivedObject container => rfl
  | other id unknown =>
    -- an unknown container has none of the five ids, so each test of the switch fails
    change ContainerKind.other = containerKind id
    rw [containerKind, if_neg (by omega), if_neg (by omega), if_neg (by omega),
      if_neg (by omega), if_neg (by omega)]

theorem WrappedCpmContainer.image_leftUnique {F : WrappedCpmContainerFormat} :
    Relator.LeftUnique (WrappedCpmContainer.Image (F := F)) := by
  rintro c c' w ⟨hid, hdata⟩ ⟨hid', hdata'⟩
  -- the published identifier tells the kind, so containers of one kind are compared
  have hsame : c.containerId = c'.containerId := hid.symm.trans hid'
  have hkind : c.kind = c'.kind := by rw [kind_eq, kind_eq, hsame]
  cases c with
  | originatingVehicle orientationAngle =>
    match c', hkind, hdata' with
    | .originatingVehicle orientationAngle', _, hdata' => rw [← hdata.2, ← hdata'.2]
  | originatingRsu rsu =>
    match c', hkind, hdata' with
    | .originatingRsu rsu', _, hdata' =>
      obtain ⟨-, ref, href, himage⟩ := hdata
      obtain ⟨-, ref', href', himage'⟩ := hdata'
      obtain rfl : ref = ref' := MapReference.image_leftUnique himage himage'
      cases rsu
      cases rsu'
      exact congrArg (fun r => WrappedCpmContainer.originatingRsu ⟨r⟩) (href.trans href'.symm)
  | sensorInformation list =>
    match c', hkind, hdata' with
    | .sensorInformation list', _, hdata' =>
      rw [SensorInformation.image_leftUnique.forall₂ hdata.2 hdata'.2]
  | perceptionRegion list =>
    match c', hkind, hdata' with
    | .perceptionRegion list', _, hdata' =>
      rw [PerceptionRegion.image_leftUnique.forall₂ hdata.2 hdata'.2]
  | perceivedObject container =>
    match c', hkind, hdata' with
    | .perceivedObject container', _, hdata' =>
      obtain ⟨-, hnumber, hobjects⟩ := hdata
      obtain ⟨-, hnumber', hobjects'⟩ := hdata'
      obtain ⟨number, objects⟩ := container
      obtain ⟨number', objects'⟩ := container'
      obtain rfl : number = number' := hnumber.symm.trans hnumber'
      obtain rfl : objects = objects' :=
        PerceivedObject.image_leftUnique.forall₂ hobjects hobjects'
      rfl
  | other id unknown =>
    -- nothing is converted of these, and nothing is in them but the identifier
    match c', hkind, hsame with
    | .other id' unknown', _, hsame =>
      obtain rfl : id = id' := hsame
      rfl

end Parts

end Its2

/-! ### The whole message -/

section Message

open Its2

variable {asn_INTEGER2uint64 : List UInt8 → Option UInt64} {F : CpmTsFormat}

variable (F) in
/-- Every integer of the message is in the range of its field, and every roadside unit has
a map reference. -/
structure Its2.Cpm.Fits (a : Its2.Cpm) : Prop where
  header : a.header.Fits F.header
  referencePosition : a.managementContainer.referencePosition.Fits F.reference_position
  mapReference : ∀ c ∈ a.cpmContainers.array, c.HasMapReference
  containers : ∀ c ∈ a.cpmContainers.array, c.Fits F.cpm_container

/-- The header of the message tells the header, -/
theorem Its2.Cpm.header_eq_of_frame {a a' : Its2.Cpm} (h : a.Fits F) (h' : a'.Fits F)
    {cs cs' : List (TsMsg.WrappedCpmContainer F.cpm_container)}
    (heq : a.frame asn_INTEGER2uint64 F cs = a'.frame asn_INTEGER2uint64 F cs') :
    a.header = a'.header := by
  have hheader := congrArg TsMsg.CollectivePerceptionMessage.header heq
  -- the frame has all three members of the header, each assigned inside its field
  have hversion := IntFormat.eq_of_assign_eq h.header.protocolVersion h'.header.protocolVersion
    (congrArg Msg.ItsPduHeader.protocol_version hheader)
  have hid := IntFormat.eq_of_assign_eq h.header.messageID h'.header.messageID
    (congrArg Msg.ItsPduHeader.message_id hheader)
  have hstation := IntFormat.eq_of_assign_eq h.header.stationID h'.header.stationID
    (congrArg Msg.ItsPduHeader.station_id hheader)
  calc a.header = ⟨a.header.protocolVersion, a.header.messageID, a.header.stationID⟩ := rfl
    _ = a'.header := by rw [hversion, hid, hstation]

/-- and the position the position. -/
theorem Its2.Cpm.referencePosition_eq_of_frame {a a' : Its2.Cpm} (h : a.Fits F) (h' : a'.Fits F)
    {cs cs' : List (TsMsg.WrappedCpmContainer F.cpm_container)}
    (heq : a.frame asn_INTEGER2uint64 F cs = a'.frame asn_INTEGER2uint64 F cs') :
    a.managementContainer.referencePosition = a'.managementContainer.referencePosition :=
  Msg.ReferencePosition.ofAsn1_injOn_fits h.referencePosition h'.referencePosition
    (congrArg TsMsg.CollectivePerceptionMessage.reference_position heq)

/-- The containers are published as their images. -/
theorem Its2.Cpm.containers_image (hF : F.cpm_container.Casts) {a : Its2.Cpm} (h : a.Fits F) :
    ∃ cs, (Run.forPush a.cpmContainers.array fun c => c.convert F.cpm_container).result = some cs ∧
      List.Forall₂ WrappedCpmContainer.Image a.cpmContainers.array cs :=
  Run.forall₂_forPush fun c hc =>
    WrappedCpmContainer.convert_image hF (h.mapReference c hc) (h.containers c hc)

/-- **Nothing is lost of what is read of a release 2 CPM.** Messages that fit are published as
the same one exactly when they agree in the members that the conversion reads: in header,
position and containers, and in the number that their reference times are read as. -/
theorem convertCpmTs_eq_iff (asn_INTEGER2uint64 : List UInt8 → Option UInt64)
    (F : CpmTsFormat) (hF : F.cpm_container.Casts) {a a' : Its2.Cpm} (h : a.Fits F)
    (h' : a'.Fits F) :
    (a.convertCpm asn_INTEGER2uint64 F).result = (a'.convertCpm asn_INTEGER2uint64 F).result ↔
      a.header = a'.header ∧
        a.referenceTime asn_INTEGER2uint64 = a'.referenceTime asn_INTEGER2uint64 ∧
        a.managementContainer.referencePosition = a'.managementContainer.referencePosition ∧
        a.cpmContainers.array = a'.cpmContainers.array := by
  obtain ⟨cs, hcs, himage⟩ := Its2.Cpm.containers_image hF h
  obtain ⟨cs', hcs', himage'⟩ := Its2.Cpm.containers_image hF h'
  rw [a.convertCpm_eq_frame, a'.convertCpm_eq_frame, hcs, hcs', Option.map_some, Option.map_some,
    Option.some_inj]
  constructor
  · intro heq
    have hcontainers : cs = cs' :=
      congrArg TsMsg.CollectivePerceptionMessage.cpm_containers heq
    subst hcontainers
    exact ⟨Its2.Cpm.header_eq_of_frame h h' heq,
      congrArg TsMsg.CollectivePerceptionMessage.reference_time heq,
      Its2.Cpm.referencePosition_eq_of_frame h h' heq,
      WrappedCpmContainer.image_leftUnique.forall₂ himage himage'⟩
  · -- the same containers are converted to the same ones
    rintro ⟨hheader, htime, hposition, hcontainers⟩
    rw [hcontainers] at hcs
    obtain rfl : cs = cs' := Option.some.inj (hcs.symm.trans hcs')
    rw [Its2.Cpm.frame, Its2.Cpm.frame, hheader, htime, hposition]

/-- The same message from two stations. -/
theorem intersectionCpm_distinguished :
    (intersectionCpm.convertCpm (fun _ => some 0) .released).result
        = (({ intersectionCpm with header := ⟨2, 14, 816⟩ } : Its2.Cpm).convertCpm
          (fun _ => some 0) .released).result ↔
      intersectionCpm.header = ⟨2, 14, 816⟩ ∧
        intersectionCpm.referenceTime (fun _ => some 0)
          = ({ intersectionCpm with header := ⟨2, 14, 816⟩ } : Its2.Cpm).referenceTime
            (fun _ => some 0) ∧
        intersectionCpm.managementContainer.referencePosition
          = intersectionCpm.managementContainer.referencePosition ∧
        intersectionCpm.cpmContainers.array = intersectionCpm.cpmContainers.array := by
  have href : ∀ c ∈ intersectionCpm.cpmContainers.array, c.HasMapReference := by
    simp [intersectionCpm, WrappedCpmContainer.HasMapReference]
  have hposition : intersectionCpm.managementContainer.referencePosition.Fits
      CpmTsFormat.released.reference_position :=
    ⟨⟨by decide, by decide⟩, by decide, by decide, by decide, by decide, by decide⟩
  exact convertCpmTs_eq_iff (fun _ => some 0) .released released_casts
    ⟨⟨by decide, by decide, by decide⟩, hposition, href, intersectionCpm_fits⟩
    ⟨⟨by decide, by decide, by decide⟩, hposition, href, intersectionCpm_fits⟩

end Message

end V2xStack
