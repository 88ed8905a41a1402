import V2xStack.Foundation.OptionalMember
import V2xStack.Its.CpmClass

/-!
# The release 1 CPM conversion in closed form

What `convertCpm` publishes, without the loop and member by member. The images below do
not use the assignments of the conversion: they name for every member of the message the
member of the source that it has.

The record of the loop is never reset. An object without an age is published with the
age of the latest object in front of it that has one, and an object without a class with
the class of the latest object that has one; `entryImage` says so, and
`convertCpm_eq_image` gives the whole message.
-/

namespace V2xStack

/-- A value and its confidence as they are published. -/
def Asn1.Measured.image (F : MeasuredFormat) (v : Asn1.Measured) : Msg.Measured F where
  value := F.value.assign v.value
  confidence := F.confidence.assign v.confidence

section Entries

/-- What a class is published as: a person as a pedestrian, and anything else as the
vehicle that the bytes of its alternative denote. -/
def Asn1.ObjectClass.image (c : Asn1.ObjectClass) : StationType :=
  if c.present = .person then
    .PEDESTRIAN
  else
    match c.vehicleType with
    | .moped => .MOPED
    | .motorcycle => .MOTORCYCLE
    | .passengerCar => .PASSENGER_CAR
    | .bus => .BUS
    | .lightTruck => .LIGHT_TRUCK
    | .heavyTruck => .HEAVY_TRUCK
    | .trailer => .TRAILER
    | .specialVehicles => .SPECIAL_VEHICLE
    | .tram => .TRAM
    | .unnamed => .UNKNOWN

theorem Asn1.ObjectClass.image_eq_stationType : image = stationType := by
  funext c
  rw [image, stationType]
  congr 1

variable (F : PerceivedObjectFormat)

/-- The entry for the last of the objects: its own members, and the latest age and class
among all of them. -/
def entryImage (objects : List Asn1.PerceivedObject) (o : Asn1.PerceivedObject) :
    Msg.PerceivedObject F where
  object_id := F.object_id.assign o.objectID
  time_of_measurement := F.time_of_measurement.assign o.timeOfMeasurement
  object_age := ((latest Asn1.PerceivedObject.objectAge objects).map F.object_age.assign).getD 0
  object_confidence := F.object_confidence.assign o.objectConfidence
  x_distance := o.xDistance.image F.x_distance
  y_distance := o.yDistance.image F.y_distance
  x_speed := o.xSpeed.image F.x_speed
  y_speed := o.ySpeed.image F.y_speed
  classification :=
    ((latest Asn1.PerceivedObject.firstClass objects).map fun c => F.stationType c.image).getD 0

/-- The entries for all objects. -/
def entryImages (objects : List Asn1.PerceivedObject) : List (Msg.PerceivedObject F) :=
  objects.mapIdx fun i o => entryImage F (objects.take (i + 1)) o

variable {F}

/-- The age that is in the record after some iterations, -/
theorem object_age_final (s : Msg.PerceivedObject F) (objects : List Asn1.PerceivedObject) :
    ((objectLoop F).final s objects).object_age
      = ((latest Asn1.PerceivedObject.objectAge objects).map F.object_age.assign).getD
          s.object_age := by
  -- the age carried along is a fold that overwrites it where an object has one
  rw [← foldl_getD_eq_latest]
  induction objects generalizing s with
  | nil => rfl
  | cons o os ih => exact ih (filled F s o)

/-- and the classification. -/
theorem classification_final (s : Msg.PerceivedObject F)
    (objects : List Asn1.PerceivedObject) :
    ((objectLoop F).final s objects).classification
      = ((latest Asn1.PerceivedObject.firstClass objects).map fun c =>
          F.stationType c.stationType).getD s.classification := by
  -- the type is carried along in the same way
  rw [← foldl_getD_eq_latest]
  induction objects generalizing s with
  | nil => rfl
  | cons o os ih => exact ih (filled F s o)

/-- An iteration makes the entry. -/
theorem filled_eq_entryImage {objects : List Asn1.PerceivedObject} {i : ℕ}
    {o : Asn1.PerceivedObject} (ho : objects[i]? = some o) :
    filled F ((objectLoop F).final {} (objects.take i)) o
      = entryImage F (objects.take (i + 1)) o := by
  let s := (objectLoop F).final {} (objects.take i)
  have hstep : (objectLoop F).final {} (objects.take (i + 1)) = filled F s o :=
    (objectLoop F).final_take_succ ho {}
  -- all members but two are those of the object
  calc filled F s o
      = { ({} : Msg.PerceivedObject F).assignMandatory F o with
          object_age := (filled F s o).object_age
          classification := (filled F s o).classification } := rfl
    _ = entryImage F (objects.take (i + 1)) o := by
        rw [← hstep, object_age_final, classification_final, entryImage,
          Asn1.ObjectClass.image_eq_stationType]
        rfl

/-- **The loop in closed form.** -/
theorem objectLoop_run_eq (objects : List Asn1.PerceivedObject) :
    (objectLoop F).run {} objects = entryImages F objects := by
  ext1 i
  rw [getElem?_objectLoop_run, entryImages, List.getElem?_mapIdx]
  cases ho : objects[i]? with
  | none => rfl
  | some o => exact congrArg some (filled_eq_entryImage ho)

end Entries

section Message

variable (F : CpmFormat)

/-- The published message, for the station data. The message identifier is not assigned,
and of the width only the flag. -/
def Asn1.Cpm.image (a : Asn1.Cpm) (station : Asn1.StationDataContainer) : Msg.CPM F :=
  let management := a.cpmParameters.managementContainer
  let position := management.referencePosition
  let vehicle := station.originatingVehicleContainer
  { its_header :=
      { protocol_version := F.its_header.protocol_version.assign a.header.protocolVersion
        message_id := 0
        station_id := F.its_header.station_id.assign a.header.stationID }
    generation_delta_time := F.generation_delta_time.assign a.generationDeltaTime
    station_type := F.station_type.assign management.stationType
    reference_position :=
      { latitude := F.reference_position.latitude.assign position.latitude
        longitude := F.reference_position.longitude.assign position.longitude
        semi_major_confidence := F.reference_position.semi_major_confidence.assign
          position.positionConfidenceEllipse.semiMajorConfidence
        semi_minor_confidence := F.reference_position.semi_minor_confidence.assign
          position.positionConfidenceEllipse.semiMinorConfidence
        semi_major_orientation := F.reference_position.semi_major_orientation.assign
          position.positionConfidenceEllipse.semiMajorOrientation
        altitude := position.altitude.image F.reference_position.altitude }
    originating_vehicle_container :=
      { heading := vehicle.heading.image F.originating_vehicle_container.heading
        speed := vehicle.speed.image F.originating_vehicle_container.speed
        drive_direction :=
          F.originating_vehicle_container.drive_direction.assign vehicle.driveDirection
        has_vehicle_length := vehicle.vehicleLength.isSome
        vehicle_length := (vehicle.vehicleLength.map
          (Asn1.Measured.image F.originating_vehicle_container.vehicle_length)).getD ⟨0, 0⟩
        has_vehicle_width := vehicle.vehicleWidth.isSome
        vehicle_width := 0 }
    number_of_perceived_objects :=
      F.number_of_perceived_objects.assign a.cpmParameters.numberOfPerceivedObjects
    list_of_perceived_objects :=
      if 0 < (F.number_of_perceived_objects.assign
          a.cpmParameters.numberOfPerceivedObjects).val then
        entryImages F.perceived_object a.objects
      else
        [] }

/-- In front of the objects the conversion assigns what the image has. -/
theorem Asn1.Cpm.image_eq_headerImage (a : Asn1.Cpm) (station : Asn1.StationDataContainer) :
    a.image F station = { a.headerImage F station with
      list_of_perceived_objects := (a.image F station).list_of_perceived_objects } := rfl

theorem Asn1.Cpm.image_objects (a : Asn1.Cpm) (station : Asn1.StationDataContainer) :
    (a.image F station).list_of_perceived_objects
      = if 0 < (F.number_of_perceived_objects.assign
            a.cpmParameters.numberOfPerceivedObjects).val then
          entryImages F.perceived_object a.objects
        else
          [] := rfl

variable {F} in
/-- Without the station data there is no message: the null pointer is followed first. -/
theorem convertHeader_eq_none {a : Asn1.Cpm}
    (h : a.cpmParameters.stationDataContainer = none) : (a.convertHeader F).result = none := by
  refine Option.eq_none_iff_forall_ne_some.mpr fun msg hmsg => ?_
  have hstation := isSome_of_convertHeader hmsg
  rw [h] at hstation
  exact absurd hstation (by simp)

variable {F} in
/-- The perceived object part. -/
theorem assignObjects_result (a : Asn1.Cpm) {msg : Msg.CPM F}
    (hempty : msg.list_of_perceived_objects = []) :
    (a.assignObjects F msg).result
      = some { msg with
          list_of_perceived_objects :=
            if 0 < msg.number_of_perceived_objects.val then
              entryImages F.perceived_object a.objects
            else
              [] } := by
  unfold Asn1.Cpm.assignObjects Asn1.Cpm.objects
  by_cases hpos : 0 < msg.number_of_perceived_objects.val
  · rw [if_pos hpos, if_pos hpos]
    cases a.cpmParameters.perceivedObjectContainer with
    | none =>
      -- a number is announced, but there is no container
      change some msg = some { msg with list_of_perceived_objects := [] }
      rw [← hempty]
    | some objects =>
      rw [Run.result_ifPresent_some, Run.result_bind, convertObjects_result, Option.bind_some,
        objectLoop_run_eq]
      rfl
  · rw [if_neg hpos, if_neg hpos, ← hempty]
    rfl

variable {F} in
/-- With the station data there is one. -/
theorem Asn1.Cpm.convertCpm_result {a : Asn1.Cpm} {station : Asn1.StationDataContainer}
    (h : a.cpmParameters.stationDataContainer = some station) :
    (a.convertCpm F).result = some (a.image F station) := by
  rw [Asn1.Cpm.convertCpm, Run.result_bind, convertHeader_eq_headerImage h, Option.bind_some,
    assignObjects_result a rfl, a.image_eq_headerImage]
  rfl

/-- **The conversion in closed form.** It returns a message when the station data are
there, and the message has the members of the image. The list is made of the objects if
the announced number, as it is in its field, is positive, however many they are; and each
object is published with the latest age and the latest class up to it. -/
theorem convertCpm_eq_image (F : CpmFormat) (a : Asn1.Cpm) :
    (a.convertCpm F).result = a.cpmParameters.stationDataContainer.map (a.image F) := by
  cases hstation : a.cpmParameters.stationDataContainer with
  | none =>
    rw [Asn1.Cpm.convertCpm, Run.result_bind, convertHeader_eq_none hstation]
    rfl
  | some station => exact Asn1.Cpm.convertCpm_result hstation

end Message

end V2xStack
