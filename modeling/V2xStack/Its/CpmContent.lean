import V2xStack.Its.CpmCarryOver
import V2xStack.Its.CpmClass

/-!
# What a release 1 CPM keeps

When two CPMs are published as the same message, as far as the members go that the
conversion reads. The ASN.1 types of the model have no others: the distance and the speed in
height, the accelerations, the orientation, the second and further classes and the like are
dropped in any case.

`shown` is what is published of a list of objects, in terms of the objects: the members that
every entry has, and the age and the station type that are carried to it. A message that
fits is published by its shown parts, and these can be read off the published message
(`convertCpm_eq_iff`). So of the members that are read of an object, nothing but the missing
of an age or of a class is lost; and of the rest of the message, the message identifier, the
width of the vehicle and objects that are not announced.
-/

namespace V2xStack

/-! ### Objects -/

namespace Asn1

/-- What every entry has of its object: the members that the loop assigns each time. -/
def PerceivedObject.own (o : PerceivedObject) : PerceivedObject :=
  { o with objectAge := none, classification := none }

/-- What an entry shows. -/
structure ShownObject where
  own : PerceivedObject
  age : ℤ
  stationType : StationType
  deriving DecidableEq

/-- The age that is carried to the last of the objects. -/
def carriedAge (objects : List PerceivedObject) : ℤ :=
  (latest PerceivedObject.objectAge objects).getD 0

/-- The station type that is carried to the last of the objects. -/
def carriedType (objects : List PerceivedObject) : StationType :=
  ((latest PerceivedObject.firstClass objects).map ObjectClass.image).getD .UNKNOWN

/-- What is shown of the objects. -/
def shown (objects : List PerceivedObject) : List ShownObject :=
  objects.mapIdx fun i o =>
    ⟨o.own, carriedAge (objects.take (i + 1)), carriedType (objects.take (i + 1))⟩

/-- Every integer of the object is in the range of its field. -/
structure PerceivedObject.Fits (F : PerceivedObjectFormat) (o : PerceivedObject) : Prop where
  objectID : F.object_id.InRange o.objectID
  timeOfMeasurement : F.time_of_measurement.InRange o.timeOfMeasurement
  objectAge : ∀ age, o.objectAge = some age → F.object_age.InRange age
  objectConfidence : F.object_confidence.InRange o.objectConfidence
  xDistance : o.xDistance.Fits F.x_distance
  yDistance : o.yDistance.Fits F.y_distance
  xSpeed : o.xSpeed.Fits F.x_speed
  ySpeed : o.ySpeed.Fits F.y_speed

end Asn1

/-- The constants of the message package: they are different, and `UNKNOWN` is what an
unassigned field holds. -/
structure PerceivedObjectFormat.Distinct (F : PerceivedObjectFormat) : Prop where
  injective : Function.Injective F.stationType
  unknown : F.stationType .UNKNOWN = 0

section Objects

variable {F : PerceivedObjectFormat}

variable (F) in
/-- The entry that shows it. -/
def Asn1.ShownObject.entry (s : Asn1.ShownObject) : Msg.PerceivedObject F :=
  { ({} : Msg.PerceivedObject F).assignMandatory F s.own with
    object_age := F.object_age.assign s.age
    classification := F.stationType s.stationType }

variable (F) in
theorem age_eq_carriedAge (objects : List Asn1.PerceivedObject) :
    ((latest Asn1.PerceivedObject.objectAge objects).map F.object_age.assign).getD 0
      = F.object_age.assign (Asn1.carriedAge objects) := by
  rw [Asn1.carriedAge]
  cases latest Asn1.PerceivedObject.objectAge objects with
  | none => exact IntFormat.assign_zero.symm
  | some age => rfl

theorem classification_eq_carriedType (hF : F.Distinct) (objects : List Asn1.PerceivedObject) :
    ((latest Asn1.PerceivedObject.firstClass objects).map fun c => F.stationType c.image).getD 0
      = F.stationType (Asn1.carriedType objects) := by
  rw [Asn1.carriedType]
  cases latest Asn1.PerceivedObject.firstClass objects with
  | none => exact hF.unknown.symm
  | some c => rfl

/-- **The entries show what is shown.** -/
theorem entryImages_eq_map (hF : F.Distinct) (objects : List Asn1.PerceivedObject) :
    entryImages F objects = (Asn1.shown objects).map (Asn1.ShownObject.entry F) := by
  ext1 i
  rw [entryImages, Asn1.shown, List.getElem?_mapIdx, List.getElem?_map, List.getElem?_mapIdx]
  cases objects[i]? with
  | none => rfl
  | some o =>
    change some (entryImage F (objects.take (i + 1)) o) = some _
    -- the two carried values of the loop are the two that the entry shows
    rw [entryImage, age_eq_carriedAge, classification_eq_carriedType hF]
    rfl

/-- What is shown fits. -/
structure Asn1.ShownObject.Fits (F : PerceivedObjectFormat) (s : Asn1.ShownObject) : Prop where
  own : s.own.Fits F
  age : F.object_age.InRange s.age
  bare : s.own.own = s.own

theorem Asn1.carriedAge_inRange {objects : List Asn1.PerceivedObject}
    (h : ∀ o ∈ objects, o.Fits F) : F.object_age.InRange (Asn1.carriedAge objects) := by
  rw [Asn1.carriedAge]
  -- the age is that of some object in front, or the zero of the message type
  cases hlatest : latest Asn1.PerceivedObject.objectAge objects with
  | none => exact F.object_age.inRange_zero
  | some age =>
    obtain ⟨o, ho, hage⟩ := exists_mem_of_latest hlatest
    exact (h o ho).objectAge age hage

/-- It does when the objects do. -/
theorem Asn1.ShownObject.fits_of_mem {objects : List Asn1.PerceivedObject}
    (h : ∀ o ∈ objects, o.Fits F) {s : Asn1.ShownObject} (hs : s ∈ Asn1.shown objects) :
    s.Fits F := by
  obtain ⟨i, hi, rfl⟩ := List.mem_mapIdx.mp hs
  have ho := h objects[i] (List.getElem_mem hi)
  refine ⟨?_, Asn1.carriedAge_inRange fun o hmem => h o (List.mem_of_mem_take hmem), rfl⟩
  exact { ho with objectAge := fun age hage => absurd hage (by simp [PerceivedObject.own]) }

/-- Objects that fit are told by the members that an entry has of them. -/
theorem Asn1.PerceivedObject.own_eq_of_assignMandatory {o o' : Asn1.PerceivedObject}
    (h : o.Fits F) (h' : o'.Fits F) {p : Msg.PerceivedObject F}
    (heq : p.assignMandatory F o = p.assignMandatory F o') : o.own = o'.own := by
  have hid := IntFormat.eq_of_assign_eq h.objectID h'.objectID
    (congrArg Msg.PerceivedObject.object_id heq)
  have htime := IntFormat.eq_of_assign_eq h.timeOfMeasurement h'.timeOfMeasurement
    (congrArg Msg.PerceivedObject.time_of_measurement heq)
  have hconfidence := IntFormat.eq_of_assign_eq h.objectConfidence h'.objectConfidence
    (congrArg Msg.PerceivedObject.object_confidence heq)
  have hx := Msg.Measured.ofAsn1_injOn_fits h.xDistance h'.xDistance
    (congrArg Msg.PerceivedObject.x_distance heq)
  have hy := Msg.Measured.ofAsn1_injOn_fits h.yDistance h'.yDistance
    (congrArg Msg.PerceivedObject.y_distance heq)
  have hvx := Msg.Measured.ofAsn1_injOn_fits h.xSpeed h'.xSpeed
    (congrArg Msg.PerceivedObject.x_speed heq)
  have hvy := Msg.Measured.ofAsn1_injOn_fits h.ySpeed h'.ySpeed
    (congrArg Msg.PerceivedObject.y_speed heq)
  -- the age and the classification are left out of both
  rw [own, own, PerceivedObject.mk.injEq]
  exact ⟨hid, htime, rfl, hconfidence, hx, hy, hvx, hvy, rfl⟩

/-- Entries tell what they show. -/
theorem Asn1.ShownObject.entry_injOn (hF : F.Distinct) :
    Set.InjOn (Asn1.ShownObject.entry F) {s | s.Fits F} := by
  rintro ⟨o, age, type⟩ hs ⟨o', age', type'⟩ hs' heq
  obtain rfl : age = age' := IntFormat.eq_of_assign_eq hs.age hs'.age
    (congrArg Msg.PerceivedObject.object_age heq)
  obtain rfl : type = type' := hF.injective (congrArg Msg.PerceivedObject.classification heq)
  -- the rest of the entries are the members of their own
  have hmandatory : ({} : Msg.PerceivedObject F).assignMandatory F o
      = ({} : Msg.PerceivedObject F).assignMandatory F o' :=
    congrArg (fun p : Msg.PerceivedObject F =>
      { p with object_age := 0, classification := 0 }) heq
  have hown := PerceivedObject.own_eq_of_assignMandatory hs.own hs'.own hmandatory
  obtain rfl : o = o' := hs.bare.symm.trans (hown.trans hs'.bare)
  rfl

/-- **Lists of entries tell what they show.** -/
theorem entryImages_eq_iff (hF : F.Distinct) {objects objects' : List Asn1.PerceivedObject}
    (h : ∀ o ∈ objects, o.Fits F) (h' : ∀ o ∈ objects', o.Fits F) :
    entryImages F objects = entryImages F objects' ↔
      Asn1.shown objects = Asn1.shown objects' := by
  rw [entryImages_eq_map hF, entryImages_eq_map hF]
  -- an entry tells what it shows, since every member fits its field
  exact (injOn_map (Asn1.ShownObject.entry_injOn hF)).eq_iff
    (fun s hs => Asn1.ShownObject.fits_of_mem h hs)
    (fun s hs => Asn1.ShownObject.fits_of_mem h' hs)

end Objects

/-! ### Whole messages -/

section Messages

variable {F : CpmFormat}

/-- The container with the width replaced by its presence. -/
def Asn1.OriginatingVehicleContainer.shown (v : Asn1.OriginatingVehicleContainer) :
    Asn1.OriginatingVehicleContainer :=
  { v with vehicleWidth := v.vehicleWidth.map fun _ => 0 }

structure Asn1.OriginatingVehicleContainer.Fits (F : OriginatingVehicleFormat)
    (v : Asn1.OriginatingVehicleContainer) : Prop where
  heading : v.heading.Fits F.heading
  speed : v.speed.Fits F.speed
  driveDirection : F.drive_direction.InRange v.driveDirection
  vehicleLength : ∀ length, v.vehicleLength = some length → length.Fits F.vehicle_length

theorem map_const_eq {α β : Type} {o o' : Option α} (b : β) (h : o.isSome = o'.isSome) :
    (o.map fun _ => b) = o'.map fun _ => b := by
  cases o with
  | none =>
    cases o' with
    | none => rfl
    | some y => exact absurd h (by simp)
  | some x =>
    cases o' with
    | none => exact absurd h (by simp)
    | some y => rfl

theorem Asn1.OriginatingVehicleContainer.image_shown {F : OriginatingVehicleFormat}
    (v : Asn1.OriginatingVehicleContainer) : v.shown.image F = v.image F := by
  rw [image, image, shown, Option.isSome_map]

theorem Asn1.OriginatingVehicleContainer.image_eq_iff {F : OriginatingVehicleFormat}
    {v v' : Asn1.OriginatingVehicleContainer} (h : v.Fits F) (h' : v'.Fits F) :
    v.image F = v'.image F ↔ v.shown = v'.shown := by
  constructor
  · intro heq
    have hheading := Msg.Measured.ofAsn1_injOn_fits h.heading h'.heading
      (congrArg Msg.OriginatingVehicleContainer.heading heq)
    have hspeed := Msg.Measured.ofAsn1_injOn_fits h.speed h'.speed
      (congrArg Msg.OriginatingVehicleContainer.speed heq)
    have hdirection := IntFormat.eq_of_assign_eq h.driveDirection h'.driveDirection
      (congrArg Msg.OriginatingVehicleContainer.drive_direction heq)
    have hlength := (flag_map_getD_inj Msg.Measured.ofAsn1_injOn_fits h.vehicleLength
      h'.vehicleLength).mp ⟨congrArg Msg.OriginatingVehicleContainer.has_vehicle_length heq,
        congrArg Msg.OriginatingVehicleContainer.vehicle_length heq⟩
    -- of the width only the flag is published
    have hwidth := map_const_eq (0 : ℤ)
      (congrArg Msg.OriginatingVehicleContainer.has_vehicle_width heq)
    rw [shown, shown, OriginatingVehicleContainer.mk.injEq]
    exact ⟨hheading, hspeed, hdirection, hlength, hwidth⟩
  · intro heq
    rw [← v.image_shown, heq, v'.image_shown]

variable (F) in
/-- The CPM of a vehicle whose integers are in the ranges of their fields. -/
structure Asn1.Cpm.Fits (a : Asn1.Cpm) : Prop where
  protocolVersion : F.its_header.protocol_version.InRange a.header.protocolVersion
  stationID : F.its_header.station_id.InRange a.header.stationID
  generationDeltaTime : F.generation_delta_time.InRange a.generationDeltaTime
  stationType : F.station_type.InRange a.cpmParameters.managementContainer.stationType
  referencePosition :
    a.cpmParameters.managementContainer.referencePosition.Fits F.reference_position
  ofVehicle : a.OfVehicle
  originatingVehicle : ∀ station, a.cpmParameters.stationDataContainer = some station →
    station.originatingVehicleContainer.Fits F.originating_vehicle_container
  numberOfPerceivedObjects :
    F.number_of_perceived_objects.InRange a.cpmParameters.numberOfPerceivedObjects
  objects : ∀ o ∈ a.objects, o.Fits F.perceived_object

/-- What is published of the messages is the same. -/
structure Asn1.Cpm.Alike (a a' : Asn1.Cpm) : Prop where
  protocolVersion : a.header.protocolVersion = a'.header.protocolVersion
  stationID : a.header.stationID = a'.header.stationID
  generationDeltaTime : a.generationDeltaTime = a'.generationDeltaTime
  managementContainer :
    a.cpmParameters.managementContainer = a'.cpmParameters.managementContainer
  originatingVehicle :
    (a.cpmParameters.stationDataContainer.map fun station =>
      station.originatingVehicleContainer.shown)
      = a'.cpmParameters.stationDataContainer.map fun station =>
        station.originatingVehicleContainer.shown
  numberOfPerceivedObjects :
    a.cpmParameters.numberOfPerceivedObjects = a'.cpmParameters.numberOfPerceivedObjects
  objects : 0 < a.cpmParameters.numberOfPerceivedObjects →
    Asn1.shown a.objects = Asn1.shown a'.objects

/-- The list is published when the announced number is positive. -/
theorem Asn1.Cpm.Fits.positive_iff {a : Asn1.Cpm} (h : a.Fits F) :
    0 < (F.number_of_perceived_objects.assign a.cpmParameters.numberOfPerceivedObjects).val ↔
      0 < a.cpmParameters.numberOfPerceivedObjects := by
  rw [IntFormat.assign_val_of_inRange h.numberOfPerceivedObjects]

/-- The message tells what is shown, -/
theorem Asn1.Cpm.alike_of_image_eq (hF : F.perceived_object.Distinct) {a a' : Asn1.Cpm}
    (h : a.Fits F) (h' : a'.Fits F) {station station' : Asn1.StationDataContainer}
    (hstation : a.cpmParameters.stationDataContainer = some station)
    (hstation' : a'.cpmParameters.stationDataContainer = some station')
    (heq : a.image F station = a'.image F station') : a.Alike a' := by
  have hheader := congrArg Msg.CPM.its_header heq
  have hvehicle : station.originatingVehicleContainer.shown
      = station'.originatingVehicleContainer.shown :=
    (Asn1.OriginatingVehicleContainer.image_eq_iff (h.originatingVehicle station hstation)
      (h'.originatingVehicle station' hstation')).mp
      (congrArg Msg.CPM.originating_vehicle_container heq)
  have hnumber := IntFormat.eq_of_assign_eq h.numberOfPerceivedObjects
    h'.numberOfPerceivedObjects (congrArg Msg.CPM.number_of_perceived_objects heq)
  have hstationType := IntFormat.eq_of_assign_eq h.stationType h'.stationType
    (congrArg Msg.CPM.station_type heq)
  have hposition := Msg.ReferencePosition.ofAsn1_injOn_fits h.referencePosition
    h'.referencePosition (congrArg Msg.CPM.reference_position heq)
  -- the header comes without its message identifier
  refine ⟨IntFormat.eq_of_assign_eq h.protocolVersion h'.protocolVersion
      (congrArg Msg.ItsPduHeader.protocol_version hheader),
    IntFormat.eq_of_assign_eq h.stationID h'.stationID
      (congrArg Msg.ItsPduHeader.station_id hheader),
    IntFormat.eq_of_assign_eq h.generationDeltaTime h'.generationDeltaTime
      (congrArg Msg.CPM.generation_delta_time heq), ?_, ?_, hnumber, fun hpos => ?_⟩
  · -- the management container has two members, and both are published
    calc a.cpmParameters.managementContainer
        = ⟨a.cpmParameters.managementContainer.stationType,
            a.cpmParameters.managementContainer.referencePosition⟩ := rfl
      _ = a'.cpmParameters.managementContainer := by rw [hstationType, hposition]
  · -- both have station data, so the shown containers are what is left to compare
    rw [hstation, hstation', Option.map_some, Option.map_some, hvehicle]
  · -- with a positive number both lists are published
    have hlist := congrArg Msg.CPM.list_of_perceived_objects heq
    rw [Asn1.Cpm.image_objects, Asn1.Cpm.image_objects, if_pos (h.positive_iff.mpr hpos),
      if_pos (h'.positive_iff.mpr (hnumber ▸ hpos))] at hlist
    exact (entryImages_eq_iff hF h.objects h'.objects).mp hlist

/-- and is made of it. -/
theorem Asn1.Cpm.image_eq_of_alike (hF : F.perceived_object.Distinct) {a a' : Asn1.Cpm}
    (h : a.Fits F) (h' : a'.Fits F) {station station' : Asn1.StationDataContainer}
    (hstation : a.cpmParameters.stationDataContainer = some station)
    (hstation' : a'.cpmParameters.stationDataContainer = some station')
    (halike : a.Alike a') : a.image F station = a'.image F station' := by
  have hvehicle : station.originatingVehicleContainer.image F.originating_vehicle_container
      = station'.originatingVehicleContainer.image F.originating_vehicle_container := by
    have hshown := halike.originatingVehicle
    rw [hstation, hstation', Option.map_some, Option.map_some, Option.some_inj] at hshown
    exact (Asn1.OriginatingVehicleContainer.image_eq_iff (h.originatingVehicle station hstation)
      (h'.originatingVehicle station' hstation')).mpr hshown
  have hheader : Msg.ItsPduHeader.ofAsn1 F.its_header a.header
      = Msg.ItsPduHeader.ofAsn1 F.its_header a'.header := by
    rw [Msg.ItsPduHeader.ofAsn1, Msg.ItsPduHeader.ofAsn1, halike.protocolVersion,
      halike.stationID]
  have hfront : a.headerImage F station = a'.headerImage F station' := by
    rw [Asn1.Cpm.headerImage, Asn1.Cpm.headerImage, hheader, halike.generationDeltaTime,
      halike.managementContainer, hvehicle, halike.numberOfPerceivedObjects]
  have hlist : (a.image F station).list_of_perceived_objects
      = (a'.image F station').list_of_perceived_objects := by
    rw [Asn1.Cpm.image_objects, Asn1.Cpm.image_objects, ← halike.numberOfPerceivedObjects]
    -- without an announced object neither list is looked at
    by_cases hpos : 0 < a.cpmParameters.numberOfPerceivedObjects
    · rw [(entryImages_eq_iff hF h.objects h'.objects).mpr (halike.objects hpos)]
    · rw [if_neg fun hval => hpos (h.positive_iff.mp hval),
        if_neg fun hval => hpos (h.positive_iff.mp hval)]
  rw [a.image_eq_headerImage, a'.image_eq_headerImage, hfront, hlist]

/-- **What a release 1 CPM keeps, exactly**, of the members that are read. CPMs of vehicles
that fit are published as the same message if and only if they are alike: the message
identifier, the value of a width and objects behind an announced number of zero do not
show, and neither does whether an age or a class is an object's own. -/
theorem convertCpm_eq_iff (F : CpmFormat) (hF : F.perceived_object.Distinct)
    {a a' : Asn1.Cpm} (h : a.Fits F) (h' : a'.Fits F) :
    (a.convertCpm F).result = (a'.convertCpm F).result ↔ a.Alike a' := by
  obtain ⟨station, hstation, -⟩ := h.ofVehicle
  obtain ⟨station', hstation', -⟩ := h'.ofVehicle
  -- both messages are converted, so their images are compared
  rw [Asn1.Cpm.convertCpm_result hstation, Asn1.Cpm.convertCpm_result hstation', Option.some_inj]
  exact ⟨Asn1.Cpm.alike_of_image_eq hF h h' hstation hstation',
    Asn1.Cpm.image_eq_of_alike hF h h' hstation hstation'⟩

theorem released_distinct : CpmFormat.released.perceived_object.Distinct :=
  ⟨released_stationType_injective, rfl⟩

theorem plainObject_fits : plainObject.Fits CpmFormat.released.perceived_object where
  objectID := by decide
  timeOfMeasurement := by decide
  objectAge age hage := absurd hage (by simp [plainObject])
  objectConfidence := by decide
  xDistance := ⟨by decide, by decide⟩
  yDistance := ⟨by decide, by decide⟩
  xSpeed := ⟨by decide, by decide⟩
  ySpeed := ⟨by decide, by decide⟩

theorem personObject_fits : personObject.Fits CpmFormat.released.perceived_object :=
  { plainObject_fits with
    objectAge := fun age hage => by
      obtain rfl : 40 = age := Option.some.inj hage
      decide }

theorem twoObjectsCpm_fits {first second : Asn1.PerceivedObject}
    (h : first.Fits CpmFormat.released.perceived_object)
    (h' : second.Fits CpmFormat.released.perceived_object) :
    (twoObjectsCpm first second).Fits .released where
  protocolVersion := by change IntFormat.uint8.InRange 2; decide
  stationID := by change IntFormat.uint32.InRange 4711; decide
  generationDeltaTime := by change IntFormat.uint16.InRange 1000; decide
  stationType := by change IntFormat.uint8.InRange 15; decide
  referencePosition :=
    have hposition : (stationCpm none).cpmParameters.managementContainer.referencePosition.Fits
        CpmFormat.released.reference_position :=
      ⟨⟨by decide, by decide⟩, by decide, by decide, by decide, by decide, by decide⟩
    hposition
  ofVehicle := (twoObjectsCpm_announces first second).ofVehicle
  originatingVehicle station hstation := by
    obtain rfl := Option.some.inj hstation
    exact ⟨⟨by decide, by decide⟩, ⟨by decide, by decide⟩, by decide,
      fun length hlength => absurd hlength (by simp)⟩
  numberOfPerceivedObjects := (twoObjectsCpm_announces first second).inRange
  objects := List.forall_mem_cons.mpr ⟨h, List.forall_mem_singleton.mpr h'⟩

/-- An object without age and class behind a pedestrian is published as the pedestrian is
published again. -/
theorem twoObjectsCpm_alike :
    ((twoObjectsCpm personObject plainObject).convertCpm .released).result
        = ((twoObjectsCpm personObject personObject).convertCpm .released).result ↔
      (twoObjectsCpm personObject plainObject).Alike (twoObjectsCpm personObject personObject) :=
  convertCpm_eq_iff .released released_distinct
    (twoObjectsCpm_fits personObject_fits plainObject_fits)
    (twoObjectsCpm_fits personObject_fits personObject_fits)

end Messages

end V2xStack
