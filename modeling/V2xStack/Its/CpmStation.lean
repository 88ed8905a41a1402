import V2xStack.Its.Cpm

/-!
# Station data of a CPM

Which CPMs `convertCpm` can read without leaving the rules for pointers and for
the station data CHOICE.

All members of the originating vehicle container are read through
`stationDataContainer->choice.originatingVehicleContainer`, without a test that
the pointer is not null and without a look at the tag. Everything behind it is
guarded: the lengths, the object container, the age and the classification of an
object are followed only after a null test (`fill_stationSafe`,
`convertObjects_stationSafe`). So the conversion is safe exactly for messages
whose station data are those of a vehicle (`convertCpm_stationSafe_iff`). What it
makes of station data that are there is `convertStationData_result`.
-/

namespace V2xStack

/-- The access follows no null pointer, and does not read the originating vehicle
container of a station that is not a vehicle. -/
def StationSafe : Access CpmPlace → Prop
  | .deref _ null => null = false
  | .member .originatingVehicleContainer selected => selected = true
  | _ => True

/-- The station data container is present and its tag is the vehicle's. -/
def Asn1.Cpm.OfVehicle (a : Asn1.Cpm) : Prop :=
  ∃ station, a.cpmParameters.stationDataContainer = some station ∧
    station.present = .originatingVehicleContainer

/-! ### The perceived objects are guarded -/

section Objects

variable {F : PerceivedObjectFormat}

/-- The age is followed after a test, and then assigned. -/
theorem assignAge_allAccesses {q : Access CpmPlace → Prop} (hq : q (.deref .objectAge false))
    (s : Msg.PerceivedObject F) (o : Asn1.PerceivedObject) :
    (s.assignAge F o).AllAccesses q :=
  Run.allAccesses_ifPresent_pure _ hq _ _ _

theorem classify_stationSafe (c : Asn1.ObjectClass) : c.classify.AllAccesses StationSafe := by
  unfold Asn1.ObjectClass.classify
  split
  · simp [StationSafe]
  · simp [StationSafe]

/-- One iteration follows only pointers that it tested. -/
theorem fill_stationSafe (perceived_object : Msg.PerceivedObject F)
    (objCont : Asn1.PerceivedObject) :
    (perceived_object.fill F objCont).AllAccesses StationSafe := by
  unfold Msg.PerceivedObject.fill
  rw [Run.allAccesses_bind]
  refine ⟨assignAge_allAccesses (q := StationSafe) rfl _ objCont, fun object _ => ?_⟩
  rw [Msg.PerceivedObject.assignClassification,
    Run.allAccesses_ifPresent (q := StationSafe) _ _ _ rfl]
  refine ⟨fun list _ => ?_, fun _ => Run.allAccesses_pure _ _⟩
  split
  -- the array access and the reads of the class are not restricted here
  · simp [StationSafe, classify_stationSafe]
  · exact Run.allAccesses_pure _ _

theorem convertObjects_stationSafe (objects : List Asn1.PerceivedObject) :
    (Asn1.Cpm.convertObjects F objects).AllAccesses StationSafe := by
  unfold Asn1.Cpm.convertObjects
  rw [Run.allAccesses_bind]
  refine ⟨Run.allAccesses_foldlM (fun objCont _ s => ?_) _, fun _ _ => by simp⟩
  rw [Run.allAccesses_bind]
  exact ⟨fill_stationSafe s.1 objCont, fun _ _ => by simp⟩

end Objects

/-! ### The station data are not -/

section Station

variable {a : Asn1.Cpm}

theorem originatingVehicle_result {station : Asn1.StationDataContainer}
    (h : a.cpmParameters.stationDataContainer = some station) :
    a.originatingVehicle.result = some station.originatingVehicleContainer := by
  rw [Asn1.Cpm.originatingVehicle, h]
  rfl

variable {F : OriginatingVehicleFormat}

variable (F) in
/-- The converted vehicle container: of the width only the flag. -/
def Asn1.OriginatingVehicleContainer.image (v : Asn1.OriginatingVehicleContainer) :
    Msg.OriginatingVehicleContainer F where
  heading := .ofAsn1 F.heading v.heading
  speed := .ofAsn1 F.speed v.speed
  drive_direction := F.drive_direction.assign v.driveDirection
  has_vehicle_length := v.vehicleLength.isSome
  vehicle_length := (v.vehicleLength.map (Msg.Measured.ofAsn1 F.vehicle_length)).getD {}
  has_vehicle_width := v.vehicleWidth.isSome

theorem assignVehicleLength_result {station : Asn1.StationDataContainer}
    (h : a.cpmParameters.stationDataContainer = some station)
    {msg : Msg.OriginatingVehicleContainer F} (hflag : msg.has_vehicle_length = false) :
    (a.assignVehicleLength F msg).result
      = some { msg with
          has_vehicle_length := station.originatingVehicleContainer.vehicleLength.isSome
          vehicle_length :=
            (station.originatingVehicleContainer.vehicleLength.map
              (Msg.Measured.ofAsn1 F.vehicle_length)).getD msg.vehicle_length } := by
  rw [Asn1.Cpm.assignVehicleLength, Run.result_bind, originatingVehicle_result h,
    Option.bind_some]
  -- the flag is false before, so it says whether the length is there
  cases station.originatingVehicleContainer.vehicleLength with
  | none =>
    rw [Option.isSome_none, ← hflag]
    rfl
  | some length => rfl

theorem assignVehicleWidth_result {station : Asn1.StationDataContainer}
    (h : a.cpmParameters.stationDataContainer = some station)
    {msg : Msg.OriginatingVehicleContainer F} (hflag : msg.has_vehicle_width = false) :
    (a.assignVehicleWidth F msg).result
      = some { msg with
          has_vehicle_width := station.originatingVehicleContainer.vehicleWidth.isSome } := by
  rw [Asn1.Cpm.assignVehicleWidth, Run.result_bind, originatingVehicle_result h,
    Option.bind_some]
  cases station.originatingVehicleContainer.vehicleWidth with
  | none =>
    rw [if_neg (by decide), Run.result_pure, Option.isSome_none, ← hflag]
  | some width => rfl

/-- With the station data present the conversion returns them in closed form. -/
theorem convertStationData_result {station : Asn1.StationDataContainer}
    (h : a.cpmParameters.stationDataContainer = some station) :
    (a.convertStationData F).result = some (station.originatingVehicleContainer.image F) := by
  simp only [Asn1.Cpm.convertStationData, Run.result_bind, originatingVehicle_result h,
    Option.bind_some]
  rw [assignVehicleLength_result h rfl, Option.bind_some, assignVehicleWidth_result h rfl]
  rfl

/-- One read of the originating vehicle container. -/
theorem originatingVehicle_stationSafe_iff :
    a.originatingVehicle.AllAccesses StationSafe ↔ a.OfVehicle := by
  unfold Asn1.Cpm.originatingVehicle Asn1.Cpm.OfVehicle
  cases hstation : a.cpmParameters.stationDataContainer with
  | none => simp [StationSafe]
  | some station => simp [StationSafe]

/-- The station data part makes reads of the originating vehicle container, and
follows the vehicle length after a test. -/
theorem convertStationData_allAccesses {q : Access CpmPlace → Prop}
    (hread : a.originatingVehicle.AllAccesses q) (hq : q (.deref .vehicleLength false)) :
    (a.convertStationData F).AllAccesses q := by
  have hlength : ∀ msg, (a.assignVehicleLength F msg).AllAccesses q := by
    intro msg
    rw [Asn1.Cpm.assignVehicleLength, Run.allAccesses_bind]
    exact ⟨hread, fun vehicle _ => Run.allAccesses_ifPresent_pure _ hq _ _ _⟩
  have hwidth : ∀ msg, (a.assignVehicleWidth F msg).AllAccesses q := by
    intro msg
    rw [Asn1.Cpm.assignVehicleWidth, Run.allAccesses_bind]
    exact ⟨hread, fun _ _ => Run.allAccesses_pure _ _⟩
  unfold Asn1.Cpm.convertStationData
  -- every step is one more read, or one of the two parts
  simp only [Run.allAccesses_bind, hread, hlength, hwidth, implies_true, and_self]

/-- All reads together. -/
theorem convertStationData_stationSafe_iff (F : OriginatingVehicleFormat) :
    (a.convertStationData F).AllAccesses StationSafe ↔ a.OfVehicle := by
  constructor
  · intro h
    -- the first access already reads the container
    unfold Asn1.Cpm.convertStationData at h
    rw [Run.allAccesses_bind] at h
    exact originatingVehicle_stationSafe_iff.mp h.1
  · intro h
    exact convertStationData_allAccesses (originatingVehicle_stationSafe_iff.mpr h) rfl

end Station

/-- **Station data, exactly.** `convertCpm` follows no null pointer and reads the
originating vehicle container only when the tag selects it, if and only if the
station data container is present and is the one of a vehicle; whatever else the
message has or lacks. -/
theorem convertCpm_stationSafe_iff (F : CpmFormat) (a : Asn1.Cpm) :
    (a.convertCpm F).AllAccesses StationSafe ↔ a.OfVehicle := by
  have hheader : (a.convertHeader F).AllAccesses StationSafe ↔ a.OfVehicle := by
    rw [Asn1.Cpm.convertHeader, Run.allAccesses_bind, convertStationData_stationSafe_iff]
    exact and_iff_left fun _ _ => Run.allAccesses_pure _ _
  rw [Asn1.Cpm.convertCpm, Run.allAccesses_bind, hheader]
  refine and_iff_left fun msg _ => ?_
  -- behind the station data nothing can go wrong
  unfold Asn1.Cpm.assignObjects
  split
  · rw [Run.allAccesses_ifPresent (q := StationSafe) _ _ _ rfl]
    refine ⟨fun objects _ => ?_, fun _ => Run.allAccesses_pure _ _⟩
    rw [Run.allAccesses_bind]
    exact ⟨convertObjects_stationSafe objects, fun _ _ => Run.allAccesses_pure _ _⟩
  · exact Run.allAccesses_pure _ _

/-- A CPM without objects, by its station data. -/
def stationCpm (station : Option Asn1.StationDataContainer) : Asn1.Cpm where
  header := { protocolVersion := 2, messageID := 14, stationID := 4711 }
  generationDeltaTime := 1000
  cpmParameters :=
    { managementContainer :=
        { stationType := 15
          referencePosition :=
            { latitude := 487600000
              longitude := 114200000
              positionConfidenceEllipse := ⟨50, 50, 900⟩
              altitude := ⟨37000, 15⟩ } }
      stationDataContainer := station
      perceivedObjectContainer := none
      numberOfPerceivedObjects := 0 }

/-- Without station data the first read follows a null pointer. -/
theorem stationCpm_none_not_stationSafe :
    ¬((stationCpm none).convertCpm .released).AllAccesses StationSafe := by
  intro h
  have hmem : Access.deref .stationDataContainer true
      ∈ ((stationCpm none).convertCpm .released).accesses := by decide
  exact absurd (h _ hmem) (by simp [StationSafe])

end V2xStack
