import V2xStack.Its.Cam

/-!
# Decentralized environmental notification messages

`convertDenm` of `den_message.cpp`, from the ASN.1 DENM to the ROS DENM.

The conversion is a `Run`: every pointer that is followed is recorded. An
optional member is an `Option`, a list element and a mandatory member are never
null. `validityDuration` has a default in the schema, which the decoder fills in;
in C it is a pointer nevertheless, and the conversion follows it without a test.

The path points of the traces are those of the CAM, on both sides. `Asn1.Denm` has
the members that the conversion reads, and the four optional members of the management
container that it does not read.
-/

namespace V2xStack

/-- The pointers that `convertDenm` follows. -/
inductive DenmPlace
  | validityDuration
  | situation
  | linkedCause
  | eventHistory
  | location
  | eventSpeed
  | eventPositionHeading
  | pathDeltaTime
  | roadType
  deriving DecidableEq, Repr

/-! ### The ASN.1 message -/

namespace Asn1

/-- `ActionID_t`. -/
structure ActionID where
  originatingStationID : ℤ
  sequenceNumber : ℤ
  deriving DecidableEq, Repr

/-- `ManagementContainer_t`; the two times are `INTEGER_t`, strings of octets. The
assignments of the optional members but the validity duration are commented out in the
source. -/
structure ManagementContainer where
  actionID : ActionID
  detectionTime : List UInt8
  referenceTime : List UInt8
  termination : Option ℤ := none
  eventPosition : ReferencePosition
  relevanceDistance : Option ℤ := none
  relevanceTrafficDirection : Option ℤ := none
  validityDuration : Option ℤ
  transmissionInterval : Option ℤ := none
  stationType : ℤ
  deriving DecidableEq, Repr

/-- `CauseCode_t`. -/
structure CauseCode where
  causeCode : ℤ
  subCauseCode : ℤ
  deriving DecidableEq, Repr

/-- `EventPoint_t`. -/
structure EventPoint where
  eventPosition : DeltaReferencePosition
  informationQuality : ℤ
  deriving DecidableEq, Repr

/-- `SituationContainer_t`. -/
structure SituationContainer where
  informationQuality : ℤ
  eventType : CauseCode
  linkedCause : Option CauseCode := none
  eventHistory : Option (List EventPoint) := none
  deriving DecidableEq, Repr

/-- `LocationContainer_t`; a trace is a `PathHistory_t`. -/
structure LocationContainer where
  eventSpeed : Option Measured := none
  eventPositionHeading : Option Measured := none
  traces : List (List PathPoint)
  roadType : Option ℤ := none
  deriving DecidableEq, Repr

/-- `vanetza::asn1::r1::Denm`; the containers are in its `denm`. -/
structure Denm where
  header : ItsPduHeader
  management : ManagementContainer
  situation : Option SituationContainer := none
  location : Option LocationContainer := none
  deriving DecidableEq, Repr

end Asn1

/-! ### The ROS message -/

structure ManagementFormat where
  station_id : IntFormat
  sequence_number : IntFormat
  event_position : ReferencePositionFormat
  validity_duration : IntFormat
  station_type : IntFormat

structure CauseCodeFormat where
  cause_code : IntFormat
  sub_cause_code : IntFormat

structure EventPointFormat where
  delta_latitude : IntFormat
  delta_longitude : IntFormat
  delta_altitude : IntFormat
  information_quality : IntFormat

structure SituationFormat where
  information_quality : IntFormat
  event_type : CauseCodeFormat
  linked_cause : CauseCodeFormat
  event_history : EventPointFormat

structure LocationFormat where
  event_speed : MeasuredFormat
  event_position_heading : MeasuredFormat
  /-- Among the formats of the CAM container that path points are also part of. -/
  path_point : LowFrequencyFormat
  road_type : IntFormat

/-- The formats of the fields of `ros_etsi_its_msgs::msg::DENM`. -/
structure DenmFormat where
  its_header : ItsPduHeaderFormat
  management : ManagementFormat
  situation : SituationFormat
  location : LocationFormat

/-- The formats of the released message package. -/
def DenmFormat.released : DenmFormat where
  its_header := ⟨.uint8, .uint8, .uint32⟩
  management :=
    { station_id := .uint32
      sequence_number := .uint16
      event_position := ⟨.int32, .int32, .uint16, .uint16, .uint16, ⟨.int32, .uint8⟩⟩
      validity_duration := .uint32
      station_type := .uint8 }
  situation :=
    { information_quality := .uint8
      event_type := ⟨.uint8, .uint8⟩
      linked_cause := ⟨.uint8, .uint8⟩
      event_history := ⟨.int32, .int32, .int16, .uint8⟩ }
  location :=
    { event_speed := ⟨.uint16, .uint8⟩
      event_position_heading := ⟨.uint16, .uint8⟩
      path_point := CamFormat.released.low_frequency_container
      road_type := .uint8 }

namespace Msg

structure ManagementContainer (F : ManagementFormat) where
  station_id : F.station_id.Value := 0
  sequence_number : F.sequence_number.Value := 0
  detection_time : UInt64 := 0
  reference_time : UInt64 := 0
  event_position : ReferencePosition F.event_position := {}
  validity_duration : F.validity_duration.Value := 0
  station_type : F.station_type.Value := 0
  deriving DecidableEq, Repr

structure CauseCode (F : CauseCodeFormat) where
  cause_code : F.cause_code.Value := 0
  sub_cause_code : F.sub_cause_code.Value := 0
  deriving DecidableEq, Repr

/-- An event point; the three deltas are in its `event_position`. -/
structure EventPoint (F : EventPointFormat) where
  delta_latitude : F.delta_latitude.Value := 0
  delta_longitude : F.delta_longitude.Value := 0
  delta_altitude : F.delta_altitude.Value := 0
  information_quality : F.information_quality.Value := 0
  deriving DecidableEq, Repr

structure SituationContainer (F : SituationFormat) where
  information_quality : F.information_quality.Value := 0
  event_type : CauseCode F.event_type := {}
  has_linked_cause : Bool := false
  linked_cause : CauseCode F.linked_cause := {}
  event_history : List (EventPoint F.event_history) := []
  deriving DecidableEq, Repr

structure LocationContainer (F : LocationFormat) where
  event_speed : Measured F.event_speed := {}
  event_position_heading : Measured F.event_position_heading := {}
  traces : List (List (PathPoint F.path_point)) := []
  road_type : F.road_type.Value := 0
  deriving DecidableEq, Repr

/-- `ros_etsi_its_msgs::msg::DENM`. -/
structure DENM (F : DenmFormat) where
  its_header : ItsPduHeader F.its_header := {}
  management : ManagementContainer F.management := {}
  has_situation : Bool := false
  situation : SituationContainer F.situation := {}
  has_location : Bool := false
  location : LocationContainer F.location := {}
  deriving DecidableEq, Repr

end Msg

/-! ### The parts of the conversion -/

def Msg.CauseCode.ofAsn1 (F : CauseCodeFormat) (c : Asn1.CauseCode) : Msg.CauseCode F where
  cause_code := F.cause_code.assign c.causeCode
  sub_cause_code := F.sub_cause_code.assign c.subCauseCode

/-- The body of the loop over `eventHistory`. -/
def Msg.EventPoint.ofAsn1 (F : EventPointFormat) (p : Asn1.EventPoint) : Msg.EventPoint F where
  delta_latitude := F.delta_latitude.assign p.eventPosition.deltaLatitude
  delta_longitude := F.delta_longitude.assign p.eventPosition.deltaLongitude
  delta_altitude := F.delta_altitude.assign p.eventPosition.deltaAltitude
  information_quality := F.information_quality.assign p.informationQuality

/-- The management part. `asn_INTEGER2uint64` is asn1c's; on an error it leaves its
target alone. -/
def Asn1.ManagementContainer.convert (asn_INTEGER2uint64 : List UInt8 → Option UInt64)
    (F : ManagementFormat) (mngmt : Asn1.ManagementContainer) :
    Run (Access DenmPlace) (Msg.ManagementContainer F) := do
  -- the one optional member that is followed without a test
  let validityDuration ← Run.deref .validityDuration mngmt.validityDuration
  pure
    { station_id := F.station_id.assign mngmt.actionID.originatingStationID
      sequence_number := F.sequence_number.assign mngmt.actionID.sequenceNumber
      detection_time := (asn_INTEGER2uint64 mngmt.detectionTime).getD 0
      reference_time := (asn_INTEGER2uint64 mngmt.referenceTime).getD 0
      event_position := .ofAsn1 F.event_position mngmt.eventPosition
      validity_duration := F.validity_duration.assign validityDuration
      station_type := F.station_type.assign mngmt.stationType }

section Situation

variable (F : SituationFormat) (s : Asn1.SituationContainer)

/-- The linked cause, if the container has one. -/
def Asn1.SituationContainer.assignLinkedCause (msg : Msg.SituationContainer F) :
    Run (Access DenmPlace) (Msg.SituationContainer F) :=
  Run.ifPresent .linkedCause s.linkedCause
    (fun linkedCause => pure
      { msg with
        has_linked_cause := true
        linked_cause := .ofAsn1 F.linked_cause linkedCause })
    (pure msg)

/-- The event history, if the container has one. -/
def Asn1.SituationContainer.assignEventHistory (msg : Msg.SituationContainer F) :
    Run (Access DenmPlace) (Msg.SituationContainer F) :=
  Run.ifPresent .eventHistory s.eventHistory
    (fun eventHistory => do
      let event_history ← Run.forPush eventHistory fun p =>
        pure (Msg.EventPoint.ofAsn1 F.event_history p)
      pure { msg with event_history })
    (pure msg)

/-- The situation part. -/
def Asn1.SituationContainer.convert : Run (Access DenmPlace) (Msg.SituationContainer F) := do
  let msg ← s.assignLinkedCause F
    { information_quality := F.information_quality.assign s.informationQuality
      event_type := .ofAsn1 F.event_type s.eventType }
  s.assignEventHistory F msg

end Situation

/-- The body of the inner loop over the points of a trace. -/
def Asn1.PathPoint.convert (F : LowFrequencyFormat) (p : Asn1.PathPoint) :
    Run (Access DenmPlace) (Msg.PathPoint F) :=
  let path_point : Msg.PathPoint F :=
    { delta_latitude := F.delta_latitude.assign p.pathPosition.deltaLatitude
      delta_longitude := F.delta_longitude.assign p.pathPosition.deltaLongitude
      delta_altitude := F.delta_altitude.assign p.pathPosition.deltaAltitude
      -- overwritten below if the point has a time
      path_delta_time := F.UNAVAILABLE }
  Run.ifPresent .pathDeltaTime p.pathDeltaTime
    (fun t => pure { path_point with path_delta_time := F.path_delta_time.assign t })
    (pure path_point)

section Location

variable (F : LocationFormat) (l : Asn1.LocationContainer)

/-- The event speed, if the container has one. -/
def Asn1.LocationContainer.assignEventSpeed (msg : Msg.LocationContainer F) :
    Run (Access DenmPlace) (Msg.LocationContainer F) :=
  Run.ifPresent .eventSpeed l.eventSpeed
    (fun speed => pure { msg with event_speed := .ofAsn1 F.event_speed speed })
    (pure msg)

/-- The heading, if the container has one. -/
def Asn1.LocationContainer.assignEventPositionHeading (msg : Msg.LocationContainer F) :
    Run (Access DenmPlace) (Msg.LocationContainer F) :=
  Run.ifPresent .eventPositionHeading l.eventPositionHeading
    (fun heading => pure
      { msg with event_position_heading := .ofAsn1 F.event_position_heading heading })
    (pure msg)

/-- The road type, if the container has one. -/
def Asn1.LocationContainer.assignRoadType (msg : Msg.LocationContainer F) :
    Run (Access DenmPlace) (Msg.LocationContainer F) :=
  Run.ifPresent .roadType l.roadType
    (fun roadType => pure { msg with road_type := F.road_type.assign roadType })
    (pure msg)

/-- The location part. -/
def Asn1.LocationContainer.convert : Run (Access DenmPlace) (Msg.LocationContainer F) := do
  let msg ← l.assignEventSpeed F {}
  let msg ← l.assignEventPositionHeading F msg
  let traces ← Run.forPush l.traces fun trace =>
    Run.forPush trace fun p => p.convert F.path_point
  l.assignRoadType F { msg with traces }

end Location

/-! ### The conversion -/

section Conversion

variable (F : DenmFormat) (asn1 : Asn1.Denm)

/-- The situation container, if the message has one. -/
def Asn1.Denm.assignSituation (msg : Msg.DENM F) : Run (Access DenmPlace) (Msg.DENM F) :=
  Run.ifPresent .situation asn1.situation
    (fun s => do
      let situation ← s.convert F.situation
      pure { msg with has_situation := true, situation })
    (pure msg)

/-- The location container, if the message has one. -/
def Asn1.Denm.assignLocation (msg : Msg.DENM F) : Run (Access DenmPlace) (Msg.DENM F) :=
  Run.ifPresent .location asn1.location
    (fun l => do
      let location ← l.convert F.location
      pure { msg with has_location := true, location })
    (pure msg)

/-- `convertDenm`. The result is a pointer that the source never sets to null. -/
def Asn1.Denm.convertDenm (asn_INTEGER2uint64 : List UInt8 → Option UInt64) :
    Run (Access DenmPlace) (Msg.DENM F) := do
  let management ← asn1.management.convert asn_INTEGER2uint64 F.management
  -- `message_id` is not assigned
  let msg : Msg.DENM F := { its_header := .ofAsn1 F.its_header asn1.header, management }
  let msg ← asn1.assignSituation F msg
  asn1.assignLocation F msg

end Conversion

end V2xStack
