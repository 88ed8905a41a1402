import V2xStack.Foundation.Bytes
import V2xStack.Its.DenmRanges

/-!
# Optional content of DENMs

Which DENMs `convertDenm` publishes as the same message.

The assignments of four optional members of the management container are commented out
in the source: whether a DENM is a cancellation, how far and for which traffic it is
relevant, and how often it is repeated. They are not read at all
(`convertDenm_withUncopied`). An absent road type is published as the first one.

`image_eq_iff` says that this is all: DENMs in the ranges of the schema are published
as the same message if and only if they are `Alike`, which is to agree in every member
that is copied. `convertDenm_distinguishes_iff` is what follows for DENMs with
different optional content.
-/

namespace V2xStack

open Asn1.Range

/-! ### Messages in the ranges of the schema -/

structure Asn1.ManagementContainer.InRanges (m : Asn1.ManagementContainer) : Prop where
  originatingStationID : m.actionID.originatingStationID ∈ StationID
  sequenceNumber : m.actionID.sequenceNumber ∈ SequenceNumber
  termination : ∀ t, m.termination = some t → t ∈ Termination
  eventPosition : m.eventPosition.InRanges
  relevanceDistance : ∀ d, m.relevanceDistance = some d → d ∈ RelevanceDistance
  relevanceTrafficDirection :
    ∀ d, m.relevanceTrafficDirection = some d → d ∈ RelevanceTrafficDirection
  validityDuration : ∀ v, m.validityDuration = some v → v ∈ ValidityDuration
  transmissionInterval : ∀ t, m.transmissionInterval = some t → t ∈ TransmissionInterval
  stationType : m.stationType ∈ Asn1.Range.StationType

/-- Every integer of the message is in its range. -/
structure Asn1.Denm.InRanges (a : Asn1.Denm) : Prop where
  protocolVersion : a.header.protocolVersion ∈ ProtocolVersion
  messageID : a.header.messageID ∈ MessageID
  stationID : a.header.stationID ∈ StationID
  management : a.management.InRanges
  situation : ∀ s, a.situation = some s → s.InRanges
  location : ∀ l, a.location = some l → l.InRanges

structure ManagementFormat.HoldsRanges (F : ManagementFormat) : Prop where
  station_id : F.station_id.Holds StationID
  sequence_number : F.sequence_number.Holds SequenceNumber
  event_position : F.event_position.HoldsRanges
  validity_duration : F.validity_duration.Holds ValidityDuration
  station_type : F.station_type.Holds Asn1.Range.StationType

/-- The fields of the ROS message have all integers of the ranges. -/
structure DenmFormat.HoldsRanges (F : DenmFormat) : Prop where
  protocol_version : F.its_header.protocol_version.Holds ProtocolVersion
  station_id : F.its_header.station_id.Holds StationID
  management : F.management.HoldsRanges
  situation : F.situation.HoldsRanges
  location : F.location.HoldsRanges

/-! ### What is published as the same message -/

section Alike

variable {asn_INTEGER2uint64 : List UInt8 → Option UInt64} {F : DenmFormat} {a b : Asn1.Denm}

variable (asn_INTEGER2uint64) in
/-- The messages agree in every member that is copied. Times are compared as integers,
and an absent road type counts as the first one. -/
structure Asn1.Denm.Alike (a b : Asn1.Denm) : Prop where
  protocolVersion : a.header.protocolVersion = b.header.protocolVersion
  stationID : a.header.stationID = b.header.stationID
  actionID : a.management.actionID = b.management.actionID
  detectionTime : (asn_INTEGER2uint64 a.management.detectionTime).getD 0
    = (asn_INTEGER2uint64 b.management.detectionTime).getD 0
  referenceTime : (asn_INTEGER2uint64 a.management.referenceTime).getD 0
    = (asn_INTEGER2uint64 b.management.referenceTime).getD 0
  eventPosition : a.management.eventPosition = b.management.eventPosition
  validityDuration : a.management.validityDuration = b.management.validityDuration
  stationType : a.management.stationType = b.management.stationType
  situation : a.situation = b.situation
  location : a.location.map Asn1.LocationContainer.withRoadType
    = b.location.map Asn1.LocationContainer.withRoadType

/-- The situation container has a flag, and nothing of it is lost. -/
theorem situation_inj (hF : F.HoldsRanges) (ha : a.InRanges) (hb : b.InRanges) :
    (a.situation.isSome = b.situation.isSome ∧
        (a.situation.map (Asn1.SituationContainer.image F.situation)).getD {}
          = (b.situation.map (Asn1.SituationContainer.image F.situation)).getD {}) ↔
      a.situation = b.situation :=
  flag_map_getD_inj (Asn1.SituationContainer.image_injOn hF.situation) ha.situation hb.situation

/-- The location container has a flag, and loses an absent road type. -/
theorem location_inj (hF : F.HoldsRanges) (ha : a.InRanges) (hb : b.InRanges) :
    (a.location.isSome = b.location.isSome ∧
        (a.location.map (Asn1.LocationContainer.image F.location)).getD {}
          = (b.location.map (Asn1.LocationContainer.image F.location)).getD {}) ↔
      a.location.map Asn1.LocationContainer.withRoadType
        = b.location.map Asn1.LocationContainer.withRoadType :=
  flag_map_getD_inj_of_iff (S := {l : Asn1.LocationContainer | l.InRanges})
    (fun _ hl _ hl' => Asn1.LocationContainer.image_eq_iff hF.location hl hl')
    ha.location hb.location

/-- **What the conversion loses, exactly.** -/
theorem Asn1.Denm.image_eq_iff (hF : F.HoldsRanges) (ha : a.InRanges) (hb : b.InRanges)
    {v w : ℤ} (hv : a.management.validityDuration = some v)
    (hw : b.management.validityDuration = some w) :
    a.image asn_INTEGER2uint64 F v = b.image asn_INTEGER2uint64 F w ↔
      Asn1.Denm.Alike asn_INTEGER2uint64 a b := by
  have hma := ha.management
  have hmb := hb.management
  constructor
  -- every copied member is read off the message field by field
  · intro h
    have hheader := congrArg Msg.DENM.its_header h
    have hmanagement := congrArg Msg.DENM.management h
    have hduration := hF.management.validity_duration.injOn (hma.validityDuration v hv)
      (hmb.validityDuration w hw)
      (congrArg Msg.ManagementContainer.validity_duration hmanagement)
    have hstation := hF.management.station_id.injOn hma.originatingStationID
      hmb.originatingStationID (congrArg Msg.ManagementContainer.station_id hmanagement)
    have hnumber := hF.management.sequence_number.injOn hma.sequenceNumber hmb.sequenceNumber
      (congrArg Msg.ManagementContainer.sequence_number hmanagement)
    exact
      { protocolVersion := hF.protocol_version.injOn ha.protocolVersion hb.protocolVersion
          (congrArg Msg.ItsPduHeader.protocol_version hheader)
        stationID := hF.station_id.injOn ha.stationID hb.stationID
          (congrArg Msg.ItsPduHeader.station_id hheader)
        actionID := congrArg₂ Asn1.ActionID.mk hstation hnumber
        detectionTime := congrArg Msg.ManagementContainer.detection_time hmanagement
        referenceTime := congrArg Msg.ManagementContainer.reference_time hmanagement
        eventPosition := Msg.ReferencePosition.ofAsn1_injOn hF.management.event_position
          hma.eventPosition hmb.eventPosition
          (congrArg Msg.ManagementContainer.event_position hmanagement)
        validityDuration := by rw [hv, hw, hduration]
        stationType := hF.management.station_type.injOn hma.stationType hmb.stationType
          (congrArg Msg.ManagementContainer.station_type hmanagement)
        situation := (situation_inj hF ha hb).mp
          ⟨congrArg Msg.DENM.has_situation h, congrArg Msg.DENM.situation h⟩
        location := (location_inj hF ha hb).mp
          ⟨congrArg Msg.DENM.has_location h, congrArg Msg.DENM.location h⟩ }
  · intro h
    obtain ⟨hsflag, hsituation⟩ := (situation_inj hF ha hb).mpr h.situation
    obtain ⟨hlflag, hlocation⟩ := (location_inj hF ha hb).mpr h.location
    have hduration : v = w := by
      rw [← Option.some_inj, ← hv, ← hw]
      exact h.validityDuration
    unfold Asn1.Denm.image Msg.ItsPduHeader.ofAsn1
    rw [h.protocolVersion, h.stationID, h.actionID, h.detectionTime, h.referenceTime,
      h.eventPosition, h.stationType, hduration, hsflag, hsituation, hlflag, hlocation]

end Alike

/-! ### Optional content -/

/-- The seven optional members. -/
structure Asn1.OptionalContent where
  termination : Option ℤ
  relevanceDistance : Option ℤ
  relevanceTrafficDirection : Option ℤ
  transmissionInterval : Option ℤ
  eventSpeed : Option Asn1.Measured
  eventPositionHeading : Option Asn1.Measured
  roadType : Option ℤ
  deriving DecidableEq, Repr

/-- The optional content of a message; one without a location container has no members
of it. -/
def Asn1.Denm.optionalContent (a : Asn1.Denm) : Asn1.OptionalContent where
  termination := a.management.termination
  relevanceDistance := a.management.relevanceDistance
  relevanceTrafficDirection := a.management.relevanceTrafficDirection
  transmissionInterval := a.management.transmissionInterval
  eventSpeed := a.location.bind Asn1.LocationContainer.eventSpeed
  eventPositionHeading := a.location.bind Asn1.LocationContainer.eventPositionHeading
  roadType := a.location.bind Asn1.LocationContainer.roadType

/-- The messages agree in the four members that are not copied, and in whether they have
a road type and which. -/
structure Asn1.Denm.SameUncopied (a b : Asn1.Denm) : Prop where
  termination : a.management.termination = b.management.termination
  relevanceDistance : a.management.relevanceDistance = b.management.relevanceDistance
  relevanceTrafficDirection :
    a.management.relevanceTrafficDirection = b.management.relevanceTrafficDirection
  transmissionInterval : a.management.transmissionInterval = b.management.transmissionInterval
  roadType : a.location.bind Asn1.LocationContainer.roadType
    = b.location.bind Asn1.LocationContainer.roadType

section Content

variable {asn_INTEGER2uint64 : List UInt8 → Option UInt64} {F : DenmFormat} {a b : Asn1.Denm}

/-- Event speed and heading are copied. -/
theorem Asn1.Denm.Alike.optionalContent_eq_iff (h : Asn1.Denm.Alike asn_INTEGER2uint64 a b) :
    a.optionalContent = b.optionalContent ↔ a.SameUncopied b := by
  -- a member of the location container that is not the road type
  have hmember : ∀ g : Asn1.LocationContainer → Option Asn1.Measured,
      (∀ l, g l.withRoadType = g l) → a.location.bind g = b.location.bind g := by
    intro g hg
    have hbind := congrArg (Option.bind · g) h.location
    simpa only [Option.bind_map, Function.comp_def, hg] using hbind
  have hspeed := hmember Asn1.LocationContainer.eventSpeed fun _ => rfl
  have hheading := hmember Asn1.LocationContainer.eventPositionHeading fun _ => rfl
  constructor
  · intro heq
    exact
      ⟨congrArg Asn1.OptionalContent.termination heq,
        congrArg Asn1.OptionalContent.relevanceDistance heq,
        congrArg Asn1.OptionalContent.relevanceTrafficDirection heq,
        congrArg Asn1.OptionalContent.transmissionInterval heq,
        congrArg Asn1.OptionalContent.roadType heq⟩
  · intro hsame
    unfold Asn1.Denm.optionalContent
    rw [hsame.termination, hsame.relevanceDistance, hsame.relevanceTrafficDirection,
      hsame.transmissionInterval, hspeed, hheading, hsame.roadType]

/-- The message with other values of the four members of the management container. -/
def Asn1.Denm.withUncopied (a : Asn1.Denm) (termination relevanceDistance
    relevanceTrafficDirection transmissionInterval : Option ℤ) : Asn1.Denm :=
  { a with
    management :=
      { a.management with
        termination
        relevanceDistance
        relevanceTrafficDirection
        transmissionInterval } }

/-- The four members are not read: a DENM and its cancellation are published as the same
message. -/
theorem convertDenm_withUncopied (a : Asn1.Denm) (t d r i : Option ℤ) :
    (a.withUncopied t d r i).convertDenm F asn_INTEGER2uint64
      = a.convertDenm F asn_INTEGER2uint64 := rfl

end Content

/-- **Optional content, exactly.** That two DENMs of the schema with a validity duration
are published as different messages if their optional content differs, holds if and only
if they differ in a member that is copied, or agree in those that are not and in their
road types. -/
theorem convertDenm_distinguishes_iff (asn_INTEGER2uint64 : List UInt8 → Option UInt64)
    (F : DenmFormat) (hF : F.HoldsRanges) (a b : Asn1.Denm) (ha : a.InRanges) (hb : b.InRanges)
    (hav : a.management.validityDuration.isSome) (hbv : b.management.validityDuration.isSome) :
    ∃ m n, (a.convertDenm F asn_INTEGER2uint64).result = some m ∧
      (b.convertDenm F asn_INTEGER2uint64).result = some n ∧
      ((a.optionalContent ≠ b.optionalContent → m ≠ n) ↔
        ¬Asn1.Denm.Alike asn_INTEGER2uint64 a b ∨ a.SameUncopied b) := by
  obtain ⟨v, hv⟩ := Option.isSome_iff_exists.mp hav
  obtain ⟨w, hw⟩ := Option.isSome_iff_exists.mp hbv
  refine ⟨_, _, Asn1.Denm.convertDenm_result hv, Asn1.Denm.convertDenm_result hw, ?_⟩
  rw [ne_eq, ne_eq, Asn1.Denm.image_eq_iff hF ha hb hv hw]
  by_cases h : Asn1.Denm.Alike asn_INTEGER2uint64 a b
  · -- the messages are published as the same one, so they must not differ
    rw [h.optionalContent_eq_iff]
    constructor
    · intro himp
      exact Or.inr (not_not.mp fun hne => himp hne h)
    · rintro (hnot | hsame) hne
      · exact hnot
      · exact absurd hsame hne
  · exact iff_of_true (fun _ => h) (Or.inl h)

/-! ### A warning and its cancellation -/

theorem released_holdsRanges : DenmFormat.released.HoldsRanges where
  -- every range of the schema lies in the type of the member: both bounds are in its range
  protocol_version := IntFormat.holds_Icc (by decide) (by decide)
  station_id := IntFormat.holds_Icc (by decide) (by decide)
  management :=
    { station_id := IntFormat.holds_Icc (by decide) (by decide)
      sequence_number := IntFormat.holds_Icc (by decide) (by decide)
      event_position :=
        { latitude := IntFormat.holds_Icc (by decide) (by decide)
          longitude := IntFormat.holds_Icc (by decide) (by decide)
          semi_major_confidence := IntFormat.holds_Icc (by decide) (by decide)
          semi_minor_confidence := IntFormat.holds_Icc (by decide) (by decide)
          semi_major_orientation := IntFormat.holds_Icc (by decide) (by decide)
          altitude :=
            ⟨IntFormat.holds_Icc (by decide) (by decide),
              IntFormat.holds_Icc (by decide) (by decide)⟩ }
      validity_duration := IntFormat.holds_Icc (by decide) (by decide)
      station_type := IntFormat.holds_Icc (by decide) (by decide) }
  situation :=
    { information_quality := IntFormat.holds_Icc (by decide) (by decide)
      event_type :=
        ⟨IntFormat.holds_Icc (by decide) (by decide), IntFormat.holds_Icc (by decide) (by decide)⟩
      linked_cause :=
        ⟨IntFormat.holds_Icc (by decide) (by decide), IntFormat.holds_Icc (by decide) (by decide)⟩
      event_history :=
        { delta_latitude := IntFormat.holds_Icc (by decide) (by decide)
          delta_longitude := IntFormat.holds_Icc (by decide) (by decide)
          delta_altitude := IntFormat.holds_Icc (by decide) (by decide)
          information_quality := IntFormat.holds_Icc (by decide) (by decide) } }
  location :=
    { event_speed :=
        ⟨IntFormat.holds_Icc (by decide) (by decide), IntFormat.holds_Icc (by decide) (by decide)⟩
      event_position_heading :=
        ⟨IntFormat.holds_Icc (by decide) (by decide), IntFormat.holds_Icc (by decide) (by decide)⟩
      path_point :=
        { delta_latitude := IntFormat.holds_Icc (by decide) (by decide)
          delta_longitude := IntFormat.holds_Icc (by decide) (by decide)
          delta_altitude := IntFormat.holds_Icc (by decide) (by decide)
          path_delta_time := IntFormat.holds_Icc (by decide) (by decide)
          -- the constant that stands for a missing time
          UNAVAILABLE := by decide }
      road_type := IntFormat.holds_Icc (by decide) (by decide) }

theorem stationaryDenm_inRanges : stationaryDenm.InRanges where
  protocolVersion := by decide
  messageID := by decide
  stationID := by decide
  management :=
    { originatingStationID := by decide
      sequenceNumber := by decide
      termination := by simp [stationaryDenm]
      eventPosition :=
        ⟨by decide, by decide, by decide, by decide, by decide, by decide, by decide⟩
      relevanceDistance := by simp [stationaryDenm]
      relevanceTrafficDirection := by simp [stationaryDenm]
      validityDuration := by
        intro v hv
        obtain rfl := Option.some.inj hv
        decide
      transmissionInterval := by simp [stationaryDenm]
      stationType := by decide }
  situation := by
    intro s hs
    obtain rfl := Option.some.inj hs
    refine ⟨by decide, ⟨by decide, by decide⟩, by simp, fun ps hps => ?_⟩
    obtain rfl := Option.some.inj hps
    refine ⟨by simp, fun p hp => ?_⟩
    obtain rfl := List.mem_singleton.mp hp
    exact ⟨⟨by decide, by decide, by decide⟩, by decide⟩
  location := by
    intro l hl
    obtain rfl := Option.some.inj hl
    refine ⟨by simp, by simp, fun trace htrace => ?_, by simp⟩
    obtain rfl := List.mem_singleton.mp htrace
    refine List.forall_mem_cons.mpr ⟨⟨⟨by decide, by decide, by decide⟩, by simp⟩, ?_⟩
    refine List.forall_mem_singleton.mpr ⟨⟨by decide, by decide, by decide⟩, fun t ht => ?_⟩
    obtain rfl := Option.some.inj ht
    decide

/-- The stationary vehicle with a measured speed of zero. -/
def measuredDenm : Asn1.Denm :=
  { stationaryDenm with
    location := some { eventSpeed := some ⟨0, 1⟩, traces := stationaryDenm.traces } }

theorem measuredDenm_inRanges : measuredDenm.InRanges :=
  { stationaryDenm_inRanges with
    location := by
      intro l hl
      obtain rfl := Option.some.inj hl
      refine ⟨fun q hq => ?_, by simp, ?_, by simp⟩
      · obtain rfl := Option.some.inj hq
        exact ⟨by decide, by decide⟩
      · exact (stationaryDenm_inRanges.location _ rfl).traces }

/-- The cancellation of the warning. -/
def cancellationDenm : Asn1.Denm := stationaryDenm.withUncopied (some 0) none none none

theorem cancellationDenm_inRanges : cancellationDenm.InRanges :=
  { stationaryDenm_inRanges with
    management :=
      { stationaryDenm_inRanges.management with
        termination := by
          intro t ht
          obtain rfl := Option.some.inj ht
          decide } }

/-- A big-endian reading of the octets of a time. -/
def readTime (octets : List UInt8) : Option UInt64 :=
  if octets.length ≤ 8 then some (UInt64.ofNat (Wire.beNat octets)) else none

theorem measuredDenm_distinguished :
    ∃ m n, (stationaryDenm.convertDenm .released readTime).result = some m ∧
      (measuredDenm.convertDenm .released readTime).result = some n ∧
      ((stationaryDenm.optionalContent ≠ measuredDenm.optionalContent → m ≠ n) ↔
        ¬Asn1.Denm.Alike readTime stationaryDenm measuredDenm ∨
          stationaryDenm.SameUncopied measuredDenm) :=
  convertDenm_distinguishes_iff readTime .released released_holdsRanges stationaryDenm
    measuredDenm stationaryDenm_inRanges measuredDenm_inRanges (by decide) (by decide)

/-- The warning and its cancellation are published as the same message. -/
theorem cancellationDenm_same_message :
    stationaryDenm.InRanges ∧ cancellationDenm.InRanges ∧
      stationaryDenm.management.validityDuration.isSome ∧
      cancellationDenm.management.validityDuration.isSome ∧
      stationaryDenm.optionalContent ≠ cancellationDenm.optionalContent ∧
      ∃ m, (stationaryDenm.convertDenm .released readTime).result = some m ∧
        (cancellationDenm.convertDenm .released readTime).result = some m := by
  refine ⟨stationaryDenm_inRanges, cancellationDenm_inRanges, by decide, by decide, by decide, ?_⟩
  refine ⟨_, Asn1.Denm.convertDenm_result rfl, ?_⟩
  -- the two messages differ in members that the conversion does not copy
  rw [cancellationDenm, convertDenm_withUncopied]
  exact Asn1.Denm.convertDenm_result rfl

end V2xStack
