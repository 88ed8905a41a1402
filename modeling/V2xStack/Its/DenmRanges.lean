import V2xStack.Its.DenmStructure
import V2xStack.Its.Ranges

/-!
# DENMs in the ranges of the schema

Which DENMs have their integers in the ranges of the schema, and what the parts of the
conversion keep of them when the fields of the ROS message have these ranges.

`ofAsn1_injOn` of a cause code, an event point and a path point and `image_injOn` of the
situation container say that nothing is lost. A location container loses whether it
has a road type: there is no flag for it, and the default of the field is the first
road type (`LocationContainer.image_eq_iff`). Event speed and heading have no flag
either, but a confidence of zero is in no range.
-/

namespace V2xStack

open Asn1.Range

/-! ### Elements of lists -/

section Elements

/-- The three deltas are in their ranges. -/
structure Asn1.DeltaReferencePosition.InRanges (p : Asn1.DeltaReferencePosition) : Prop where
  deltaLatitude : p.deltaLatitude ∈ DeltaLatitude
  deltaLongitude : p.deltaLongitude ∈ DeltaLongitude
  deltaAltitude : p.deltaAltitude ∈ DeltaAltitude

structure Asn1.PathPoint.InRanges (p : Asn1.PathPoint) : Prop where
  pathPosition : p.pathPosition.InRanges
  pathDeltaTime : ∀ t, p.pathDeltaTime = some t → t ∈ PathDeltaTime

structure Asn1.EventPoint.InRanges (p : Asn1.EventPoint) : Prop where
  eventPosition : p.eventPosition.InRanges
  informationQuality : p.informationQuality ∈ InformationQuality

structure Asn1.CauseCode.InRanges (c : Asn1.CauseCode) : Prop where
  causeCode : c.causeCode ∈ CauseCodeType
  subCauseCode : c.subCauseCode ∈ SubCauseCodeType

/-- The fields of a path point have all integers of the ranges, and the constant for an
absent time is none of them. -/
structure LowFrequencyFormat.HoldsPoints (F : LowFrequencyFormat) : Prop where
  delta_latitude : F.delta_latitude.Holds DeltaLatitude
  delta_longitude : F.delta_longitude.Holds DeltaLongitude
  delta_altitude : F.delta_altitude.Holds DeltaAltitude
  path_delta_time : F.path_delta_time.Holds PathDeltaTime
  UNAVAILABLE : F.UNAVAILABLE.val ∉ PathDeltaTime

structure EventPointFormat.HoldsRanges (F : EventPointFormat) : Prop where
  delta_latitude : F.delta_latitude.Holds DeltaLatitude
  delta_longitude : F.delta_longitude.Holds DeltaLongitude
  delta_altitude : F.delta_altitude.Holds DeltaAltitude
  information_quality : F.information_quality.Holds InformationQuality

structure CauseCodeFormat.HoldsRanges (F : CauseCodeFormat) : Prop where
  cause_code : F.cause_code.Holds CauseCodeType
  sub_cause_code : F.sub_cause_code.Holds SubCauseCodeType

/-- Positions that are assigned the same deltas are the same. -/
theorem Asn1.DeltaReferencePosition.eq_of_assign_eq {f g k : IntFormat}
    (hf : f.Holds DeltaLatitude) (hg : g.Holds DeltaLongitude) (hk : k.Holds DeltaAltitude)
    {p p' : Asn1.DeltaReferencePosition} (hp : p.InRanges) (hp' : p'.InRanges)
    (hlat : f.assign p.deltaLatitude = f.assign p'.deltaLatitude)
    (hlong : g.assign p.deltaLongitude = g.assign p'.deltaLongitude)
    (halt : k.assign p.deltaAltitude = k.assign p'.deltaAltitude) : p = p' := by
  obtain ⟨lat, long, alt⟩ := p
  obtain ⟨lat', long', alt'⟩ := p'
  obtain rfl := hf.injOn hp.deltaLatitude hp'.deltaLatitude hlat
  obtain rfl := hg.injOn hp.deltaLongitude hp'.deltaLongitude hlong
  obtain rfl := hk.injOn hp.deltaAltitude hp'.deltaAltitude halt
  rfl

/-- An absent time is the constant. -/
theorem Msg.PathPoint.ofAsn1_path_delta_time {F : LowFrequencyFormat} (p : Asn1.PathPoint) :
    (Msg.PathPoint.ofAsn1 F p).path_delta_time
      = (p.pathDeltaTime.map F.path_delta_time.assign).getD F.UNAVAILABLE := by
  obtain ⟨pos, time⟩ := p
  cases time with
  | none => rfl
  | some t => rfl

theorem Msg.PathPoint.ofAsn1_injOn {F : LowFrequencyFormat} (hF : F.HoldsPoints) :
    Set.InjOn (Msg.PathPoint.ofAsn1 F) {p | p.InRanges} := by
  rintro ⟨pos, time⟩ hp ⟨pos', time'⟩ hp' h
  obtain rfl := Asn1.DeltaReferencePosition.eq_of_assign_eq hF.delta_latitude hF.delta_longitude
    hF.delta_altitude hp.pathPosition hp'.pathPosition
    (congrArg Msg.PathPoint.delta_latitude h) (congrArg Msg.PathPoint.delta_longitude h)
    (congrArg Msg.PathPoint.delta_altitude h)
  have hne : ∀ t ∈ PathDeltaTime, F.path_delta_time.assign t ≠ F.UNAVAILABLE := by
    -- no time in range is taken for the constant
    intro t ht heq
    apply hF.UNAVAILABLE
    rw [← heq, IntFormat.assign_val_of_inRange (hF.path_delta_time t ht)]
    exact ht
  have htime := congrArg Msg.PathPoint.path_delta_time h
  rw [ofAsn1_path_delta_time, ofAsn1_path_delta_time] at htime
  obtain rfl := (map_getD_inj_of_ne hF.path_delta_time.injOn hne hp.pathDeltaTime
    hp'.pathDeltaTime).mp htime
  rfl

theorem Msg.EventPoint.ofAsn1_injOn {F : EventPointFormat} (hF : F.HoldsRanges) :
    Set.InjOn (Msg.EventPoint.ofAsn1 F) {p | p.InRanges} := by
  rintro ⟨pos, quality⟩ hp ⟨pos', quality'⟩ hp' h
  -- the three members of the position are copied into the point itself
  obtain rfl := Asn1.DeltaReferencePosition.eq_of_assign_eq hF.delta_latitude hF.delta_longitude
    hF.delta_altitude hp.eventPosition hp'.eventPosition
    (congrArg Msg.EventPoint.delta_latitude h) (congrArg Msg.EventPoint.delta_longitude h)
    (congrArg Msg.EventPoint.delta_altitude h)
  obtain rfl := hF.information_quality.injOn hp.informationQuality hp'.informationQuality
    (congrArg Msg.EventPoint.information_quality h)
  rfl

theorem Msg.CauseCode.ofAsn1_injOn {F : CauseCodeFormat} (hF : F.HoldsRanges) :
    Set.InjOn (Msg.CauseCode.ofAsn1 F) {c | c.InRanges} := by
  rintro ⟨cause, sub⟩ hc ⟨cause', sub'⟩ hc' h
  obtain rfl := hF.cause_code.injOn hc.causeCode hc'.causeCode
    (congrArg Msg.CauseCode.cause_code h)
  obtain rfl := hF.sub_cause_code.injOn hc.subCauseCode hc'.subCauseCode
    (congrArg Msg.CauseCode.sub_cause_code h)
  rfl

end Elements

/-! ### The containers -/

section Situation

/-- Every integer of the container is in its range, and an event history is not
empty. -/
structure Asn1.SituationContainer.InRanges (s : Asn1.SituationContainer) : Prop where
  informationQuality : s.informationQuality ∈ InformationQuality
  eventType : s.eventType.InRanges
  linkedCause : ∀ c, s.linkedCause = some c → c.InRanges
  eventHistory : ∀ ps, s.eventHistory = some ps → ps ≠ [] ∧ ∀ p ∈ ps, p.InRanges

structure SituationFormat.HoldsRanges (F : SituationFormat) : Prop where
  information_quality : F.information_quality.Holds InformationQuality
  event_type : F.event_type.HoldsRanges
  linked_cause : F.linked_cause.HoldsRanges
  event_history : F.event_history.HoldsRanges

/-- An absent event history is published as an empty one. -/
theorem Asn1.SituationContainer.image_event_history {F : SituationFormat}
    (s : Asn1.SituationContainer) :
    (s.image F).event_history
      = (s.eventHistory.map (List.map (Msg.EventPoint.ofAsn1 F.event_history))).getD [] := by
  unfold Asn1.SituationContainer.image
  cases s.eventHistory with
  | none => rfl
  | some ps => rfl

/-- Event histories that are not empty stay apart, and are not taken for an absent
one. -/
theorem eventHistory_inj {F : EventPointFormat} (hF : F.HoldsRanges)
    {o o' : Option (List Asn1.EventPoint)}
    (ho : ∀ ps, o = some ps → ps ≠ [] ∧ ∀ p ∈ ps, p.InRanges)
    (ho' : ∀ ps, o' = some ps → ps ≠ [] ∧ ∀ p ∈ ps, p.InRanges) :
    (o.map (List.map (Msg.EventPoint.ofAsn1 F))).getD []
        = (o'.map (List.map (Msg.EventPoint.ofAsn1 F))).getD [] ↔ o = o' := by
  -- a history of the schema is not empty, so it is told from a missing one
  refine map_getD_inj_of_ne (S := {ps : List Asn1.EventPoint | ps ≠ [] ∧ ∀ p ∈ ps, p.InRanges})
    ?_ ?_ ho ho'
  · exact (injOn_map (Msg.EventPoint.ofAsn1_injOn hF)).mono fun ps hps => hps.2
  · intro ps hps hnil
    exact hps.1 (List.map_eq_nil_iff.mp hnil)

/-- Nothing of a situation container is lost. -/
theorem Asn1.SituationContainer.image_injOn {F : SituationFormat} (hF : F.HoldsRanges) :
    Set.InjOn (Asn1.SituationContainer.image F) {s | s.InRanges} := by
  intro s hs s' hs' h
  have hquality := hF.information_quality.injOn hs.informationQuality hs'.informationQuality
    (congrArg Msg.SituationContainer.information_quality h)
  have htype := Msg.CauseCode.ofAsn1_injOn hF.event_type hs.eventType hs'.eventType
    (congrArg Msg.SituationContainer.event_type h)
  -- the linked cause has a flag
  have hcause := (flag_map_getD_inj (Msg.CauseCode.ofAsn1_injOn hF.linked_cause)
    hs.linkedCause hs'.linkedCause).mp
    ⟨congrArg Msg.SituationContainer.has_linked_cause h,
      congrArg Msg.SituationContainer.linked_cause h⟩
  -- the event history has none, but an empty one is not in range
  have hhistory : s.eventHistory = s'.eventHistory := by
    have hpoints := congrArg Msg.SituationContainer.event_history h
    rwa [s.image_event_history, s'.image_event_history,
      eventHistory_inj hF.event_history hs.eventHistory hs'.eventHistory] at hpoints
  obtain ⟨quality, type, cause, history⟩ := s
  obtain ⟨quality', type', cause', history'⟩ := s'
  dsimp only at hquality htype hcause hhistory
  rw [hquality, htype, hcause, hhistory]

end Situation

section Location

structure Asn1.LocationContainer.InRanges (l : Asn1.LocationContainer) : Prop where
  eventSpeed : ∀ q, l.eventSpeed = some q → q.In SpeedValue SpeedConfidence
  eventPositionHeading :
    ∀ q, l.eventPositionHeading = some q → q.In HeadingValue HeadingConfidence
  traces : ∀ trace ∈ l.traces, ∀ p ∈ trace, p.InRanges
  roadType : ∀ r, l.roadType = some r → r ∈ RoadType

structure LocationFormat.HoldsRanges (F : LocationFormat) : Prop where
  event_speed : F.event_speed.Holds SpeedValue SpeedConfidence
  event_position_heading : F.event_position_heading.Holds HeadingValue HeadingConfidence
  path_point : F.path_point.HoldsPoints
  road_type : F.road_type.Holds RoadType

/-- The container with the first road type in place of an absent one. -/
def Asn1.LocationContainer.withRoadType (l : Asn1.LocationContainer) : Asn1.LocationContainer :=
  { l with roadType := some (l.roadType.getD 0) }

/-- A quantity whose confidence is positive is not taken for an absent one. -/
theorem Msg.Measured.ofAsn1_ne_default {F : MeasuredFormat} {V : Set ℤ} {c : ℤ}
    (hF : F.Holds V (Set.Icc 1 c)) {q : Asn1.Measured} (hq : q.In V (Set.Icc 1 c)) :
    Msg.Measured.ofAsn1 F q ≠ {} := by
  intro heq
  have hpos : 1 ≤ q.confidence := hq.2.1
  exact IntFormat.assign_ne_zero (hF.2 _ hq.2) (by omega)
    (congrArg Msg.Measured.confidence heq)

/-- Quantities whose confidences are positive stay apart, and are not taken for an
absent one. -/
theorem measured_inj {F : MeasuredFormat} {V : Set ℤ} {c : ℤ} (hF : F.Holds V (Set.Icc 1 c))
    {o o' : Option Asn1.Measured} (ho : ∀ q, o = some q → q.In V (Set.Icc 1 c))
    (ho' : ∀ q, o' = some q → q.In V (Set.Icc 1 c)) :
    (o.map (Msg.Measured.ofAsn1 F)).getD {} = (o'.map (Msg.Measured.ofAsn1 F)).getD {} ↔
      o = o' :=
  map_getD_inj_of_ne (Msg.Measured.ofAsn1_injOn hF)
    (fun _ hq => Msg.Measured.ofAsn1_ne_default hF hq) ho ho'

/-- **What a location container loses**: an absent road type is the first one. -/
theorem Asn1.LocationContainer.image_eq_iff {F : LocationFormat} (hF : F.HoldsRanges)
    {l l' : Asn1.LocationContainer} (hl : l.InRanges) (hl' : l'.InRanges) :
    l.image F = l'.image F ↔ l.withRoadType = l'.withRoadType := by
  -- each optional member is told from a missing one by a value that the field cannot get
  have hspeed := measured_inj hF.event_speed hl.eventSpeed hl'.eventSpeed
  have hheading := measured_inj hF.event_position_heading hl.eventPositionHeading
    hl'.eventPositionHeading
  have htraces := (injOn_map (injOn_map (Msg.PathPoint.ofAsn1_injOn hF.path_point))).eq_iff
    hl.traces hl'.traces
  -- but for the road type, where a missing one leaves the zero of a road type itself
  have hroad := map_getD_inj_of_eq hF.road_type.injOn (e := 0) (by decide)
    IntFormat.assign_zero hl.roadType hl'.roadType
  obtain ⟨speed, heading, traces, road⟩ := l
  obtain ⟨speed', heading', traces', road'⟩ := l'
  simp only [image, withRoadType, Msg.LocationContainer.mk.injEq, Asn1.LocationContainer.mk.injEq,
    Option.some.injEq]
  exact and_congr hspeed (and_congr hheading (and_congr htraces hroad))

end Location

end V2xStack
