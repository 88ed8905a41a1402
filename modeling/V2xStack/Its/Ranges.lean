import V2xStack.Foundation.OptionalMember
import V2xStack.Its.DataElements

/-!
# Ranges of the data elements

The intervals that the schemas of the messages give to their integers and
enumerations, and the parts of the messages whose values lie in them. The schemas are
not part of the repository.

A format that has all integers of an interval keeps them apart, and so do the parts
that are assigned member by member: `ofAsn1_injOn` of a quantity with its confidence
and of a reference position.
-/

namespace V2xStack

namespace Asn1.Range

/-! ### Stations and times -/

abbrev ProtocolVersion : Set ℤ := Set.Icc 0 255
abbrev MessageID : Set ℤ := Set.Icc 0 255
abbrev StationID : Set ℤ := Set.Icc 0 4294967295
abbrev StationType : Set ℤ := Set.Icc 0 255
abbrev GenerationDeltaTime : Set ℤ := Set.Icc 0 65535

/-! ### Positions -/

abbrev Latitude : Set ℤ := Set.Icc (-900000000) 900000001
abbrev Longitude : Set ℤ := Set.Icc (-1800000000) 1800000001
abbrev SemiAxisLength : Set ℤ := Set.Icc 0 4095
abbrev AltitudeValue : Set ℤ := Set.Icc (-100000) 800001
abbrev AltitudeConfidence : Set ℤ := Set.Icc 0 15
abbrev DeltaLatitude : Set ℤ := Set.Icc (-131071) 131072
abbrev DeltaLongitude : Set ℤ := Set.Icc (-131071) 131072
abbrev DeltaAltitude : Set ℤ := Set.Icc (-12700) 12800
abbrev PathDeltaTime : Set ℤ := Set.Icc 1 65535

/-! ### Vehicles -/

abbrev HeadingValue : Set ℤ := Set.Icc 0 3601
abbrev HeadingConfidence : Set ℤ := Set.Icc 1 127
abbrev SpeedValue : Set ℤ := Set.Icc 0 16383
abbrev SpeedConfidence : Set ℤ := Set.Icc 1 127
abbrev DriveDirection : Set ℤ := Set.Icc 0 2
abbrev VehicleLengthValue : Set ℤ := Set.Icc 1 1023
abbrev VehicleLengthConfidenceIndication : Set ℤ := Set.Icc 0 4
abbrev VehicleWidth : Set ℤ := Set.Icc 1 62
abbrev LongitudinalAccelerationValue : Set ℤ := Set.Icc (-160) 161
abbrev AccelerationConfidence : Set ℤ := Set.Icc 0 102
abbrev CurvatureValue : Set ℤ := Set.Icc (-1023) 1023
abbrev CurvatureConfidence : Set ℤ := Set.Icc 0 7
abbrev CurvatureCalculationMode : Set ℤ := Set.Icc 0 2
abbrev YawRateValue : Set ℤ := Set.Icc (-32766) 32767
abbrev YawRateConfidence : Set ℤ := Set.Icc 0 8
abbrev VehicleRole : Set ℤ := Set.Icc 0 15

/-! ### Events -/

abbrev SequenceNumber : Set ℤ := Set.Icc 0 65535
abbrev Termination : Set ℤ := Set.Icc 0 1
abbrev RelevanceDistance : Set ℤ := Set.Icc 0 7
abbrev RelevanceTrafficDirection : Set ℤ := Set.Icc 0 3
abbrev ValidityDuration : Set ℤ := Set.Icc 0 86400
abbrev TransmissionInterval : Set ℤ := Set.Icc 1 10000
abbrev InformationQuality : Set ℤ := Set.Icc 0 7
abbrev CauseCodeType : Set ℤ := Set.Icc 0 255
abbrev SubCauseCodeType : Set ℤ := Set.Icc 0 255
abbrev RoadType : Set ℤ := Set.Icc 0 3

end Asn1.Range

open Asn1.Range

/-! ### A quantity with its confidence -/

section Measured

variable {V C : Set ℤ}

/-- The value and the confidence are in their ranges. -/
def Asn1.Measured.In (V C : Set ℤ) (q : Asn1.Measured) : Prop := q.value ∈ V ∧ q.confidence ∈ C

/-- The format has all values and confidences. -/
def MeasuredFormat.Holds (F : MeasuredFormat) (V C : Set ℤ) : Prop :=
  F.value.Holds V ∧ F.confidence.Holds C

theorem Msg.Measured.ofAsn1_injOn {F : MeasuredFormat} (hF : F.Holds V C) :
    Set.InjOn (Msg.Measured.ofAsn1 F) {q | q.In V C} := by
  rintro ⟨v, c⟩ ⟨hv, hc⟩ ⟨v', c'⟩ ⟨hv', hc'⟩ h
  obtain rfl := hF.1.injOn hv hv' (congrArg Msg.Measured.value h)
  obtain rfl := hF.2.injOn hc hc' (congrArg Msg.Measured.confidence h)
  rfl

end Measured

/-! ### Reference positions -/

section Position

/-- Every integer of the position is in its range. -/
structure Asn1.ReferencePosition.InRanges (p : Asn1.ReferencePosition) : Prop where
  latitude : p.latitude ∈ Latitude
  longitude : p.longitude ∈ Longitude
  semiMajorConfidence : p.positionConfidenceEllipse.semiMajorConfidence ∈ SemiAxisLength
  semiMinorConfidence : p.positionConfidenceEllipse.semiMinorConfidence ∈ SemiAxisLength
  semiMajorOrientation : p.positionConfidenceEllipse.semiMajorOrientation ∈ HeadingValue
  altitude : p.altitude.In AltitudeValue AltitudeConfidence

/-- The fields of the position have all integers of the ranges. -/
structure ReferencePositionFormat.HoldsRanges (F : ReferencePositionFormat) : Prop where
  latitude : F.latitude.Holds Latitude
  longitude : F.longitude.Holds Longitude
  semi_major_confidence : F.semi_major_confidence.Holds SemiAxisLength
  semi_minor_confidence : F.semi_minor_confidence.Holds SemiAxisLength
  semi_major_orientation : F.semi_major_orientation.Holds HeadingValue
  altitude : F.altitude.Holds AltitudeValue AltitudeConfidence

theorem Msg.ReferencePosition.ofAsn1_injOn {F : ReferencePositionFormat} (hF : F.HoldsRanges) :
    Set.InjOn (Msg.ReferencePosition.ofAsn1 F) {p | p.InRanges} := by
  rintro ⟨lat, long, ⟨major, minor, orient⟩, alt⟩ hp ⟨lat', long', ⟨major', minor', orient'⟩, alt'⟩
    hp' h
  obtain rfl := hF.latitude.injOn hp.latitude hp'.latitude
    (congrArg Msg.ReferencePosition.latitude h)
  obtain rfl := hF.longitude.injOn hp.longitude hp'.longitude
    (congrArg Msg.ReferencePosition.longitude h)
  obtain rfl := hF.semi_major_confidence.injOn hp.semiMajorConfidence hp'.semiMajorConfidence
    (congrArg Msg.ReferencePosition.semi_major_confidence h)
  obtain rfl := hF.semi_minor_confidence.injOn hp.semiMinorConfidence hp'.semiMinorConfidence
    (congrArg Msg.ReferencePosition.semi_minor_confidence h)
  obtain rfl := hF.semi_major_orientation.injOn hp.semiMajorOrientation hp'.semiMajorOrientation
    (congrArg Msg.ReferencePosition.semi_major_orientation h)
  obtain rfl := Msg.Measured.ofAsn1_injOn hF.altitude hp.altitude hp'.altitude
    (congrArg Msg.ReferencePosition.altitude h)
  rfl

end Position

end V2xStack
