import V2xStack.Foundation.IntFormat

/-!
# Data elements

What the conversions of the ITS messages share: the ASN.1 structures of the
common data dictionary, the parts of the ROS messages that mirror them, and the
assignments in both directions.

The structures on the ASN.1 side hold arbitrary integers. The message packages
are not part of the repository, so the integer formats of the ROS fields are a
parameter: a `…Format` structure mirrors each part of a message, and a field holds
a `Value` of its format. `ofAsn1` assigns a part from ASN.1 and wraps, `ofMsg`
assigns it back, and `Fits` says that every integer is in the range of its field.
For each part `ofMsg_ofAsn1` is the round trip on `Fits`.
-/

namespace V2xStack

/-- `reverse_byte`. -/
def reverse_byte (byte : UInt8) : UInt8 :=
  let byte := (byte &&& 0xf0) >>> 4 ||| (byte &&& 0x0f) <<< 4
  let byte := (byte &&& 0xcc) >>> 2 ||| (byte &&& 0x33) <<< 2
  let byte := (byte &&& 0xaa) >>> 1 ||| (byte &&& 0x55) <<< 1
  byte

/-- Reversing twice gives the byte again. -/
@[simp] theorem reverse_byte_reverse_byte (byte : UInt8) :
    reverse_byte (reverse_byte byte) = byte := by
  have hall : ∀ n : Fin 256, reverse_byte (reverse_byte (UInt8.ofNat n)) = UInt8.ofNat n := by
    decide +kernel
  have h := hall ⟨byte.toNat, byte.toNat_lt⟩
  rwa [UInt8.ofNat_toNat] at h

namespace Asn1

/-- `BIT_STRING_t`: the octets, most significant bit first, and how many bits of
the last one are not part of the string. -/
structure BitString where
  buf : List UInt8
  bits_unused : ℕ := 0
  deriving DecidableEq, Repr

/-- `ItsPduHeader_t`. -/
structure ItsPduHeader where
  protocolVersion : ℤ
  messageID : ℤ
  stationID : ℤ
  deriving DecidableEq, Repr

/-- A quantity with its confidence: `headingValue` and `headingConfidence`,
`speedValue` and `speedConfidence`, and so on. -/
structure Measured where
  value : ℤ
  confidence : ℤ
  deriving DecidableEq, Repr

/-- `PosConfidenceEllipse_t`. -/
structure PosConfidenceEllipse where
  semiMajorConfidence : ℤ
  semiMinorConfidence : ℤ
  semiMajorOrientation : ℤ
  deriving DecidableEq, Repr

/-- `ReferencePosition_t`. -/
structure ReferencePosition where
  latitude : ℤ
  longitude : ℤ
  positionConfidenceEllipse : PosConfidenceEllipse
  altitude : Measured
  deriving DecidableEq, Repr

end Asn1

/-! ### Formats of the ROS fields -/

structure ItsPduHeaderFormat where
  protocol_version : IntFormat
  message_id : IntFormat
  station_id : IntFormat

structure MeasuredFormat where
  value : IntFormat
  confidence : IntFormat

structure ReferencePositionFormat where
  latitude : IntFormat
  longitude : IntFormat
  semi_major_confidence : IntFormat
  semi_minor_confidence : IntFormat
  semi_major_orientation : IntFormat
  altitude : MeasuredFormat

namespace Msg

/-- `its_header`. -/
structure ItsPduHeader (F : ItsPduHeaderFormat) where
  protocol_version : F.protocol_version.Value := 0
  message_id : F.message_id.Value := 0
  station_id : F.station_id.Value := 0
  deriving DecidableEq, Repr

/-- `value` and `confidence`, or for a vehicle length `confidence_indication`. -/
structure Measured (F : MeasuredFormat) where
  value : F.value.Value := 0
  confidence : F.confidence.Value := 0
  deriving DecidableEq, Repr

/-- `reference_position`; the three values of the ellipse are in its
`position_confidence`. -/
structure ReferencePosition (F : ReferencePositionFormat) where
  latitude : F.latitude.Value := 0
  longitude : F.longitude.Value := 0
  semi_major_confidence : F.semi_major_confidence.Value := 0
  semi_minor_confidence : F.semi_minor_confidence.Value := 0
  semi_major_orientation : F.semi_major_orientation.Value := 0
  altitude : Measured F.altitude := {}
  deriving DecidableEq, Repr

end Msg

/-! ### Assignments -/

section Header

variable (F : ItsPduHeaderFormat)

/-- The header part of the conversions from ASN.1. They do not assign
`message_id`. -/
def Msg.ItsPduHeader.ofAsn1 (h : Asn1.ItsPduHeader) : Msg.ItsPduHeader F where
  protocol_version := F.protocol_version.assign h.protocolVersion
  station_id := F.station_id.assign h.stationID

variable {F}

/-- The header part of the conversion to ASN.1. -/
def Asn1.ItsPduHeader.ofMsg (h : Msg.ItsPduHeader F) : Asn1.ItsPduHeader where
  protocolVersion := h.protocol_version.val
  messageID := h.message_id.val
  stationID := h.station_id.val

variable (F) in
structure Asn1.ItsPduHeader.Fits (h : Asn1.ItsPduHeader) : Prop where
  protocolVersion : F.protocol_version.InRange h.protocolVersion
  messageID : F.message_id.InRange h.messageID
  stationID : F.station_id.InRange h.stationID

/-- The message identifier does not come back. -/
theorem Asn1.ItsPduHeader.ofMsg_ofAsn1 {h : Asn1.ItsPduHeader} (hfits : h.Fits F) :
    Asn1.ItsPduHeader.ofMsg (Msg.ItsPduHeader.ofAsn1 F h) = { h with messageID := 0 } := by
  unfold Asn1.ItsPduHeader.ofMsg Msg.ItsPduHeader.ofAsn1
  rw [IntFormat.assign_val_of_inRange hfits.protocolVersion,
    IntFormat.assign_val_of_inRange hfits.stationID]
  rfl

end Header

section Measured

variable (F : MeasuredFormat)

def Msg.Measured.ofAsn1 (q : Asn1.Measured) : Msg.Measured F where
  value := F.value.assign q.value
  confidence := F.confidence.assign q.confidence

variable {F}

def Asn1.Measured.ofMsg (q : Msg.Measured F) : Asn1.Measured where
  value := q.value.val
  confidence := q.confidence.val

variable (F) in
structure Asn1.Measured.Fits (q : Asn1.Measured) : Prop where
  value : F.value.InRange q.value
  confidence : F.confidence.InRange q.confidence

theorem Asn1.Measured.ofMsg_ofAsn1 {q : Asn1.Measured} (hfits : q.Fits F) :
    Asn1.Measured.ofMsg (Msg.Measured.ofAsn1 F q) = q := by
  unfold Asn1.Measured.ofMsg Msg.Measured.ofAsn1
  rw [IntFormat.assign_val_of_inRange hfits.value,
    IntFormat.assign_val_of_inRange hfits.confidence]

/-- Quantities that fit stay apart. -/
theorem Msg.Measured.ofAsn1_injOn_fits :
    Set.InjOn (Msg.Measured.ofAsn1 F) {q | q.Fits F} :=
  Set.LeftInvOn.injOn fun _ hq => Asn1.Measured.ofMsg_ofAsn1 hq

end Measured

section Position

variable (F : ReferencePositionFormat)

def Msg.ReferencePosition.ofAsn1 (refpos : Asn1.ReferencePosition) :
    Msg.ReferencePosition F where
  altitude := .ofAsn1 F.altitude refpos.altitude
  latitude := F.latitude.assign refpos.latitude
  longitude := F.longitude.assign refpos.longitude
  semi_major_confidence :=
    F.semi_major_confidence.assign refpos.positionConfidenceEllipse.semiMajorConfidence
  semi_minor_confidence :=
    F.semi_minor_confidence.assign refpos.positionConfidenceEllipse.semiMinorConfidence
  semi_major_orientation :=
    F.semi_major_orientation.assign refpos.positionConfidenceEllipse.semiMajorOrientation

variable {F}

def Asn1.ReferencePosition.ofMsg (refpos : Msg.ReferencePosition F) :
    Asn1.ReferencePosition where
  altitude := .ofMsg refpos.altitude
  latitude := refpos.latitude.val
  longitude := refpos.longitude.val
  positionConfidenceEllipse :=
    { semiMajorConfidence := refpos.semi_major_confidence.val
      semiMinorConfidence := refpos.semi_minor_confidence.val
      semiMajorOrientation := refpos.semi_major_orientation.val }

variable (F) in
structure Asn1.ReferencePosition.Fits (refpos : Asn1.ReferencePosition) : Prop where
  altitude : refpos.altitude.Fits F.altitude
  latitude : F.latitude.InRange refpos.latitude
  longitude : F.longitude.InRange refpos.longitude
  semiMajorConfidence :
    F.semi_major_confidence.InRange refpos.positionConfidenceEllipse.semiMajorConfidence
  semiMinorConfidence :
    F.semi_minor_confidence.InRange refpos.positionConfidenceEllipse.semiMinorConfidence
  semiMajorOrientation :
    F.semi_major_orientation.InRange refpos.positionConfidenceEllipse.semiMajorOrientation

theorem Asn1.ReferencePosition.ofMsg_ofAsn1 {refpos : Asn1.ReferencePosition}
    (hfits : refpos.Fits F) :
    Asn1.ReferencePosition.ofMsg (Msg.ReferencePosition.ofAsn1 F refpos) = refpos := by
  unfold Asn1.ReferencePosition.ofMsg Msg.ReferencePosition.ofAsn1
  rw [IntFormat.assign_val_of_inRange hfits.latitude,
    IntFormat.assign_val_of_inRange hfits.longitude,
    IntFormat.assign_val_of_inRange hfits.semiMajorConfidence,
    IntFormat.assign_val_of_inRange hfits.semiMinorConfidence,
    IntFormat.assign_val_of_inRange hfits.semiMajorOrientation,
    Asn1.Measured.ofMsg_ofAsn1 hfits.altitude]

/-- Positions that fit stay apart. -/
theorem Msg.ReferencePosition.ofAsn1_injOn_fits :
    Set.InjOn (Msg.ReferencePosition.ofAsn1 F) {p | p.Fits F} :=
  Set.LeftInvOn.injOn fun _ hp => Asn1.ReferencePosition.ofMsg_ofAsn1 hp

end Position

end V2xStack
