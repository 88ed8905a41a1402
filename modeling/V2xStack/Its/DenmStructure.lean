import V2xStack.Its.Denm

/-!
# Structure of a converted DENM

What `convertDenm` makes of a DENM, whichever of its optional members are there.

Every part has a closed form, `image`, in which an absent member is the default of
its field, and a lemma `convert_result` that the conversion returns it; the lists
and the lists of lists go by `Run.result_forPush`. `convert_safe` says of the same
parts that they follow only pointers they tested. The one pointer that is not
tested is the one to the validity duration (`convertDenm_safe_iff`).

What the message has to be is stated without the functions of the conversion:
`EventPointImage` and `PathPointImage` give each member of a list element by the member
of the source, and `DenmStructure` relates the lists and the flags.
`convertDenm_preserves_structure` puts the two together.
-/

namespace V2xStack

/-! ### Traces -/

section PathPoint

variable {F : LowFrequencyFormat}

/-- The loop body is the one of the CAM conversion. -/
theorem Asn1.PathPoint.convert_result (p : Asn1.PathPoint) :
    (p.convert F).result = some (Msg.PathPoint.ofAsn1 F p) := by
  obtain ⟨pos, time⟩ := p
  cases time with
  | none => rfl
  | some t => rfl

theorem Asn1.PathPoint.convert_safe (p : Asn1.PathPoint) : (p.convert F).Safe :=
  Run.safe_ifPresent_pure _ _ _ _

variable (F) in
/-- The constant for an absent time is zero, and the field holds every time. -/
structure LowFrequencyFormat.HoldsTimes : Prop where
  UNAVAILABLE_val : F.UNAVAILABLE.val = 0
  inRange : ∀ t, 1 ≤ t → t ≤ 65535 → F.path_delta_time.InRange t

/-- A time that is present is not taken for an absent one. -/
theorem Msg.PathPoint.ofAsn1_path_delta_time_eq_iff (hF : F.HoldsTimes) {p : Asn1.PathPoint}
    (hp : ∀ t, p.pathDeltaTime = some t → 1 ≤ t ∧ t ≤ 65535) :
    (Msg.PathPoint.ofAsn1 F p).path_delta_time = F.UNAVAILABLE ↔ p.pathDeltaTime = none := by
  obtain ⟨pos, time⟩ := p
  -- `UNAVAILABLE` is zero, which is no time of the ASN.1 range
  cases time with
  | none => exact iff_of_true rfl rfl
  | some t =>
    obtain ⟨hmin, hmax⟩ := hp t rfl
    refine iff_of_false (fun heq => ?_) (by simp)
    have hval := congrArg IntFormat.Value.val heq
    rw [hF.UNAVAILABLE_val] at hval
    have hassign : (Msg.PathPoint.ofAsn1 F ⟨pos, some t⟩).path_delta_time.val = t :=
      IntFormat.assign_val_of_inRange (hF.inRange t hmin hmax)
    omega

/-- The path point has the deltas of the element, each as its field holds it, and the time
of the element or the constant for an absent one. A time of the schema is not taken for
that constant. -/
structure PathPointImage (p : Asn1.PathPoint) (q : Msg.PathPoint F) : Prop where
  delta_latitude : q.delta_latitude = F.delta_latitude.assign p.pathPosition.deltaLatitude
  delta_longitude : q.delta_longitude = F.delta_longitude.assign p.pathPosition.deltaLongitude
  delta_altitude : q.delta_altitude = F.delta_altitude.assign p.pathPosition.deltaAltitude
  present : ∀ t, p.pathDeltaTime = some t → q.path_delta_time = F.path_delta_time.assign t
  absent : p.pathDeltaTime = none → q.path_delta_time = F.UNAVAILABLE
  unavailable_iff : (∀ t, p.pathDeltaTime = some t → 1 ≤ t ∧ t ≤ 65535) →
    (q.path_delta_time = F.UNAVAILABLE ↔ p.pathDeltaTime = none)

theorem Asn1.PathPoint.ofAsn1_image (hF : F.HoldsTimes) (p : Asn1.PathPoint) :
    PathPointImage p (Msg.PathPoint.ofAsn1 F p) where
  delta_latitude := rfl
  delta_longitude := rfl
  delta_altitude := rfl
  present t ht := by
    unfold Msg.PathPoint.ofAsn1
    rw [ht]
  absent hnone := by
    unfold Msg.PathPoint.ofAsn1
    rw [hnone]
  unavailable_iff := Msg.PathPoint.ofAsn1_path_delta_time_eq_iff hF

end PathPoint

/-! ### The containers -/

section EventPoint

variable {F : EventPointFormat}

/-- The event point has the deltas and the quality of the element, each as its field
holds it. -/
structure EventPointImage (p : Asn1.EventPoint) (q : Msg.EventPoint F) : Prop where
  delta_latitude : q.delta_latitude = F.delta_latitude.assign p.eventPosition.deltaLatitude
  delta_longitude : q.delta_longitude = F.delta_longitude.assign p.eventPosition.deltaLongitude
  delta_altitude : q.delta_altitude = F.delta_altitude.assign p.eventPosition.deltaAltitude
  information_quality :
    q.information_quality = F.information_quality.assign p.informationQuality

theorem Asn1.EventPoint.ofAsn1_image (p : Asn1.EventPoint) :
    EventPointImage p (Msg.EventPoint.ofAsn1 F p) where
  delta_latitude := rfl
  delta_longitude := rfl
  delta_altitude := rfl
  information_quality := rfl

end EventPoint

section Situation

variable {F : SituationFormat}

variable (F) in
/-- The converted situation container. -/
def Asn1.SituationContainer.image (s : Asn1.SituationContainer) : Msg.SituationContainer F where
  information_quality := F.information_quality.assign s.informationQuality
  event_type := .ofAsn1 F.event_type s.eventType
  has_linked_cause := s.linkedCause.isSome
  linked_cause := (s.linkedCause.map (Msg.CauseCode.ofAsn1 F.linked_cause)).getD {}
  event_history := (s.eventHistory.getD []).map (Msg.EventPoint.ofAsn1 F.event_history)

theorem Asn1.SituationContainer.convert_result (s : Asn1.SituationContainer) :
    (s.convert F).result = some (s.image F) := by
  obtain ⟨quality, type, linkedCause, eventHistory⟩ := s
  rw [Asn1.SituationContainer.convert, Run.result_bind]
  have hhistory : ∀ ps : List Asn1.EventPoint,
      (Run.forPush ps fun p => (pure (Msg.EventPoint.ofAsn1 F.event_history p)
        : Run (Access DenmPlace) _)).result
      = some (ps.map (Msg.EventPoint.ofAsn1 F.event_history)) :=
    fun ps => Run.result_forPush fun p _ => rfl
  -- the two optional members are copied one after the other, each under its own guard
  cases linkedCause with
  | none =>
    cases eventHistory with
    | none => rfl
    | some ps => simp [assignLinkedCause, assignEventHistory, hhistory, image]
  | some c =>
    cases eventHistory with
    | none => rfl
    | some ps => simp [assignLinkedCause, assignEventHistory, hhistory, image]

theorem Asn1.SituationContainer.convert_safe (s : Asn1.SituationContainer) :
    (s.convert F).Safe := by
  rw [Asn1.SituationContainer.convert, Run.safe_bind]
  refine ⟨Run.safe_ifPresent_pure _ _ _ _, fun msg _ => ?_⟩
  rw [Asn1.SituationContainer.assignEventHistory, Run.safe_ifPresent]
  -- both pointers are tested first, and the loop only reads elements of the list
  refine ⟨fun ps _ => ?_, fun _ => Run.safe_pure _⟩
  rw [Run.safe_bind, Run.safe_forPush]
  exact ⟨fun _ _ => Run.safe_pure _, fun _ _ => Run.safe_pure _⟩

end Situation

section Location

variable {F : LocationFormat}

variable (F) in
/-- The converted location container. -/
def Asn1.LocationContainer.image (l : Asn1.LocationContainer) : Msg.LocationContainer F where
  event_speed := (l.eventSpeed.map (Msg.Measured.ofAsn1 F.event_speed)).getD {}
  event_position_heading :=
    (l.eventPositionHeading.map (Msg.Measured.ofAsn1 F.event_position_heading)).getD {}
  traces := l.traces.map fun trace => trace.map (Msg.PathPoint.ofAsn1 F.path_point)
  road_type := (l.roadType.map F.road_type.assign).getD 0

/-- The two nested loops. -/
theorem convertTraces_result (traces : List (List Asn1.PathPoint)) :
    (Run.forPush traces fun trace => Run.forPush trace fun p => p.convert F.path_point).result
      = some (traces.map fun trace => trace.map (Msg.PathPoint.ofAsn1 F.path_point)) :=
  Run.result_forPush fun _ _ => Run.result_forPush fun p _ => p.convert_result

theorem Asn1.LocationContainer.assignEventSpeed_result (l : Asn1.LocationContainer)
    (msg : Msg.LocationContainer F) :
    (l.assignEventSpeed F msg).result
      = some { msg with
          event_speed :=
            (l.eventSpeed.map (Msg.Measured.ofAsn1 F.event_speed)).getD msg.event_speed } := by
  unfold Asn1.LocationContainer.assignEventSpeed
  cases l.eventSpeed with
  | none => rfl
  | some speed => rfl

theorem Asn1.LocationContainer.assignEventPositionHeading_result (l : Asn1.LocationContainer)
    (msg : Msg.LocationContainer F) :
    (l.assignEventPositionHeading F msg).result
      = some { msg with
          event_position_heading :=
            (l.eventPositionHeading.map (Msg.Measured.ofAsn1 F.event_position_heading)).getD
              msg.event_position_heading } := by
  unfold Asn1.LocationContainer.assignEventPositionHeading
  cases l.eventPositionHeading with
  | none => rfl
  | some heading => rfl

theorem Asn1.LocationContainer.assignRoadType_result (l : Asn1.LocationContainer)
    (msg : Msg.LocationContainer F) :
    (l.assignRoadType F msg).result
      = some { msg with
          road_type := (l.roadType.map F.road_type.assign).getD msg.road_type } := by
  unfold Asn1.LocationContainer.assignRoadType
  cases l.roadType with
  | none => rfl
  | some roadType => rfl

theorem Asn1.LocationContainer.convert_result (l : Asn1.LocationContainer) :
    (l.convert F).result = some (l.image F) := by
  rw [Asn1.LocationContainer.convert, Run.result_bind, assignEventSpeed_result, Option.bind_some,
    Run.result_bind, assignEventPositionHeading_result, Option.bind_some, Run.result_bind,
    convertTraces_result, Option.bind_some, assignRoadType_result]
  rfl

theorem Asn1.LocationContainer.convert_safe (l : Asn1.LocationContainer) :
    (l.convert F).Safe := by
  rw [Asn1.LocationContainer.convert, Run.safe_bind]
  -- the speed and the heading are followed behind a test
  refine ⟨Run.safe_ifPresent_pure _ _ _ _, fun msg _ => ?_⟩
  rw [Run.safe_bind]
  refine ⟨Run.safe_ifPresent_pure _ _ _ _, fun msg _ => ?_⟩
  rw [Run.safe_bind, Run.safe_forPush]
  -- so is the road type, after the two loops over the traces
  refine ⟨fun trace _ => ?_, fun traces _ => Run.safe_ifPresent_pure _ _ _ _⟩
  rw [Run.safe_forPush]
  exact fun p _ => p.convert_safe

end Location

/-! ### The whole message -/

section Message

variable {asn_INTEGER2uint64 : List UInt8 → Option UInt64} {F : DenmFormat}

variable (asn_INTEGER2uint64 F) in
/-- The converted message, for a validity duration. -/
def Asn1.Denm.image (a : Asn1.Denm) (validityDuration : ℤ) : Msg.DENM F where
  its_header := .ofAsn1 F.its_header a.header
  management :=
    { station_id := F.management.station_id.assign a.management.actionID.originatingStationID
      sequence_number :=
        F.management.sequence_number.assign a.management.actionID.sequenceNumber
      detection_time := (asn_INTEGER2uint64 a.management.detectionTime).getD 0
      reference_time := (asn_INTEGER2uint64 a.management.referenceTime).getD 0
      event_position := .ofAsn1 F.management.event_position a.management.eventPosition
      validity_duration := F.management.validity_duration.assign validityDuration
      station_type := F.management.station_type.assign a.management.stationType }
  has_situation := a.situation.isSome
  situation := (a.situation.map (Asn1.SituationContainer.image F.situation)).getD {}
  has_location := a.location.isSome
  location := (a.location.map (Asn1.LocationContainer.image F.location)).getD {}

theorem Asn1.Denm.assignSituation_result (a : Asn1.Denm) {msg : Msg.DENM F}
    (hflag : msg.has_situation = false) :
    (a.assignSituation F msg).result
      = some { msg with
          has_situation := a.situation.isSome
          situation :=
            (a.situation.map (Asn1.SituationContainer.image F.situation)).getD
              msg.situation } := by
  unfold Asn1.Denm.assignSituation
  cases a.situation with
  -- without the container the flag stays as the constructor left it
  | none =>
    rw [Option.isSome_none, ← hflag]
    rfl
  | some s =>
    rw [Run.result_ifPresent_some, Run.result_bind, s.convert_result]
    rfl

theorem Asn1.Denm.assignLocation_result (a : Asn1.Denm) {msg : Msg.DENM F}
    (hflag : msg.has_location = false) :
    (a.assignLocation F msg).result
      = some { msg with
          has_location := a.location.isSome
          location :=
            (a.location.map (Asn1.LocationContainer.image F.location)).getD msg.location } := by
  unfold Asn1.Denm.assignLocation
  cases a.location with
  | none =>
    rw [Option.isSome_none, ← hflag]
    rfl
  | some l =>
    rw [Run.result_ifPresent_some, Run.result_bind, l.convert_result]
    rfl

/-- **The conversion in closed form.** -/
theorem Asn1.Denm.convertDenm_result {a : Asn1.Denm} {v : ℤ}
    (h : a.management.validityDuration = some v) :
    (a.convertDenm F asn_INTEGER2uint64).result = some (a.image asn_INTEGER2uint64 F v) := by
  -- the duration is read first, without a test; then the two optional containers are copied
  rw [Asn1.Denm.convertDenm, Run.result_bind, Asn1.ManagementContainer.convert, h,
    Run.result_bind, Run.result_deref, Option.bind_some, Run.result_pure, Option.bind_some,
    Run.result_bind, a.assignSituation_result rfl, Option.bind_some,
    a.assignLocation_result rfl]
  rfl

/-- **Null safety, exactly.** Whatever else is absent, the conversion follows no
null pointer if and only if there is a validity duration. -/
theorem Asn1.Denm.convertDenm_safe_iff (a : Asn1.Denm) :
    (a.convertDenm F asn_INTEGER2uint64).Safe ↔ a.management.validityDuration.isSome := by
  rw [Asn1.Denm.convertDenm, Run.safe_bind, Asn1.ManagementContainer.convert, Run.safe_bind,
    Run.safe_deref, and_assoc]
  refine and_iff_left ⟨fun _ _ => Run.safe_pure _, fun management _ => ?_⟩
  -- both containers are guarded
  rw [Run.safe_bind, Asn1.Denm.assignSituation, Run.safe_ifPresent]
  refine ⟨⟨fun s _ => ?_, fun _ => Run.safe_pure _⟩, fun msg _ => ?_⟩
  · rw [Run.safe_bind]
    exact ⟨s.convert_safe, fun _ _ => Run.safe_pure _⟩
  · rw [Asn1.Denm.assignLocation, Run.safe_ifPresent]
    refine ⟨fun l _ => ?_, fun _ => Run.safe_pure _⟩
    rw [Run.safe_bind]
    exact ⟨l.convert_safe, fun _ _ => Run.safe_pure _⟩

/-- The event points of a message; none when it has no event history. -/
def Asn1.Denm.eventPoints (a : Asn1.Denm) : List Asn1.EventPoint :=
  (a.situation.bind Asn1.SituationContainer.eventHistory).getD []

/-- The traces of a message; none when it has no location container. -/
def Asn1.Denm.traces (a : Asn1.Denm) : List (List Asn1.PathPoint) :=
  (a.location.map Asn1.LocationContainer.traces).getD []

/-- The message has the flags and lists of the ASN.1 message. -/
structure DenmStructure (a : Asn1.Denm) (m : Msg.DENM F) : Prop where
  has_situation : m.has_situation = true ↔ a.situation.isSome
  has_linked_cause :
    m.situation.has_linked_cause = true ↔
      ∃ s, a.situation = some s ∧ s.linkedCause.isSome
  has_location : m.has_location = true ↔ a.location.isSome
  event_history : List.Forall₂ EventPointImage a.eventPoints m.situation.event_history
  traces : List.Forall₂ (List.Forall₂ PathPointImage) a.traces m.location.traces

/-- The lists of the closed form. -/
theorem Asn1.Denm.image_event_history (a : Asn1.Denm) (v : ℤ) :
    (a.image asn_INTEGER2uint64 F v).situation.event_history
      = a.eventPoints.map (Msg.EventPoint.ofAsn1 F.situation.event_history) := by
  unfold Asn1.Denm.image Asn1.Denm.eventPoints
  cases a.situation with
  | none => rfl
  | some s => rfl

theorem Asn1.Denm.image_traces (a : Asn1.Denm) (v : ℤ) :
    (a.image asn_INTEGER2uint64 F v).location.traces
      = a.traces.map fun trace => trace.map (Msg.PathPoint.ofAsn1 F.location.path_point) := by
  unfold Asn1.Denm.image Asn1.Denm.traces
  cases a.location with
  | none => rfl
  | some l => rfl

theorem Asn1.Denm.image_structure (hF : F.location.path_point.HoldsTimes) (a : Asn1.Denm)
    (v : ℤ) : DenmStructure a (a.image asn_INTEGER2uint64 F v) where
  has_situation := Iff.rfl
  has_linked_cause := by
    unfold Asn1.Denm.image
    cases a.situation with
    | none => simp
    | some s => simp [Asn1.SituationContainer.image]
  has_location := Iff.rfl
  event_history := by
    rw [a.image_event_history, List.forall₂_map_right_iff]
    exact List.forall₂_same.mpr fun p _ => p.ofAsn1_image
  traces := by
    rw [a.image_traces, List.forall₂_map_right_iff]
    -- a trace is a list of points in turn, copied in the same order
    refine List.forall₂_same.mpr fun trace _ => ?_
    rw [List.forall₂_map_right_iff]
    exact List.forall₂_same.mpr fun p _ => p.ofAsn1_image hF

end Message

/-- **Structure and null safety.** A DENM with a validity duration, whichever of
its other optional members are absent, is converted without following a null
pointer, to a message with its flags and lists. -/
theorem convertDenm_preserves_structure (asn_INTEGER2uint64 : List UInt8 → Option UInt64)
    (F : DenmFormat) (a : Asn1.Denm) (hF : F.location.path_point.HoldsTimes)
    (hduration : a.management.validityDuration.isSome) :
    (a.convertDenm F asn_INTEGER2uint64).Safe ∧
      ∃ m, (a.convertDenm F asn_INTEGER2uint64).result = some m ∧ DenmStructure a m := by
  refine ⟨a.convertDenm_safe_iff.mpr hduration, ?_⟩
  obtain ⟨v, hv⟩ := Option.isSome_iff_exists.mp hduration
  exact ⟨_, Asn1.Denm.convertDenm_result hv, a.image_structure hF v⟩

theorem released_holdsTimes : DenmFormat.released.location.path_point.HoldsTimes where
  UNAVAILABLE_val := rfl
  inRange t hmin hmax := by
    change IntFormat.uint16.InRange t
    simp only [IntFormat.InRange, IntFormat.uint16, Bool.false_eq_true, if_false]
    omega

/-- A stationary vehicle: no linked cause, one trace of two points, of which the
second has a time. -/
def stationaryDenm : Asn1.Denm where
  header := { protocolVersion := 2, messageID := 1, stationID := 4711 }
  management :=
    { actionID := { originatingStationID := 4711, sequenceNumber := 3 }
      detectionTime := [1, 2, 3, 4, 5, 6]
      referenceTime := [1, 2, 3, 4, 5, 7]
      eventPosition :=
        { latitude := 487600000
          longitude := 114200000
          positionConfidenceEllipse := ⟨50, 50, 900⟩
          altitude := ⟨37000, 15⟩ }
      validityDuration := some 600
      stationType := 5 }
  situation :=
    some
      { informationQuality := 3
        eventType := { causeCode := 94, subCauseCode := 0 }
        eventHistory := some [{ eventPosition := ⟨0, 0, 0⟩, informationQuality := 3 }] }
  location :=
    some
      { traces :=
          [[{ pathPosition := ⟨-120, 340, 0⟩ },
            { pathPosition := ⟨-60, 170, 0⟩, pathDeltaTime := some 50 }]] }

theorem stationaryDenm_structure :
    (stationaryDenm.convertDenm .released fun _ => some 0).Safe ∧
      ∃ m, (stationaryDenm.convertDenm .released fun _ => some 0).result = some m ∧
        DenmStructure stationaryDenm m :=
  convertDenm_preserves_structure (fun _ => some 0) .released stationaryDenm
    released_holdsTimes (by decide)

end V2xStack
