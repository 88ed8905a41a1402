import V2xStack.Its.CpmTs

/-!
# Null safety of the release 2 CPM conversion

Which release 2 CPMs `convertCpm` converts without following a null pointer.

There is one lemma per function of the conversion, from the parts up. All
optional members but one are followed after a null test, so their conversions are
safe whatever is absent (`convert_safe` of regions, positions, shapes and
objects), and so are the loops over them by `Run.safe_forPush`. The exception is
the map reference of a roadside unit: its tag is read without a test
(`Its2.OriginatingRsuContainer.convert_safe_iff`). `convertCpm_safe_iff` is the
result for a message with any number of containers of any kinds.
-/

namespace V2xStack

namespace Its2

/-! ### Parts with guarded members -/

theorem ReferenceID.convert_safe (F : ReferenceIDFormat) (r : ReferenceID) :
    (r.convert F).Safe :=
  Run.safe_ifPresent_pure _ _ _ _

theorem CartesianPosition3d.convert_safe (F : CartesianPosition3dFormat)
    (p : CartesianPosition3d) : (p.convert F).Safe :=
  Run.safe_ifPresent_pure _ _ _ _

theorem SensorInformation.convert_safe (F : SensorInformationFormat) (s : SensorInformation) :
    (s.convert F).Safe :=
  Run.safe_pure _

/-- Any alternative of a shape, with any number of points or parts. -/
theorem Shape.convert_safe (F : ShapeFormat) (s : Shape) : (s.convert F).Safe := by
  cases s with
  | nothing => exact Run.safe_pure _
  | rectangular semiLength semiBreadth => exact Run.safe_pure _
  | circular radius => exact Run.safe_pure _
  -- only the two alternatives with a list push in a loop; the others follow no pointer
  | polygonal polygon =>
    rw [Shape.convert, Run.safe_bind, Run.safe_forPush]
    exact ⟨fun p _ => p.convert_safe F.position, fun _ _ => Run.safe_pure _⟩
  | elliptical semiMajorAxisLength semiMinorAxisLength => exact Run.safe_pure _
  | radial r => exact Run.safe_pure _
  | radialShapes r =>
    rw [Shape.convert, Run.safe_bind, Run.safe_forPush]
    exact ⟨fun _ _ => Run.safe_pure _, fun _ _ => Run.safe_pure _⟩

theorem PerceptionRegion.convert_safe (F : PerceptionRegionFormat) (r : PerceptionRegion) :
    (r.convert F).Safe := by
  rw [PerceptionRegion.convert, Run.safe_bind]
  exact ⟨r.perceptionRegionShape.convert_safe F.shape, fun _ _ => Run.safe_pure _⟩

theorem PerceivedObject.convert_safe (F : TsPerceivedObjectFormat) (o : PerceivedObject) :
    (o.convert F).Safe := by
  rw [PerceivedObject.convert, Run.safe_bind]
  -- the identifier, then the z coordinate
  exact ⟨Run.safe_ifPresent_pure _ _ _ _, fun msg _ => Run.safe_ifPresent_pure _ _ _ _⟩

/-! ### The map reference of a roadside unit -/

/-- The tag of the map reference is read through the pointer, whatever it is. -/
theorem OriginatingRsuContainer.convert_safe_iff (F : WrappedCpmContainerFormat)
    (c : OriginatingRsuContainer) : (c.convert F).Safe ↔ c.mapReference.isSome := by
  rw [OriginatingRsuContainer.convert, Run.safe_bind, Run.safe_deref]
  refine and_iff_left fun ref _ => ?_
  -- behind the tag the optional region is guarded
  cases ref with
  | nothing => exact Run.safe_pure _
  | roadsegment r =>
    exact (Run.safe_bind _ _).mpr ⟨r.convert_safe F.roadsegment, fun _ _ => Run.safe_pure _⟩
  | intersection r =>
    exact (Run.safe_bind _ _).mpr ⟨r.convert_safe F.intersection, fun _ _ => Run.safe_pure _⟩

/-! ### Containers and messages -/

/-- An array without cells holds no element. -/
theorem AsnList.array_eq_nil {α : Type} {l : AsnList α} (h : ¬0 < l.size) : l.array = [] := by
  have hcount := l.count_le
  exact List.eq_nil_of_length_eq_zero (by omega)

/-- A roadside unit's container has a map reference; the other kinds have
nothing that is followed without a test. -/
def WrappedCpmContainer.HasMapReference : WrappedCpmContainer → Prop
  | originatingRsu c => c.mapReference.isSome
  | _ => True

theorem WrappedCpmContainer.convert_safe_iff (F : WrappedCpmContainerFormat)
    (c : WrappedCpmContainer) : (c.convert F).Safe ↔ c.HasMapReference := by
  cases c with
  | originatingVehicle orientationAngle => exact iff_of_true (Run.safe_pure _) trivial
  | originatingRsu rsu =>
    rw [WrappedCpmContainer.convert]
    dsimp only
    rw [Run.safe_bind, rsu.convert_safe_iff F]
    exact and_iff_left fun _ _ => Run.safe_pure _
  | sensorInformation list =>
    refine iff_of_true ?_ trivial
    refine (Run.safe_bind _ _).mpr ⟨?_, fun _ _ => Run.safe_pure _⟩
    exact (Run.safe_forPush _ _).mpr fun s _ => s.convert_safe F.sensor_information
  | perceptionRegion list =>
    refine iff_of_true ?_ trivial
    refine (Run.safe_bind _ _).mpr ⟨?_, fun _ _ => Run.safe_pure _⟩
    exact (Run.safe_forPush _ _).mpr fun r _ => r.convert_safe F.perception_region
  | perceivedObject container =>
    refine iff_of_true ?_ trivial
    refine (Run.safe_bind _ _).mpr ⟨?_, fun _ _ => Run.safe_pure _⟩
    exact (Run.safe_forPush _ _).mpr fun o _ => o.convert_safe F.perceived_object
  | other id unknown =>
    -- the `default` of the switch
    exact iff_of_true (Run.safe_pure _) trivial

end Its2

/-- The loop over the containers is safe when each of them is. -/
theorem Its2.Cpm.convertCpm_containersSafe_iff (asn_INTEGER2uint64 : List UInt8 → Option UInt64)
    (F : CpmTsFormat) (a : Its2.Cpm) :
    (a.convertCpm asn_INTEGER2uint64 F).Safe ↔
      ∀ c ∈ a.cpmContainers.array, (c.convert F.cpm_container).Safe := by
  unfold Its2.Cpm.convertCpm
  dsimp only
  split
  · rw [Run.safe_bind, Run.safe_forPush]
    exact and_iff_left fun _ _ => Run.safe_pure _
  · next hsize =>
    -- an array without cells is not entered
    rw [Its2.AsnList.array_eq_nil hsize]
    exact iff_of_true (Run.safe_pure _) (List.forall_mem_nil _)

/-- **Null safety, exactly.** A release 2 CPM with containers of any kinds in any
order is converted without following a null pointer, and to a message, if and
only if every container of a roadside unit has a map reference. -/
theorem convertCpm_safe_iff (asn_INTEGER2uint64 : List UInt8 → Option UInt64)
    (F : CpmTsFormat) (a : Its2.Cpm) :
    (a.convertCpm asn_INTEGER2uint64 F).Safe ↔
      ∀ c ∈ a.cpmContainers.array, c.HasMapReference := by
  rw [Its2.Cpm.convertCpm_containersSafe_iff]
  exact forall₂_congr fun c _ => c.convert_safe_iff F.cpm_container

/-- A roadside unit's CPM with the optional map reference left out. -/
def rsuCpm : Its2.Cpm where
  header := { protocolVersion := 2, messageID := 14, stationID := 815 }
  managementContainer :=
    { referenceTime := [1, 2, 3, 4, 5, 6]
      referencePosition :=
        { latitude := 487600000
          longitude := 114200000
          positionConfidenceEllipse := ⟨50, 50, 900⟩
          altitude := ⟨37000, 15⟩ } }
  cpmContainers :=
    { array := [.originatingRsu { mapReference := none }], size := 1, count_le := le_rfl }

/-- Its conversion follows a null pointer. -/
theorem rsuCpm_not_safe : ¬(rsuCpm.convertCpm (fun _ => some 0) .released).Safe := by
  intro hsafe
  have hmem : Access.deref .mapReference true
      ∈ (rsuCpm.convertCpm (fun _ => some 0) .released).accesses := by decide
  exact absurd (hsafe.legal _ hmem) (by decide)

end V2xStack
