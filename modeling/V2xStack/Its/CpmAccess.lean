import V2xStack.Its.CpmClass

/-!
# Memory safety of the release 1 CPM conversion

`StationSafe` and `ClassSafe` each look at one kind of access. Here are all of them:
`Asn1.Cpm.convertCpm_memorySafe` says for which messages `convertCpm` follows no null
pointer, reads no alternative that its tag does not select, stays inside its lists, and
returns a message.
-/

namespace V2xStack

section Station

variable {a : Asn1.Cpm}

theorem originatingVehicle_safe_iff : a.originatingVehicle.Safe ↔ a.OfVehicle := by
  unfold Asn1.Cpm.originatingVehicle Asn1.Cpm.OfVehicle
  cases a.cpmParameters.stationDataContainer with
  | none => simp
  | some station => simp

variable {F : OriginatingVehicleFormat}

theorem convertStationData_safe_iff : (a.convertStationData F).Safe ↔ a.OfVehicle := by
  constructor
  · -- the first of the reads already follows both pointers
    intro h
    unfold Asn1.Cpm.convertStationData at h
    rw [Run.safe_bind] at h
    exact originatingVehicle_safe_iff.mp h.1
  · intro h
    have hread := originatingVehicle_safe_iff.mpr h
    -- later reads follow the same pointers again
    obtain ⟨station, hstation, -⟩ := h
    exact ⟨convertStationData_allAccesses hread.legal rfl, by
      rw [convertStationData_result hstation]
      rfl⟩

end Station

section Objects

variable {F : PerceivedObjectFormat}

theorem classify_safe_iff (c : Asn1.ObjectClass) : c.classify.Safe ↔ c.Supported := by
  unfold Asn1.ObjectClass.classify Asn1.ObjectClass.Supported
  split
  · next hperson => simp [hperson]
  · next hperson => simp [hperson]

theorem assignClassification_safe_iff (s : Msg.PerceivedObject F) (o : Asn1.PerceivedObject) :
    (s.assignClassification F o).Safe ↔ o.Supported := by
  unfold Msg.PerceivedObject.assignClassification Asn1.PerceivedObject.Supported
    Asn1.PerceivedObject.firstClass
  cases o.classification with
  | none => simp
  | some list =>
    rw [Run.safe_ifPresent]
    -- only the first class of the list is looked at
    cases list with
    | nil => simp
    | cons c cs => simp [classify_safe_iff]

theorem fill_safe_iff (s : Msg.PerceivedObject F) (o : Asn1.PerceivedObject) :
    (s.fill F o).Safe ↔ o.Supported := by
  rw [Msg.PerceivedObject.fill, Run.safe_bind]
  constructor
  -- the age is read behind a check of its pointer, so only the classification matters
  · rintro ⟨-, hclassification⟩
    exact (assignClassification_safe_iff _ o).mp (hclassification _ (assignAge_result _ o))
  · intro hsupported
    exact ⟨Run.safe_ifPresent_pure _ _ _ _,
      fun s' _ => (assignClassification_safe_iff s' o).mpr hsupported⟩

theorem convertObjects_safe_iff (objects : List Asn1.PerceivedObject) :
    (Asn1.Cpm.convertObjects F objects).Safe ↔ ∀ o ∈ objects, o.Supported := by
  rw [Asn1.Cpm.convertObjects, Run.safe_bind]
  refine Iff.trans (and_iff_left fun _ _ => Run.safe_pure _) ?_
  refine Run.safe_foldlM (fun s o => ?_) objects _
  rw [Run.safe_bind, fill_safe_iff]
  exact and_iff_left fun _ _ => Run.safe_pure _

end Objects

section Cpm

variable {F : CpmFormat} {a : Asn1.Cpm}

theorem assignObjects_safe_iff (msg : Msg.CPM F) :
    (a.assignObjects F msg).Safe ↔
      (0 < msg.number_of_perceived_objects.val → ∀ o ∈ a.objects, o.Supported) := by
  unfold Asn1.Cpm.assignObjects Asn1.Cpm.objects
  -- the objects are reached when the number read from the message is positive
  split
  · next hpos =>
    rw [Run.safe_ifPresent]
    cases a.cpmParameters.perceivedObjectContainer with
    | none => simp
    | some objects => simp [convertObjects_safe_iff, hpos]
  · next hpos => simp [hpos]

/-- **Memory safety, exactly**: the station data are those of a vehicle, and the objects
that the conversion gets to are classified as vehicles or persons, if at all. -/
theorem Asn1.Cpm.convertCpm_memorySafe :
    (a.convertCpm F).Safe ↔
      a.OfVehicle ∧ (a.ReachesObjects F → ∀ o ∈ a.objects, o.Supported) := by
  have hheader : (a.convertHeader F).Safe ↔ a.OfVehicle := by
    rw [Asn1.Cpm.convertHeader, Run.safe_bind, convertStationData_safe_iff]
    exact and_iff_left fun _ _ => Run.safe_pure _
  rw [Asn1.Cpm.convertCpm, Run.safe_bind, hheader]
  refine and_congr_right fun hvehicle => ?_
  obtain ⟨station, hstation, -⟩ := hvehicle
  have hsome : a.cpmParameters.stationDataContainer.isSome := by
    rw [hstation]
    rfl
  -- the loop is guarded by the assigned field
  obtain ⟨msg, hmsg, hnumber, -⟩ := convertHeader_result (F := F) hsome
  constructor
  · intro h hreaches
    exact (assignObjects_safe_iff msg).mp (h msg hmsg) (by rw [hnumber]; exact hreaches.positive)
  · intro h msg' hmsg'
    obtain rfl : msg = msg' := Option.some.inj (hmsg.symm.trans hmsg')
    exact (assignObjects_safe_iff msg).mpr fun hpos => h ⟨hsome, by rw [← hnumber]; exact hpos⟩

end Cpm

end V2xStack
