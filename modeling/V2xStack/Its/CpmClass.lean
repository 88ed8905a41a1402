import V2xStack.Its.CpmObjects

/-!
# Classification of the perceived objects of a CPM

The class of an object is a CHOICE of four, and `convertCpm` tests for one of its
tags: a person is published as a pedestrian, and whatever is left is read as a
vehicle.

`ClassSafe` allows the reads of an alternative that its tag selects, and
`ClassifiedByTag` says what a published classification means. Both hold of a
message exactly when the first classes of its objects are vehicles and persons, or
when the conversion does not get to the objects (`classDiscipline_iff`). The bytes
of an animal are read as the type of a vehicle.
-/

namespace V2xStack

/-- The station types from `MOPED` to `TRAM`. -/
def StationType.OfVehicle : StationType → Prop
  | .UNKNOWN | .PEDESTRIAN => False
  | _ => True

/-- An alternative of the class is read only when its tag selects it. -/
def ClassSafe : Access CpmPlace → Prop
  | .member .person selected => selected = true
  | .member .vehicle selected => selected = true
  | _ => True

/-- The class has a tag that the conversion has a branch for. -/
def Asn1.ObjectClass.Supported (c : Asn1.ObjectClass) : Prop :=
  c.present = .vehicle ∨ c.present = .person

/-- So has the class that an object is classified by, if it has one. -/
def Asn1.PerceivedObject.Supported (o : Asn1.PerceivedObject) : Prop :=
  ∀ c, o.firstClass = some c → c.Supported

/-- The classification of an entry says of the class what its tag says. -/
structure ClassifiedByTag {F : PerceivedObjectFormat} (c : Asn1.ObjectClass)
    (p : Msg.PerceivedObject F) : Prop where
  pedestrian : p.classification = F.stationType .PEDESTRIAN ↔ c.present = .person
  vehicle : ∀ t : StationType, t.OfVehicle → p.classification = F.stationType t →
    c.present = .vehicle

/-- The conversion respects the tags, in what it reads and in what it publishes. -/
structure ClassDiscipline (F : CpmFormat) (a : Asn1.Cpm) : Prop where
  reads : (a.convertCpm F).AllAccesses ClassSafe
  published : ∀ m, (a.convertCpm F).result = some m → ∀ (i : ℕ) o c p,
    a.objects[i]? = some o → o.firstClass = some c →
      m.list_of_perceived_objects[i]? = some p → ClassifiedByTag c p

/-! ### What is read -/

section Reads

/-- The branch for a vehicle is taken for all tags but one. -/
theorem classify_classSafe_iff (c : Asn1.ObjectClass) :
    c.classify.AllAccesses ClassSafe ↔ c.Supported := by
  unfold Asn1.ObjectClass.classify Asn1.ObjectClass.Supported
  split
  · next hperson => simp [ClassSafe, hperson]
  · next hperson => simp [ClassSafe, hperson]

section Objects

variable {F : PerceivedObjectFormat}

theorem assignClassification_classSafe_iff (s : Msg.PerceivedObject F)
    (o : Asn1.PerceivedObject) :
    (s.assignClassification F o).AllAccesses ClassSafe ↔ o.Supported := by
  unfold Msg.PerceivedObject.assignClassification Asn1.PerceivedObject.Supported
    Asn1.PerceivedObject.firstClass
  cases o.classification with
  | none => simp
  | some list =>
    rw [Run.allAccesses_ifPresent (q := ClassSafe) _ _ _ trivial]
    cases list with
    | nil => simp
    | cons c cs =>
      -- of a list of classes only the first is looked at
      simp [ClassSafe, classify_classSafe_iff]

theorem fill_classSafe_iff (s : Msg.PerceivedObject F) (o : Asn1.PerceivedObject) :
    (s.fill F o).AllAccesses ClassSafe ↔ o.Supported := by
  rw [Msg.PerceivedObject.fill, Run.allAccesses_bind]
  constructor
  · rintro ⟨-, hclassification⟩
    exact (assignClassification_classSafe_iff _ o).mp
      (hclassification _ (assignAge_result _ o))
  · intro hsupported
    -- the age is no class, whatever the iteration before left
    exact ⟨assignAge_allAccesses trivial _ o,
      fun s' _ => (assignClassification_classSafe_iff s' o).mpr hsupported⟩

/-- The loop gets to every object. -/
theorem convertObjects_classSafe_iff (objects : List Asn1.PerceivedObject) :
    (Asn1.Cpm.convertObjects F objects).AllAccesses ClassSafe ↔ ∀ o ∈ objects, o.Supported := by
  rw [Asn1.Cpm.convertObjects, Run.allAccesses_bind]
  refine Iff.trans (and_iff_left fun _ _ => Run.allAccesses_pure _ _) ?_
  -- no iteration ends the loop, and what it reads does not depend on the record
  refine Run.allAccesses_foldlM_iff (fun s o => ?_) (fun s o => ?_) objects _
  · rw [Run.result_bind, fill_result]
    rfl
  · rw [Run.allAccesses_bind, fill_classSafe_iff]
    exact and_iff_left fun _ _ => Run.allAccesses_pure _ _

end Objects

variable {F : CpmFormat} {a : Asn1.Cpm}

/-- In front of the objects no class is read. -/
theorem convertHeader_classSafe : (a.convertHeader F).AllAccesses ClassSafe := by
  have hread : a.originatingVehicle.AllAccesses ClassSafe := by
    simp [Asn1.Cpm.originatingVehicle, ClassSafe]
  rw [Asn1.Cpm.convertHeader, Run.allAccesses_bind]
  exact ⟨convertStationData_allAccesses hread trivial, fun _ _ => Run.allAccesses_pure _ _⟩

/-- Without station data nothing is returned. -/
theorem isSome_of_convertHeader {msg : Msg.CPM F} (h : (a.convertHeader F).result = some msg) :
    a.cpmParameters.stationDataContainer.isSome := by
  by_contra hnone
  rw [Option.not_isSome_iff_eq_none] at hnone
  -- the null pointer is followed before anything is returned
  have hread : a.originatingVehicle.result = none := by
    rw [Asn1.Cpm.originatingVehicle, Run.result_bind, Run.result_deref, hnone]
    rfl
  rw [Asn1.Cpm.convertHeader, Run.result_bind, Asn1.Cpm.convertStationData, Run.result_bind,
    hread] at h
  exact absurd h (by simp)

theorem assignObjects_classSafe_iff (msg : Msg.CPM F) :
    (a.assignObjects F msg).AllAccesses ClassSafe ↔
      (0 < msg.number_of_perceived_objects.val → ∀ o ∈ a.objects, o.Supported) := by
  unfold Asn1.Cpm.assignObjects Asn1.Cpm.objects
  -- without a positive number no class is read
  split
  · next hpos =>
    rw [Run.allAccesses_ifPresent (q := ClassSafe) _ _ _ trivial]
    cases a.cpmParameters.perceivedObjectContainer with
    | none => simp
    | some objects => simp [convertObjects_classSafe_iff, hpos]
  · next hpos => simp [hpos]

/-- **Reads of the class.** A message whose objects are not reached is read right
whatever their classes. -/
theorem convertCpm_classSafe_iff :
    (a.convertCpm F).AllAccesses ClassSafe ↔
      (a.ReachesObjects F → ∀ o ∈ a.objects, o.Supported) := by
  rw [Asn1.Cpm.convertCpm, Run.allAccesses_bind]
  refine Iff.trans (and_iff_right convertHeader_classSafe) ?_
  simp only [assignObjects_classSafe_iff]
  constructor
  · intro h hreaches
    obtain ⟨msg, hmsg, hnumber, -⟩ := convertHeader_result (F := F) hreaches.station
    -- the loop is guarded by the assigned field, not by the announced number
    exact h msg hmsg (by rw [hnumber]; exact hreaches.positive)
  · intro h msg hmsg hpos
    have hstation := isSome_of_convertHeader hmsg
    obtain ⟨msg', hmsg', hnumber, -⟩ := convertHeader_result (F := F) hstation
    obtain rfl : msg = msg' := Option.some.inj (hmsg.symm.trans hmsg')
    exact h ⟨hstation, by rw [← hnumber]; exact hpos⟩

end Reads

/-! ### What is published -/

section Published

variable {F : CpmFormat} {a : Asn1.Cpm}

/-- A supported class is classified by its tag, when the constants differ. -/
theorem classifiedByTag_of_supported {F : PerceivedObjectFormat}
    (hF : Function.Injective F.stationType) {c : Asn1.ObjectClass} (hc : c.Supported)
    {p : Msg.PerceivedObject F} (hp : p.classification = F.stationType c.stationType) :
    ClassifiedByTag c p := by
  have hiff : ∀ t, p.classification = F.stationType t ↔ c.stationType = t := by
    intro t
    rw [hp]
    exact hF.eq_iff
  rcases hc with hvehicle | hperson
  · have htype : c.stationType = vehicleStationType c.vehicleType := by
      rw [Asn1.ObjectClass.stationType, hvehicle, if_neg (by decide)]
    refine ⟨?_, fun t _ _ => hvehicle⟩
    rw [hiff, htype, hvehicle]
    -- no type of vehicle is the pedestrian
    cases c.vehicleType <;> decide
  · have htype : c.stationType = .PEDESTRIAN := by
      rw [Asn1.ObjectClass.stationType, if_pos hperson]
    refine ⟨?_, fun t ht hclass => ?_⟩
    · rw [hiff, htype, hperson]
      decide
    · rw [hiff, htype] at hclass
      subst hclass
      exact ht.elim

/-- A message that does not get to its objects is published without any. -/
theorem objects_eq_nil_of_not_reachesObjects {m : Msg.CPM F}
    (hm : (a.convertCpm F).result = some m) (h : ¬a.ReachesObjects F) :
    m.list_of_perceived_objects = [] := by
  rw [Asn1.Cpm.convertCpm, Run.result_bind, Option.bind_eq_some_iff] at hm
  obtain ⟨msg, hmsg, hm⟩ := hm
  have hstation := isSome_of_convertHeader hmsg
  obtain ⟨msg', hmsg', hnumber, hempty⟩ := convertHeader_result (F := F) hstation
  obtain rfl : msg = msg' := Option.some.inj (hmsg.symm.trans hmsg')
  -- the header did return, so it is the number of objects that is not positive
  have hskip : ¬0 < msg.number_of_perceived_objects.val := by
    intro hpos
    rw [hnumber] at hpos
    exact h ⟨hstation, hpos⟩
  rw [Asn1.Cpm.assignObjects, if_neg hskip] at hm
  obtain rfl : msg = m := Option.some.inj hm
  exact hempty

end Published

/-- **The tags are respected, exactly** when the first class of every object that the
conversion gets to is a vehicle or a person. -/
theorem classDiscipline_iff (F : CpmFormat) (a : Asn1.Cpm)
    (hF : Function.Injective F.perceived_object.stationType) :
    ClassDiscipline F a ↔ (a.ReachesObjects F → ∀ o ∈ a.objects, o.Supported) := by
  constructor
  · intro h
    exact convertCpm_classSafe_iff.mp h.reads
  · intro h
    refine ⟨convertCpm_classSafe_iff.mpr h, fun m hm i o c p ho hc hp => ?_⟩
    by_cases hreaches : a.ReachesObjects F
    · obtain ⟨m', hm', hlist⟩ := convertCpm_objects hreaches
      obtain rfl : m = m' := Option.some.inj (hm.symm.trans hm')
      -- the entry is what its element leaves in the record
      rw [hlist, getElem?_objectLoop_run, ho, Option.map_some] at hp
      obtain rfl := Option.some.inj hp
      refine classifiedByTag_of_supported hF (h hreaches o (List.mem_of_getElem? ho) c hc) ?_
      simp only [filled, hc, Option.map_some, Option.getD_some]
    · rw [objects_eq_nil_of_not_reachesObjects hm hreaches, List.getElem?_nil] at hp
      exact absurd hp (by simp)

theorem released_stationType_injective :
    Function.Injective CpmFormat.released.perceived_object.stationType := by
  intro s t h
  cases s <;> cases t <;> first | rfl | exact absurd h (by decide)

theorem twoObjectsCpm_classDiscipline :
    ClassDiscipline .released (twoObjectsCpm personObject plainObject) ↔
      ((twoObjectsCpm personObject plainObject).ReachesObjects .released →
        ∀ o ∈ (twoObjectsCpm personObject plainObject).objects, o.Supported) :=
  classDiscipline_iff .released (twoObjectsCpm personObject plainObject)
    released_stationType_injective

/-- An animal; read as the type of a vehicle, its data are the ones of a car. -/
def animalObject : Asn1.PerceivedObject :=
  { plainObject with classification := some [⟨.animal, .passengerCar⟩] }

/-- The data of the animal are read as those of a vehicle, and it is published as a
car. -/
theorem animalObject_not_classDiscipline :
    ¬ClassDiscipline .released (twoObjectsCpm animalObject plainObject) ∧
      Access.member .vehicle false
        ∈ ((twoObjectsCpm animalObject plainObject).convertCpm .released).accesses ∧
      ((twoObjectsCpm animalObject plainObject).entry .released 0).map
          Msg.PerceivedObject.classification
        = some (CpmFormat.released.perceived_object.stationType .PASSENGER_CAR) := by
  -- the `else` branch reads the vehicle alternative of an animal
  have hread : Access.member .vehicle false
      ∈ ((twoObjectsCpm animalObject plainObject).convertCpm .released).accesses := by decide
  refine ⟨fun h => ?_, hread, ?_⟩
  · exact absurd (h.reads _ hread) (by simp [ClassSafe])
  · rw [entry_eq (twoObjectsCpm_announces _ _)]
    decide

end V2xStack
