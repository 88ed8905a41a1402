import V2xStack.Foundation.Machine
import V2xStack.Its.CpmStation

/-!
# Perceived objects of a CPM

What entry `i` of `list_of_perceived_objects` depends on.

The loop writes into one record. `filled` is the record after an iteration,
`fill_result` says so, and `objectLoop` is the loop as a machine whose hidden
state is the record and whose output is a copy of it (`convertObjects_result`).
Entry `i` is therefore `filled` of element `i` and of the record that the earlier
elements left behind (`Machine.getElem?_run`).

An iteration assigns the age and the classification only if the element has
them. So an entry is a function of its own element when the element is complete,
or is the first one; for any other element a CPM with other elements in front of
it publishes another entry (`perceivedObjects_independent_iff`).
-/

namespace V2xStack

/-! ### One iteration -/

/-- The classification by one class. -/
def Asn1.ObjectClass.stationType (c : Asn1.ObjectClass) : StationType :=
  if c.present = .person then .PEDESTRIAN else vehicleStationType c.vehicleType

/-- The class that the classification is taken from. -/
def Asn1.PerceivedObject.firstClass (o : Asn1.PerceivedObject) : Option Asn1.ObjectClass :=
  o.classification.bind List.head?

/-- The object has an age and a classification that is not empty. -/
def Asn1.PerceivedObject.Complete (o : Asn1.PerceivedObject) : Prop :=
  o.objectAge.isSome ∧ o.firstClass.isSome

instance : DecidablePred Asn1.PerceivedObject.Complete :=
  fun _ => inferInstanceAs (Decidable (_ ∧ _))

section Iteration

variable {F : PerceivedObjectFormat}

theorem classify_result (c : Asn1.ObjectClass) : c.classify.result = some c.stationType := by
  unfold Asn1.ObjectClass.classify Asn1.ObjectClass.stationType
  split
  · rfl
  · rfl

variable (F) in
/-- The record after an iteration. -/
def filled (s : Msg.PerceivedObject F) (o : Asn1.PerceivedObject) : Msg.PerceivedObject F :=
  { s.assignMandatory F o with
    object_age := (o.objectAge.map F.object_age.assign).getD s.object_age
    classification :=
      (o.firstClass.map fun c => F.stationType c.stationType).getD s.classification }

theorem assignAge_result (s : Msg.PerceivedObject F) (o : Asn1.PerceivedObject) :
    (s.assignAge F o).result
      = some { s with
        object_age := (o.objectAge.map F.object_age.assign).getD s.object_age } := by
  unfold Msg.PerceivedObject.assignAge
  cases o.objectAge with
  | none => rfl
  | some age => rfl

theorem assignClassification_result (s : Msg.PerceivedObject F) (o : Asn1.PerceivedObject) :
    (s.assignClassification F o).result
      = some { s with
        classification :=
          (o.firstClass.map fun c => F.stationType c.stationType).getD s.classification } := by
  unfold Msg.PerceivedObject.assignClassification Asn1.PerceivedObject.firstClass
  cases o.classification with
  | none => rfl
  | some list =>
    cases list with
    | nil => rfl
    | cons c cs =>
      -- the first class decides
      have hpos : 0 < (c :: cs).length := Nat.succ_pos cs.length
      rw [Run.result_ifPresent_some, if_pos hpos, Run.result_bind, Run.result_index,
        List.getElem?_cons_zero, Option.bind_some, Run.result_bind,
        classify_result]
      rfl

/-- **One iteration.** -/
theorem fill_result (s : Msg.PerceivedObject F) (o : Asn1.PerceivedObject) :
    (s.fill F o).result = some (filled F s o) := by
  rw [Msg.PerceivedObject.fill, Run.result_bind, assignAge_result, Option.bind_some,
    assignClassification_result]
  rfl

/-- A complete object overwrites the whole record. -/
theorem filled_of_complete {o : Asn1.PerceivedObject} (h : o.Complete)
    (s t : Msg.PerceivedObject F) : filled F s o = filled F t o := by
  obtain ⟨age, hage⟩ := Option.isSome_iff_exists.mp h.1
  obtain ⟨c, hc⟩ := Option.isSome_iff_exists.mp h.2
  simp only [filled, Msg.PerceivedObject.assignMandatory, hage, hc, Option.map_some,
    Option.getD_some]

variable (F) in
/-- Every member that an iteration always assigns has the value of the element. -/
def OwnMembers (o : Asn1.PerceivedObject) (p : Msg.PerceivedObject F) : Prop :=
  p.assignMandatory F o = p

theorem ownMembers_filled (s : Msg.PerceivedObject F) (o : Asn1.PerceivedObject) :
    OwnMembers F o (filled F s o) := rfl

end Iteration

/-! ### The loop as a machine -/

section Loop

variable (F : PerceivedObjectFormat)

/-- The loop, with the record as hidden state. -/
def objectLoop :
    Machine (Msg.PerceivedObject F) Asn1.PerceivedObject (Msg.PerceivedObject F) where
  next := filled F
  emit s o := [filled F s o]

variable {F}

theorem foldlM_fill_result (objects : List Asn1.PerceivedObject) (s : Msg.PerceivedObject F)
    (list : List (Msg.PerceivedObject F)) :
    (objects.foldlM (fun (perceived_object, list) objCont => do
      let perceived_object ← perceived_object.fill F objCont
      pure (perceived_object, list ++ [perceived_object])) (s, list)
        : Run (Access CpmPlace) _).result
      = some ((objectLoop F).final s objects, list ++ (objectLoop F).run s objects) := by
  -- the record of one turn and the list so far are those of the next, so both are arbitrary
  induction objects generalizing s list with
  | nil => simp [Machine.final]
  | cons o os ih =>
    rw [List.foldlM_cons, Run.result_bind, Run.result_bind, fill_result, Option.bind_some,
      Run.result_pure, Option.bind_some, ih, Machine.run_cons, List.append_assoc]
    rfl

/-- **The loop refines the machine.** -/
theorem convertObjects_result (objects : List Asn1.PerceivedObject) :
    (Asn1.Cpm.convertObjects F objects).result = some ((objectLoop F).run {} objects) := by
  rw [Asn1.Cpm.convertObjects, Run.result_bind, foldlM_fill_result]
  rfl

/-- Every entry has the members of its element, in the order of the elements. -/
theorem forall₂_ownMembers_run (objects : List Asn1.PerceivedObject)
    (s : Msg.PerceivedObject F) :
    List.Forall₂ (OwnMembers F) objects ((objectLoop F).run s objects) := by
  induction objects generalizing s with
  | nil => exact List.Forall₂.nil
  | cons o os ih => exact List.Forall₂.cons (ownMembers_filled s o) (ih _)

/-- Entry `i` is made from element `i` and what the elements before it left. -/
theorem getElem?_objectLoop_run (objects : List Asn1.PerceivedObject) (i : ℕ) :
    ((objectLoop F).run {} objects)[i]?
      = objects[i]?.map (filled F ((objectLoop F).final {} (objects.take i))) :=
  (objectLoop F).getElem?_run (fun _ _ => rfl) {} objects i

/-- What a positive number of equal elements leaves behind. -/
theorem final_replicate_succ (s : Msg.PerceivedObject F) (o : Asn1.PerceivedObject) (n : ℕ) :
    ∃ t, (objectLoop F).final s (List.replicate (n + 1) o) = filled F t o := by
  refine ⟨(objectLoop F).final s (List.replicate n o), ?_⟩
  rw [Machine.final, List.replicate_succ', List.foldl_append]
  rfl

end Loop

/-! ### Whole messages -/

section Messages

variable {F : CpmFormat} {a : Asn1.Cpm}

/-- The elements of the object container; none when it is absent. -/
def Asn1.Cpm.objects (a : Asn1.Cpm) : List Asn1.PerceivedObject :=
  a.cpmParameters.perceivedObjectContainer.getD []

variable (F) in
/-- The conversion gets to the objects: the station data are there, and the assigned
number of objects is positive. -/
structure Asn1.Cpm.ReachesObjects (a : Asn1.Cpm) : Prop where
  station : a.cpmParameters.stationDataContainer.isSome
  positive :
    0 < (F.number_of_perceived_objects.assign a.cpmParameters.numberOfPerceivedObjects).val

variable (F) in
/-- A vehicle's CPM that announces objects; their number fits its field. -/
structure Asn1.Cpm.Announces (a : Asn1.Cpm) : Prop where
  ofVehicle : a.OfVehicle
  positive : 0 < a.cpmParameters.numberOfPerceivedObjects
  inRange : F.number_of_perceived_objects.InRange a.cpmParameters.numberOfPerceivedObjects

theorem Asn1.Cpm.Announces.reachesObjects (h : a.Announces F) : a.ReachesObjects F where
  station := by
    obtain ⟨station, hstation, -⟩ := h.ofVehicle
    rw [hstation]
    rfl
  positive := by
    -- the test is on the assigned field, which holds the announced number
    rw [IntFormat.assign_val_of_inRange h.inRange]
    exact h.positive

variable (F) in
/-- The message in front of the perceived objects, for the station data. -/
def Asn1.Cpm.headerImage (a : Asn1.Cpm) (station : Asn1.StationDataContainer) : Msg.CPM F where
  its_header := .ofAsn1 F.its_header a.header
  generation_delta_time := F.generation_delta_time.assign a.generationDeltaTime
  station_type := F.station_type.assign a.cpmParameters.managementContainer.stationType
  reference_position :=
    .ofAsn1 F.reference_position a.cpmParameters.managementContainer.referencePosition
  originating_vehicle_container :=
    station.originatingVehicleContainer.image F.originating_vehicle_container
  number_of_perceived_objects :=
    F.number_of_perceived_objects.assign a.cpmParameters.numberOfPerceivedObjects

theorem convertHeader_eq_headerImage {station : Asn1.StationDataContainer}
    (h : a.cpmParameters.stationDataContainer = some station) :
    (a.convertHeader F).result = some (a.headerImage F station) := by
  rw [Asn1.Cpm.convertHeader, Run.result_bind, convertStationData_result h, Option.bind_some]
  rfl

theorem convertHeader_result (hstation : a.cpmParameters.stationDataContainer.isSome) :
    ∃ msg, (a.convertHeader F).result = some msg ∧
      msg.number_of_perceived_objects
        = F.number_of_perceived_objects.assign a.cpmParameters.numberOfPerceivedObjects ∧
      msg.list_of_perceived_objects = [] := by
  obtain ⟨station, hstation⟩ := Option.isSome_iff_exists.mp hstation
  exact ⟨_, convertHeader_eq_headerImage hstation, rfl, rfl⟩

/-- The published list is the run of the machine on the elements. -/
theorem convertCpm_objects (h : a.ReachesObjects F) :
    ∃ m, (a.convertCpm F).result = some m ∧
      m.list_of_perceived_objects = (objectLoop F.perceived_object).run {} a.objects := by
  obtain ⟨msg, hmsg, hnumber, hempty⟩ := convertHeader_result (F := F) h.station
  have hpos : 0 < msg.number_of_perceived_objects.val := by
    rw [hnumber]
    exact h.positive
  rw [Asn1.Cpm.convertCpm, Run.result_bind, hmsg, Option.bind_some, Asn1.Cpm.assignObjects,
    if_pos hpos]
  unfold Asn1.Cpm.objects
  -- a message without a container converts to the empty list, as a loop over no object does
  cases hobjects : a.cpmParameters.perceivedObjectContainer with
  | none => exact ⟨msg, rfl, hempty⟩
  | some objects =>
    refine ⟨{ msg with
      list_of_perceived_objects := (objectLoop F.perceived_object).run {} objects }, ?_, rfl⟩
    rw [Run.result_ifPresent_some, Run.result_bind, convertObjects_result]
    rfl

variable (F) in
/-- The published entry of an index. -/
def Asn1.Cpm.entry (a : Asn1.Cpm) (i : ℕ) : Option (Msg.PerceivedObject F.perceived_object) :=
  (a.convertCpm F).result.bind fun m => m.list_of_perceived_objects[i]?

theorem entry_eq (h : a.Announces F) (i : ℕ) :
    a.entry F i = a.objects[i]?.map
      (filled F.perceived_object
        ((objectLoop F.perceived_object).final {} (a.objects.take i))) := by
  obtain ⟨m, hm, hlist⟩ := convertCpm_objects h.reachesObjects
  rw [Asn1.Cpm.entry, hm, Option.bind_some, hlist, getElem?_objectLoop_run]

variable (F a) in
/-- Any CPM with the same element `i` publishes the same entry `i`, whatever its
other elements and however many they are. -/
def EntryIndependent (i : ℕ) : Prop :=
  ∀ a' : Asn1.Cpm, a'.Announces F → a'.objects[i]? = a.objects[i]? →
    a'.entry F i = a.entry F i

/-- The same CPM with the element behind `i` copies of another one. -/
def Asn1.Cpm.behind (a : Asn1.Cpm) (i : ℕ) (x o : Asn1.PerceivedObject) : Asn1.Cpm :=
  { a with
    cpmParameters :=
      { a.cpmParameters with
        perceivedObjectContainer := some (List.replicate i x ++ [o]) } }

theorem entry_behind (h : a.Announces F) (i : ℕ) (x o : Asn1.PerceivedObject) :
    ∃ t, (a.behind (i + 1) x o).entry F (i + 1)
      = some (filled F.perceived_object (filled F.perceived_object t x) o) := by
  have hannounces : (a.behind (i + 1) x o).Announces F := ⟨h.ofVehicle, h.positive, h.inRange⟩
  have hobjects : (a.behind (i + 1) x o).objects = List.replicate (i + 1) x ++ [o] := rfl
  -- `i + 1` copies of `x` in front, so the last turn before the entry fills it from `x`
  obtain ⟨t, ht⟩ := final_replicate_succ (F := F.perceived_object) {} x i
  refine ⟨t, ?_⟩
  rw [entry_eq hannounces, hobjects, List.take_left' List.length_replicate, ht,
    List.getElem?_append_right (by rw [List.length_replicate]), List.length_replicate,
    Nat.sub_self]
  rfl

/-- An independent entry comes out the same behind any two elements. -/
theorem filled_eq_of_independent (h : a.Announces F) {i : ℕ} {o : Asn1.PerceivedObject}
    (ho : a.objects[i + 1]? = some o) (hind : EntryIndependent F a (i + 1))
    (x y : Asn1.PerceivedObject) :
    ∃ s t, filled F.perceived_object (filled F.perceived_object s x) o
      = filled F.perceived_object (filled F.perceived_object t y) o := by
  have hsame : ∀ z, ∃ t, a.entry F (i + 1)
      = some (filled F.perceived_object (filled F.perceived_object t z) o) := by
    intro z
    obtain ⟨t, ht⟩ := entry_behind h i z o
    refine ⟨t, ?_⟩
    rw [← ht]
    -- the CPM with copies of `z` in front has the same element at this index
    refine (hind (a.behind (i + 1) z o) ⟨h.ofVehicle, h.positive, h.inRange⟩ ?_).symm
    change (List.replicate (i + 1) z ++ [o])[i + 1]? = _
    rw [ho, List.getElem?_append_right (by rw [List.length_replicate]), List.length_replicate,
      Nat.sub_self]
    rfl
  obtain ⟨s, hs⟩ := hsame x
  obtain ⟨t, ht⟩ := hsame y
  exact ⟨s, t, Option.some.inj (hs.symm.trans ht)⟩

/-- Behind other elements only an element with an age makes its entry alone:
elements of age 0 and 1 would leave different ages behind. -/
theorem objectAge_of_independent (hage : F.perceived_object.object_age.InRange 1)
    (h : a.Announces F) {i : ℕ} {o : Asn1.PerceivedObject} (ho : a.objects[i + 1]? = some o)
    (hind : EntryIndependent F a (i + 1)) : o.objectAge.isSome := by
  by_contra hnone
  rw [Option.not_isSome_iff_eq_none] at hnone
  -- with no age of its own the entry shows the age of the object put in front: 0 or 1
  obtain ⟨s, t, hst⟩ := filled_eq_of_independent h ho hind
    { o with objectAge := some 0 } { o with objectAge := some 1 }
  have hages := congrArg Msg.PerceivedObject.object_age hst
  simp only [filled, hnone, Option.map_none, Option.getD_none, Option.map_some,
    Option.getD_some] at hages
  have hvals := congrArg IntFormat.Value.val hages
  rw [IntFormat.assign_val_of_inRange hage,
    IntFormat.assign_val_of_inRange (IntFormat.inRange_zero _)] at hvals
  exact absurd hvals (by decide)

/-- And only an element with a class: a person and a moped would leave different
classifications behind. -/
theorem firstClass_of_independent
    (hclass : F.perceived_object.stationType .PEDESTRIAN ≠ F.perceived_object.stationType .MOPED)
    (h : a.Announces F) {i : ℕ} {o : Asn1.PerceivedObject} (ho : a.objects[i + 1]? = some o)
    (hind : EntryIndependent F a (i + 1)) : o.firstClass.isSome := by
  by_contra hnone
  rw [Option.not_isSome_iff_eq_none] at hnone
  -- and likewise the class of the object in front: a pedestrian or a moped
  obtain ⟨s, t, hst⟩ := filled_eq_of_independent h ho hind
    { o with classification := some [⟨.person, .moped⟩] }
    { o with classification := some [⟨.vehicle, .moped⟩] }
  have hclasses := congrArg Msg.PerceivedObject.classification hst
  simp only [filled, hnone, Option.map_none, Option.getD_none] at hclasses
  exact hclass hclasses

end Messages

/-- **Independence of the perceived objects, exactly.** The published list has one
entry per element, in their order, each with the members of its element. Entry
`i` is a function of element `i` alone if and only if it is the first, or the
element has both an age and a classification. -/
theorem perceivedObjects_independent_iff (F : CpmFormat) (a : Asn1.Cpm) (h : a.Announces F)
    (hage : F.perceived_object.object_age.InRange 1)
    (hclass : F.perceived_object.stationType .PEDESTRIAN
      ≠ F.perceived_object.stationType .MOPED) :
    (∃ m, (a.convertCpm F).result = some m ∧
        List.Forall₂ (OwnMembers F.perceived_object) a.objects m.list_of_perceived_objects) ∧
      ∀ i o, a.objects[i]? = some o → (EntryIndependent F a i ↔ i = 0 ∨ o.Complete) := by
  constructor
  · obtain ⟨m, hm, hlist⟩ := convertCpm_objects h.reachesObjects
    exact ⟨m, hm, hlist ▸ forall₂_ownMembers_run a.objects {}⟩
  · intro i o ho
    constructor
    · intro hind
      cases i with
      | zero => exact Or.inl rfl
      | succ i =>
        exact Or.inr
          ⟨objectAge_of_independent hage h ho hind, firstClass_of_independent hclass h ho hind⟩
    · intro hcond a' h' ho'
      rw [entry_eq h', entry_eq h, ho', ho, Option.map_some, Option.map_some]
      rcases hcond with rfl | hcomplete
      · -- in front of the first element the record is the initial one
        rfl
      · rw [filled_of_complete hcomplete]

/-! ### Two objects -/

/-- The object without age and classification. -/
def plainObject : Asn1.PerceivedObject where
  objectID := 7
  timeOfMeasurement := 100
  objectConfidence := 1
  xDistance := ⟨1500, 10⟩
  yDistance := ⟨-300, 10⟩
  xSpeed := ⟨0, 5⟩
  ySpeed := ⟨0, 5⟩

/-- A pedestrian. -/
def personObject : Asn1.PerceivedObject :=
  { plainObject with objectAge := some 40, classification := some [⟨.person, .unnamed⟩] }

/-- A vehicle's CPM with two objects. -/
def twoObjectsCpm (first second : Asn1.PerceivedObject) : Asn1.Cpm where
  header := { protocolVersion := 2, messageID := 14, stationID := 4711 }
  generationDeltaTime := 1000
  cpmParameters :=
    { (stationCpm none).cpmParameters with
      stationDataContainer :=
        some
          { present := .originatingVehicleContainer
            originatingVehicleContainer :=
              { heading := ⟨900, 10⟩, speed := ⟨1400, 5⟩, driveDirection := 0 } }
      perceivedObjectContainer := some [first, second]
      numberOfPerceivedObjects := 2 }

theorem twoObjectsCpm_announces (first second : Asn1.PerceivedObject) :
    (twoObjectsCpm first second).Announces .released :=
  ⟨⟨_, rfl, rfl⟩, by change (0 : ℤ) < 2; decide, by change IntFormat.uint8.InRange 2; decide⟩

theorem twoObjectsCpm_independent :
    (∃ m, ((twoObjectsCpm plainObject personObject).convertCpm .released).result = some m ∧
        List.Forall₂ (OwnMembers CpmFormat.released.perceived_object)
          (twoObjectsCpm plainObject personObject).objects m.list_of_perceived_objects) ∧
      ∀ i o, (twoObjectsCpm plainObject personObject).objects[i]? = some o →
        (EntryIndependent .released (twoObjectsCpm plainObject personObject) i
          ↔ i = 0 ∨ o.Complete) :=
  perceivedObjects_independent_iff .released (twoObjectsCpm plainObject personObject)
    (twoObjectsCpm_announces plainObject personObject) (by decide) (by decide)

/-- Behind a pedestrian of age 40 the same element is published as a pedestrian of
age 40. -/
theorem plainObject_entry_differs :
    (twoObjectsCpm personObject plainObject).Announces .released ∧
      (twoObjectsCpm plainObject plainObject).Announces .released ∧
      (twoObjectsCpm personObject plainObject).objects[1]?
        = (twoObjectsCpm plainObject plainObject).objects[1]? ∧
      (twoObjectsCpm personObject plainObject).entry .released 1
        ≠ (twoObjectsCpm plainObject plainObject).entry .released 1 := by
  refine ⟨twoObjectsCpm_announces _ _, twoObjectsCpm_announces _ _, rfl, fun heq => ?_⟩
  rw [entry_eq (twoObjectsCpm_announces _ _), entry_eq (twoObjectsCpm_announces _ _)] at heq
  have hentry := Option.some.inj heq
  have hage := congrArg Msg.PerceivedObject.object_age hentry
  exact absurd hage (by decide)

end V2xStack
