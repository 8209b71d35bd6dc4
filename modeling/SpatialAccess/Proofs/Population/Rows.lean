import Mathlib.Data.List.Forall2
import Mathlib.Data.List.Perm.Basic
import SpatialAccess.Proofs.Population.Activity
import SpatialAccess.Proofs.Population.Creation
import SpatialAccess.Proofs.Population.Grouping

/-!
# Populations of rows

The rows of a population table are grouped by person and plan, however they are mixed.

* `Person.Groups`, `Population.Groups`: a person, and a population, have just what the rows say.
* `Population.newPersons`: the persons of rows, in the order in which they first appear.
  `Population.groups_of_has`: a population of these persons has what the rows say.
* `Population.Stand`: what rows stand for. `Population.FirstRefused`: the first row that stands for
  no activity. `Population.Decodes`: the table that rows are read from.
* **`Population.ofRows_groups`**: the population of rows has just what they say, or the error is that
  of the first row that stands for no activity.
-/

namespace SpatialAccess

variable {α : Type}

/-! ## What rows say -/

/-- The plans of a person are those that rows have of the person, by number; the first one counts. -/
structure Person.Groups (person : Person α) (rows : List (PopulationRow α × Activity α))
    (numbers : List ℕ) : Prop where
  mem_numbers : ∀ number, number ∈ numbers ↔
    ∃ row ∈ rows, row.1.person = person.label ∧ row.1.plan = number
  pairwise_numbers : numbers.Pairwise (· < ·)
  plans_eq : person.plans.toList = numbers.map (Population.planOf rows person.label)
  selectedPlan_eq : ∃ number ∈ numbers, (∀ number' ∈ numbers, number ≤ number') ∧
    person.selectedPlan? = some (Population.planOf rows person.label number)

/-- A population has what rows say, each of them with the activity that it stands for. -/
structure Population.Groups (population : Population α)
    (rows : List (PopulationRow α × Activity α)) : Prop where
  /-- Persons are numbered in their order, -/
  id_eq : ∀ (i : ℕ) (person : Person α), population.list[i]? = some person → person.id = ⟨i⟩
  /-- they are those of the rows, -/
  mem_labels : ∀ label, (∃ person ∈ population.list, person.label = label) ↔
    ∃ row ∈ rows, row.1.person = label
  /-- none of them twice, and in the order in which they first appear. -/
  pairwise_labels : population.list.toList.Pairwise fun p q =>
    (rows.map (·.1.person)).idxOf p.label < (rows.map (·.1.person)).idxOf q.label
  plans : ∀ person ∈ population.list, ∃ numbers, person.Groups rows numbers
  /-- What all persons do together is what all rows say. -/
  perm : (population.list.toList.flatMap fun person =>
    person.plans.toList.flatten.map fun activity => (person.label, activity)).Perm
      (rows.map fun row => (row.1.person, row.2))

namespace Population

/-! ## Persons of rows -/

variable {rows : List (PopulationRow α × Activity α)} {label : String}

/-- The person that rows have under a label. -/
def personOf (rows : List (PopulationRow α × Activity α)) (label : String) (id : PersonId) :
    Person α :=
  { id, label, plans := ((planNumbers rows label).map (planOf rows label)).toArray }

/-- **The person that rows have** under a label has just what they say of this person. -/
theorem personOf_groups (h : ∃ row ∈ rows, row.1.person = label) (id : PersonId) :
    (personOf rows label id).Groups rows (planNumbers rows label) := by
  refine ⟨fun number => mem_planNumbers, pairwise_planNumbers rows label, rfl, ?_⟩
  obtain ⟨row, hrow, hlabel⟩ := h
  have hmem : row.1.plan ∈ planNumbers rows label := mem_planNumbers.2 ⟨row, hrow, hlabel, rfl⟩
  have hnumbers := pairwise_planNumbers rows label
  rw [personOf, Person.selectedPlan?]
  cases hcase : planNumbers rows label with
  | nil => simp [hcase] at hmem
  | cons number numbers =>
    rw [hcase] at hnumbers
    refine ⟨number, List.mem_cons_self, fun number' hnumber' => ?_, rfl⟩
    obtain rfl | hlater := List.mem_cons.1 hnumber'
    · exact Nat.le_refl _
    · exact Nat.le_of_lt (List.rel_of_pairwise_cons hnumbers hlater)

/-- The plans of a person have together what the rows have of this person. -/
theorem flatten_planOf_perm (rows : List (PopulationRow α × Activity α)) (label : String) :
    ((planNumbers rows label).map (planOf rows label)).flatten.Perm
      ((rows.filter (·.1.person = label)).map Prod.snd) := by
  set own := rows.filter (·.1.person = label) with hown
  have hplan : ∀ number, planOf rows label number =
      (own.filter (·.1.plan = number)).map Prod.snd := fun number => by
    rw [hown, List.filter_filter, planOf]
    congr 1
    exact List.filter_congr fun row _ => by rw [Bool.decide_and, Bool.and_comm]
  have hall : own.filter (·.1.plan ∈ planNumbers rows label) = own := by
    refine List.filter_eq_self.2 fun row hrow => decide_eq_true (mem_planNumbers.2 ?_)
    obtain ⟨hmem, hlabel⟩ := List.mem_filter.1 hrow
    exact ⟨row, hmem, of_decide_eq_true hlabel, rfl⟩
  have hperm := flatMap_filter_perm (·.1.plan)
    ((pairwise_planNumbers rows label).imp Nat.ne_of_lt) own
  rw [hall] at hperm
  rw [← List.flatMap_def, List.flatMap_congr fun number _ => hplan number, ← List.map_flatMap]
  exact hperm.map Prod.snd

/-! ## Creating them -/

/-- A person who is created with plans. -/
def newPerson (label : String) (plans : List (Plan α)) : NewPerson α where
  label := label
  changes := plans.map .addPlan ++ [.selectPlan 0]

theorem person_newPerson (label : String) (plans : List (Plan α)) (id : PersonId) :
    (newPerson label plans).person id = { id, label, plans := plans.toArray } := by
  have hplans (p : Person α) : (plans.map PersonChange.addPlan).foldl PersonChange.apply p =
      { p with plans := p.plans ++ plans.toArray } := by
    induction plans generalizing p with
    | nil => simp
    | cons plan plans ih => simp [ih, PersonChange.apply, Person.addPlan]
  simp [NewPerson.person, newPerson, hplans, PersonChange.apply, Person.selectPlan]

theorem addPerson_eq (population : Population α) (label : String) (plans : List (Plan α)) :
    population.addPerson label plans =
      (population.createNew (newPerson label plans)).mapError .create := by
  have hfold (p : Person α) : (newPerson label plans).changes.foldl PersonChange.apply p =
      (plans.foldl Person.addPlan p).selectPlan 0 := by
    rw [newPerson, List.foldl_append, List.foldl_map]
    rfl
  rw [addPerson, createNew, Except.mapError_bind]
  simp only [hfold]
  rfl

/-- The persons of rows, in order of first appearance. -/
def newPersons (rows : List (PopulationRow α × Activity α)) : List (NewPerson α) :=
  (rows.map (·.1.person)).eraseDups.map fun label =>
    newPerson label ((planNumbers rows label).map (planOf rows label))

theorem map_label_newPersons (rows : List (PopulationRow α × Activity α)) :
    (newPersons rows).map NewPerson.label = (rows.map (·.1.person)).eraseDups := by
  rw [newPersons, List.map_map]
  exact List.map_id _

theorem nodup_newPersons (rows : List (PopulationRow α × Activity α)) :
    ((newPersons rows).map NewPerson.label).Nodup := by
  rw [map_label_newPersons]
  exact nodup_eraseDups _

theorem ofPlanTable_eq_createAll {t : PlanTable α} (h : t.Holds rows) :
    ofPlanTable t = (createAll (newPersons rows)).mapError .create := by
  rw [ofPlanTable_eq h, createAll, newPersons, Except.mapError_foldlM, List.foldlM_map]
  simp only [addPerson_eq]

section Created

variable {population : Population α}

theorem mem_firstLabels : label ∈ (rows.map (·.1.person)).eraseDups ↔
    ∃ row ∈ rows, row.1.person = label := by
  rw [List.mem_eraseDups, List.mem_map]

theorem toList_of_has (h : population.Has (newPersons rows)) :
    population.list.toList = (rows.map (·.1.person)).eraseDups.mapIdx fun i label =>
      personOf rows label ⟨i⟩ := by
  rw [h.list_eq, newPersons]
  refine List.ext_getElem (by simp) fun i _ _ => ?_
  simp only [List.getElem_mapIdx, List.getElem_map, person_newPerson, personOf]

theorem map_label_of_has (h : population.Has (newPersons rows)) :
    population.list.toList.map Person.label = (rows.map (·.1.person)).eraseDups := by
  rw [toList_of_has h]
  exact List.ext_getElem (by simp) fun i _ _ => by simp [personOf]

theorem exists_personOf_of_has (h : population.Has (newPersons rows)) {person : Person α}
    (hperson : person ∈ population.list.toList) :
    ∃ label, (∃ row ∈ rows, row.1.person = label) ∧ ∃ id, person = personOf rows label id := by
  rw [toList_of_has h, List.mem_mapIdx] at hperson
  obtain ⟨i, hi, rfl⟩ := hperson
  exact ⟨_, mem_firstLabels.1 (List.getElem_mem hi), _, rfl⟩

/-- What the persons do together is what the rows say, since each row is one person's. -/
theorem perm_of_has (h : population.Has (newPersons rows)) :
    (population.list.toList.flatMap fun person =>
      person.plans.toList.flatten.map fun activity => (person.label, activity)).Perm
        (rows.map fun row => (row.1.person, row.2)) := by
  have hown : ∀ person ∈ population.list.toList,
      (person.plans.toList.flatten.map fun activity => (person.label, activity)).Perm
        ((rows.filter (·.1.person = person.label)).map fun row => (row.1.person, row.2)) := by
    intro person hperson
    obtain ⟨label, -, id, rfl⟩ := exists_personOf_of_has h hperson
    have hperm := (flatten_planOf_perm rows label).map fun activity => (label, activity)
    rw [List.map_map] at hperm
    refine hperm.trans (List.Perm.of_eq (List.map_congr_left fun row hrow => ?_))
    rw [of_decide_eq_true (List.mem_filter.1 hrow).2]
    rfl
  have hgroups := flatMap_filter_perm (·.1.person) (nodup_eraseDups (rows.map (·.1.person))) rows
  have hall : rows.filter (·.1.person ∈ (rows.map (·.1.person)).eraseDups) = rows :=
    List.filter_eq_self.2 fun row hrow => decide_eq_true (mem_firstLabels.2 ⟨row, hrow, rfl⟩)
  rw [hall, ← map_label_of_has h, List.flatMap_map] at hgroups
  refine (List.Perm.flatMap_left _ hown).trans ?_
  rw [← List.map_flatMap]
  exact hgroups.map _

/-- **A population has what rows say**, if its persons are those of the rows. -/
theorem groups_of_has (h : population.Has (newPersons rows)) : population.Groups rows where
  id_eq i person hperson := by
    rw [← Array.getElem?_toList, toList_of_has h, List.getElem?_mapIdx,
      Option.map_eq_some_iff] at hperson
    obtain ⟨label, -, rfl⟩ := hperson
    rfl
  mem_labels label := by
    rw [← mem_firstLabels, ← map_label_of_has h, List.mem_map]
    simp only [Array.mem_toList_iff]
  pairwise_labels := by
    have hfirst := pairwise_idxOf_eraseDups (rows.map (·.1.person))
    rwa [← map_label_of_has h, List.pairwise_map] at hfirst
  plans person hperson := by
    obtain ⟨label, hrow, id, rfl⟩ := exists_personOf_of_has h (Array.mem_toList_iff.2 hperson)
    exact ⟨_, personOf_groups hrow id⟩
  perm := perm_of_has h

end Created

/-! ## Reading them -/

section Reading

variable [Number α]

/-- Rows stand for activities, each for the one at its place. -/
def Stand (rows : List (PopulationRow α)) (facilities : Facilities α)
    (activities : List (Activity α)) : Prop :=
  List.Forall₂ (fun row activity => row.StandsFor facilities activity) rows activities

theorem mapM_activity_eq_ok_iff {rows : List (PopulationRow α)} {facilities : Facilities α}
    {activities : List (Activity α)} :
    rows.mapM (PopulationRow.activity · facilities) = .ok activities ↔
      Stand rows facilities activities := by
  simp only [Except.mapM_eq_ok_iff, PopulationRow.activity_eq_ok_iff]
  rfl

/-- The first row that stands for no activity is refused with an error. -/
def FirstRefused (rows : List (PopulationRow α)) (facilities : Facilities α) (e : ScenarioError α) :
    Prop :=
  ∃ before row after, rows = before ++ row :: after ∧
    (∀ row' ∈ before, ∃ activity, row'.StandsFor facilities activity) ∧ row.Refused facilities e

variable {rows : List (PopulationRow α)} {facilities : Facilities α} {e : ScenarioError α}

theorem firstRefused_of_mapM (h : rows.mapM (PopulationRow.activity · facilities) = .error e) :
    FirstRefused rows facilities e := by
  obtain ⟨before, row, after, hrows, hbefore, hrow⟩ := Except.exists_first_of_mapM_eq_error h
  simp only [PopulationRow.activity_eq_ok_iff] at hbefore
  exact ⟨before, row, after, hrows, hbefore, PopulationRow.activity_eq_error_iff.1 hrow⟩

/-- There is a first row that stands for no activity, or all rows stand for activities. -/
theorem firstRefused_or_stand (rows : List (PopulationRow α)) (facilities : Facilities α) :
    (∃ e, FirstRefused rows facilities e) ∨ ∃ activities, Stand rows facilities activities := by
  cases h : rows.mapM (PopulationRow.activity · facilities) with
  | ok activities => exact .inr ⟨activities, mapM_activity_eq_ok_iff.1 h⟩
  | error e => exact .inl ⟨e, firstRefused_of_mapM h⟩

/-- If a row is refused, then there is a first one. -/
theorem exists_firstRefused {row : PopulationRow α} (hrow : row ∈ rows)
    (h : row.Refused facilities e) : ∃ e', FirstRefused rows facilities e' := by
  refine (firstRefused_or_stand rows facilities).resolve_right fun ⟨activities, hall⟩ => ?_
  obtain ⟨_, -, hok⟩ := Except.exists_of_mapM_eq_ok (mapM_activity_eq_ok_iff.2 hall) hrow
  rw [PopulationRow.activity_eq_error_iff.2 h] at hok
  cases hok

/-- The first row that stands for no activity is the error of all rows. -/
theorem FirstRefused.ofRows (h : FirstRefused rows facilities e) :
    ofRows rows facilities = .error e := by
  obtain ⟨before, row, after, rfl, hbefore, hrow⟩ := h
  simp only [← PopulationRow.activity_eq_ok_iff] at hbefore
  have hmapM : (before ++ row :: after).mapM (PopulationRow.activity · facilities) = .error e :=
    Except.mapM_eq_error hbefore (PopulationRow.activity_eq_error_iff.2 hrow)
  rw [Population.ofRows, PlanTable.foldlM_addRow, hmapM]
  rfl

/-- The bytes of a table all of whose records are read, as these rows. -/
def Decodes (bytes : List UInt8) (rows : List (PopulationRow α)) : Prop :=
  ∃ fields, Table.rows PopulationRow.columns PopulationRow.columns.length bytes = (fields, true) ∧
    fields.map PopulationRow.ofFields = rows.map some

theorem foldlM_addRecord {fields : List (List (Option String))}
    (h : fields.map PopulationRow.ofFields = rows.map some) (t : PlanTable α) :
    fields.foldlM (addRecord facilities) t = rows.foldlM (PlanTable.addRow facilities) t := by
  have hrecord : ∀ (t : PlanTable α) fields, addRecord facilities t fields =
      (PopulationRow.ofFields fields).elim (.error .badRecord) (PlanTable.addRow facilities t) := by
    intro t fields
    rw [addRecord]
    cases (PopulationRow.ofFields fields : Option (PopulationRow α)) <;> rfl
  calc fields.foldlM (addRecord facilities) t
    _ = (fields.map PopulationRow.ofFields).foldlM (fun t row? =>
          row?.elim (.error .badRecord) (PlanTable.addRow facilities t)) t := by
        rw [List.foldlM_map, funext₂ hrecord]
    _ = rows.foldlM (PlanTable.addRow facilities) t := by
        rw [h, List.foldlM_map]
        rfl

theorem ofTable_eq_ofRows {bytes : List UInt8} (h : Decodes bytes rows) :
    ofTable bytes facilities = ofRows rows facilities := by
  obtain ⟨fields, hbytes, hfields⟩ := h
  rw [ofTable, hbytes]
  exact congrArg (· >>= ofPlanTable) (foldlM_addRecord hfields {})

section Activities

variable {activities : List (Activity α)} (h : Stand rows facilities activities)

include h

theorem ofRows_of_stand :
    ofRows rows facilities = (createAll (newPersons (rows.zip activities))).mapError .create := by
  rw [ofRows, PlanTable.foldlM_addRow, mapM_activity_eq_ok_iff.2 h]
  exact ofPlanTable_eq_createAll (PlanTable.holds_foldl_add _)

theorem creatable_newPersons_iff : Creatable (newPersons (rows.zip activities)) ↔
    (rows.map PopulationRow.person).eraseDups.length ≤ Id.limit := by
  have hpersons : (rows.zip activities).map (·.1.person) = rows.map PopulationRow.person := by
    rw [← List.map_fst_zip h.length_eq.le, List.map_map, List.map_fst_zip h.length_eq.le]
    rfl
  have hlength : (newPersons (rows.zip activities)).length =
      (rows.map PopulationRow.person).eraseDups.length := by
    rw [← hpersons, ← map_label_newPersons, List.length_map]
  exact ⟨fun hcreatable => hlength ▸ hcreatable.length_le,
    fun hle => ⟨nodup_newPersons _, hlength ▸ hle⟩⟩

/-- Rows that stand for activities fail only for want of identifiers. -/
theorem eq_tooMany_of_stand (he : ofRows rows facilities = .error e) :
    e = .create (.tooMany "persons") := by
  rw [ofRows_of_stand h] at he
  obtain ⟨cause, hcause, rfl⟩ := Except.mapError_eq_error.1 he
  rw [has_empty.eq_tooMany (nodup_newPersons _) hcause]

theorem exists_ofRows_iff :
    (∃ population, ofRows rows facilities = .ok population) ↔
      (rows.map PopulationRow.person).eraseDups.length ≤ Id.limit := by
  simp only [ofRows_of_stand h, Except.mapError_eq_ok]
  rw [(createAll_spec _).1, creatable_newPersons_iff h]

theorem groups_of_ofRows {population : Population α}
    (hok : ofRows rows facilities = .ok population) : population.Groups (rows.zip activities) := by
  rw [ofRows_of_stand h, Except.mapError_eq_ok] at hok
  exact groups_of_has ((createAll_spec _).2 _ hok)

end Activities

/-- **The population of rows.** A row stands for an activity, with its type, at its own coordinate or
else at that of its facility, with this facility and with its end time, or it is refused. Where a row
is refused, the first such row is the error, and there is no population. Otherwise the population has
just what the rows say, unless there are more persons than identifiers. No person is ever created
twice. -/
theorem ofRows_groups (rows : List (PopulationRow α)) (facilities : Facilities α) :
    (∀ bytes, Decodes bytes rows → ofTable bytes facilities = ofRows rows facilities) ∧
      (∀ row ∈ rows, ∀ e, row.Refused facilities e →
        ∃ e', FirstRefused rows facilities e' ∧ ofRows rows facilities = .error e') ∧
      ((∀ row ∈ rows, ∀ e, ¬row.Refused facilities e) →
        ∃ activities, Stand rows facilities activities) ∧
      (∀ activities, Stand rows facilities activities →
          ((rows.map PopulationRow.person).eraseDups.length ≤ Id.limit →
            ∃ population, ofRows rows facilities = .ok population ∧
              population.Groups (rows.zip activities)) ∧
          (Id.limit < (rows.map PopulationRow.person).eraseDups.length →
            ofRows rows facilities = .error (.create (.tooMany "persons")))) ∧
      ∀ kind label, ofRows rows facilities ≠ .error (.create (.duplicate kind label)) := by
  refine ⟨fun bytes => ofTable_eq_ofRows, fun row hrow e hrefused => ?_, fun hnone => ?_,
    fun activities h => ⟨fun hle => ?_, fun hlt => ?_⟩, fun kind label he => ?_⟩
  · obtain ⟨e', he'⟩ := exists_firstRefused hrow hrefused
    exact ⟨e', he', he'.ofRows⟩
  · refine (firstRefused_or_stand rows facilities).resolve_left ?_
    rintro ⟨e, before, row, after, rfl, -, hrow⟩
    exact hnone row (List.mem_append_right before List.mem_cons_self) e hrow
  · obtain ⟨population, hok⟩ := (exists_ofRows_iff h).2 hle
    exact ⟨population, hok, groups_of_ofRows h hok⟩
  · cases hof : ofRows rows facilities with
    | ok population => exact absurd ((exists_ofRows_iff h).1 ⟨population, hof⟩) (Nat.not_le.2 hlt)
    | error e => rw [eq_tooMany_of_stand h hof]
  · obtain ⟨e', hfirst⟩ | ⟨activities, h⟩ := firstRefused_or_stand rows facilities
    · have hsame : e' = .create (.duplicate kind label) :=
        Except.error.inj (hfirst.ofRows.symm.trans he)
      obtain ⟨before, row, after, -, -, hrow⟩ := hfirst
      rw [hsame] at hrow
      cases hrow
    · cases eq_tooMany_of_stand h he

/-- A row with a coordinate on the diagonal, or without one. -/
def visit (person : String) (plan : ℕ) (activityType : String) (place : Option Float) :
    PopulationRow Float :=
  { person, plan, activityType, x := place, y := place, facility := none, endTime := none }

theorem standsFor_visit (person : String) (plan : ℕ) (activityType : String) (place : Float)
    (facilities : Facilities Float) :
    (visit person plan activityType (some place)).StandsFor facilities
      { activityType, coord := ⟨place, place⟩ } where
  activityType_eq := rfl
  facility := .nothing nofun
  coord := .own rfl rfl
  endTime := .never nofun

/-- A collection with one facility. -/
def mallOnly : Facilities Float where
  list := #[{ id := ⟨0⟩, label := "mall", coord := ⟨7, 5⟩ }]
  byLabel := ({} : Std.HashMap String FacilityId).insert "mall" ⟨0⟩

/-- A row that names the facility, with blanks around its label, and has half a coordinate. -/
def errand (person : String) (plan : ℕ) : PopulationRow Float :=
  { person, plan, activityType := "shop", x := some 1, y := none, facility := some " mall ",
    endTime := some " " }

theorem standsFor_errand (person : String) (plan : ℕ) :
    (errand person plan).StandsFor mallOnly
      { activityType := "shop", coord := ⟨7, 5⟩, facility? := some ⟨0⟩ } where
  activityType_eq := rfl
  facility := by
    have hsaid : PopulationRow.Says (errand person plan).facility "mall" :=
      ⟨by decide, " mall ", rfl, by decide⟩
    exact .facility hsaid (by simp [mallOnly, Facilities.lookup?])
  coord := by
    have hmall : mallOnly.get? ⟨0⟩ = some { id := ⟨0⟩, label := "mall", coord := ⟨7, 5⟩ } := rfl
    exact PopulationRow.LiesAt.facility (.inr rfl) rfl hmall
  endTime := .never fun s hs => by
    cases hs
    decide

/-- The rows of two persons, one of them with two plans, mixed up. -/
def mixedVisits : List (PopulationRow Float) :=
  [visit "ann" 2 "work" (some 0), visit "ben" 1 "home" (some 3), visit "ann" 1 "home" (some 1),
    errand "ann" 1, visit "ann" 2 "home" (some 1)]

/-- The smaller plan number counts, though it comes later; and with a row that has no place there is
an error. -/
theorem ofRows_groups_mixedVisits :
    (∃ population : Population Float, ofRows mixedVisits mallOnly = .ok population ∧
      ∃ ann ∈ population.list, ann.label = "ann" ∧
        ann.selectedPlan? = some [{ activityType := "home", coord := ⟨1, 1⟩ },
          { activityType := "shop", coord := ⟨7, 5⟩, facility? := some ⟨0⟩ }]) ∧
      ∃ e, ofRows (mixedVisits ++ [visit "ben" 1 "shop" none]) mallOnly = .error e := by
  constructor
  · have hall : Stand mixedVisits mallOnly
        [{ activityType := "work", coord := ⟨0, 0⟩ }, { activityType := "home", coord := ⟨3, 3⟩ },
          { activityType := "home", coord := ⟨1, 1⟩ },
          { activityType := "shop", coord := ⟨7, 5⟩, facility? := some ⟨0⟩ },
          { activityType := "home", coord := ⟨1, 1⟩ }] :=
      .cons (standsFor_visit ..) (.cons (standsFor_visit ..) (.cons (standsFor_visit ..)
        (.cons (standsFor_errand ..) (.cons (standsFor_visit ..) .nil))))
    obtain ⟨population, hok, hgroups⟩ :=
      ((ofRows_groups mixedVisits mallOnly).2.2.2.1 _ hall).1 (by decide)
    obtain ⟨ann, hann, hlabel⟩ := (hgroups.mem_labels "ann").2 (by simp [mixedVisits, visit])
    obtain ⟨numbers, hplans⟩ := hgroups.plans ann hann
    obtain ⟨number, hnumber, hleast, hselected⟩ := hplans.selectedPlan_eq
    have hone : number = 1 := by
      have hle := hleast 1 ((hplans.mem_numbers 1).2 (by simp [hlabel, mixedVisits, visit]))
      have hmem := (hplans.mem_numbers number).1 hnumber
      simp only [hlabel, mixedVisits, visit, errand] at hmem
      simp at hmem
      omega
    refine ⟨population, hok, ann, hann, hlabel, ?_⟩
    rw [hselected, hlabel, hone]
    rfl
  · obtain ⟨e, -, he⟩ := (ofRows_groups (mixedVisits ++ [visit "ben" 1 "shop" none]) mallOnly).2.1
      (visit "ben" 1 "shop" none) (by simp) _ (.noLocation (.nothing nofun) (.inl rfl) rfl)
    exact ⟨e, he⟩

end Reading

end Population

end SpatialAccess
