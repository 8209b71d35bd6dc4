import SpatialAccess.Population.Table
import SpatialAccess.Proofs.Groups
import SpatialAccess.Proofs.Outcome

/-!
# Rows grouped by person and plan

One pass over rows keeps a list of persons and next to it a map that leads from each of them to the
plans, which are a map again. At its end the persons are taken out of the map one after the other.

* `Population.planOf`, `Population.planNumbers`: what rows have of a plan, and the plans of a person.
* `PlanTable.Holds`: a table has what rows say. `PlanTable.Holds.add`: a row more keeps this up.
  `PlanTable.foldlM_addRow`: so do all rows, up to the first one that stands for no activity.
* `PlanTable.Holds.planLists_eq`: the plans of a person in a table.
* **`Population.ofPlanTable_eq`**: the population of a table has a person for each label, and taking
  one out leaves the others as they were.
-/

namespace SpatialAccess

variable {α : Type}

namespace Population

/-! ## What rows say -/

/-- What rows have of one plan of one person. -/
def planOf (rows : List (PopulationRow α × Activity α)) (label : String) (number : ℕ) : Plan α :=
  (rows.filter fun row => row.1.person = label ∧ row.1.plan = number).map Prod.snd

/-- The numbers of the plans that rows have of a person, in ascending order. -/
def planNumbers (rows : List (PopulationRow α × Activity α)) (label : String) : List ℕ :=
  ((rows.filter (·.1.person = label)).map (·.1.plan)).eraseDups.mergeSort fun m n => m ≤ n

variable {rows : List (PopulationRow α × Activity α)} {label : String}

theorem planOf_concat (rows : List (PopulationRow α × Activity α))
    (row : PopulationRow α × Activity α) (label : String) (number : ℕ) :
    planOf (rows ++ [row]) label number =
      if row.1.person = label ∧ row.1.plan = number then planOf rows label number ++ [row.2]
      else planOf rows label number := by
  rw [planOf, List.filter_append, List.map_append, List.filter_singleton]
  by_cases h : row.1.person = label ∧ row.1.plan = number <;> simp [h, planOf]

theorem planOf_ne_nil_iff {number : ℕ} : planOf rows label number ≠ [] ↔
    ∃ row ∈ rows, row.1.person = label ∧ row.1.plan = number := by
  simp [planOf, List.filter_eq_nil_iff]

theorem mem_planNumbers {number : ℕ} : number ∈ planNumbers rows label ↔
    ∃ row ∈ rows, row.1.person = label ∧ row.1.plan = number := by
  rw [planNumbers, (List.mergeSort_perm _ _).mem_iff, List.mem_eraseDups]
  simp [and_assoc, -Prod.exists]

theorem pairwise_planNumbers (rows : List (PopulationRow α × Activity α)) (label : String) :
    (planNumbers rows label).Pairwise (· < ·) := by
  have hnodup : (planNumbers rows label).Nodup :=
    (List.mergeSort_perm _ _).nodup_iff.2 (nodup_eraseDups _)
  have hsorted : (planNumbers rows label).Pairwise (id · ≤ id ·) := pairwise_mergeSort_key _
  exact hsorted.imp₂ (fun _ _ hle hne => Nat.lt_of_le_of_ne hle hne) hnodup

end Population

/-! ## Tables -/

namespace PlanTable

open Population (planOf planNumbers planOf_concat planOf_ne_nil_iff mem_planNumbers
  pairwise_planNumbers)

variable {t : PlanTable α} {rows : List (PopulationRow α × Activity α)}

/-- A table has what rows say, each of them with the activity that it stands for. -/
structure Holds (t : PlanTable α) (rows : List (PopulationRow α × Activity α)) : Prop where
  order_eq : t.order.toList = (rows.map (·.1.person)).eraseDups
  contains_iff : ∀ label, t.byPerson.contains label = true ↔ label ∈ rows.map (·.1.person)
  getElem?_plans : ∀ label number, (t.plans label)[number]? =
    if planOf rows label number = [] then none else some (planOf rows label number).toArray

theorem holds_empty : ({} : PlanTable α).Holds [] where
  order_eq := rfl
  contains_iff := by simp
  getElem?_plans := by simp [plans, planOf]

theorem plans_add (t : PlanTable α) (person label : String) (plan : ℕ) (a : Activity α) :
    (t.add person plan a).plans label =
      if person = label then
        (t.plans person).insert plan (((t.plans person).getD plan #[]).push a)
      else t.plans label := by
  simp only [plans, add, Std.HashMap.getD_insert, beq_iff_eq]

theorem Holds.getD_plans (h : t.Holds rows) (label : String) (number : ℕ) :
    (t.plans label).getD number #[] = (planOf rows label number).toArray := by
  rw [Std.TreeMap.getD_eq_getD_getElem?, h.getElem?_plans]
  split
  · next hnil => rw [hnil, Option.getD_none]
  · rw [Option.getD_some]

/-- **A table with a row more** has what the row says, too. -/
theorem Holds.add (h : t.Holds rows) (row : PopulationRow α × Activity α) :
    (t.add row.1.person row.1.plan row.2).Holds (rows ++ [row]) where
  order_eq := by
    rw [List.map_append, List.map_singleton, eraseDups_concat]
    by_cases hold : row.1.person ∈ rows.map (·.1.person)
    · rw [if_pos hold, ← h.order_eq, PlanTable.add, if_pos ((h.contains_iff _).2 hold)]
    · rw [if_neg hold, ← h.order_eq, PlanTable.add, if_neg (mt (h.contains_iff _).1 hold),
        Array.toList_push]
  contains_iff label := by
    rw [PlanTable.add, Std.HashMap.contains_insert, Bool.or_eq_true, beq_iff_eq, h.contains_iff,
      List.map_append, List.mem_append, List.map_singleton, List.mem_singleton, or_comm, eq_comm]
  getElem?_plans label number := by
    rw [plans_add, planOf_concat, h.getD_plans]
    by_cases hperson : row.1.person = label
    · subst hperson
      by_cases hplan : row.1.plan = number
      · subst hplan
        simp
      · simp [Std.TreeMap.getElem?_insert, hplan, h.getElem?_plans]
    · simp [hperson, h.getElem?_plans]

theorem holds_foldl_add (rows : List (PopulationRow α × Activity α)) :
    (rows.foldl (fun t row => t.add row.1.person row.1.plan row.2) ({} : PlanTable α)).Holds
      rows := by
  induction rows using List.reverseRecOn with
  | nil => exact holds_empty
  | append_singleton rows row ih =>
    rw [List.foldl_append]
    exact ih.add row

/-- **Rows are put into a table** up to the first one that stands for no activity. -/
theorem foldlM_addRow [Number α] (facilities : Facilities α) (rows : List (PopulationRow α))
    (t : PlanTable α) :
    rows.foldlM (addRow facilities) t =
      (rows.mapM (PopulationRow.activity · facilities)).map fun activities =>
        (rows.zip activities).foldl (fun t row => t.add row.1.person row.1.plan row.2) t := by
  induction rows generalizing t with
  | nil => rfl
  | cons row rows ih =>
    rw [List.foldlM_cons, List.mapM_cons, addRow]
    cases row.activity facilities with
    | error e => rfl
    | ok a =>
      refine (ih (t.add row.person row.plan a)).trans ?_
      cases rows.mapM (PopulationRow.activity · facilities) <;> rfl

/-- The plans of a person, in the order of their numbers. -/
def planLists (t : PlanTable α) (label : String) : List (Plan α) :=
  (t.plans label).toList.map fun (_, activities) => activities.toList

theorem Holds.planLists_eq (h : t.Holds rows) (label : String) :
    t.planLists label = (planNumbers rows label).map (planOf rows label) := by
  have hkeys : ∀ number activities, (t.plans label)[number]? = some activities →
      number ∈ planNumbers rows label := by
    intro number activities hget
    rw [h.getElem?_plans] at hget
    split at hget
    · cases hget
    · next hne => exact mem_planNumbers.2 (planOf_ne_nil_iff.1 hne)
  have hlist : (t.plans label).toList =
      (planNumbers rows label).map fun number => (number, (planOf rows label number).toArray) := by
    rw [toList_eq_filterMap_keys (pairwise_planNumbers rows label) hkeys, ← List.filterMap_eq_map]
    refine List.filterMap_congr fun number hnumber => ?_
    rw [h.getElem?_plans, if_neg (planOf_ne_nil_iff.2 (mem_planNumbers.1 hnumber))]
    rfl
  rw [planLists, hlist, List.map_map]
  rfl

end PlanTable

/-! ## Taking persons out -/

namespace Population

/-- Taking a person out of a table leaves the other ones there. -/
theorem foldlM_takePerson {plansOf : String → List (Plan α)} {labels : List String}
    (hlabels : labels.Nodup) {t : PlanTable α}
    (hplans : ∀ label ∈ labels, t.planLists label = plansOf label) (population : Population α) :
    (labels.foldlM takePerson (t, population)).map Prod.snd =
      labels.foldlM (fun population label => population.addPerson label (plansOf label))
        population := by
  induction labels generalizing t population with
  | nil => rfl
  | cons label labels ih =>
    obtain ⟨hnew, hlabels⟩ := List.nodup_cons.1 hlabels
    have hfirst : (t.plans label).toList.map (fun (_, activities) => activities.toList) =
        plansOf label := hplans label List.mem_cons_self
    have hrest : ∀ label' ∈ labels,
        ({ t with byPerson := t.byPerson.erase label } : PlanTable α).planLists label' =
          plansOf label' := by
      intro label' hlabel'
      rw [← hplans label' (List.mem_cons_of_mem label hlabel')]
      have hne : ¬label = label' := fun h => hnew (h ▸ hlabel')
      simp [PlanTable.planLists, PlanTable.plans, Std.HashMap.getD_erase, hne]
    rw [List.foldlM_cons, List.foldlM_cons, takePerson]
    simp only [hfirst]
    cases population.addPerson label (plansOf label) with
    | error e => rfl
    | ok population' => exact ih hlabels hrest population'

/-- **The population of a table** has a person for each label, with the plans that the table has. -/
theorem ofPlanTable_eq {t : PlanTable α} {rows : List (PopulationRow α × Activity α)}
    (h : t.Holds rows) :
    ofPlanTable t = (rows.map (·.1.person)).eraseDups.foldlM (fun population label =>
      population.addPerson label ((planNumbers rows label).map (planOf rows label))) {} := by
  rw [← foldlM_takePerson (nodup_eraseDups _) fun label _ => h.planLists_eq label, ofPlanTable,
    h.order_eq]
  cases (rows.map (·.1.person)).eraseDups.foldlM takePerson (t, {}) <;> rfl

end Population

end SpatialAccess
