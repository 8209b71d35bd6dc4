import SpatialAccess.Proofs.Calls
import SpatialAccess.Proofs.Facility.Contents
import SpatialAccess.Proofs.Network.Written
import SpatialAccess.Proofs.Population.Creation

/-!
# Labels of facilities and persons

Facilities and persons are kept in an array, and next to it a map leads from labels to identifiers.
Both are kept up separately, one call after the other.

* `Labelled`: items under labels that are all different. `Labelled.push`, `Labelled.modify`: a new
  item and a change of an item keep this up.
* `FacilitiesCall`, `PopulationCall`: what a collection can be asked for.
* `Facilities.Registers`, `Population.Registers`: what a collection is behind calls.
  `Facilities.Registers.apply`, `Population.Registers.apply`: an accepted call keeps this up.
  `Facilities.registers_after`, `Population.registers_after`: so do any calls.
* **`labels_after_calls`**: what both collections are behind any calls.
-/

namespace SpatialAccess

/-! ## Items under labels -/

section Labelled

variable {e : Entity} {β : Type}

/-- The items of an array have labels, all different, in a given order, and their places for
identifiers; a map leads from the labels to the identifiers. -/
structure Labelled (idOf : β → Id e) (labelOf : β → String) (list : Array β)
    (byLabel : Std.HashMap String (Id e)) (labels : List String) : Prop where
  label_eq : ∀ i : ℕ, list[i]?.map labelOf = labels[i]?
  id_eq : ∀ (i : ℕ) (x : β), list[i]? = some x → idOf x = ⟨i⟩
  nodup : labels.Nodup
  indexes : Indexes byLabel labels

/-- Changing an item keeps up what is known of every item. -/
theorem forall_mem_modify {Good : β → Prop} {list : Array β} (h : ∀ x ∈ list, Good x) (i : ℕ)
    {change : β → β} (hchange : ∀ x, Good x → Good (change x)) :
    ∀ x ∈ list.modify i change, Good x := by
  intro x hx
  obtain ⟨j, hj⟩ := Array.mem_iff_getElem?.1 hx
  rw [Array.getElem?_modify] at hj
  split at hj
  · obtain ⟨y, hy, rfl⟩ := Option.map_eq_some_iff.1 hj
    exact hchange y (h y (Array.mem_of_getElem? hy))
  · exact h x (Array.mem_of_getElem? hj)

namespace Labelled

variable {idOf : β → Id e} {labelOf : β → String} {list : Array β}
  {byLabel : Std.HashMap String (Id e)} {labels : List String}

theorem empty : Labelled idOf labelOf #[] {} [] where
  label_eq := by simp
  id_eq := by simp
  nodup := List.nodup_nil
  indexes := Indexes.empty

variable (h : Labelled idOf labelOf list byLabel labels)

include h

theorem size_eq : list.size = labels.length := by
  refine le_antisymm (not_lt.1 fun hlt => ?_) (not_lt.1 fun hlt => ?_)
  · have hnone := h.label_eq labels.length
    rw [Array.getElem?_eq_getElem hlt, List.getElem?_eq_none le_rfl] at hnone
    cases hnone
  · have hnone := h.label_eq list.size
    rw [Array.getElem?_eq_none le_rfl, List.getElem?_eq_getElem hlt] at hnone
    cases hnone

theorem contains_iff {label : String} : byLabel.contains label = true ↔ label ∈ labels := by
  rw [Std.HashMap.contains_eq_isSome_getElem?, h.indexes.isSome_iff]

/-- A label leads to just the item that has it. -/
theorem getElem?_iff {label : String} {id : Id e} :
    byLabel[label]? = some id ↔ ∃ x, list[id.index]? = some x ∧ labelOf x = label := by
  rw [h.indexes label id, ← h.label_eq, Option.map_eq_some_iff]

/-- A new item goes to the end. -/
theorem push {x : β} (hid : idOf x = ⟨list.size⟩) (hnew : byLabel.contains (labelOf x) = false) :
    Labelled idOf labelOf (list.push x) (byLabel.insert (labelOf x) ⟨list.size⟩)
      (labels ++ [labelOf x]) := by
  have hfresh : labelOf x ∉ labels := by
    rw [← h.contains_iff, hnew]
    exact Bool.false_ne_true
  refine ⟨fun i => ?_, fun i y hy => ?_, ?_, h.size_eq ▸ h.indexes.insert hfresh⟩
  · rw [Array.getElem?_push]
    split
    · next hi =>
      rw [hi, h.size_eq, List.getElem?_concat_length]
      rfl
    · next hi =>
      rw [h.label_eq, List.getElem?_append]
      split
      · rfl
      · next hlt =>
        rw [h.size_eq] at hi
        rw [List.getElem?_eq_none (by omega), List.getElem?_eq_none (by simp; omega)]
  · rw [Array.getElem?_push] at hy
    split at hy
    · next hi =>
      cases hy
      rw [hid, hi]
    · exact h.id_eq i y hy
  · exact h.nodup.append (List.nodup_singleton _) (by simpa using hfresh)

/-- An item can be changed in all but its label and its identifier. -/
theorem modify (i : ℕ) {change : β → β} (hid : ∀ x, idOf (change x) = idOf x)
    (hlabel : ∀ x, labelOf (change x) = labelOf x) :
    Labelled idOf labelOf (list.modify i change) byLabel labels := by
  refine ⟨fun j => ?_, fun j x hx => ?_, h.nodup, h.indexes⟩
  · rw [Array.getElem?_modify, ← h.label_eq]
    split
    · rw [Option.map_map]
      exact congrArg (Option.map · _) (funext hlabel)
    · rfl
  · rw [Array.getElem?_modify] at hx
    split at hx
    · obtain ⟨y, hy, rfl⟩ := Option.map_eq_some_iff.1 hx
      rw [hid]
      exact h.id_eq j y hy
    · exact h.id_eq j x hx

end Labelled

end Labelled

variable {α : Type}

/-! ## Calls -/

/-- What a collection of facilities can be asked for. -/
inductive FacilitiesCall (α : Type) where
  | create (label : String) (coord : Point α)
  | createOption (id : FacilityId) (activityType : String)
  | addOption (id : FacilityId) (option : ActivityOption α)

namespace FacilitiesCall

/-- What a call does to a collection. -/
def apply : FacilitiesCall α → ExceptT CreateError (StateM (Facilities α)) PUnit
  | create label coord => discard (Facilities.createM label coord)
  | createOption id activityType =>
    modify fun fs => fs.modify id fun f => f.createOption activityType
  | addOption id option => modify fun fs => fs.modify id fun f => f.addOption option

theorem atomic_apply (call : FacilitiesCall α) : call.apply.Atomic := by
  cases call with
  | create label coord => exact Facilities.atomic_createM.discard
  | createOption id activityType => exact ExceptT.atomic_modify
  | addOption id option => exact ExceptT.atomic_modify

/-- The label that a call asks for. -/
def label? : FacilitiesCall α → Option String
  | create label _ => some label
  | createOption _ _ | addOption _ _ => none

end FacilitiesCall

/-- What a population can be asked for. -/
inductive PopulationCall (α : Type) where
  | create (label : String)
  | change (id : PersonId) (c : PersonChange α)

namespace PopulationCall

/-- What a call does to a population. -/
def apply : PopulationCall α → ExceptT CreateError (StateM (Population α)) PUnit
  | create label => discard (Population.createM label)
  | change id c => modify fun population => population.modify id fun p => c.apply p

theorem atomic_apply (call : PopulationCall α) : call.apply.Atomic := by
  cases call with
  | create label => exact Population.atomic_createM.discard
  | change id c => exact ExceptT.atomic_modify

/-- The label that a call asks for. -/
def label? : PopulationCall α → Option String
  | create label => some label
  | change _ _ => none

end PopulationCall

/-! ## Facilities -/

namespace Facility

/-- Every option is kept under its own activity type. -/
def Filed (f : Facility α) : Prop :=
  ∀ activityType o, f.option? activityType = some o → o.activityType = activityType

theorem Filed.addOption {f : Facility α} (h : f.Filed) (o : ActivityOption α) :
    (f.addOption o).Filed := by
  intro activityType o' ho'
  rw [option?_addOption] at ho'
  split at ho'
  · next heq =>
    cases ho'
    exact heq
  · exact h activityType o' ho'

theorem Filed.createOption {f : Facility α} (h : f.Filed) (activityType : String) :
    (f.createOption activityType).Filed := by
  unfold Facility.createOption
  split
  · exact h
  · exact h.addOption _

end Facility

namespace Facilities

/-- A collection registers labels: its facilities have them, and all their options are filed. -/
structure Registers (fs : Facilities α) (labels : List String) : Prop where
  labelled : Labelled Facility.id Facility.label fs.list fs.byLabel labels
  filed : ∀ f ∈ fs.list, f.Filed

theorem registers_empty : ({} : Facilities α).Registers [] where
  labelled := Labelled.empty
  filed := by simp

theorem Registers.modify {fs : Facilities α} {labels : List String} (h : fs.Registers labels)
    (id : FacilityId) {change : Facility α → Facility α} (hid : ∀ f, (change f).id = f.id)
    (hlabel : ∀ f, (change f).label = f.label)
    (hfiled : ∀ f : Facility α, f.Filed → (change f).Filed) :
    (fs.modify id change).Registers labels where
  labelled := h.labelled.modify id.index hid hlabel
  filed := forall_mem_modify h.filed id.index hfiled

/-- **An accepted call registers the label that it asks for**, if it asks for one. -/
theorem Registers.apply {fs fs' : Facilities α} {kept : List (FacilitiesCall α)}
    (h : fs.Registers (kept.filterMap FacilitiesCall.label?)) {call : FacilitiesCall α}
    (hcall : call.apply.exec fs = (.ok ⟨⟩, fs')) :
    fs'.Registers ((kept ++ [call]).filterMap FacilitiesCall.label?) := by
  rw [List.filterMap_append]
  cases call with
  | create label coord =>
    obtain ⟨id, hcreate⟩ := ExceptT.exec_discard_eq_ok_iff.1 hcall
    obtain ⟨hnew, -, rfl, rfl⟩ := createM_eq_ok_iff.1 hcreate
    refine ⟨h.labelled.push (x := { id := ⟨fs.size⟩, label, coord }) rfl hnew, fun f hf => ?_⟩
    obtain hf | rfl := Array.mem_push.1 hf
    · exact h.filed f hf
    · intro activityType o ho
      simp [Facility.option?] at ho
  | createOption id activityType =>
    cases hcall
    rw [List.filterMap_cons_none rfl, List.filterMap_nil, List.append_nil]
    exact h.modify id (fun f => f.id_createOption activityType)
      (fun f => f.label_createOption activityType) fun f hf => hf.createOption activityType
  | addOption id option =>
    cases hcall
    rw [List.filterMap_cons_none rfl, List.filterMap_nil, List.append_nil]
    exact h.modify id (fun f => rfl) (fun f => rfl) fun f hf => hf.addOption option

/-- **Behind any calls a collection registers the labels that the accepted ones have asked for.** -/
theorem registers_after (calls : List (FacilitiesCall α)) :
    (Calls.after FacilitiesCall.apply ({} : Facilities α) calls).Registers
      ((Calls.accepted FacilitiesCall.apply {} calls).filterMap FacilitiesCall.label?) :=
  Calls.holds_after FacilitiesCall.atomic_apply
    (fun (fs : Facilities α) kept => fs.Registers (kept.filterMap FacilitiesCall.label?))
    (fun _ _ _ _ h hcall => h.apply hcall) registers_empty calls

end Facilities

/-! ## Persons -/

/-- The plan that counts is one of the plans, or the first one that will be. -/
def Person.Chosen (p : Person α) : Prop :=
  p.selected = 0 ∨ p.selected < p.plans.size

theorem Person.Chosen.lt {p : Person α} (h : p.Chosen) (hplans : 0 < p.plans.size) :
    p.selected < p.plans.size := by
  obtain hzero | hlt := h
  · rwa [hzero]
  · exact hlt

theorem Person.Chosen.apply {p : Person α} (h : p.Chosen) (c : PersonChange α) :
    (c.apply p).Chosen := by
  cases c with
  | addPlan plan =>
    refine h.imp_right fun hlt => ?_
    rw [PersonChange.apply, addPlan, Array.size_push]
    exact Nat.lt_succ_of_lt hlt
  | selectPlan index =>
    rw [PersonChange.apply, selectPlan]
    split
    · next hlt => exact .inr hlt
    · exact h

theorem PersonChange.id_apply (p : Person α) (c : PersonChange α) : (c.apply p).id = p.id := by
  cases c with
  | addPlan plan => rfl
  | selectPlan index =>
    rw [apply, Person.selectPlan]
    split <;> rfl

theorem PersonChange.label_apply (p : Person α) (c : PersonChange α) :
    (c.apply p).label = p.label := by
  cases c with
  | addPlan plan => rfl
  | selectPlan index =>
    rw [apply, Person.selectPlan]
    split <;> rfl

namespace Population

/-- A population registers labels: its persons have them, and for each of them one of the plans
counts. -/
structure Registers (population : Population α) (labels : List String) : Prop where
  labelled : Labelled Person.id Person.label population.list population.byLabel labels
  chosen : ∀ p ∈ population.list, p.Chosen

theorem registers_empty : ({} : Population α).Registers [] where
  labelled := Labelled.empty
  chosen := by simp

/-- **An accepted call registers the label that it asks for**, if it asks for one. -/
theorem Registers.apply {population population' : Population α} {kept : List (PopulationCall α)}
    (h : population.Registers (kept.filterMap PopulationCall.label?)) {call : PopulationCall α}
    (hcall : call.apply.exec population = (.ok ⟨⟩, population')) :
    population'.Registers ((kept ++ [call]).filterMap PopulationCall.label?) := by
  rw [List.filterMap_append]
  cases call with
  | create label =>
    obtain ⟨id, hcreate⟩ := ExceptT.exec_discard_eq_ok_iff.1 hcall
    obtain ⟨hnew, -, rfl, rfl⟩ := createM_eq_ok_iff.1 hcreate
    refine ⟨h.labelled.push (x := { id := ⟨population.size⟩, label }) rfl hnew, fun p hp => ?_⟩
    obtain hp | rfl := Array.mem_push.1 hp
    · exact h.chosen p hp
    · exact .inl rfl
  | change id c =>
    cases hcall
    rw [List.filterMap_cons_none rfl, List.filterMap_nil, List.append_nil]
    exact ⟨h.labelled.modify id.index (fun p => c.id_apply p) fun p => c.label_apply p,
      forall_mem_modify h.chosen id.index fun p hp => hp.apply c⟩

/-- **Behind any calls a population registers the labels that the accepted ones have asked for.** -/
theorem registers_after (calls : List (PopulationCall α)) :
    (Calls.after PopulationCall.apply ({} : Population α) calls).Registers
      ((Calls.accepted PopulationCall.apply {} calls).filterMap PopulationCall.label?) :=
  Calls.holds_after PopulationCall.atomic_apply
    (fun (population : Population α) kept =>
      population.Registers (kept.filterMap PopulationCall.label?))
    (fun _ _ _ _ h hcall => h.apply hcall) registers_empty calls

end Population

/-! ## Any calls -/

open Calls

/-- **What both collections are behind any calls**, refused ones included. Identifiers are given out
in the order of the calls that have created something; labels are all different, and each leads to
just what has it; a call that is refused changes nothing and leaves no trace. Every option of a
facility is kept under its own activity type, where the call that has put it there lets it be found,
and for every person with plans one of them counts. -/
theorem labels_after_calls (calls : List (FacilitiesCall α)) (calls' : List (PopulationCall α)) :
    let fs := after FacilitiesCall.apply ({} : Facilities α) calls
    let labels := (accepted FacilitiesCall.apply ({} : Facilities α) calls).filterMap
      FacilitiesCall.label?
    let population := after PopulationCall.apply ({} : Population α) calls'
    let labels' := (accepted PopulationCall.apply ({} : Population α) calls').filterMap
      PopulationCall.label?
    ((∀ i, (fs.get? ⟨i⟩).map Facility.label = labels[i]?) ∧
      (∀ id f, fs.get? id = some f → f.id = id) ∧ labels.Nodup ∧
      (∀ label id, fs.lookup? label = some id ↔ ∃ f, fs.get? id = some f ∧ f.label = label) ∧
      (∀ label coord id fs', (Facilities.createM label coord).exec fs = (.ok id, fs') →
        id = ⟨labels.length⟩ ∧ fs'.get? id = some { id, label, coord }) ∧
      (∀ label coord, ((Facilities.createM label coord).exec fs).1 =
        .error (.duplicate "facility" label) ↔ label ∈ labels) ∧
      (∀ call e, ((FacilitiesCall.apply call).exec fs).1 = .error e →
        ((FacilitiesCall.apply call).exec fs).2 = fs ∧
          ∀ rest, after FacilitiesCall.apply ({} : Facilities α) (calls ++ call :: rest) =
            after FacilitiesCall.apply {} (calls ++ rest)) ∧
      (∀ id f, fs.get? id = some f →
        (∀ o, ∃ f', ((FacilitiesCall.addOption id o).apply.exec fs).2.get? id = some f' ∧
          f'.option? o.activityType = some o) ∧
        ∀ activityType, ∃ f',
          ((FacilitiesCall.createOption id activityType).apply.exec fs).2.get? id = some f' ∧
          f'.option? activityType = some ((f.option? activityType).getD { activityType })) ∧
      ∀ id f, fs.get? id = some f → ∀ activityType o, f.option? activityType = some o →
        o.activityType = activityType) ∧
    ((∀ i, (population.get? ⟨i⟩).map Person.label = labels'[i]?) ∧
      (∀ id p, population.get? id = some p → p.id = id) ∧ labels'.Nodup ∧
      (∀ label id, population.lookup? label = some id ↔
        ∃ p, population.get? id = some p ∧ p.label = label) ∧
      (∀ label id population',
        (Population.createM label).exec population = (.ok id, population') →
          id = ⟨labels'.length⟩ ∧ population'.get? id = some { id, label }) ∧
      (∀ label, ((Population.createM label).exec population).1 =
        .error (.duplicate "person" label) ↔ label ∈ labels') ∧
      (∀ call e, ((PopulationCall.apply call).exec population).1 = .error e →
        ((PopulationCall.apply call).exec population).2 = population ∧
          ∀ rest, after PopulationCall.apply ({} : Population α) (calls' ++ call :: rest) =
            after PopulationCall.apply {} (calls' ++ rest)) ∧
      ∀ id p, population.get? id = some p → 0 < p.plans.size → p.selected < p.plans.size) := by
  intro fs labels population labels'
  have hfs : fs.Registers labels := Facilities.registers_after calls
  have hpopulation : population.Registers labels' := Population.registers_after calls'
  have hsize : fs.size = labels.length := hfs.labelled.size_eq
  have hsize' : population.size = labels'.length := hpopulation.labelled.size_eq
  refine ⟨⟨fun i => hfs.labelled.label_eq i, fun id f hf => hfs.labelled.id_eq id.index f hf,
      hfs.labelled.nodup, fun _ _ => hfs.labelled.getElem?_iff, ?_, ?_,
      fun call e hcall => after_refused FacilitiesCall.atomic_apply hcall, ?_,
      fun id f hf => hfs.filed f (Array.mem_of_getElem? hf)⟩,
    fun i => hpopulation.labelled.label_eq i,
    fun id p hp => hpopulation.labelled.id_eq id.index p hp, hpopulation.labelled.nodup,
    fun _ _ => hpopulation.labelled.getElem?_iff, ?_, ?_,
    fun call e hcall => after_refused PopulationCall.atomic_apply hcall,
    fun id p hp => (hpopulation.chosen p (Array.mem_of_getElem? hp)).lt⟩
  · intro label coord id fs' hcreate
    obtain ⟨-, -, rfl, rfl⟩ := Facilities.createM_eq_ok_iff.1 hcreate
    exact ⟨congrArg Id.mk hsize, by rw [Facilities.get?_add, if_pos rfl]⟩
  · intro label coord
    rw [Facilities.createM_eq_error_iff, hfs.labelled.contains_iff]
    simp
  · intro id f hf
    have hget : ∀ change, (fs.modify id change).get? id = some (change f) := fun change => by
      rw [Facilities.get?_modify, hf, Option.map_some]
    exact ⟨fun o => ⟨_, hget _, by rw [Facility.option?_addOption, if_pos rfl]⟩,
      fun activityType => ⟨_, hget _, by rw [Facility.option?_createOption, if_pos rfl]⟩⟩
  · intro label id population' hcreate
    obtain ⟨-, -, rfl, rfl⟩ := Population.createM_eq_ok_iff.1 hcreate
    exact ⟨congrArg Id.mk hsize', Array.getElem?_push_size⟩
  · intro label
    rw [Population.createM_eq_error_iff, hpopulation.labelled.contains_iff]
    simp

end SpatialAccess
