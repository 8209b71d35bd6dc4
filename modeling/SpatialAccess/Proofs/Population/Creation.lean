import Mathlib.Data.List.Nodup
import SpatialAccess.Population.Basic
import SpatialAccess.Proofs.Registry

/-!
# Creating persons

* `PersonChange`, `NewPerson`: a person to be created, and what is done with the person then.
* `Population.createAll`: creates persons one after the other. **`Population.createAll_spec`**:
  that succeeds just if their labels are all different and there are identifiers for all of them,
  and then the population has them in this order. `Population.Has.eq_tooMany`: if it fails with
  different labels, there are too many.
* `Population.Numbered`: persons carry their places as identifiers. `Population.Has.numbered`: so
  do those that are created.
* `NewPerson.home?`: where a new person lives, whichever identifier the person gets.
-/

namespace SpatialAccess

variable {α : Type}

/-- What can be done with a person. -/
inductive PersonChange (α : Type) where
  | addPlan (plan : Plan α)
  | selectPlan (index : ℕ)

/-- The person after a change. -/
def PersonChange.apply (p : Person α) : PersonChange α → Person α
  | addPlan plan => p.addPlan plan
  | selectPlan index => p.selectPlan index

/-- A person to be created, and the changes that follow. -/
structure NewPerson (α : Type) where
  label : String
  changes : List (PersonChange α)

namespace NewPerson

/-- The person that is created with an identifier. -/
def person (p : NewPerson α) (id : PersonId) : Person α :=
  p.changes.foldl PersonChange.apply { id, label := p.label }

/-- Changes have nothing to do with the identifier. -/
theorem foldl_apply_with_id (changes : List (PersonChange α)) (p : Person α) (id : PersonId) :
    changes.foldl PersonChange.apply { p with id } =
      { changes.foldl PersonChange.apply p with id } := by
  induction changes generalizing p with
  | nil => rfl
  | cons change changes ih =>
    rw [List.foldl_cons, List.foldl_cons, ← ih]
    congr 1
    cases change with
    | addPlan plan => rfl
    | selectPlan index =>
      -- the only change that looks at the person, but at the plans and not at the identifier
      show (if _ then _ else _) = _
      simp only [PersonChange.apply, Person.selectPlan]
      split <;> rfl

theorem person_eq (p : NewPerson α) (id : PersonId) : p.person id = { p.person ⟨0⟩ with id } :=
  foldl_apply_with_id p.changes { id := ⟨0⟩, label := p.label } id

/-- Where a new person lives. -/
def home? (p : NewPerson α) (facilities : Facilities α) : Option (Point α) :=
  (p.person ⟨0⟩).home? facilities

theorem home?_person (p : NewPerson α) (id : PersonId) (facilities : Facilities α) :
    (p.person id).home? facilities = p.home? facilities := by
  rw [person_eq]
  rfl

theorem id_person (p : NewPerson α) (id : PersonId) : (p.person id).id = id := by
  rw [person_eq]

end NewPerson

namespace Population

/-! ## One person -/

/-- Creates a person and makes the changes. -/
def createNew (population : Population α) (p : NewPerson α) : Except CreateError (Population α) := do
  let (id, population) ← population.create p.label
  return population.modify id fun person => p.changes.foldl PersonChange.apply person

/-- A population with a new person at its end. -/
def add (population : Population α) (p : NewPerson α) : Population α :=
  { list := population.list.push (p.person ⟨population.size⟩)
    byLabel := population.byLabel.insert p.label ⟨population.size⟩ }

section Create

variable {population population' : Population α} {label : String}

theorem createM_eq_ok_iff {id : PersonId} :
    (createM label).exec population = (.ok id, population') ↔
      population.byLabel.contains label = false ∧ population.size < Id.limit ∧
        id = ⟨population.size⟩ ∧ population' = population.add { label, changes := [] } := by
  simp only [createM, ExceptT.exec_onPart_eq_ok_iff, Registry.createM_eq_ok_iff]
  constructor
  · rintro ⟨_, ⟨hnew, hlimit, rfl, rfl⟩, rfl⟩
    exact ⟨hnew, hlimit, rfl, rfl⟩
  · rintro ⟨hnew, hlimit, rfl, rfl⟩
    exact ⟨_, ⟨hnew, hlimit, rfl, rfl⟩, rfl⟩

theorem createM_eq_error_iff {e : CreateError} :
    ((createM label).exec population).1 = .error e ↔
      population.byLabel.contains label = true ∧ e = .duplicate "person" label ∨
        population.byLabel.contains label = false ∧ Id.limit ≤ population.size ∧
          e = .tooMany "persons" :=
  Registry.createM_eq_error_iff

theorem atomic_createM : (createM (α := α) label).Atomic :=
  Registry.atomic_createM.onPart fun _ => rfl

end Create

theorem createNew_eq_ok_iff {population population' : Population α} {p : NewPerson α} :
    population.createNew p = .ok population' ↔
      population.byLabel.contains p.label = false ∧ population.size < Id.limit ∧
        population' = population.add p := by
  have hchange : (population.add { label := p.label, changes := [] }).modify ⟨population.size⟩
      (fun person => p.changes.foldl PersonChange.apply person) = population.add p := by
    have hpush : (population.list.push { id := ⟨population.size⟩, label := p.label }).modify
        population.size (fun person => p.changes.foldl PersonChange.apply person) =
        population.list.push (p.person ⟨population.size⟩) := modify_push_size ..
    simp only [modify, add, ← hpush]
    rfl
  simp only [createNew, create, Except.bind_eq_ok, Prod.exists, ExceptT.attempt_eq_ok_iff,
    createM_eq_ok_iff]
  constructor
  · rintro ⟨id, population₁, ⟨hnew, hlimit, rfl, rfl⟩, h⟩
    exact ⟨hnew, hlimit, (Except.ok.inj h).symm.trans hchange⟩
  · rintro ⟨hnew, hlimit, rfl⟩
    exact ⟨_, _, ⟨hnew, hlimit, rfl, rfl⟩, congrArg Except.ok hchange⟩

theorem createNew_eq_error_iff {population : Population α} {p : NewPerson α} {e : CreateError} :
    population.createNew p = .error e ↔
      population.byLabel.contains p.label = true ∧ e = .duplicate "person" p.label ∨
        population.byLabel.contains p.label = false ∧ Id.limit ≤ population.size ∧
          e = .tooMany "persons" := by
  rw [← createM_eq_error_iff, ← ExceptT.attempt_eq_error_iff, createNew, Except.bind_eq_error]
  exact or_iff_left fun ⟨_, _, h⟩ => by cases h

/-! ## All persons -/

/-- Creates persons one after the other. -/
def createAll (ps : List (NewPerson α)) : Except CreateError (Population α) :=
  ps.foldlM createNew {}

/-- Persons that can be created: their labels are all different, and there are identifiers for
them. -/
structure Creatable (ps : List (NewPerson α)) : Prop where
  nodup : (ps.map NewPerson.label).Nodup
  length_le : ps.length ≤ Id.limit

/-- A population has persons, numbered in their order. -/
structure Has (population : Population α) (ps : List (NewPerson α)) : Prop where
  list_eq : population.list.toList = ps.mapIdx fun i p => p.person ⟨i⟩
  contains : ∀ label, population.byLabel.contains label = true ↔ label ∈ ps.map NewPerson.label
  creatable : Creatable ps

theorem has_empty : ({} : Population α).Has [] :=
  ⟨rfl, by simp, List.nodup_nil, Nat.zero_le _⟩

theorem Has.size_eq {population : Population α} {ps : List (NewPerson α)} (h : population.Has ps) :
    population.size = ps.length := by
  rw [size, ← Array.length_toList, h.list_eq, List.length_mapIdx]

/-- Persons carry their places as identifiers. -/
def Numbered (population : Population α) : Prop :=
  population.toRegistry.Numbered Person.id

theorem Numbered.get?_eq_some_iff {population : Population α} (h : population.Numbered)
    {id : PersonId} {person : Person α} :
    population.get? id = some person ↔ person ∈ population.list ∧ person.id = id :=
  h.getElem?_eq_some_iff

theorem Has.numbered {population : Population α} {ps : List (NewPerson α)} (h : population.Has ps) :
    population.Numbered := by
  intro i person hi
  have hlist : population.list.toList[i]? = some person := by simpa using hi
  rw [h.list_eq, List.getElem?_mapIdx, Option.map_eq_some_iff] at hlist
  obtain ⟨p, -, rfl⟩ := hlist
  rw [NewPerson.id_person]

theorem Has.creatable_concat_iff {population : Population α} {ps : List (NewPerson α)}
    (h : population.Has ps) (p : NewPerson α) :
    Creatable (ps ++ [p]) ↔
      population.byLabel.contains p.label = false ∧ population.size < Id.limit := by
  rw [← Bool.not_eq_true, h.contains, h.size_eq]
  constructor
  · rintro ⟨hnodup, hlength⟩
    rw [List.map_append] at hnodup
    rw [List.length_append, List.length_singleton] at hlength
    exact ⟨fun hmem => List.disjoint_of_nodup_append hnodup hmem (by simp), hlength⟩
  · rintro ⟨hnew, hlength⟩
    refine ⟨?_, by rwa [List.length_append, List.length_singleton]⟩
    rw [List.map_append]
    refine List.Nodup.append h.creatable.nodup (List.nodup_singleton _) ?_
    simpa using hnew

theorem Has.add {population : Population α} {ps : List (NewPerson α)} (h : population.Has ps)
    {p : NewPerson α} (hp : Creatable (ps ++ [p])) : (population.add p).Has (ps ++ [p]) := by
  refine ⟨?_, fun label => ?_, hp⟩
  · rw [Population.add, Array.toList_push, h.list_eq, List.mapIdx_concat, h.size_eq]
  · rw [Population.add, Std.HashMap.contains_insert, Bool.or_eq_true, beq_iff_eq, h.contains,
      List.map_append, List.mem_append, List.map_singleton, List.mem_singleton, or_comm, eq_comm]

/-- Creating persons gathers them. -/
theorem gathers_createNew :
    Gathers (fun population p => (createNew (α := α) population p).toOption) Has Creatable where
  allowed h := h.creatable
  of_append := by
    rintro ps ps' ⟨hnodup, hlength⟩
    rw [List.map_append] at hnodup
    rw [List.length_append] at hlength
    exact ⟨List.Nodup.of_append_left hnodup, by omega⟩
  exists_iff := by
    intro population ps p h
    rw [h.creatable_concat_iff p]
    simp only [Except.toOption_eq_some_iff, createNew_eq_ok_iff]
    exact ⟨fun ⟨_, hnew, hlimit, _⟩ => ⟨hnew, hlimit⟩, fun ⟨hnew, hlimit⟩ => ⟨_, hnew, hlimit, rfl⟩⟩
  holds := by
    intro population ps p population' h hcreate
    obtain ⟨hnew, hlimit, rfl⟩ := createNew_eq_ok_iff.1 (Except.toOption_eq_some_iff.1 hcreate)
    exact h.add ((h.creatable_concat_iff p).2 ⟨hnew, hlimit⟩)

/-- **Creating persons** succeeds just if their labels are all different and there are identifiers
for all of them, and then the population has them in this order. -/
theorem createAll_spec (ps : List (NewPerson α)) :
    ((∃ population, createAll ps = .ok population) ↔ Creatable ps) ∧
      ∀ population, createAll ps = .ok population → population.Has ps := by
  simp only [← Except.toOption_eq_some_iff, createAll, Except.toOption_foldlM]
  exact gathers_createNew.foldlM has_empty ps

/-- Persons with different labels behind those of a population fail for want of identifiers only. -/
theorem Has.eq_tooMany {population : Population α} {ps ps' : List (NewPerson α)}
    (h : population.Has ps) (hnodup : ((ps ++ ps').map NewPerson.label).Nodup) {e : CreateError}
    (he : ps'.foldlM createNew population = .error e) : e = .tooMany "persons" := by
  induction ps' generalizing population ps with
  | nil => cases he
  | cons p ps' ih =>
    have hnew : population.byLabel.contains p.label = false := by
      rw [← Bool.not_eq_true, h.contains]
      rw [List.map_append, List.map_cons] at hnodup
      exact fun hmem => List.disjoint_of_nodup_append hnodup hmem List.mem_cons_self
    rw [List.foldlM_cons] at he
    obtain he | ⟨population', hcreate, he⟩ := Except.bind_eq_error.1 he
    · obtain ⟨hold, -⟩ | ⟨-, -, rfl⟩ := createNew_eq_error_iff.1 he
      · rw [hnew] at hold
        cases hold
      · rfl
    · obtain ⟨-, hlimit, rfl⟩ := createNew_eq_ok_iff.1 hcreate
      exact ih (h.add ((h.creatable_concat_iff p).2 ⟨hnew, hlimit⟩))
        (by rwa [List.append_assoc, List.singleton_append]) he

theorem Creatable.perm {ps ps' : List (NewPerson α)} (h : Creatable ps) (hperm : ps'.Perm ps) :
    Creatable ps' :=
  ⟨(hperm.map _).nodup_iff.2 h.nodup, hperm.length_eq ▸ h.length_le⟩

/-! ## Homes -/

theorem Has.get? {population : Population α} {ps : List (NewPerson α)} (h : population.Has ps)
    {person : Person α} (hperson : person ∈ population.list) :
    population.get? person.id = some person :=
  h.numbered.get?_eq_some_iff.2 ⟨hperson, rfl⟩

/-- Where the persons of a population live. -/
theorem Has.homes {population : Population α} {ps : List (NewPerson α)} (h : population.Has ps)
    (facilities : Facilities α) :
    population.list.toList.map (fun person => person.home? facilities) =
      ps.map fun p => p.home? facilities := by
  rw [h.list_eq]
  refine List.ext_getElem (by simp) fun i _ _ => ?_
  simp [NewPerson.home?_person]

end Population

end SpatialAccess
