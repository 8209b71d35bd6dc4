import SpatialAccess.Gravity.Model
import SpatialAccess.Proofs.Outcome
import SpatialAccess.Proofs.Random.Sampling

/-!
# What a gravity model is built from

* **`buildWith_eq_ok`**: all that a successful build has checked, and the model it gives.
* `HomesUnique`: nobody is scored with two homes. **`homesUnique_of_buildWith`**: it holds of every
  model that was built, since its persons are residents of its index.
* `persons_of_buildWith`, `persons_congr`: who is scored.
-/

namespace SpatialAccess.GravityModel

variable {α : Type} [Number α] {attraction : α → α → α} {settings : GravitySettings α}
  {network : Network α} {population : Population α} {facilities : Facilities α}
  {candidates : List FacilityId} {m : GravityModel α}

/-- **A successful build.** -/
theorem buildWith_eq_ok
    (h : buildWith attraction settings network population facilities candidates = .ok m) :
    ∃ partitioner grid capacity,
      Partitioner.ofOrder settings.zones settings.partition =
        (.ok partitioner : Except (ConfigError α) Partitioner) ∧
      partitioner.ofScenario population facilities shopType = .ok grid ∧
      capacities facilities settings.betas.capacity
        (m.index.opportunities ++ candidates) = .ok capacity ∧
      checkCandidates facilities candidates = .ok () ∧
      m = {
        settings, attraction, network, candidates, capacity
        index := SpatialIndex.build grid population facilities { opportunity := shopType }
        fixedShops := chooseShops settings
          (m.index.shops.filter fun s => !candidates.contains s.facility)
        persons := ((Draw.keepRate (residents m.index population) settings.personRate).run
          (streams settings.seed).2).1 } := by
  simp only [buildWith, Except.bind_eq_ok, Except.mapError_eq_ok] at h
  obtain ⟨partitioner, hp, grid, hg, capacity, hc, ⟨⟩, hd, h⟩ := h
  cases h
  exact ⟨partitioner, grid, capacity, hp, hg, hc, hd, rfl⟩

omit [Number α] in
theorem home?_of_mem_residents {index : SpatialIndex α}
    {r : PersonId × Point α} (h : r ∈ residents index population) : index.home? r.1 = some r.2 := by
  obtain ⟨p, -, hp⟩ := List.mem_filterMap.1 h
  obtain ⟨home, hhome, rfl⟩ := Option.map_eq_some_iff.1 hp
  exact hhome

/-- No person is scored with two homes. -/
def HomesUnique (m : GravityModel α) : Prop :=
  ∀ r ∈ m.persons, ∀ s ∈ m.persons, r.1 = s.1 → r.2 = s.2

/-- Everybody who is scored lives where the index says. -/
theorem home?_of_mem_persons
    (h : buildWith attraction settings network population facilities candidates = .ok m)
    {r : PersonId × Point α} (hr : r ∈ m.persons) : m.index.home? r.1 = some r.2 := by
  obtain ⟨_, _, _, -, -, -, -, hm⟩ := buildWith_eq_ok h
  rw [congrArg GravityModel.persons hm] at hr
  exact home?_of_mem_residents ((Draw.keepRate_sublist _ _ _).subset hr)

/-- **Nobody is scored with two homes.** -/
theorem homesUnique_of_buildWith
    (h : buildWith attraction settings network population facilities candidates = .ok m) :
    m.HomesUnique := by
  intro r hr s hs hrs
  have hhome := home?_of_mem_persons h hr
  rw [hrs, home?_of_mem_persons h hs] at hhome
  exact (Option.some.inj hhome).symm

theorem candidates_of_buildWith
    (h : buildWith attraction settings network population facilities candidates = .ok m) :
    m.candidates = candidates := by
  obtain ⟨_, _, _, -, -, -, -, hm⟩ := buildWith_eq_ok h
  rw [hm]

/-- Without sampling everybody who has a home is scored. -/
theorem persons_of_buildWith
    (h : buildWith attraction settings network population facilities candidates = .ok m)
    (hrate : ((1 : ℕ) : α) ≤ settings.personRate) : m.persons = residents m.index population := by
  obtain ⟨_, _, _, -, -, -, -, hm⟩ := buildWith_eq_ok h
  rw [congrArg GravityModel.persons hm, Draw.keepRate, if_pos hrate]
  rfl

theorem settings_of_buildWith
    (h : buildWith attraction settings network population facilities candidates = .ok m) :
    m.settings = settings := by
  obtain ⟨_, _, _, -, -, -, -, hm⟩ := buildWith_eq_ok h
  rw [hm]

theorem attraction_of_buildWith
    (h : buildWith attraction settings network population facilities candidates = .ok m) :
    m.attraction = attraction ∧ m.network = network := by
  obtain ⟨_, _, _, -, -, -, -, hm⟩ := buildWith_eq_ok h
  rw [hm]
  exact ⟨rfl, rfl⟩

omit [Number α] in
theorem residents_congr {index index' : SpatialIndex α} (h : index'.homes = index.homes)
    (population : Population α) : residents index' population = residents index population := by
  simp only [residents, SpatialIndex.home?, h]

/-- Who is scored depends on the population and its sampling only. -/
theorem persons_congr {settings' : GravitySettings α} {candidates' : List FacilityId}
    {m' : GravityModel α}
    (h : buildWith attraction settings network population facilities candidates = .ok m)
    (h' : buildWith attraction settings' network population facilities candidates' = .ok m')
    (hrate : settings'.personRate = settings.personRate) (hseed : settings'.seed = settings.seed) :
    m'.persons = m.persons := by
  obtain ⟨_, _, _, -, -, -, -, hm⟩ := buildWith_eq_ok h
  obtain ⟨_, _, _, -, -, -, -, hm'⟩ := buildWith_eq_ok h'
  have hhomes : m'.index.homes = m.index.homes := by
    rw [congrArg GravityModel.index hm', congrArg GravityModel.index hm]
    rfl
  rw [congrArg GravityModel.persons hm', congrArg GravityModel.persons hm, residents_congr hhomes,
    hrate, hseed]

/-! ## A small town -/

/-- All that a model is built from. -/
structure Scenario (α : Type) where
  settings : GravitySettings α
  network : Network α
  population : Population α
  facilities : Facilities α
  candidates : List FacilityId

/-- Two shops at the ends of a street, of which the second one is a candidate, and two persons. -/
def smallTown : Scenario Float where
  settings := .plain 2 { distance := -1, capacity := 1 }
  network := NetworkBuilder.build {
    nodes := #[{ label := "a", coord := ⟨0, 0⟩ }, { label := "b", coord := ⟨100, 0⟩ }]
    links := #[
      { label := "a_b", source := ⟨0⟩, target := ⟨1⟩, length := 100, speed := 10 },
      { label := "b_a", source := ⟨1⟩, target := ⟨0⟩, length := 100, speed := 10 }] }
  population.list := #[
    { id := ⟨0⟩, label := "p", plans := #[[{ activityType := "h", coord := ⟨0, 20⟩ }]] },
    { id := ⟨1⟩, label := "q", plans := #[[{ activityType := "h", coord := ⟨50, 0⟩ }]] }]
  facilities.list := #[
    Facility.addOption { id := ⟨0⟩, label := "f", coord := ⟨0, 0⟩ }
      { activityType := shopType, capacity := some 10 },
    Facility.addOption { id := ⟨1⟩, label := "g", coord := ⟨100, 0⟩ }
      { activityType := shopType, capacity := some 5 }]
  candidates := [⟨1⟩]

/-- A model of the small town can be built. -/
theorem build_smallTown : ∃ m : GravityModel Float,
    build smallTown.settings smallTown.network smallTown.population smallTown.facilities
      smallTown.candidates = .ok m := by
  have h : (build smallTown.settings smallTown.network smallTown.population smallTown.facilities
      smallTown.candidates).isOk = true := by decide +kernel
  cases hb : build smallTown.settings smallTown.network smallTown.population smallTown.facilities
      smallTown.candidates with
  | ok m => exact ⟨m, rfl⟩
  | error e => rw [hb] at h; cases h

end SpatialAccess.GravityModel
