import SpatialAccess.Proofs.Gravity.Building
import SpatialAccess.Proofs.Zone.Binning

/-!
# What a build checks

* `checkedCapacity_eq_ok_iff`, `capacities_eq_ok`: the capacities of all shops and candidates are
  known and can be raised to the power.
* `checkCandidates_eq_ok_iff`: no candidate is listed twice.
* **`exists_buildWith_iff`**: there is a model just if these hold, the order of the zones is
  accepted and there is something to partition. How shops are sampled does not matter.
* **`capacityOf_of_buildWith`**: what a model takes for the capacity of a shop or a candidate.
-/

namespace SpatialAccess

variable {α : Type} [Number α]

omit [Number α] in
theorem Partitioner.exists_ofOrder_iff {order : ℕ} (mode : PartitionMode) :
    (∃ p, (ofOrder order mode : Except (ConfigError α) Partitioner) = .ok p) ↔
      order ≠ 0 ∧ order ≤ limit := by
  unfold ofOrder
  split
  · next h => simp [h]
  · next h =>
    split
    · next hlimit => simp [Nat.not_le.2 hlimit]
    · next hlimit => simp [h, Nat.not_lt.1 hlimit]

namespace GravityModel

/-! ## Capacities -/

variable {facilities : Facilities α} {exponent : α}

theorem checkedCapacity_eq_ok_iff {id : FacilityId} {capacity : α} :
    checkedCapacity facilities exponent id = .ok capacity ↔
      ∃ f, facilities.get? id = some f ∧ f.capacity shopType = .ok capacity ∧
        checkCapacity capacity exponent = .ok () := by
  unfold checkedCapacity
  cases facilities.get? id with
  | none => simp
  | some f =>
    simp only [Except.bind_eq_ok, Option.some.injEq, exists_eq_left']
    constructor
    · rintro ⟨c, hc, ⟨⟩, hcheck, h⟩
      cases h
      exact ⟨hc, hcheck⟩
    · rintro ⟨hc, hcheck⟩
      exact ⟨capacity, hc, ⟨⟩, hcheck, rfl⟩

/-- Capacities added to known ones: all have to be there, and of a facility that is added the
capacity that was known before does not count. -/
theorem foldlM_insert_capacity (ids : List FacilityId) (known : Std.HashMap FacilityId α) :
    ((∃ known', ids.foldlM (fun (known : Std.HashMap FacilityId α) id => do
        return known.insert id (← checkedCapacity facilities exponent id)) known = .ok known') ↔
      ∀ id ∈ ids, ∃ c, checkedCapacity facilities exponent id = .ok c) ∧
    ∀ known', ids.foldlM (fun (known : Std.HashMap FacilityId α) id => do
        return known.insert id (← checkedCapacity facilities exponent id)) known = .ok known' →
      ∀ id, known'[id]? =
        if id ∈ ids then (checkedCapacity facilities exponent id).toOption else known[id]? := by
  induction ids generalizing known with
  | nil =>
    refine ⟨by simp [pure, Except.pure], fun known' h id => ?_⟩
    cases h
    simp
  | cons first ids ih =>
    cases hfirst : checkedCapacity facilities exponent first with
    | error e => simp [hfirst, bind, Except.bind]
    | ok c =>
      obtain ⟨hiff, hget⟩ := ih (known.insert first c)
      simp only [List.foldlM_cons, hfirst, List.mem_cons, forall_eq_or_imp]
      refine ⟨?_, fun known' h id => ?_⟩
      · refine Iff.trans hiff ⟨fun h => ⟨⟨c, rfl⟩, h⟩, And.right⟩
      · -- a facility that is listed twice gets the same capacity twice
        rw [hget known' h id, Std.HashMap.getElem?_insert]
        by_cases hid : id = first
        · simp [hid, hfirst, Except.toOption]
        · simp [hid, Ne.symm hid]

theorem exists_capacities_iff {ids : List FacilityId} :
    (∃ capacity, capacities facilities exponent ids = .ok capacity) ↔
      ∀ id ∈ ids, ∃ c, checkedCapacity facilities exponent id = .ok c :=
  (foldlM_insert_capacity ids {}).1

theorem getElem?_capacities {ids : List FacilityId} {capacity : Std.HashMap FacilityId α}
    (h : capacities facilities exponent ids = .ok capacity) {id : FacilityId} (hid : id ∈ ids) :
    capacity[id]? = (checkedCapacity facilities exponent id).toOption := by
  rw [(foldlM_insert_capacity ids {}).2 capacity h id, if_pos hid]

/-! ## Candidates -/

theorem repeated?_eq_none_iff (seen ids : List FacilityId) :
    repeated? seen ids = none ↔ ids.Nodup ∧ ∀ id ∈ ids, id ∉ seen := by
  induction ids generalizing seen with
  | nil => simp [repeated?]
  | cons id ids ih =>
    rw [repeated?]
    by_cases hid : id ∈ seen
    · simp [hid]
    · simp only [List.contains_iff_mem, hid, if_false, ih, List.nodup_cons, List.mem_cons, not_or,
        forall_eq_or_imp, not_false_eq_true, true_and]
      constructor
      · rintro ⟨hnodup, hnew⟩
        exact ⟨⟨fun hmem => (hnew id hmem).1 rfl, hnodup⟩, fun i hi => (hnew i hi).2⟩
      · rintro ⟨⟨hmem, hnodup⟩, hnew⟩
        exact ⟨hnodup, fun i hi => ⟨fun heq => hmem (heq ▸ hi), hnew i hi⟩⟩

omit [Number α] in
theorem checkCandidates_eq_ok_iff {candidates : List FacilityId} :
    checkCandidates facilities candidates = .ok () ↔ candidates.Nodup := by
  unfold checkCandidates
  have hnone := repeated?_eq_none_iff [] candidates
  cases hrep : repeated? [] candidates with
  | none => simpa [hrep] using hnone
  | some id => simpa [hrep] using hnone

/-! ## Building -/

variable {attraction : α → α → α} {settings : GravitySettings α} {network : Network α}
  {population : Population α} {candidates : List FacilityId}

/-- Where everybody lives, then where the shops are. -/
def sites (population : Population α) (facilities : Facilities α) : List (Point α) :=
  population.list.toList.filterMap (fun person => person.home? facilities) ++
    (facilities.offering shopType).map Facility.coord

theorem opportunities_of_buildWith {m : GravityModel α}
    (h : buildWith attraction settings network population facilities candidates = .ok m) :
    m.index.opportunities = facilities.idsOffering shopType := by
  obtain ⟨_, grid, _, -, -, -, -, hm⟩ := buildWith_eq_ok h
  rw [hm]
  exact SpatialIndex.opportunities_build ..

/-- **There is a model** just if the order of the zones is accepted, there is a home or a shop,
every shop and every candidate has a capacity that can be raised to the power, and no candidate is
listed twice. -/
theorem exists_buildWith_iff :
    (∃ m, buildWith attraction settings network population facilities candidates = .ok m) ↔
      (settings.zones ≠ 0 ∧ settings.zones ≤ Partitioner.limit) ∧
      sites population facilities ≠ [] ∧
      (∀ id ∈ facilities.idsOffering shopType ++ candidates,
        ∃ c, checkedCapacity facilities settings.betas.capacity id = .ok c) ∧
      candidates.Nodup := by
  constructor
  · rintro ⟨m, h⟩
    obtain ⟨p, grid, capacity, hp, hgrid, hcapacity, hcandidates, -⟩ := buildWith_eq_ok h
    obtain ⟨extent, hextent, -⟩ := Partitioner.ofScenario_eq_ok_iff.1 hgrid
    rw [opportunities_of_buildWith h] at hcapacity
    refine ⟨(Partitioner.exists_ofOrder_iff _).1 ⟨p, hp⟩, ?_,
      exists_capacities_iff.1 ⟨capacity, hcapacity⟩, checkCandidates_eq_ok_iff.1 hcandidates⟩
    intro hnil
    rw [← sites, hnil] at hextent
    cases hextent
  · rintro ⟨hzones, hsites, hchecked, hnodup⟩
    obtain ⟨p, hp⟩ := (Partitioner.exists_ofOrder_iff settings.partition).2 hzones
    obtain ⟨extent, hextent⟩ :
        ∃ extent, Box.ofPoints? (sites population facilities) = some extent := by
      obtain ⟨first, others, hcons⟩ := List.exists_cons_of_ne_nil hsites
      exact ⟨_, congrArg Box.ofPoints? hcons⟩
    obtain ⟨capacity, hcapacity⟩ := exists_capacities_iff.2 hchecked
    rw [← SpatialIndex.opportunities_build (p.partition extent) population facilities
      { opportunity := shopType }] at hcapacity
    simp only [buildWith, Except.bind_eq_ok, Except.mapError_eq_ok]
    exact ⟨_, p, hp, _, Partitioner.ofScenario_eq_ok_iff.2 ⟨extent, hextent, rfl⟩, capacity,
      hcapacity, ⟨⟩, checkCandidates_eq_ok_iff.2 hnodup, rfl⟩

/-- **What a model takes for the capacity** of a shop or a candidate is its capacity. -/
theorem capacityOf_of_buildWith {m : GravityModel α}
    (h : buildWith attraction settings network population facilities candidates = .ok m)
    {id : FacilityId} (hid : id ∈ facilities.idsOffering shopType ++ candidates) :
    checkedCapacity facilities settings.betas.capacity id = .ok (m.capacityOf id) := by
  obtain ⟨_, _, capacity, -, -, hcapacity, -, hm⟩ := buildWith_eq_ok h
  rw [opportunities_of_buildWith h] at hcapacity
  obtain ⟨c, hc⟩ := exists_capacities_iff.1 ⟨capacity, hcapacity⟩ id hid
  have hget := getElem?_capacities hcapacity hid
  rw [hc] at hget
  rw [hc, hm, capacityOf, hget]
  rfl

end GravityModel

end SpatialAccess
