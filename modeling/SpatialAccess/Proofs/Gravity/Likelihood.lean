import SpatialAccess.Proofs.Gravity.Shops

/-!
# Likelihoods

A capacity that is not positive is accepted where its power is a real number, so a power may be
negative, and then a candidate may attract less than nothing. Where that is not so, likelihoods are
what their name says.

* `potential_nonneg`: nothing repels unless its capacity does.
* `sum_likelihoods_le_one`, **`likelihoods_bounded`**: no likelihood is negative, those of one
  person sum to at most one, and the score is at most the number of persons.
* **`likelihood_neg_village`**: a negative capacity gives a negative likelihood and a negative
  score.
-/

namespace SpatialAccess

theorem Point.distance_nonneg (p q : Point ℝ) : 0 ≤ p.distance q :=
  Real.sqrt_nonneg _

theorem Betas.potential_nonneg (betas : Betas ℝ) {distance capacity : ℝ}
    (hdistance : 0 ≤ distance) (hcapacity : 0 ≤ Number.pow capacity betas.capacity) :
    0 ≤ betas.potential distance capacity := by
  have hpow : 0 ≤ Number.pow (if distance == ((0 : ℕ) : ℝ) then minDistance else distance)
      betas.distance := by
    refine Real.rpow_nonneg ?_ _
    split
    · exact Nat.cast_nonneg 10
    · exact hdistance
  exact add_nonneg hpow hcapacity

namespace GravityModel

variable {settings : GravitySettings ℝ} {network : Network ℝ} {population : Population ℝ}
  {facilities : Facilities ℝ} {candidates : List FacilityId} {m : GravityModel ℝ}

/-- No capacity of a shop or a candidate has a negative power. -/
def PowersNonneg (m : GravityModel ℝ) (ids : List FacilityId) : Prop :=
  ∀ id ∈ ids, 0 ≤ Number.pow (m.capacityOf id) m.settings.betas.capacity

theorem attractionOf_nonneg
    (h : build settings network population facilities candidates = .ok m)
    (hpowers : m.PowersNonneg (facilities.idsOffering shopType ++ candidates)) {id : FacilityId}
    (hid : id ∈ facilities.idsOffering shopType ++ candidates) (home location : Point ℝ) :
    0 ≤ m.attractionOf home location id := by
  have hpower := hpowers id hid
  rw [settings_of_buildWith h] at hpower
  rw [attractionOf, (attraction_of_buildWith h).1]
  exact settings.betas.potential_nonneg (Point.distance_nonneg _ _) hpower

theorem sum_shopsAt_nonneg
    (h : build settings network population facilities candidates = .ok m)
    (hpowers : m.PowersNonneg (facilities.idsOffering shopType ++ candidates)) (home : Point ℝ) :
    0 ≤ ((m.shopsAt home).map fun s => m.attractionOf home s.coord s.facility).sum := by
  obtain ⟨shops, hcounted, hat⟩ := exists_counted_of_buildWith h
  rw [hat, List.map_map]
  refine List.sum_nonneg fun x hx => ?_
  obtain ⟨f, hf, rfl⟩ := List.mem_map.1 hx
  have hoffers := (List.mem_filter.1 ((hcounted.sublist home).subset hf)).1
  exact attractionOf_nonneg h hpowers (List.mem_append_left _ (List.mem_map_of_mem hoffers)) home _

theorem likelihoods_nonneg
    (h : build settings network population facilities candidates = .ok m)
    (hpowers : m.PowersNonneg (facilities.idsOffering shopType ++ candidates)) {home : Point ℝ}
    {locations : List (Point ℝ)} (hpos : 0 < m.utilityAt home locations) :
    ∀ x ∈ m.likelihoods home locations, 0 ≤ x := by
  intro x hx
  obtain ⟨⟨id, location⟩, hc, rfl⟩ := List.mem_map.1 hx
  have hid : id ∈ candidates := candidates_of_buildWith h ▸ (List.of_mem_zip hc).1
  have hattraction := attractionOf_nonneg h hpowers (List.mem_append_right _ hid) home location
  exact div_nonneg hattraction hpos.le

/-- What the candidates win is at most all there is. -/
theorem sum_likelihoods_le_one
    (h : build settings network population facilities candidates = .ok m)
    (hpowers : m.PowersNonneg (facilities.idsOffering shopType ++ candidates)) {home : Point ℝ}
    {locations : List (Point ℝ)} (hpos : 0 < m.utilityAt home locations) :
    (m.likelihoods home locations).sum ≤ 1 := by
  have hfixed := sum_shopsAt_nonneg h hpowers home
  -- the candidates' part of the utility over all of it, and the other shops' part is not negative
  simp only [likelihoods, div_eq_mul_inv, List.sum_map_mul_right]
  rw [← div_eq_mul_inv, div_le_one hpos, utilityAt]
  linarith

/-- **Likelihoods.** Where no capacity has a negative power, in every score of a history the
likelihoods of each person are not negative and sum to at most one, so the score lies between zero
and the number of persons. -/
theorem likelihoods_bounded (h : build settings network population facilities candidates = .ok m)
    (hpowers : ∀ id ∈ facilities.idsOffering shopType ++ candidates,
      0 ≤ Number.pow (m.capacityOf id) settings.betas.capacity)
    {layouts : List (List LinkId)} {i : ℕ} {score : ℝ}
    (hscore : ((m.scoreAll layouts).run {}).1[i]? = some (.ok score)) :
    ∃ layout locations, layouts[i]? = some layout ∧ m.locations layout = .ok locations ∧
      (∀ r ∈ m.persons, ∃ utility, m.globalUtility r.1 r.2 locations = .ok utility ∧
        (∀ c ∈ m.candidates.zip locations, 0 ≤ m.attractionOf r.2 c.2 c.1 / utility) ∧
        ((m.candidates.zip locations).map fun c => m.attractionOf r.2 c.2 c.1 / utility).sum ≤ 1) ∧
      0 ≤ score ∧ score ≤ m.persons.length := by
  have hpowers' : m.PowersNonneg (facilities.idsOffering shopType ++ candidates) := by
    rw [PowersNonneg, settings_of_buildWith h]
    exact hpowers
  rw [scoreAll_eq_directScore (homesUnique_of_buildWith h), List.getElem?_map,
    Option.map_eq_some_iff] at hscore
  obtain ⟨layout, hlayout, hdirect⟩ := hscore
  obtain ⟨locations, hl, hpos, rfl⟩ :=
    (directScore_eq_ok_iff (located_of_buildWith h)).1 hdirect
  refine ⟨layout, locations, hlayout, hl, fun r hr => ?_, ?_, ?_⟩
  · refine ⟨m.utilityAt r.2 locations,
      (globalUtility_eq_ok_iff (located_of_buildWith h r hr)).2 ⟨hpos r hr, rfl⟩, fun c hc => ?_,
      sum_likelihoods_le_one h hpowers' (hpos r hr)⟩
    exact likelihoods_nonneg h hpowers' (hpos r hr) _ (List.mem_map_of_mem hc)
  · refine List.sum_nonneg fun x hx => ?_
    obtain ⟨r, hr, rfl⟩ := List.mem_map.1 hx
    exact List.sum_nonneg (likelihoods_nonneg h hpowers' (hpos r hr))
  · have hle := List.sum_le_card_nsmul
      (m.persons.map fun r => (m.likelihoods r.2 locations).sum) 1 fun x hx => by
        obtain ⟨r, hr, rfl⟩ := List.mem_map.1 hx
        exact sum_likelihoods_le_one h hpowers' (hpos r hr)
    simpa using hle

/-- The score of the village with its candidate on a road that passes `y` to the north. -/
theorem directScore_village {capacity : ℝ} {network : Network ℝ}
    (h : build (village capacity [⟨1⟩]).settings network (village capacity [⟨1⟩]).population
      (village capacity [⟨1⟩]).facilities [⟨1⟩] = .ok m) {link : LinkId} {y : ℝ} (hy : 0 ≤ y)
    (hmiddle : network.midpoint? link = some ⟨0, y⟩)
    (hpos : 0 < 101 / 10 + ((if y = 0 then 10 else y)⁻¹ + capacity)) :
    m.directScore [link] = .ok (((if y = 0 then 10 else y)⁻¹ + capacity) /
      (101 / 10 + ((if y = 0 then 10 else y)⁻¹ + capacity))) := by
  obtain ⟨hutility, hlikelihoods⟩ :=
    utilityAt_village h rfl hy (sum_shopsAt_village_of_all h rfl rfl)
  refine (directScore_eq_ok_iff (located_of_buildWith h)).2 ⟨_, locations_village h hmiddle, ?_, ?_⟩
  · rw [persons_village h le_rfl]
    simpa [hutility] using hpos
  · simp [persons_village h le_rfl, hlikelihoods]

/-- Two scores of the village with a shop of capacity ten and a candidate of capacity five. -/
theorem likelihoods_bounded_village :
    let town := village 5 [⟨1⟩]
    ∃ m : GravityModel ℝ,
      build town.settings town.network town.population town.facilities town.candidates = .ok m ∧
      (∀ id ∈ town.facilities.idsOffering shopType ++ town.candidates,
        0 ≤ Number.pow (m.capacityOf id) town.settings.betas.capacity) ∧
      ((m.scoreAll [[], [⟨0⟩]]).run {}).1[1]? = some (.ok (51 / 152)) ∧
      0 ≤ (51 / 152 : ℝ) ∧ (51 / 152 : ℝ) ≤ m.persons.length := by
  intro town
  obtain ⟨m, h⟩ := build_village 5 (List.nodup_singleton (⟨1⟩ : FacilityId)) (by simp)
  have hpowers : ∀ id ∈ town.facilities.idsOffering shopType ++ town.candidates,
      0 ≤ Number.pow (m.capacityOf id) town.settings.betas.capacity := by
    intro id hid
    obtain ⟨hfirst, hsecond⟩ := capacityOf_village h rfl
    show 0 ≤ m.capacityOf id ^ (1 : ℝ)
    rw [idsOffering_village] at hid
    simp only [town, village, List.cons_append, List.nil_append, List.mem_cons, List.not_mem_nil,
      or_false, or_self] at hid
    obtain rfl | rfl := hid
    · rw [hfirst]
      norm_num
    · rw [hsecond]
      norm_num
  have hscore : ((m.scoreAll [[], [⟨0⟩]]).run {}).1[1]? = some (.ok (51 / 152)) := by
    rw [scoreAll_eq_directScore (homesUnique_of_buildWith h)]
    simp only [List.map_cons, List.map_nil, List.getElem?_cons_succ, List.getElem?_cons_zero,
      directScore_village h le_rfl (midpoint?_village 5 _) (by norm_num)]
    norm_num
  obtain ⟨_, _, -, -, -, hnonneg, hle⟩ := likelihoods_bounded h hpowers hscore
  exact ⟨m, h, hpowers, hscore, hnonneg, hle⟩

/-- **A negative likelihood.** A candidate of capacity minus five repels the person in the village
by more than its nearness attracts, while the utility of everything is still positive. -/
theorem likelihood_neg_village :
    let town := village (-5) [⟨1⟩]
    ∃ m : GravityModel ℝ,
      build town.settings town.network town.population town.facilities town.candidates = .ok m ∧
      m.persons = [(⟨0⟩, ⟨0, 0⟩)] ∧ m.candidates = [⟨1⟩] ∧ m.locations [⟨0⟩] = .ok [⟨0, 0⟩] ∧
      m.globalUtility ⟨0⟩ ⟨0, 0⟩ [⟨0, 0⟩] = .ok (26 / 5) ∧
      m.attractionOf ⟨0, 0⟩ ⟨0, 0⟩ ⟨1⟩ / (26 / 5) = -49 / 52 ∧
      m.freshScore [⟨0⟩] = .ok (-49 / 52) ∧ (-49 / 52 : ℝ) < 0 := by
  intro town
  obtain ⟨m, h⟩ := build_village (-5) (List.nodup_singleton (⟨1⟩ : FacilityId)) (by simp)
  have hpersons := persons_village h le_rfl
  have hr : ((⟨0⟩, ⟨0, 0⟩) : PersonId × Point ℝ) ∈ m.persons := by
    rw [hpersons]
    simp
  have hmiddle := midpoint?_village (-5) [⟨1⟩]
  refine ⟨m, h, hpersons, candidates_of_buildWith h, locations_village h hmiddle, ?_, ?_, ?_,
    by norm_num⟩
  · rw [globalUtility_village h rfl le_rfl (sum_shopsAt_village_of_all h rfl rfl) (by norm_num)]
    norm_num
  · rw [attractionOf_village h rfl le_rfl, (capacityOf_village h rfl).2]
    norm_num
  · rw [freshScore_eq (homesUnique_of_buildWith h),
      directScore_village h le_rfl hmiddle (by norm_num)]
    norm_num

end GravityModel

end SpatialAccess
