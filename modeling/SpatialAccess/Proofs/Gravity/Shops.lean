import Mathlib.Analysis.SpecialFunctions.Pow.Real
import SpatialAccess.Proofs.Facility.Collection
import SpatialAccess.Proofs.Gravity.Utility
import SpatialAccess.Proofs.Random.Positions
import SpatialAccess.Proofs.Zone.Extent

/-!
# Which shops a utility is made of

* `otherShops`: the facilities that offer shopping and are no candidates.
* `tiles_of_buildWith`, `contains_of_mem_sites`: the zones of a model share out a box that holds all
  homes and shops.
* `Counted`: the shops that count for each home, as the sampling of shops has it.
  `exists_counted_of_buildWith`: a model counts such shops.
* `directScore_congr`: models that differ in their shops only, but agree in utilities, score alike.
* **`globalUtility_eq_sum`**: a utility is the sum over the candidates at their places and over the
  shops that count; and if all other shops count, it does not matter why.
-/

namespace SpatialAccess

namespace GravityModel

open SpatialIndex (destination)

section Others

variable {α : Type}

/-- The facilities that offer shopping and are no candidates. -/
def otherShops (facilities : Facilities α) (candidates : List FacilityId) : List (Facility α) :=
  (facilities.offering shopType).filter fun f => !candidates.contains f.id

variable {facilities : Facilities α} {candidates : List FacilityId}

theorem mem_otherShops {f : Facility α} :
    f ∈ otherShops facilities candidates ↔
      (f ∈ facilities.list ∧ f.offers shopType = true) ∧ f.id ∉ candidates := by
  simp only [otherShops, List.mem_filter, Facilities.mem_offering_iff, Bool.not_eq_true',
    ← Bool.not_eq_true, List.contains_iff_mem]

theorem nodup_otherShops (h : facilities.Numbered) :
    ((otherShops facilities candidates).map Facility.id).Nodup := by
  have hsub : (otherShops facilities candidates).Sublist facilities.list.toList :=
    List.filter_sublist.trans List.filter_sublist
  exact (hsub.map Facility.id).nodup h.nodup_ids

variable [Number α]

variable {attraction : α → α → α} {settings : GravitySettings α} {network : Network α}
  {population : Population α} {m : GravityModel α}

/-- What a model that was built has as its zones, its shops, and those that everybody counts. -/
theorem index_of_buildWith
    (h : buildWith attraction settings network population facilities candidates = .ok m) :
    (∃ (p : Partitioner) (extent : Box α), p.order = settings.zones ∧
      Box.ofPoints? (sites population facilities) = some extent ∧
      m.index = .build (p.partition extent) population facilities { opportunity := shopType }) ∧
    m.index.shops = (facilities.offering shopType).map destination ∧
    m.fixedShops =
      chooseShops settings ((otherShops facilities candidates).map destination) := by
  obtain ⟨p, grid, _, hp, hgrid, -, -, hm⟩ := buildWith_eq_ok h
  obtain ⟨extent, hextent, rfl⟩ := Partitioner.ofScenario_eq_ok_iff.1 hgrid
  have hindex := congrArg GravityModel.index hm
  have hshops : m.index.shops = (facilities.offering shopType).map destination := by
    rw [hindex]
    rfl
  refine ⟨⟨p, extent, Partitioner.order_of_ofOrder hp, hextent, hindex⟩, hshops, ?_⟩
  rw [congrArg GravityModel.fixedShops hm, hshops, List.filter_map]
  rfl

end Others

/-! ## Shops that count -/

variable {attraction : ℝ → ℝ → ℝ} {settings : GravitySettings ℝ} {network : Network ℝ}
  {population : Population ℝ} {facilities : Facilities ℝ} {candidates : List FacilityId}
  {m : GravityModel ℝ}

theorem mem_sites_of_mem_persons
    (h : buildWith attraction settings network population facilities candidates = .ok m)
    {r : PersonId × Point ℝ} (hr : r ∈ m.persons) : r.2 ∈ sites population facilities := by
  have hhome := home?_of_mem_persons h hr
  obtain ⟨_, _, _, -, -, -, -, hm⟩ := buildWith_eq_ok h
  rw [congrArg GravityModel.index hm, SpatialIndex.home?_build] at hhome
  obtain ⟨person, hperson, hlives⟩ := Option.bind_eq_some_iff.1 hhome
  have hmem : person ∈ population.list.toList :=
    Array.mem_toList_iff.2 (Array.mem_of_getElem? hperson)
  exact List.mem_append_left _ (List.mem_filterMap.2 ⟨person, hmem, hlives⟩)

theorem mem_sites_of_mem_otherShops {f : Facility ℝ} (hf : f ∈ otherShops facilities candidates) :
    f.coord ∈ sites population facilities :=
  List.mem_append_right _ (List.mem_map_of_mem (List.mem_filter.1 hf).1)

theorem tiles_of_buildWith
    (h : buildWith attraction settings network population facilities candidates = .ok m) :
    m.index.grid.Tiles := by
  obtain ⟨⟨p, extent, -, hextent, hindex⟩, -, -⟩ := index_of_buildWith h
  obtain ⟨hx, hy⟩ := Box.le_of_ofPoints? hextent
  rw [hindex]
  exact ZoneGrid.tiles (SpatialIndex.rises_fillZones (p.rises_partition hx hy))
    (SpatialIndex.laidOut_fillZones (p.laidOut_partition extent)) p.order_le

theorem contains_of_mem_sites
    (h : buildWith attraction settings network population facilities candidates = .ok m)
    {site : Point ℝ} (hsite : site ∈ sites population facilities) :
    m.index.grid.box.contains site = true := by
  obtain ⟨⟨p, extent, -, hextent, hindex⟩, -, -⟩ := index_of_buildWith h
  rw [hindex]
  have hcontains : extent.contains site = true :=
    Box.contains_of_ofPoints? hextent (fun p _ => p.isDefined_real) hsite
  exact Box.contains_padded hcontains MarginNumber.zero_le_one MarginNumber.isFinite_one

/-- The shops that count for each home besides the candidates. -/
structure Counted (m : GravityModel ℝ) (others : List (Facility ℝ))
    (shops : Point ℝ → List (Facility ℝ)) : Prop where
  sublist : ∀ home, (shops home).Sublist others
  /-- All of them, -/
  all : m.settings.shopSampling = .all → ∀ home, shops home = others
  /-- the same choice for every home, of the number that is asked for if there are so many, -/
  random : m.settings.shopSampling = .random → ∀ n, m.settings.shopNumber = some n →
    ∃ chosen, chosen.Sublist others ∧ chosen.length = min n others.length ∧
      ∀ home, shops home = chosen
  /-- or just those that are in the zone of the home. -/
  zone : m.settings.shopSampling = .zone → ∀ r ∈ m.persons,
    ∃ z ∈ m.index.grid.zones, z.contains r.2 = true ∧
      (∀ z' ∈ m.index.grid.zones, z'.contains r.2 = true → z' = z) ∧
      shops r.2 = others.filter fun f => z.contains f.coord

theorem destinationsIn_filter
    (h : buildWith attraction settings network population facilities candidates = .ok m)
    (zone : ZoneId) :
    ((m.index.destinationsIn zone).filter fun s => !candidates.contains s.facility) =
      ((otherShops facilities candidates).filter fun f =>
        m.index.grid.zoneOf? f.coord == some zone).map destination := by
  obtain ⟨⟨p, extent, -, -, hindex⟩, -, -⟩ := index_of_buildWith h
  rw [hindex, SpatialIndex.destinationsIn_build, otherShops, List.filter_filter, List.filter_map,
    List.filter_filter]
  congr 2
  funext f
  exact Bool.and_comm ..

/-- **A model counts the shops that its sampling asks for.** -/
theorem exists_counted_of_buildWith
    (h : buildWith attraction settings network population facilities candidates = .ok m) :
    ∃ shops, m.Counted (otherShops facilities candidates) shops ∧
      ∀ home, m.shopsAt home = (shops home).map destination := by
  have htiles := tiles_of_buildWith h
  obtain ⟨-, -, hfixed⟩ := index_of_buildWith h
  obtain rfl := settings_of_buildWith h
  obtain rfl := candidates_of_buildWith h
  cases hsampling : m.settings.shopSampling with
  | all =>
    refine ⟨fun _ => otherShops facilities m.candidates, ?_, fun home => ?_⟩
    · exact ⟨fun _ => List.Sublist.refl _, fun _ _ => rfl, by simp [hsampling], by simp [hsampling]⟩
    · simp [shopsAt, hsampling, hfixed, chooseShops]
  | random =>
    cases hnumber : m.settings.shopNumber with
    | none =>
      refine ⟨fun _ => otherShops facilities m.candidates, ?_, fun home => ?_⟩
      · exact ⟨fun _ => List.Sublist.refl _, by simp [hsampling], by simp [hnumber],
          by simp [hsampling]⟩
      · simp [shopsAt, hsampling, hfixed, chooseShops, hnumber]
    | some n =>
      obtain ⟨hsub, hlength⟩ := Draw.keepAmount_sublist
        ((otherShops facilities m.candidates).map destination) n
        (streams m.settings.seed).1
      obtain ⟨chosen, hchosen, hkept⟩ := List.sublist_map_iff.1 hsub
      rw [hkept, List.length_map, List.length_map] at hlength
      refine ⟨fun _ => chosen, ⟨fun _ => hchosen, by simp [hsampling], ?_, by simp [hsampling]⟩,
        fun home => ?_⟩
      · intro _ n' hn'
        obtain rfl : n = n' := Option.some.inj (hnumber.symm.trans hn')
        exact ⟨chosen, hchosen, hlength, fun _ => rfl⟩
      · simp only [shopsAt, hsampling, hfixed, chooseShops, hnumber, hkept]
  | zone =>
    refine ⟨fun home => (otherShops facilities m.candidates).filter fun f =>
      (m.index.grid.zoneOf? home).isSome &&
        m.index.grid.zoneOf? f.coord == m.index.grid.zoneOf? home,
      ⟨fun _ => List.filter_sublist, by simp [hsampling], by simp [hsampling], ?_⟩, fun home => ?_⟩
    · -- whoever is scored lives in the box, and there just one zone holds a point
      intro _ r hr
      obtain ⟨z, hz, hzr, honly, hzone, -⟩ :=
        htiles.inside r.2 (contains_of_mem_sites h (mem_sites_of_mem_persons h hr))
      refine ⟨z, hz, hzr, honly, List.filter_congr fun f _ => ?_⟩
      rw [hzone, Option.isSome_some, Bool.true_and, Bool.eq_iff_iff, beq_iff_eq]
      exact htiles.zoneOf?_eq_some_iff hz f.coord
    · simp only [shopsAt, hsampling]
      cases m.index.grid.zoneOf? home with
      | none => simp
      | some zone => simpa using destinationsIn_filter h zone

/-! ## Utilities -/

/-- The attraction of the shops that count for a home. -/
theorem sum_shopsAt {m : GravityModel ℝ} {home : Point ℝ} {shops : List (Facility ℝ)}
    (h : m.shopsAt home = shops.map destination) :
    ((m.shopsAt home).map fun s => m.attractionOf home s.coord s.facility).sum =
      (shops.map fun f => m.attraction (home.distance f.coord) (m.capacityOf f.id)).sum := by
  rw [h, List.map_map]
  rfl

theorem utilityAt_ofFn {m : GravityModel ℝ} {home : Point ℝ} {shops : List (Facility ℝ)}
    (h : m.shopsAt home = shops.map destination)
    (place : Fin m.candidates.length → Point ℝ) :
    m.utilityAt home (List.ofFn place) =
      ∑ k, m.attraction (home.distance (place k)) (m.capacityOf m.candidates[k]) +
        (shops.map fun f => m.attraction (home.distance f.coord) (m.capacityOf f.id)).sum := by
  rw [utilityAt, sum_shopsAt h, zip_ofFn, List.map_ofFn, List.sum_ofFn, add_comm]
  rfl

/-! ## Models that count the same shops -/

/-- What a model has besides its shops does not depend on how shops are sampled nor on the zones. -/
theorem eq_of_buildWith {settings' : GravitySettings ℝ} {m' : GravityModel ℝ}
    (h : buildWith attraction settings network population facilities candidates = .ok m)
    (h' : buildWith attraction settings' network population facilities candidates = .ok m')
    (hbetas : settings'.betas = settings.betas) (hrate : settings'.personRate = settings.personRate)
    (hseed : settings'.seed = settings.seed) :
    m' = { m with settings := m'.settings, index := m'.index, fixedShops := m'.fixedShops } := by
  have hopportunities := (opportunities_of_buildWith h').trans (opportunities_of_buildWith h).symm
  obtain ⟨_, _, capacity, -, -, hcapacity, -, hm⟩ := buildWith_eq_ok h
  obtain ⟨_, _, capacity', -, -, hcapacity', -, hm'⟩ := buildWith_eq_ok h'
  obtain rfl : capacity = capacity' := by
    rw [hopportunities, hbetas, hcapacity] at hcapacity'
    exact Except.ok.inj hcapacity'
  have hpersons := persons_congr h h' hrate hseed
  have hcapacity : m'.capacity = m.capacity := by
    rw [congrArg GravityModel.capacity hm', congrArg GravityModel.capacity hm]
  obtain ⟨hattraction, hnetwork⟩ := attraction_of_buildWith h
  obtain ⟨hattraction', hnetwork'⟩ := attraction_of_buildWith h'
  have hcandidates := candidates_of_buildWith h
  have hcandidates' := candidates_of_buildWith h'
  -- every field but the three is known to agree by now
  clear hm hm'
  cases m
  cases m'
  simp_all

/-- Models that count the same shops score every history alike. -/
theorem scoreAll_congr {settings' : GravitySettings ℝ} {m' : GravityModel ℝ}
    (h : buildWith attraction settings network population facilities candidates = .ok m)
    (h' : buildWith attraction settings' network population facilities candidates = .ok m')
    (hbetas : settings'.betas = settings.betas) (hrate : settings'.personRate = settings.personRate)
    (hseed : settings'.seed = settings.seed)
    (hshops : ∀ r ∈ m.persons, ∃ shops : List (Facility ℝ),
      m.shopsAt r.2 = shops.map destination ∧
        m'.shopsAt r.2 = shops.map destination)
    (layouts : List (List LinkId)) :
    ((m'.scoreAll layouts).run {}).1 = ((m.scoreAll layouts).run {}).1 := by
  have hm' := eq_of_buildWith h h' hbetas hrate hseed
  rw [scoreAll_eq_directScore (homesUnique_of_buildWith h),
    scoreAll_eq_directScore (homesUnique_of_buildWith h')]
  refine List.map_congr_left fun layout _ => directScore_congr hm' (fun r hr => ?_) layout
  obtain ⟨shops, hr₁, hr₂⟩ := hshops r hr
  have hr' : r ∈ m'.persons := by
    rw [hm']
    exact hr
  rw [fixedUtility_eq (located_of_buildWith h r hr),
    fixedUtility_eq (located_of_buildWith h' r hr'), sum_shopsAt hr₁, sum_shopsAt hr₂]
  simp only [capacityOf]
  rw [congrArg GravityModel.attraction hm', congrArg GravityModel.capacity hm']

theorem capacity_of_mem_offering (hfacilities : facilities.Numbered)
    (h : buildWith attraction settings network population facilities candidates = .ok m)
    {f : Facility ℝ} (hf : f ∈ facilities.offering shopType) :
    f.capacity shopType = .ok (m.capacityOf f.id) := by
  have hid : f.id ∈ facilities.idsOffering shopType ++ candidates :=
    List.mem_append_left _ (List.mem_map_of_mem hf)
  obtain ⟨f', hf', hcapacity, -⟩ := checkedCapacity_eq_ok_iff.1 (capacityOf_of_buildWith h hid)
  rw [hfacilities.get?_id (Facilities.mem_offering_iff.1 hf).1] at hf'
  obtain rfl := Option.some.inj hf'
  exact hcapacity

/-- Candidates are shops. -/
theorem exists_shop_of_mem_candidates (hfacilities : facilities.Numbered)
    (h : buildWith attraction settings network population facilities candidates = .ok m)
    {id : FacilityId} (hid : id ∈ candidates) : ∃ f ∈ facilities.offering shopType, f.id = id := by
  obtain ⟨f, hf, hcapacity, -⟩ :=
    checkedCapacity_eq_ok_iff.1 (capacityOf_of_buildWith h (List.mem_append_right _ hid))
  obtain ⟨hmem, hid⟩ := hfacilities.get?_eq_some_iff.1 hf
  exact ⟨f, Facilities.mem_offering_iff.2 ⟨hmem, Facility.offers_of_capacity hcapacity⟩, hid⟩

/-- A random choice of as many shops as there are is all of them. -/
theorem Counted.eq_of_length_le {others : List (Facility ℝ)} {shops : Point ℝ → List (Facility ℝ)}
    (h : m.Counted others shops) (hsampling : m.settings.shopSampling = .random) {n : ℕ}
    (hnumber : m.settings.shopNumber = some n) (hn : others.length ≤ n) (home : Point ℝ) :
    shops home = others := by
  obtain ⟨chosen, hsub, hlength, hshops⟩ := h.random hsampling n hnumber
  rw [hshops, hsub.eq_of_length (hlength.trans (min_eq_right hn))]

/-- The only zone there is holds all shops. -/
theorem Counted.eq_of_zones_eq_one {shops : Point ℝ → List (Facility ℝ)}
    (h : m.Counted (otherShops facilities candidates) shops)
    (hm : buildWith attraction settings network population facilities candidates = .ok m)
    (hsampling : m.settings.shopSampling = .zone) (hzones : settings.zones = 1)
    {r : PersonId × Point ℝ} (hr : r ∈ m.persons) :
    shops r.2 = otherShops facilities candidates := by
  have htiles := tiles_of_buildWith hm
  obtain ⟨⟨p, extent, horder, -, hindex⟩, -, -⟩ := index_of_buildWith hm
  have horder' : m.index.grid.order = 1 := by
    rw [hindex]
    exact horder.trans hzones
  have hzone : ∀ site ∈ sites population facilities, m.index.grid.zoneOf? site = some ⟨0⟩ :=
    fun site hsite => ZoneGrid.zoneOf?_of_order_one horder' (contains_of_mem_sites hm hsite)
  obtain ⟨z, hz, hzr, -, hshops⟩ := h.zone hsampling r hr
  have hid := (htiles.zoneOf?_eq_some_iff hz r.2).2 hzr
  rw [hzone r.2 (mem_sites_of_mem_persons hm hr)] at hid
  rw [hshops]
  refine List.filter_eq_self.2 fun f hf => ?_
  rw [← htiles.zoneOf?_eq_some_iff hz, ← hid]
  exact hzone f.coord (mem_sites_of_mem_otherShops hf)

/-- What the utility of a person is made of, where the shops that count are known. -/
theorem utility_eq_sum
    (h : buildWith attraction settings network population facilities candidates = .ok m)
    {r : PersonId × Point ℝ} (hr : r ∈ m.persons) {shops : List (Facility ℝ)}
    (hshops : m.shopsAt r.2 = shops.map destination) {layout : List LinkId}
    {locations : List (Point ℝ)} (hl : m.locations layout = .ok locations) {utility : ℝ}
    (hu : m.globalUtility r.1 r.2 locations = .ok utility) :
    ∃ place : Fin candidates.length → Point ℝ,
      (∀ k : Fin candidates.length,
        ∃ link, layout[k.val]? = some link ∧ network.midpoint? link = some (place k)) ∧
      utility = ∑ k, attraction (r.2.distance (place k)) (m.capacityOf candidates[k]) +
        (shops.map fun f => attraction (r.2.distance f.coord) (m.capacityOf f.id)).sum := by
  obtain ⟨rfl, rfl⟩ := attraction_of_buildWith h
  obtain rfl := candidates_of_buildWith h
  obtain ⟨links, rfl⟩ := exists_eq_ofFn (length_of_locations hl)
  obtain ⟨place, hplace, rfl⟩ := (locations_ofFn_eq_ok_iff rfl links).1 hl
  obtain ⟨-, rfl⟩ := (globalUtility_eq_ok_iff (located_of_buildWith h r hr)).1 hu
  exact ⟨place, fun k => ⟨links k, by simp, hplace k⟩, utilityAt_ofFn hshops place⟩

/-- Where all other shops count in two models, they score alike. -/
theorem scoreAll_congr_of_counted {settings' : GravitySettings ℝ} {m' : GravityModel ℝ}
    (h : buildWith attraction settings network population facilities candidates = .ok m)
    (h' : buildWith attraction settings' network population facilities candidates = .ok m')
    (hbetas : settings'.betas = settings.betas) (hrate : settings'.personRate = settings.personRate)
    (hseed : settings'.seed = settings.seed)
    (hall : settings.shopSampling = .all)
    (hshops : ∀ shops, m'.Counted (otherShops facilities candidates) shops →
      ∀ r ∈ m'.persons, shops r.2 = otherShops facilities candidates)
    (layouts : List (List LinkId)) :
    ((m'.scoreAll layouts).run {}).1 = ((m.scoreAll layouts).run {}).1 := by
  obtain ⟨shops, hcounted, hat⟩ := exists_counted_of_buildWith h
  obtain ⟨shops', hcounted', hat'⟩ := exists_counted_of_buildWith h'
  refine scoreAll_congr h h' hbetas hrate hseed (fun r hr => ?_) layouts
  have hr' : r ∈ m'.persons := by
    rw [eq_of_buildWith h h' hbetas hrate hseed]
    exact hr
  refine ⟨otherShops facilities candidates, ?_, ?_⟩
  · rw [hat, hcounted.all ((settings_of_buildWith h).symm ▸ hall)]
  · rw [hat', hshops shops' hcounted' r hr']

/-! ## The village -/

/-- The only shop of the village besides the candidate. -/
theorem otherShops_village (capacity : ℝ) : ∃ f : Facility ℝ,
    otherShops (village capacity [⟨1⟩]).facilities [⟨1⟩] = [f] ∧ f.coord = ⟨0, 0⟩ ∧ f.id = ⟨0⟩ := by
  rw [otherShops, offering_village]
  exact ⟨_, rfl, rfl, rfl⟩

section Village

variable {capacity : ℝ}
  (h : build settings network (village capacity [⟨1⟩]).population
    (village capacity [⟨1⟩]).facilities [⟨1⟩] = .ok m)

include h

theorem persons_village (hrate : ((1 : ℕ) : ℝ) ≤ settings.personRate) :
    m.persons = [(⟨0⟩, ⟨0, 0⟩)] := by
  rw [persons_of_buildWith h hrate]
  obtain ⟨_, _, _, -, -, -, -, hm⟩ := buildWith_eq_ok h
  rw [congrArg GravityModel.index hm]
  simp [residents, SpatialIndex.home?, SpatialIndex.build, village, Person.home?,
    Person.firstActivity?, Person.selectedPlan?, Activity.location]

theorem locations_village {link : LinkId} {middle : Point ℝ}
    (hmiddle : network.midpoint? link = some middle) : m.locations [link] = .ok [middle] := by
  rw [← (attraction_of_buildWith h).2] at hmiddle
  simp [GravityModel.locations, candidates_of_buildWith h, hmiddle]

theorem capacityOf_village (hbetas : settings.betas = ⟨-1, 1⟩) :
    m.capacityOf ⟨0⟩ = 10 ∧ m.capacityOf ⟨1⟩ = capacity := by
  have hchecked : ∀ id ∈ [(⟨0⟩ : FacilityId), ⟨1⟩],
      checkedCapacity (village capacity [⟨1⟩]).facilities 1 id = .ok (m.capacityOf id) := by
    intro id hid
    have hchecked := capacityOf_of_buildWith h
      (List.mem_append_left _ (idsOffering_village capacity [⟨1⟩] ▸ hid))
    rwa [hbetas] at hchecked
  obtain ⟨hfirst, hsecond⟩ := checkedCapacity_village capacity [⟨1⟩]
  exact ⟨Except.ok.inj ((hchecked _ (by simp)).symm.trans hfirst),
    Except.ok.inj ((hchecked _ (by simp)).symm.trans hsecond)⟩

/-- How something attracts that is `y` to the north; what is at the home counts as ten away. -/
theorem attractionOf_village (hbetas : settings.betas = ⟨-1, 1⟩) {y : ℝ} (hy : 0 ≤ y)
    (id : FacilityId) :
    m.attractionOf ⟨0, 0⟩ ⟨0, y⟩ id = (if y = 0 then 10 else y)⁻¹ + m.capacityOf id := by
  have hdistance : (⟨0, 0⟩ : Point ℝ).distance ⟨0, y⟩ = y := by
    show Real.sqrt ((0 - 0) * (0 - 0) + (0 - y) * (0 - y)) = y
    simp [Real.sqrt_mul_self hy]
  have hpotential : ∀ x : ℝ, settings.betas.potential y x = (if y = 0 then 10 else y)⁻¹ + x := by
    intro x
    rw [hbetas]
    show (if decide (y = ((0 : ℕ) : ℝ)) = true then ((10 : ℕ) : ℝ) else y) ^ (-1 : ℝ) +
      x ^ (1 : ℝ) = _
    simp only [decide_eq_true_eq, Nat.cast_zero, Nat.cast_ofNat, Real.rpow_neg_one, Real.rpow_one]
  rw [attractionOf, (attraction_of_buildWith h).1, hdistance, hpotential]

theorem sum_shopsAt_village (hbetas : settings.betas = ⟨-1, 1⟩) {shops : List (Facility ℝ)}
    (hshops : shops.Sublist (otherShops (village capacity [⟨1⟩]).facilities [⟨1⟩]))
    (hat : m.shopsAt ⟨0, 0⟩ = shops.map destination) :
    ((m.shopsAt ⟨0, 0⟩).map fun s => m.attractionOf ⟨0, 0⟩ s.coord s.facility).sum =
      shops.length * (101 / 10) := by
  obtain ⟨shop, hothers, hcoord, hid⟩ := otherShops_village capacity
  have hone : ∀ f ∈ shops, m.attractionOf ⟨0, 0⟩ f.coord f.id = 101 / 10 := by
    intro f hf
    obtain rfl := List.mem_singleton.1 (hothers ▸ hshops.subset hf)
    rw [hcoord, hid, attractionOf_village h hbetas le_rfl, (capacityOf_village h hbetas).1]
    norm_num
  rw [hat, List.map_map]
  simp only [Function.comp_def, destination]
  rw [List.map_congr_left hone, List.map_const', List.sum_replicate, nsmul_eq_mul]

theorem sum_shopsAt_village_of_all (hbetas : settings.betas = ⟨-1, 1⟩)
    (hall : settings.shopSampling = .all) :
    ((m.shopsAt ⟨0, 0⟩).map fun s => m.attractionOf ⟨0, 0⟩ s.coord s.facility).sum = 101 / 10 := by
  obtain ⟨shop, hothers, -⟩ := otherShops_village capacity
  obtain ⟨shops, hcounted, hat⟩ := exists_counted_of_buildWith h
  have hshops := hcounted.all ((settings_of_buildWith h).symm ▸ hall) ⟨0, 0⟩
  rw [sum_shopsAt_village h hbetas (hcounted.sublist _) (hat _), hshops, hothers]
  norm_num

/-- The utility of the person in the village, and the likelihood of the candidate. -/
theorem utilityAt_village (hbetas : settings.betas = ⟨-1, 1⟩) {y : ℝ} (hy : 0 ≤ y) {fixed : ℝ}
    (hfixed :
      ((m.shopsAt ⟨0, 0⟩).map fun s => m.attractionOf ⟨0, 0⟩ s.coord s.facility).sum = fixed) :
    m.utilityAt ⟨0, 0⟩ [⟨0, y⟩] = fixed + ((if y = 0 then 10 else y)⁻¹ + capacity) ∧
      m.likelihoods ⟨0, 0⟩ [⟨0, y⟩] = [((if y = 0 then 10 else y)⁻¹ + capacity) /
        (fixed + ((if y = 0 then 10 else y)⁻¹ + capacity))] := by
  have hattraction : m.attractionOf ⟨0, 0⟩ ⟨0, y⟩ ⟨1⟩ = (if y = 0 then 10 else y)⁻¹ + capacity := by
    rw [attractionOf_village h hbetas hy, (capacityOf_village h hbetas).2]
  have hutility :
      m.utilityAt ⟨0, 0⟩ [⟨0, y⟩] = fixed + ((if y = 0 then 10 else y)⁻¹ + capacity) := by
    simp [utilityAt, hfixed, candidates_of_buildWith h, hattraction]
  exact ⟨hutility, by simp [likelihoods, hutility, candidates_of_buildWith h, hattraction]⟩

theorem globalUtility_village (hbetas : settings.betas = ⟨-1, 1⟩)
    (hrate : ((1 : ℕ) : ℝ) ≤ settings.personRate) {fixed : ℝ}
    (hfixed :
      ((m.shopsAt ⟨0, 0⟩).map fun s => m.attractionOf ⟨0, 0⟩ s.coord s.facility).sum = fixed)
    (hpos : 0 < fixed + (1 / 10 + capacity)) :
    m.globalUtility ⟨0⟩ ⟨0, 0⟩ [⟨0, 0⟩] = .ok (fixed + (1 / 10 + capacity)) := by
  have hr : ((⟨0⟩, ⟨0, 0⟩) : PersonId × Point ℝ) ∈ m.persons := by
    rw [persons_village h hrate]
    exact List.mem_singleton_self _
  have hutility : m.utilityAt ⟨0, 0⟩ [⟨0, 0⟩] = fixed + (1 / 10 + capacity) := by
    rw [(utilityAt_village h hbetas le_rfl hfixed).1, if_pos rfl, one_div]
  exact (globalUtility_eq_ok_iff (located_of_buildWith h _ hr)).2
    ⟨by rwa [hutility], hutility.symm⟩

end Village

/-- **A utility is the sum of the attractions** of the candidates, each in the middle of its link,
and of the shops that count for the home: no candidate and no shop twice among them, and all other
shops, a fixed choice of them, or those in the zone of the home. So a choice of as many shops as
there are, and zones of which there is only one, give every layout of every history the outcome
that it has when all shops count. -/
theorem globalUtility_eq_sum (hfacilities : facilities.Numbered)
    (h : build settings network population facilities candidates = .ok m) :
    let others := otherShops facilities candidates
    (m.settings = settings ∧ ∃ shops : Point ℝ → List (Facility ℝ), m.Counted others shops ∧
      (∀ home, (∀ f ∈ shops home, f.id ∉ candidates) ∧ ((shops home).map Facility.id).Nodup) ∧
      ∀ r ∈ m.persons, ∀ layout locations utility, m.locations layout = .ok locations →
        m.globalUtility r.1 r.2 locations = .ok utility →
        ∃ place : Fin candidates.length → Point ℝ,
          (∀ k : Fin candidates.length,
            ∃ link, layout[k.val]? = some link ∧ network.midpoint? link = some (place k)) ∧
          utility =
            ∑ k, settings.betas.potential (r.2.distance (place k)) (m.capacityOf candidates[k]) +
              ((shops r.2).map fun f =>
                settings.betas.potential (r.2.distance f.coord) (m.capacityOf f.id)).sum) ∧
    (∀ f ∈ facilities.offering shopType, f.capacity shopType = .ok (m.capacityOf f.id)) ∧
    (∀ id ∈ candidates, ∃ f ∈ facilities.offering shopType, f.id = id) ∧
    ∃ full : GravityModel ℝ, build { settings with shopSampling := .all } network population
        facilities candidates = .ok full ∧
      (∀ n, others.length ≤ n →
        ∃ m' : GravityModel ℝ, build { settings with shopSampling := .random, shopNumber := some n }
            network population facilities candidates = .ok m' ∧
          ∀ layouts, ((m'.scoreAll layouts).run {}).1 = ((full.scoreAll layouts).run {}).1) ∧
      ∃ m' : GravityModel ℝ, build { settings with shopSampling := .zone, zones := 1 }
          network population facilities candidates = .ok m' ∧
        ∀ layouts, ((m'.scoreAll layouts).run {}).1 = ((full.scoreAll layouts).run {}).1 := by
  intro others
  refine ⟨⟨settings_of_buildWith h, ?_⟩, fun f hf => capacity_of_mem_offering hfacilities h hf,
    fun id hid => exists_shop_of_mem_candidates hfacilities h hid, ?_⟩
  · obtain ⟨shops, hcounted, hat⟩ := exists_counted_of_buildWith h
    refine ⟨shops, hcounted, fun home => ⟨fun f hf => ?_, ?_⟩,
      fun r hr layout locations utility hl hu => utility_eq_sum h hr (hat r.2) hl hu⟩
    · exact (mem_otherShops.1 ((hcounted.sublist home).subset hf)).2
    · exact ((hcounted.sublist home).map Facility.id).nodup (nodup_otherShops hfacilities)
  · obtain ⟨hzones, hsites, hchecked, hnodup⟩ := exists_buildWith_iff.1 ⟨m, h⟩
    have hone : (1 : ℕ) ≠ 0 ∧ 1 ≤ Partitioner.limit := by decide
    obtain ⟨full, hfull⟩ : ∃ full, build { settings with shopSampling := .all } network population
        facilities candidates = .ok full :=
      exists_buildWith_iff.2 ⟨hzones, hsites, hchecked, hnodup⟩
    refine ⟨full, hfull, fun n hn => ?_, ?_⟩
    · obtain ⟨m', h'⟩ : ∃ m', build { settings with shopSampling := .random, shopNumber := some n }
          network population facilities candidates = .ok m' :=
        exists_buildWith_iff.2 ⟨hzones, hsites, hchecked, hnodup⟩
      refine ⟨m', h', scoreAll_congr_of_counted hfull h' rfl rfl rfl rfl fun shops hshops r _ => ?_⟩
      have hsettings := settings_of_buildWith h'
      exact hshops.eq_of_length_le (by rw [hsettings]) (by rw [hsettings]) hn r.2
    · obtain ⟨m', h'⟩ : ∃ m', build { settings with shopSampling := .zone, zones := 1 }
          network population facilities candidates = .ok m' :=
        exists_buildWith_iff.2 ⟨hone, hsites, hchecked, hnodup⟩
      refine ⟨m', h',
        scoreAll_congr_of_counted hfull h' rfl rfl rfl rfl fun shops hshops r hr => ?_⟩
      exact hshops.eq_of_zones_eq_one h' (by rw [settings_of_buildWith h']) rfl hr

/-- The utility of the person in the village if all shops count, if a random choice of none of them
does, and if the shops of one of four zones do. -/
theorem globalUtility_eq_sum_village :
    let town := village 5 [⟨1⟩]
    let built := fun settings : GravitySettings ℝ =>
      build settings town.network town.population town.facilities town.candidates
    let counts := fun (settings : GravitySettings ℝ) (ids : List FacilityId) (utility : ℝ) =>
      ∃ (m : GravityModel ℝ) (shops : Point ℝ → List (Facility ℝ)), built settings = .ok m ∧
        m.Counted (otherShops town.facilities town.candidates) shops ∧
        (shops ⟨0, 0⟩).map Facility.id = ids ∧
        m.globalUtility ⟨0⟩ ⟨0, 0⟩ [⟨0, 0⟩] = .ok utility
    town.facilities.Numbered ∧ counts town.settings [⟨0⟩] (76 / 5) ∧
      counts { town.settings with shopSampling := .random, shopNumber := some 0 } [] (51 / 10) ∧
      counts { town.settings with shopSampling := .zone, zones := 2 } [⟨0⟩] (76 / 5) ∧
      ∃ full : GravityModel ℝ, built { town.settings with shopSampling := .all } = .ok full := by
  intro town built counts
  have hnumbered : town.facilities.Numbered := numbered_village 5 [⟨1⟩]
  obtain ⟨shop, hothers, hcoord, hid⟩ := otherShops_village 5
  -- a model of any sampling, with the shops that the theorem gives for it
  have hcounts : ∀ settings : GravitySettings ℝ, ∀ kept : List (Facility ℝ),
      settings.zones ≠ 0 ∧ settings.zones ≤ Partitioner.limit → settings.betas = ⟨-1, 1⟩ →
      settings.personRate = ((1 : ℕ) : ℝ) →
      (∀ (m : GravityModel ℝ) (shops : Point ℝ → List (Facility ℝ)), m.settings = settings →
        m.persons = [(⟨0⟩, ⟨0, 0⟩)] → m.Counted [shop] shops → shops ⟨0, 0⟩ = kept) →
      counts settings (kept.map Facility.id) (kept.length * (101 / 10) + (1 / 10 + 5)) := by
    intro settings kept hzones hbetas hrate hkept
    obtain ⟨m, h⟩ := exists_build_village 5 settings hzones (by rw [hbetas]) town.network
      (List.nodup_singleton (⟨1⟩ : FacilityId)) (by simp)
    have hpersons := persons_village h hrate.ge
    obtain ⟨⟨hsettings, shops, hcounted, -⟩, -⟩ := globalUtility_eq_sum hnumbered h
    refine ⟨m, shops, h, hcounted, ?_, ?_⟩
    · rw [hkept m shops hsettings hpersons (hothers ▸ hcounted)]
    · obtain ⟨shops', hcounted', hat⟩ := exists_counted_of_buildWith h
      have hshops := hkept m shops' hsettings hpersons (hothers ▸ hcounted')
      have hsum := sum_shopsAt_village h hbetas (hshops ▸ hcounted'.sublist ⟨0, 0⟩)
        (hshops ▸ hat ⟨0, 0⟩)
      exact globalUtility_village h hbetas hrate.ge hsum (by positivity)
  refine ⟨hnumbered, ?_, ?_, ?_, ?_⟩
  · have hall := hcounts town.settings [shop] ⟨Nat.one_ne_zero, by decide⟩ rfl rfl
      fun m shops hsettings _ hcounted => hcounted.all (by rw [hsettings]; rfl) _
    norm_num [hid] at hall
    exact hall
  · have hnone := hcounts { town.settings with shopSampling := .random, shopNumber := some 0 } []
      ⟨Nat.one_ne_zero, by decide⟩ rfl rfl fun m shops hsettings _ hcounted => by
        obtain ⟨chosen, -, hlength, hchosen⟩ :=
          hcounted.random (by rw [hsettings]) 0 (by rw [hsettings])
        rw [hchosen, List.length_eq_zero_iff.1 (hlength.trans (Nat.zero_min _))]
    norm_num at hnone
    exact hnone
  · have hzone := hcounts { town.settings with shopSampling := .zone, zones := 2 } [shop]
      ⟨two_ne_zero, by decide⟩ rfl rfl fun m shops hsettings hpersons hcounted => by
        obtain ⟨z, -, hz, -, hshops⟩ := hcounted.zone (by rw [hsettings]) (⟨0⟩, ⟨0, 0⟩)
          (by rw [hpersons]; exact List.mem_singleton_self _)
        rw [hshops, List.filter_eq_self.2 fun f hf => by rwa [List.mem_singleton.1 hf, hcoord]]
    norm_num [hid] at hzone
    exact hzone
  · obtain ⟨m, h⟩ := build_village 5 (List.nodup_singleton (⟨1⟩ : FacilityId)) (by simp)
    obtain ⟨-, -, -, full, hfull, -⟩ := globalUtility_eq_sum hnumbered h
    exact ⟨full, hfull⟩

end GravityModel

end SpatialAccess
