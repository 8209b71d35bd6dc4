import SpatialAccess.Proofs.Gravity.Shops
import SpatialAccess.Proofs.Population.Creation

/-!
# Scores do not depend on any order

* `Reordered`: models of one scenario, up to the order of candidates and the order of homes.
  `Reordered.utilityAt_eq`, `Reordered.sum_likelihoods_eq`: their utilities and likelihoods
  agree.
* `Reordered.directScore_eq_ok`: they score alike, where candidates are put at the same places.
* `outcomes`: what comes of a scenario and a history of layouts. **`outcomes_reorder`**:
  rearranging the candidates along with every layout, or, without sampling, creating the persons in
  another order, changes no score, and is refused just where the first order is.
-/

namespace SpatialAccess

theorem Partitioner.partition_congr {p p' : Partitioner} (h : p'.order = p.order) (extent : Box ℝ) :
    p'.partition extent = p.partition extent := by
  cases p
  cases p'
  cases h
  rfl

namespace GravityModel

variable {attraction : ℝ → ℝ → ℝ} {settings : GravitySettings ℝ} {network : Network ℝ}
  {population population' : Population ℝ} {facilities : Facilities ℝ}
  {candidates candidates' : List FacilityId} {m m' : GravityModel ℝ}

/-! ## Building -/

theorem exists_buildWith_reorder
    (hsites : (sites population' facilities).Perm (sites population facilities))
    (hcandidates : candidates'.Perm candidates) :
    (∃ m, buildWith attraction settings network population' facilities candidates' = .ok m) ↔
      ∃ m, buildWith attraction settings network population facilities candidates = .ok m := by
  have hnil : sites population' facilities ≠ [] ↔ sites population facilities ≠ [] := by
    rw [Ne, Ne, ← List.length_eq_zero_iff, ← List.length_eq_zero_iff, hsites.length_eq]
  simp only [exists_buildWith_iff, hnil, hcandidates.nodup_iff, List.mem_append,
    hcandidates.mem_iff]

theorem contains_perm (hcandidates : candidates'.Perm candidates) (id : FacilityId) :
    candidates'.contains id = candidates.contains id := by
  rw [Bool.eq_iff_iff, List.contains_iff_mem, List.contains_iff_mem, hcandidates.mem_iff]

theorem otherShops_perm (hcandidates : candidates'.Perm candidates) :
    otherShops facilities candidates' = otherShops facilities candidates := by
  simp only [otherShops, contains_perm hcandidates]

/-- Models that agree up to the order of candidates and the order of homes. -/
structure Reordered (m m' : GravityModel ℝ) : Prop where
  network : m'.network = m.network
  candidates : m'.candidates.Perm m.candidates
  homes : (m'.persons.map Prod.snd).Perm (m.persons.map Prod.snd)
  shopsAt : ∀ home, m'.shopsAt home = m.shopsAt home
  attractionOf_shop : ∀ home, ∀ s ∈ m.shopsAt home,
    m'.attractionOf home s.coord s.facility = m.attractionOf home s.coord s.facility
  attractionOf_candidate : ∀ home location, ∀ id ∈ m.candidates,
    m'.attractionOf home location id = m.attractionOf home location id

theorem Reordered.symm (h : Reordered m m') : Reordered m' m where
  network := h.network.symm
  candidates := h.candidates.symm
  homes := h.homes.symm
  shopsAt home := (h.shopsAt home).symm
  attractionOf_shop home s hs := (h.attractionOf_shop home s (h.shopsAt home ▸ hs)).symm
  attractionOf_candidate home location id hid :=
    (h.attractionOf_candidate home location id (h.candidates.mem_iff.1 hid)).symm

/-- The zones do not depend on any order, and neither do the shops in them. -/
theorem zones_congr (hsites : (sites population' facilities).Perm (sites population facilities))
    (h : buildWith attraction settings network population facilities candidates = .ok m)
    (h' : buildWith attraction settings network population' facilities candidates' = .ok m') :
    m'.index.grid.zoneOf? = m.index.grid.zoneOf? ∧
      m'.index.destinationsIn = m.index.destinationsIn := by
  obtain ⟨⟨p, extent, horder, hextent, hindex⟩, -, -⟩ := index_of_buildWith h
  obtain ⟨⟨p', extent', horder', hextent', hindex'⟩, -, -⟩ := index_of_buildWith h'
  rw [Box.ofPoints?_perm hsites, hextent, Option.some.injEq] at hextent'
  have hgrid : p'.partition extent' = p.partition extent :=
    hextent' ▸ Partitioner.partition_congr (horder'.trans horder.symm) extent
  rw [hindex, hindex', hgrid]
  refine ⟨rfl, funext fun zone => ?_⟩
  rw [SpatialIndex.destinationsIn_build, SpatialIndex.destinationsIn_build]

/-- Models that were built of one scenario, up to some order. -/
theorem reordered_of_buildWith
    (hsites : (sites population' facilities).Perm (sites population facilities))
    (hcandidates : candidates'.Perm candidates)
    (h : buildWith attraction settings network population facilities candidates = .ok m)
    (h' : buildWith attraction settings network population' facilities candidates' = .ok m')
    (hhomes : (m'.persons.map Prod.snd).Perm (m.persons.map Prod.snd)) : Reordered m m' := by
  obtain ⟨hzones, hdestinations⟩ := zones_congr hsites h h'
  obtain ⟨-, -, hfixed⟩ := index_of_buildWith h
  obtain ⟨-, -, hfixed'⟩ := index_of_buildWith h'
  obtain ⟨hattraction, hnetwork⟩ := attraction_of_buildWith h
  obtain ⟨hattraction', hnetwork'⟩ := attraction_of_buildWith h'
  have hcapacity : ∀ id ∈ facilities.idsOffering shopType ++ candidates,
      m'.capacityOf id = m.capacityOf id := by
    intro id hid
    have hid' : id ∈ facilities.idsOffering shopType ++ candidates' := by
      rwa [List.mem_append, hcandidates.mem_iff, ← List.mem_append]
    have hknown := capacityOf_of_buildWith h hid
    exact Except.ok.inj ((capacityOf_of_buildWith h' hid').symm.trans hknown)
  have hattractionOf : ∀ home location, ∀ id ∈ facilities.idsOffering shopType ++ candidates,
      m'.attractionOf home location id = m.attractionOf home location id := by
    intro home location id hid
    rw [attractionOf, attractionOf, hattraction, hattraction', hcapacity id hid]
  refine ⟨hnetwork'.trans hnetwork.symm, ?_, hhomes, fun home => ?_, fun home s hs => ?_,
    fun home location id hid => ?_⟩
  · rw [candidates_of_buildWith h, candidates_of_buildWith h']
    exact hcandidates
  · simp only [shopsAt, settings_of_buildWith h, settings_of_buildWith h',
      candidates_of_buildWith h, candidates_of_buildWith h', hzones, hdestinations, hfixed, hfixed',
      contains_perm hcandidates, otherShops_perm hcandidates]
  · obtain ⟨shops, hcounted, hat⟩ := exists_counted_of_buildWith h
    rw [hat] at hs
    obtain ⟨f, hf, rfl⟩ := List.mem_map.1 hs
    have hoffers := (List.mem_filter.1 ((hcounted.sublist home).subset hf)).1
    exact hattractionOf _ _ _ (List.mem_append_left _ (List.mem_map_of_mem hoffers))
  · exact hattractionOf _ _ _ (List.mem_append_right _ (candidates_of_buildWith h ▸ hid))

/-! ## Scores -/

namespace Reordered

variable {locations locations' : List (Point ℝ)}

theorem utilityAt_eq (h : Reordered m m')
    (hzip : (m'.candidates.zip locations').Perm (m.candidates.zip locations)) (home : Point ℝ) :
    m'.utilityAt home locations' = m.utilityAt home locations := by
  rw [utilityAt, utilityAt, h.shopsAt, (hzip.map _).sum_eq]
  congr 2
  · exact List.map_congr_left (h.attractionOf_shop home)
  · exact List.map_congr_left fun c hc =>
      h.attractionOf_candidate home c.2 c.1 (List.of_mem_zip hc).1

theorem sum_likelihoods_eq (h : Reordered m m')
    (hzip : (m'.candidates.zip locations').Perm (m.candidates.zip locations)) (home : Point ℝ) :
    (m'.likelihoods home locations').sum = (m.likelihoods home locations).sum := by
  rw [likelihoods, likelihoods, h.utilityAt_eq hzip, (hzip.map _).sum_eq]
  refine congrArg List.sum (List.map_congr_left fun c hc => ?_)
  rw [h.attractionOf_candidate home c.2 c.1 (List.of_mem_zip hc).1]

/-- **A score is the same** where candidates are put at the same places. -/
theorem directScore_eq_ok (h : Reordered m m') (hm : m.Located) (hm' : m'.Located)
    {layout layout' : List LinkId} (hlayout : ∀ locations, m.locations layout = .ok locations →
      ∃ locations', m'.locations layout' = .ok locations' ∧
        (m'.candidates.zip locations').Perm (m.candidates.zip locations))
    {score : ℝ} (hscore : m.directScore layout = .ok score) :
    m'.directScore layout' = .ok score := by
  obtain ⟨locations, hl, hpos, rfl⟩ := (directScore_eq_ok_iff hm).1 hscore
  obtain ⟨locations', hl', hzip⟩ := hlayout locations hl
  refine (directScore_eq_ok_iff hm').2 ⟨locations', hl', fun r hr => ?_, ?_⟩
  · -- identifiers may differ, but somebody has the same home in the other model
    obtain ⟨r₀, hr₀, hhome⟩ := List.mem_map.1 (h.homes.mem_iff.1 (List.mem_map_of_mem hr))
    rw [h.utilityAt_eq hzip, ← hhome]
    exact hpos r₀ hr₀
  · have hsum : ∀ persons : List (PersonId × Point ℝ),
        persons.map (fun r => (m.likelihoods r.2 locations).sum) =
          (persons.map Prod.snd).map fun home => (m.likelihoods home locations).sum := by
      intro persons
      rw [List.map_map]
      rfl
    simp only [h.sum_likelihoods_eq hzip, hsum]
    exact ((h.homes.map _).sum_eq).symm

/-- Histories of corresponding layouts have the same scores, and lack one at the same places. -/
theorem scoreAll_toOption (h : Reordered m m')
    (hbuilt : buildWith attraction settings network population facilities candidates = .ok m)
    (hbuilt' : buildWith attraction settings network population' facilities candidates' = .ok m')
    {β : Type} (layout layout' : β → List LinkId)
    (hlayout : ∀ b locations, m.locations (layout b) = .ok locations →
      ∃ locations', m'.locations (layout' b) = .ok locations' ∧
        (m'.candidates.zip locations').Perm (m.candidates.zip locations))
    (hlayout' : ∀ b locations, m'.locations (layout' b) = .ok locations →
      ∃ locations', m.locations (layout b) = .ok locations' ∧
        (m.candidates.zip locations').Perm (m'.candidates.zip locations)) (bs : List β) :
    ((m'.scoreAll (bs.map layout')).run {}).1.map Except.toOption =
      ((m.scoreAll (bs.map layout)).run {}).1.map Except.toOption := by
  have hm := located_of_buildWith hbuilt
  have hm' := located_of_buildWith hbuilt'
  -- what is remembered is not the same in both: a layout may be refused at another person
  rw [scoreAll_eq_directScore (homesUnique_of_buildWith hbuilt),
    scoreAll_eq_directScore (homesUnique_of_buildWith hbuilt'), List.map_map, List.map_map,
    List.map_map, List.map_map]
  refine List.map_congr_left fun b _ => Option.ext fun score => ?_
  simp only [Function.comp_apply, Except.toOption_eq_some_iff]
  exact ⟨h.symm.directScore_eq_ok hm' hm (hlayout' b), h.directScore_eq_ok hm hm' (hlayout b)⟩

end Reordered

/-! ## Candidates in another order -/

theorem zip_ofFn_ofFn {β γ : Type} {n : ℕ} (x : Fin n → β) (y : Fin n → γ) :
    (List.ofFn x).zip (List.ofFn y) = List.ofFn fun k => (x k, y k) := by
  refine List.ext_getElem (by simp) fun k _ _ => ?_
  simp

/-- Rearranging a layout along with the candidates puts them at the same places. -/
theorem locations_comp_perm {n : ℕ} (σ : Equiv.Perm (Fin n)) {ids : Fin n → FacilityId}
    (hm : m.candidates = List.ofFn ids) (hm' : m'.candidates = List.ofFn (ids ∘ σ))
    (hnetwork : m'.network = m.network) (links : Fin n → LinkId) {locations : List (Point ℝ)}
    (hl : m.locations (List.ofFn links) = .ok locations) :
    ∃ locations', m'.locations (List.ofFn (links ∘ σ)) = .ok locations' ∧
      (m'.candidates.zip locations').Perm (m.candidates.zip locations) := by
  obtain ⟨place, hplace, rfl⟩ := (locations_ofFn_eq_ok_iff (by simp [hm]) links).1 hl
  refine ⟨List.ofFn (place ∘ σ), (locations_ofFn_eq_ok_iff (by simp [hm']) _).2
    ⟨place ∘ σ, fun k => ?_, rfl⟩, ?_⟩
  · rw [hnetwork]
    exact hplace (σ k)
  · rw [hm, hm', zip_ofFn_ofFn, zip_ofFn_ofFn]
    exact Equiv.Perm.ofFn_comp_perm σ fun k => (ids k, place k)

/-! ## Persons in another order -/

theorem filterMap_home? {persons : List (NewPerson ℝ)} (h : population.Has persons) :
    population.list.toList.filterMap (fun person => person.home? facilities) =
      persons.filterMap fun p => p.home? facilities := by
  have hhomes := congrArg (List.filterMap id) (h.homes facilities)
  rwa [List.filterMap_map, List.filterMap_map] at hhomes

theorem sites_eq {persons : List (NewPerson ℝ)} (h : population.Has persons) :
    sites population facilities = persons.filterMap (fun p => p.home? facilities) ++
      (facilities.offering shopType).map Facility.coord := by
  rw [sites, filterMap_home? h]

/-- Without sampling, the homes that are scored are those of all persons. -/
theorem homes_of_buildWith {persons : List (NewPerson ℝ)} (hpersons : population.Has persons)
    (h : buildWith attraction settings network population facilities candidates = .ok m)
    (hrate : ((1 : ℕ) : ℝ) ≤ settings.personRate) :
    m.persons.map Prod.snd = persons.filterMap fun p => p.home? facilities := by
  rw [persons_of_buildWith h hrate, residents, List.map_filterMap, ← filterMap_home? hpersons]
  obtain ⟨_, _, _, -, -, -, -, hm⟩ := buildWith_eq_ok h
  refine List.filterMap_congr fun person hperson => ?_
  rw [congrArg GravityModel.index hm, SpatialIndex.home?_build,
    hpersons.get? (Array.mem_toList_iff.1 hperson), Option.bind_some, Option.map_map]
  exact Option.map_id'

/-! ## Outcomes -/

/-- What comes of a scenario and a history of layouts: nothing if no model can be built, and else
for each layout its score, or nothing if it is refused. -/
noncomputable def outcomes (attraction : ℝ → ℝ → ℝ) (settings : GravitySettings ℝ)
    (network : Network ℝ) (facilities : Facilities ℝ) (candidates : List FacilityId)
    (layouts : List (List LinkId)) (population : Population ℝ) : Option (List (Option ℝ)) :=
  (buildWith attraction settings network population facilities candidates).toOption.map fun m =>
    ((m.scoreAll layouts).run {}).1.map Except.toOption

theorem outcomes_comp_perm {n : ℕ} (ids : Fin n → FacilityId) (σ : Equiv.Perm (Fin n))
    (layouts : List (Fin n → LinkId)) :
    outcomes attraction settings network facilities (List.ofFn (ids ∘ σ))
        (layouts.map fun links => List.ofFn (links ∘ σ)) population =
      outcomes attraction settings network facilities (List.ofFn ids) (layouts.map List.ofFn)
        population := by
  have hcandidates : (List.ofFn (ids ∘ σ)).Perm (List.ofFn ids) := Equiv.Perm.ofFn_comp_perm σ ids
  have hsites := List.Perm.refl (sites population facilities)
  refine Except.toOption_map_congr (exists_buildWith_reorder hsites hcandidates) fun m m' h h' => ?_
  have hreordered := reordered_of_buildWith hsites hcandidates h h'
    ((persons_congr h h' rfl rfl).symm ▸ List.Perm.refl _)
  have hm := candidates_of_buildWith h
  have hm' := candidates_of_buildWith h'
  refine hreordered.scoreAll_toOption h h' _ _ (fun links locations hl => ?_)
    (fun links locations hl => ?_) layouts
  · exact locations_comp_perm σ hm hm' hreordered.network links hl
  · -- the other way round it is the same lemma, with the inverse
    have hback : ∀ {β : Type} (x : Fin n → β), (x ∘ σ) ∘ σ.symm = x := fun x => by
      rw [Function.comp_assoc, Equiv.self_comp_symm, Function.comp_id]
    have hpermuted := locations_comp_perm σ.symm hm' ((hback ids).symm ▸ hm) hreordered.symm.network
      (links ∘ σ) hl
    rwa [hback links] at hpermuted

theorem outcomes_of_perm {persons persons' : List (NewPerson ℝ)}
    (hpersons : population.Has persons) (hpersons' : population'.Has persons')
    (hperm : persons'.Perm persons) (hrate : ((1 : ℕ) : ℝ) ≤ settings.personRate)
    (layouts : List (List LinkId)) :
    outcomes attraction settings network facilities candidates layouts population' =
      outcomes attraction settings network facilities candidates layouts population := by
  have hsites : (sites population' facilities).Perm (sites population facilities) := by
    rw [sites_eq hpersons, sites_eq hpersons']
    exact (hperm.filterMap _).append_right _
  have hsame := List.Perm.refl candidates
  refine Except.toOption_map_congr (exists_buildWith_reorder hsites hsame) fun m m' h h' => ?_
  have hreordered : Reordered m m' := by
    refine reordered_of_buildWith hsites hsame h h' ?_
    rw [homes_of_buildWith hpersons h hrate, homes_of_buildWith hpersons' h' hrate]
    exact hperm.filterMap _
  have hcandidates := (candidates_of_buildWith h').trans (candidates_of_buildWith h).symm
  have hlocations : ∀ layout, m'.locations layout = m.locations layout := fun layout => by
    simp only [GravityModel.locations, hcandidates, hreordered.network]
  have hzip : ∀ locations : List (Point ℝ),
      (m'.candidates.zip locations).Perm (m.candidates.zip locations) := fun locations =>
    hcandidates ▸ List.Perm.refl _
  have hscores := hreordered.scoreAll_toOption h h' id id
    (fun layout locations hl => ⟨locations, (hlocations layout).trans hl, hzip locations⟩)
    (fun layout locations hl =>
      ⟨locations, (hlocations layout).symm.trans hl, (hzip locations).symm⟩)
    layouts
  rwa [List.map_id] at hscores

/-- **Scores do not depend on any order.** Whatever the attraction, candidates can be rearranged if
every layout is rearranged with them; and without sampling, persons can be created in another
order. -/
theorem outcomes_reorder (attraction : ℝ → ℝ → ℝ) (settings : GravitySettings ℝ)
    (network : Network ℝ) (facilities : Facilities ℝ) :
    (∀ (population : Population ℝ) (n : ℕ) (ids : Fin n → FacilityId) (σ : Equiv.Perm (Fin n))
      (layouts : List (Fin n → LinkId)),
      outcomes attraction settings network facilities (List.ofFn (ids ∘ σ))
          (layouts.map fun links => List.ofFn (links ∘ σ)) population =
        outcomes attraction settings network facilities (List.ofFn ids) (layouts.map List.ofFn)
          population) ∧
    (settings.personRate = ((1 : ℕ) : ℝ) → ∀ persons persons' : List (NewPerson ℝ),
      persons'.Perm persons → ∀ (candidates : List FacilityId) (layouts : List (List LinkId)),
        (Population.createAll persons').toOption.map
            (outcomes attraction settings network facilities candidates layouts) =
          (Population.createAll persons).toOption.map
            (outcomes attraction settings network facilities candidates layouts)) := by
  refine ⟨fun population n ids σ layouts => outcomes_comp_perm ids σ layouts,
    fun hrate persons persons' hperm candidates layouts => ?_⟩
  obtain ⟨hcreatable, hhas⟩ := Population.createAll_spec persons
  obtain ⟨hcreatable', hhas'⟩ := Population.createAll_spec persons'
  refine Except.toOption_map_congr ?_ fun population population' h h' =>
    outcomes_of_perm (hhas population h) (hhas' population' h') hperm hrate.ge layouts
  rw [hcreatable, hcreatable']
  exact ⟨fun h => h.perm hperm.symm, fun h => h.perm hperm⟩

/-- Two persons of the village, created in either order; and its two shops as candidates, put on the
two roads in either order. -/
theorem outcomes_reorder_village :
    let town := village 5 [⟨1⟩]
    let p : NewPerson ℝ := ⟨"p", [.addPlan [{ activityType := "h", coord := ⟨0, 0⟩ }]]⟩
    let q : NewPerson ℝ := ⟨"q", [.addPlan [{ activityType := "h", coord := ⟨30, 40⟩ }]]⟩
    let outcomesOf := outcomes town.settings.betas.potential town.settings twoRoads town.facilities
    town.settings.personRate = ((1 : ℕ) : ℝ) ∧ [q, p].Perm [p, q] ∧
      (∃ population, Population.createAll [p, q] = .ok population ∧
        ∃ scores, outcomesOf [⟨1⟩] [[⟨0⟩]] population = some scores) ∧
      (Population.createAll [q, p]).toOption.map (outcomesOf [⟨1⟩] [[⟨0⟩]]) =
        (Population.createAll [p, q]).toOption.map (outcomesOf [⟨1⟩] [[⟨0⟩]]) ∧
      (∃ scores, outcomesOf [⟨0⟩, ⟨1⟩] [[⟨0⟩, ⟨1⟩]] town.population = some scores) ∧
      outcomesOf [⟨1⟩, ⟨0⟩] [[⟨1⟩, ⟨0⟩]] town.population =
        outcomesOf [⟨0⟩, ⟨1⟩] [[⟨0⟩, ⟨1⟩]] town.population := by
  intro town p q outcomesOf
  have hrate : town.settings.personRate = ((1 : ℕ) : ℝ) := rfl
  have hperm : [q, p].Perm [p, q] := List.Perm.swap p q []
  have hscores : ∀ (population : Population ℝ) (candidates : List FacilityId)
      (layouts : List (List LinkId)),
      (∃ m, build town.settings twoRoads population town.facilities candidates = .ok m) →
        ∃ scores, outcomesOf candidates layouts population = some scores := by
    rintro population candidates layouts ⟨m, h⟩
    rw [build] at h
    exact ⟨_, by simp only [outcomesOf, outcomes, h, Except.toOption, Option.map_some]; rfl⟩
  obtain ⟨population, hpopulation⟩ := (Population.createAll_spec [p, q]).1.2
    ⟨by simp [p, q], by decide⟩
  obtain ⟨hzones, -, hchecked, hnodup⟩ := exists_buildWith_iff.1
    (build_village 5 (List.nodup_singleton (⟨1⟩ : FacilityId)) (by simp))
  have hsites : sites population town.facilities ≠ [] := by
    rw [sites, offering_village]
    exact List.append_ne_nil_of_right_ne_nil _ (by simp [village])
  obtain ⟨hcandidates, hpersons⟩ :=
    outcomes_reorder town.settings.betas.potential town.settings twoRoads town.facilities
  have hpair : [(⟨0⟩ : FacilityId), ⟨1⟩].Nodup := by decide
  have hlisted : ∀ {β : Type} (x y : β), List.ofFn ![x, y] = [x, y] := fun x y => by simp
  have hswapped : ∀ {β : Type} (x y : β), List.ofFn (![x, y] ∘ Equiv.swap 0 1) = [y, x] :=
    fun x y => by simp
  have hswap := hcandidates town.population 2 ![⟨0⟩, ⟨1⟩] (Equiv.swap 0 1) [![⟨0⟩, ⟨1⟩]]
  rw [List.map_singleton, List.map_singleton, hswapped, hswapped, hlisted, hlisted] at hswap
  exact ⟨hrate, hperm, ⟨population, hpopulation, hscores _ _ _
    (exists_buildWith_iff.2 ⟨hzones, hsites, hchecked, hnodup⟩)⟩, hpersons hrate _ _ hperm _ _,
    hscores _ _ _ (exists_build_village 5 _ hzones rfl twoRoads hpair (List.Subset.refl _)), hswap⟩

end GravityModel

end SpatialAccess
