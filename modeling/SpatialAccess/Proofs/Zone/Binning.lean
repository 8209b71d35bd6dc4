import SpatialAccess.Proofs.Facility.Collection
import SpatialAccess.Proofs.Number.Double.Margin
import SpatialAccess.Proofs.Population.Creation
import SpatialAccess.Proofs.Zone.Extent
import SpatialAccess.Zone.Index

/-!
# Who and what is sorted into which zone

* `SpatialIndex.inBin`: what is meant for a zone. `SpatialIndex.getElem?_sortInto`: bins are filled
  with just that, in its order. `SpatialIndex.zone?_fillZones`: so are the zones, and nothing else
  about them changes.
* `SpatialIndex.personsIn_build`, `SpatialIndex.destinationsIn_build`: what the zones of an index
  have, told from the population and the facilities.
* `Partitioner.ofScenario_eq_ok_iff`: the zones of a scenario lie around its homes and
  opportunities. `Partitioner.exists_zoneOf?_of_ofScenario`: each of these is in one of them.
* `SpatialIndex.Sorts`: an index that sorts a scenario. **`SpatialIndex.sorts_build`**: the index of
  a scenario sorts it, and with the zones of the scenario it loses nothing.
-/

namespace SpatialAccess

variable {α : Type} [Number α]

/-! ## Zones around a scenario -/

/-- The zone that a point is looked up in is there. -/
theorem ZoneGrid.isSome_zone?_of_zoneOf? {g : ZoneGrid α} {p : Point α} {zone : ZoneId}
    (h : g.zoneOf? p = some zone) : (g.zone? zone).isSome := by
  obtain ⟨-, hzone⟩ := Option.ite_none_right_eq_some.1 h
  obtain rfl := Option.some.inj hzone
  have hcolumn : (g.xs.cell p.x).val < g.order := g.columns ▸ (g.xs.cell p.x).isLt
  have hrow : (g.ys.cell p.y).val < g.order := g.rows ▸ (g.ys.cell p.y).isLt
  exact zone?_isSome_iff.2 (idAt_lt hcolumn hrow)

namespace Partitioner

variable {population : Population α} {facilities : Facilities α} {activityType : String}
  {p : Partitioner} {grid : ZoneGrid α}

theorem ofScenario_eq_ok_iff :
    p.ofScenario population facilities activityType = .ok grid ↔
      ∃ extent,
        Box.ofPoints? (population.list.toList.filterMap (fun person => person.home? facilities) ++
          (facilities.offering activityType).map Facility.coord) = some extent ∧
        grid = p.partition extent := by
  unfold ofScenario
  dsimp only
  split
  · next extent hextent => simp [hextent, eq_comm]
  · next hextent => simp [hextent]

theorem exists_zoneOf?_partition [MarginNumber α] {sites : List (Point α)} {extent : Box α}
    (h : Box.ofPoints? sites = some extent) (hsites : ∀ site ∈ sites, site.IsDefined)
    {site : Point α} (hsite : site ∈ sites) :
    ∃ zone, (p.partition extent).zoneOf? site = some zone := by
  have hcontains : (p.partition extent).box.contains site = true :=
    Box.contains_padded (Box.contains_of_ofPoints? h hsites hsite) MarginNumber.zero_le_one
      MarginNumber.isFinite_one
  exact ⟨_, if_pos hcontains⟩

/-- **Every home and every opportunity is in a zone of the scenario.** -/
theorem exists_zoneOf?_of_ofScenario [MarginNumber α]
    (h : p.ofScenario population facilities activityType = .ok grid)
    (hhomes : ∀ person ∈ population.list, ∀ home, person.home? facilities = some home →
      home.IsDefined)
    (hcoords : ∀ f ∈ facilities.offering activityType, f.coord.IsDefined) :
    (∀ person ∈ population.list, ∀ home, person.home? facilities = some home →
      ∃ zone, grid.zoneOf? home = some zone) ∧
    ∀ f ∈ facilities.offering activityType, ∃ zone, grid.zoneOf? f.coord = some zone := by
  obtain ⟨extent, hextent, rfl⟩ := ofScenario_eq_ok_iff.1 h
  have hsites : ∀ site ∈ population.list.toList.filterMap (fun person => person.home? facilities) ++
      (facilities.offering activityType).map Facility.coord, site.IsDefined := by
    intro site hsite
    obtain hsite | hsite := List.mem_append.1 hsite
    · obtain ⟨person, hperson, hhome⟩ := List.mem_filterMap.1 hsite
      exact hhomes person (Array.mem_toList_iff.1 hperson) site hhome
    · obtain ⟨f, hf, rfl⟩ := List.mem_map.1 hsite
      exact hcoords f hf
  constructor
  · intro person hperson home hhome
    refine exists_zoneOf?_partition hextent hsites (List.mem_append_left _ ?_)
    exact List.mem_filterMap.2 ⟨person, Array.mem_toList_iff.2 hperson, hhome⟩
  · intro f hf
    exact exists_zoneOf?_partition hextent hsites
      (List.mem_append_right _ (List.mem_map_of_mem hf))

end Partitioner

namespace SpatialIndex

/-! ## Bins -/

section Bins

variable {β : Type}

/-- The items that are meant for a zone. -/
def inBin (items : List (Option ZoneId × β)) (zone : ZoneId) : List β :=
  (items.filter fun item => item.1 == some zone).map Prod.snd

theorem getElem?_put (bins : Array (Array β)) (item : Option ZoneId × β) (zone : ZoneId) :
    (put bins item)[zone.index]? =
      bins[zone.index]?.map fun bin => bin ++ (inBin [item] zone).toArray := by
  obtain ⟨zone' | zone', x⟩ := item
  · simp [put, inBin]
  · rw [put, Array.getElem?_modify]
    by_cases h : zone' = zone
    · simp [inBin, h]
    · have hindex : zone'.index ≠ zone.index := fun heq => h (Id.ext_index heq)
      simp [inBin, h, hindex]

/-- **A bin has what is meant for its zone**, in its order. -/
theorem getElem?_sortInto {zones : ℕ} (items : List (Option ZoneId × β)) {zone : ZoneId}
    (h : zone.index < zones) :
    (sortInto zones items)[zone.index]? = some (inBin items zone).toArray := by
  have hfold (bins : Array (Array β)) : (items.foldl put bins)[zone.index]? =
      bins[zone.index]?.map fun bin => bin ++ (inBin items zone).toArray := by
    induction items generalizing bins with
    | nil => simp [inBin]
    | cons item items ih =>
      have hitems : inBin (item :: items) zone = inBin [item] zone ++ inBin items zone := by
        rw [inBin, ← List.singleton_append, List.filter_append, List.map_append]
        rfl
      rw [List.foldl_cons, ih, getElem?_put, Option.map_map, hitems]
      simp [Function.comp_def]
  rw [sortInto, hfold, Array.getElem?_replicate, if_pos h]
  simp

end Bins

section Filled

variable {grid : ZoneGrid α} {persons : List (Option ZoneId × PersonId)}
  {shops : List (Option ZoneId × Destination α)}

omit [Number α]

/-- Only who and what is in the zones changes. -/
theorem zone?_fillZones (zone : ZoneId) :
    (fillZones grid persons shops).zone? zone = (grid.zone? zone).map fun z =>
      { z with persons := (inBin persons zone).toArray, shops := (inBin shops zone).toArray } := by
  cases hz : grid.zone? zone with
  | none =>
    have hmissing : ¬zone.index < grid.order * grid.order := by
      rw [← ZoneGrid.zone?_isSome_iff, hz]
      simp
    refine Option.eq_none_iff_forall_ne_some.2 fun z hz' => hmissing ?_
    have hlt := ZoneGrid.zone?_isSome_iff.1 (Option.isSome_of_eq_some hz')
    exact hlt
  | some z =>
    have hlt : zone.index < grid.size := by
      rw [ZoneGrid.size, grid.size_zones, ← ZoneGrid.zone?_isSome_iff, hz]
      rfl
    rw [ZoneGrid.zone?] at hz
    rw [ZoneGrid.zone?, fillZones]
    simp [Array.getElem?_zip_eq_some, hz, getElem?_sortInto _ hlt]

theorem laidOut_fillZones (h : grid.LaidOut) : (fillZones grid persons shops).LaidOut := by
  intro column row
  obtain ⟨z, hz, hemptied⟩ := h column row
  exact ⟨_, (zone?_fillZones _).trans (congrArg _ hz), hemptied⟩

theorem rises_fillZones [Number α] (h : grid.Rises) : (fillZones grid persons shops).Rises :=
  ⟨h.xs, h.ys⟩

/-- What zones have of items that are in a zone of the grid, if they are in any. -/
theorem getD_zone?_eq_inBin {β : Type} {items : List (Option ZoneId × β)}
    (h : ∀ item ∈ items, ∀ zone, item.1 = some zone → (grid.zone? zone).isSome) (zone : ZoneId) :
    ((grid.zone? zone).map fun _ => inBin items zone).getD [] = inBin items zone := by
  cases hz : grid.zone? zone with
  | some z => rfl
  | none =>
    refine (List.map_eq_nil_iff.2 (List.filter_eq_nil_iff.2 fun item hitem hzone => ?_)).symm
    have hsome := h item hitem zone (beq_iff_eq.1 hzone)
    rw [hz] at hsome
    cases hsome

end Filled

/-! ## Persons -/

variable {grid : ZoneGrid α} {population : Population α} {facilities : Facilities α}
  {types : IndexTypes}

theorem home?_build (person : PersonId) :
    (build grid population facilities types).home? person =
      (population.get? person).bind fun p => p.home? facilities := by
  rw [home?, build, Array.getElem?_map, Population.get?]
  cases population.list[person.index]? <;> rfl

theorem homeZone?_build (person : PersonId) :
    (build grid population facilities types).homeZone? person =
      ((build grid population facilities types).home? person).bind grid.zoneOf? := by
  simp only [homeZone?, home?, build, Array.getElem?_map]
  cases population.list[person.index]? <;> rfl

/-- **In a zone are those whose home is there.** -/
theorem personsIn_build (zone : ZoneId) :
    (build grid population facilities types).personsIn zone =
      (population.list.toList.filter fun p =>
        (p.home? facilities).bind grid.zoneOf? == some zone).map Person.id := by
  have hitems : ((population.list.map fun p => p.home? facilities).map fun home =>
      home.bind grid.zoneOf?).toList.zip (population.list.toList.map Person.id) =
      population.list.toList.map fun p => ((p.home? facilities).bind grid.zoneOf?, p.id) := by
    rw [Array.toList_map, Array.toList_map, List.map_map, List.zip_map']
    rfl
  have hthere : ∀ item ∈ population.list.toList.map fun p =>
      ((p.home? facilities).bind grid.zoneOf?, p.id), ∀ zone, item.1 = some zone →
        (grid.zone? zone).isSome := by
    intro item hitem zone hzone
    obtain ⟨p, -, rfl⟩ := List.mem_map.1 hitem
    obtain ⟨home, -, hzone⟩ := Option.bind_eq_some_iff.1 hzone
    exact ZoneGrid.isSome_zone?_of_zoneOf? hzone
  rw [personsIn, build, zone?_fillZones, hitems, Option.map_map]
  refine (getD_zone?_eq_inBin hthere zone).trans ?_
  rw [inBin, List.filter_map, List.map_map]
  rfl

section Numbered

variable (h : population.Numbered)

include h

theorem mem_personsIn_build_iff {person : PersonId} {zone : ZoneId} :
    person ∈ (build grid population facilities types).personsIn zone ↔
      (build grid population facilities types).homeZone? person = some zone := by
  rw [personsIn_build, homeZone?_build, home?_build, Option.bind_assoc, Option.bind_eq_some_iff]
  simp only [List.mem_map, List.mem_filter, Array.mem_toList_iff, beq_iff_eq, h.get?_eq_some_iff]
  constructor
  · rintro ⟨p, ⟨hp, hzone⟩, hid⟩
    exact ⟨p, ⟨hp, hid⟩, hzone⟩
  · rintro ⟨p, ⟨hp, hid⟩, hzone⟩
    exact ⟨p, ⟨hp, hzone⟩, hid⟩

theorem nodup_personsIn_build (zone : ZoneId) :
    ((build grid population facilities types).personsIn zone).Nodup := by
  rw [personsIn_build]
  exact (List.filter_sublist.map Person.id).nodup (Registry.Numbered.nodup_ids h)

end Numbered

/-! ## Opportunities -/

/-- A facility as somewhere to go to. -/
def destination (f : Facility α) : Destination α where
  facility := f.id
  coord := f.coord

theorem opportunities_build (grid : ZoneGrid α) (population : Population α)
    (facilities : Facilities α) (types : IndexTypes) :
    (build grid population facilities types).opportunities =
      facilities.idsOffering types.opportunity := by
  simp [build, opportunities, Facilities.idsOffering]

/-- **In a zone are the opportunities whose place is there.** -/
theorem destinationsIn_build (zone : ZoneId) :
    (build grid population facilities types).destinationsIn zone =
      ((facilities.offering types.opportunity).filter fun f =>
        grid.zoneOf? f.coord == some zone).map destination := by
  have hthere : ∀ item ∈ ((facilities.offering types.opportunity).map destination).map fun d =>
      (grid.zoneOf? d.coord, d), ∀ zone, item.1 = some zone → (grid.zone? zone).isSome := by
    intro item hitem zone hzone
    obtain ⟨d, -, rfl⟩ := List.mem_map.1 hitem
    exact ZoneGrid.isSome_zone?_of_zoneOf? hzone
  rw [destinationsIn, build, zone?_fillZones, Option.map_map]
  refine (getD_zone?_eq_inBin hthere zone).trans ?_
  rw [inBin, List.filter_map, List.filter_map, List.map_map, List.map_map]
  rfl

theorem shopsIn_build (zone : ZoneId) :
    (build grid population facilities types).shopsIn zone =
      ((facilities.offering types.opportunity).filter fun f =>
        grid.zoneOf? f.coord == some zone).map Facility.id := by
  rw [shopsIn, destinationsIn_build, List.map_map]
  rfl

theorem nodup_shopsIn_build (h : facilities.Numbered) (zone : ZoneId) :
    ((build grid population facilities types).shopsIn zone).Nodup := by
  rw [shopsIn_build]
  exact (List.filter_sublist.map Facility.id).nodup (h.nodup_idsOffering _)

theorem id_mem_shopsIn_build_iff (h : facilities.Numbered) {f : Facility α}
    (hf : f ∈ facilities.offering types.opportunity) {zone : ZoneId} :
    f.id ∈ (build grid population facilities types).shopsIn zone ↔
      grid.zoneOf? f.coord = some zone := by
  rw [shopsIn_build, List.mem_map]
  constructor
  · rintro ⟨f', hf', hid⟩
    obtain ⟨hoffering, hzone⟩ := List.mem_filter.1 hf'
    -- what is listed might be another facility of that identifier, but there is none
    obtain rfl := List.inj_on_of_nodup_map (h.nodup_idsOffering _) hoffering hf hid
    exact beq_iff_eq.1 hzone
  · intro hzone
    exact ⟨f, List.mem_filter.2 ⟨hf, beq_iff_eq.2 hzone⟩, rfl⟩

theorem destinationsIn_subset_shops (zone : ZoneId) :
    (build grid population facilities types).destinationsIn zone ⊆
      (build grid population facilities types).shops := by
  rw [destinationsIn_build]
  exact (List.filter_sublist.map destination).subset

theorem shopsIn_subset_opportunities (zone : ZoneId) :
    (build grid population facilities types).shopsIn zone ⊆
      (build grid population facilities types).opportunities :=
  List.map_subset _ (destinationsIn_subset_shops zone)

/-! ## Scenarios -/

/-- The index has every person and every opportunity of a scenario where a grid has them. -/
structure Sorts (s : SpatialIndex α) (grid : ZoneGrid α) (population : Population α)
    (facilities : Facilities α) (types : IndexTypes) : Prop where
  /-- The grid has the zones that it had, -/
  box_eq : s.grid.box = grid.box
  zoneOf?_eq : s.grid.zoneOf? = grid.zoneOf?
  /-- and only who and what is in them is new. -/
  emptied_eq : ∀ zone, (s.grid.zone? zone).map Zone.emptied = (grid.zone? zone).map Zone.emptied
  home? : ∀ person, s.home? person =
    (population.get? person).bind fun p => p.home? facilities
  homeZone? : ∀ person, s.homeZone? person = (s.home? person).bind grid.zoneOf?
  /-- Everybody is once in the zone that they live in, and in no other. -/
  count_personsIn : ∀ person zone,
    (s.personsIn zone).count person = if s.homeZone? person = some zone then 1 else 0
  /-- Every opportunity is once in the zone of its place, and in no other; -/
  count_shopsIn : ∀ f ∈ facilities.list, f.offers types.opportunity = true → ∀ zone,
    (s.shopsIn zone).count f.id = if grid.zoneOf? f.coord = some zone then 1 else 0
  /-- and nothing else is in any. -/
  mem_opportunities : ∀ zone, ∀ id ∈ s.shopsIn zone, id ∈ s.opportunities
  mem_opportunities_iff : ∀ id, id ∈ s.opportunities ↔
    ∃ f, facilities.get? id = some f ∧ f.offers types.opportunity = true
  mem_anchors_iff : ∀ id, id ∈ s.anchors ↔
    ∃ f, facilities.get? id = some f ∧ f.offers types.anchor = true
  /-- Opportunities and anchors are listed by identifier. -/
  pairwise_opportunities : s.opportunities.Pairwise fun a b => a.index < b.index
  pairwise_anchors : s.anchors.Pairwise fun a b => a.index < b.index

/-- Everybody who has a home, and every opportunity, is in a zone of the grid. -/
structure Complete (s : SpatialIndex α) : Prop where
  persons : ∀ person, (s.home? person).isSome → ∃ zone, (s.grid.zone? zone).isSome ∧
    s.homeZone? person = some zone ∧ person ∈ s.personsIn zone
  opportunities : ∀ id ∈ s.opportunities, ∃ zone, (s.grid.zone? zone).isSome ∧ id ∈ s.shopsIn zone

theorem sorts_build_of_numbered (hpersons : population.Numbered) (h : facilities.Numbered) :
    (build grid population facilities types).Sorts grid population facilities types where
  box_eq := rfl
  zoneOf?_eq := rfl
  emptied_eq zone := by
    rw [build, zone?_fillZones, Option.map_map]
    rfl
  home? := home?_build
  homeZone? := homeZone?_build
  count_personsIn _ zone := (nodup_personsIn_build hpersons zone).count.trans
    (if_congr (mem_personsIn_build_iff hpersons) rfl rfl)
  count_shopsIn f hf hoffers zone := by
    have hmem : f.id ∈ (build grid population facilities types).shopsIn zone ↔
        grid.zoneOf? f.coord = some zone :=
      id_mem_shopsIn_build_iff h (Facilities.mem_offering_iff.2 ⟨hf, hoffers⟩)
    exact (nodup_shopsIn_build h zone).count.trans (if_congr hmem rfl rfl)
  mem_opportunities zone _ hid := shopsIn_subset_opportunities zone hid
  mem_opportunities_iff id := by
    rw [opportunities_build, h.mem_idsOffering_iff]
  mem_anchors_iff _ := h.mem_idsOffering_iff
  pairwise_opportunities := by
    rw [opportunities_build]
    exact h.pairwise_idsOffering _
  pairwise_anchors := h.pairwise_idsOffering _

theorem isSome_zone?_build_of_zoneOf? {p : Point α} {zone : ZoneId} (h : grid.zoneOf? p = some zone) :
    ((build grid population facilities types).grid.zone? zone).isSome := by
  rw [build, zone?_fillZones, Option.isSome_map]
  exact ZoneGrid.isSome_zone?_of_zoneOf? h

theorem complete_build (hpersons : population.Numbered) (h : facilities.Numbered)
    (hhomes : ∀ person ∈ population.list, ∀ home, person.home? facilities = some home →
      ∃ zone, grid.zoneOf? home = some zone)
    (hcoords : ∀ f ∈ facilities.offering types.opportunity,
      ∃ zone, grid.zoneOf? f.coord = some zone) :
    (build grid population facilities types).Complete where
  persons id hid := by
    obtain ⟨home, hhome⟩ := Option.isSome_iff_exists.1 hid
    have hbind := (home?_build id).symm.trans hhome
    obtain ⟨person, hperson, hlives⟩ := Option.bind_eq_some_iff.1 hbind
    obtain ⟨zone, hzone⟩ := hhomes person (Array.mem_of_getElem? hperson) home hlives
    refine ⟨zone, isSome_zone?_build_of_zoneOf? hzone, ?_⟩
    rw [mem_personsIn_build_iff hpersons, homeZone?_build, hhome, Option.bind_some, and_self]
    exact hzone
  opportunities id hid := by
    rw [opportunities_build, Facilities.idsOffering] at hid
    obtain ⟨f, hf, rfl⟩ := List.mem_map.1 hid
    obtain ⟨zone, hzone⟩ := hcoords f hf
    exact ⟨zone, isSome_zone?_build_of_zoneOf? hzone, (id_mem_shopsIn_build_iff h hf).2 hzone⟩

/-- **Everybody is sorted into the zone of their home, and every opportunity into the zone of its
place.** If the zones are those around the scenario itself and all coordinates are numbers, nobody
who has a home is lost, and no opportunity. -/
theorem sorts_build [MarginNumber α] (hpersons : population.Numbered) (h : facilities.Numbered)
    (grid : ZoneGrid α) (types : IndexTypes) :
    (build grid population facilities types).Sorts grid population facilities types ∧
    ∀ p : Partitioner, p.ofScenario population facilities types.opportunity = .ok grid →
      (∀ person ∈ population.list, ∀ home, person.home? facilities = some home →
        home.IsDefined) →
      (∀ f ∈ facilities.offering types.opportunity, f.coord.IsDefined) →
      (build grid population facilities types).Complete := by
  refine ⟨sorts_build_of_numbered hpersons h, fun p hp hhomes hcoords => ?_⟩
  obtain ⟨hzones, hzones'⟩ := Partitioner.exists_zoneOf?_of_ofScenario hp hhomes hcoords
  exact complete_build hpersons h hzones hzones'

/-! ## A hamlet -/

/-- One who lives in the only home, and one who lives nowhere. -/
def hamletPopulation : Population Float where
  list := #[
    { id := ⟨0⟩, label := "p", plans := #[[{ activityType := "h", coord := ⟨0, 0⟩ }]] },
    { id := ⟨1⟩, label := "q" }]

def hamletFacilities : Facilities Float where
  list := #[
    Facility.addOption { id := ⟨0⟩, label := "h", coord := ⟨0, 0⟩ } { activityType := "h" },
    Facility.addOption { id := ⟨1⟩, label := "s", coord := ⟨250, -100.5⟩ }
      { activityType := "shop" }]

theorem offering_hamletFacilities :
    hamletFacilities.offering "shop" =
      [Facility.addOption { id := ⟨1⟩, label := "s", coord := ⟨250, -100.5⟩ }
        { activityType := "shop" }] := by
  simp [hamletFacilities, Facilities.offering, Facility.offers, Facility.addOption]

/-- In the hamlet there are one home and one shop to be lost. -/
theorem sorts_build_hamlet :
    ∃ (p : Partitioner) (grid : ZoneGrid Float),
      hamletPopulation.Numbered ∧ hamletFacilities.Numbered ∧
      p.ofScenario hamletPopulation hamletFacilities "shop" = .ok grid ∧
      let s := build grid hamletPopulation hamletFacilities {}
      s.home? ⟨0⟩ = some ⟨0, 0⟩ ∧ s.opportunities = [⟨1⟩] ∧
        s.Sorts grid hamletPopulation hamletFacilities {} ∧ s.Complete := by
  let p : Partitioner := ⟨2, .symmetric, by decide, by decide⟩
  obtain ⟨grid, hgrid⟩ :
      ∃ grid, p.ofScenario hamletPopulation hamletFacilities "shop" = .ok grid :=
    ⟨_, Partitioner.ofScenario_eq_ok_iff.2 ⟨_, rfl, rfl⟩⟩
  have hpersons : hamletPopulation.Numbered := by
    intro i person hperson
    rcases i with _ | _ | i
    · cases hperson
      rfl
    · cases hperson
      rfl
    · simp [hamletPopulation] at hperson
  have hnumbered : hamletFacilities.Numbered := by
    intro i f hf
    rcases i with _ | _ | i
    · cases hf
      rfl
    · cases hf
      rfl
    · simp [hamletFacilities] at hf
  have hhomes : ∀ person ∈ hamletPopulation.list, ∀ home,
      person.home? hamletFacilities = some home → home.IsDefined := by
    intro person hperson home hhome
    simp only [hamletPopulation, List.mem_toArray, List.mem_cons, List.not_mem_nil, or_false]
      at hperson
    obtain rfl | rfl := hperson
    · cases hhome
      exact ⟨by decide +kernel, by decide +kernel⟩
    · cases hhome
  have hcoords : ∀ f ∈ hamletFacilities.offering "shop", f.coord.IsDefined := by
    rw [offering_hamletFacilities]
    intro f hf
    cases List.mem_singleton.1 hf
    exact ⟨by decide +kernel, by decide +kernel⟩
  obtain ⟨hsorts, hcomplete⟩ := sorts_build hpersons hnumbered grid {}
  refine ⟨p, grid, hpersons, hnumbered, hgrid, ?_, ?_, hsorts, hcomplete p hgrid hhomes hcoords⟩
  · rw [home?_build]
    rfl
  · rw [opportunities_build, Facilities.idsOffering, offering_hamletFacilities]
    rfl

end SpatialIndex

end SpatialAccess
