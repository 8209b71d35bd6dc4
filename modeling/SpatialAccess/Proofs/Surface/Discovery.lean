import SpatialAccess.Proofs.Facility.Offers
import SpatialAccess.Proofs.Surface.Independence
import SpatialAccess.Proofs.Surface.Reporting

/-!
# Runs over the types that are found

A run whose settings name no activity types goes through those that facilities offer. Finding the
types and finding the facilities of a type are separate walks through the facilities.

* `OpportunitySet.offers`: what a set takes from facilities. `OpportunitySet.offers_of_ofType`: all
  offers of its type.
* `SurfaceModel.mem_activityTypes_iff`, `SurfaceModel.pairwise_activityTypes`: the types that are
  found, and their order.
* `SurfaceModel.perm_offers`: the sets of different types share out the offers of these types.
* **`SurfaceModel.found_types_share_offers`**: a run uses every offer in one set and once, up to
  those of anchors.
-/

namespace SpatialAccess

variable {α : Type}

/-! ## Sets -/

theorem Opportunity.facility_of_ofFacility [Number α] {activityType : String} {fs : Facilities α}
    {network : Network α} {exponent : α} {id : FacilityId} {o : Opportunity α}
    (h : ofFacility activityType fs network exponent id = .ok o) : o.facility = id := by
  unfold ofFacility at h
  split at h
  · obtain ⟨capacity, -, h⟩ := Except.bind_eq_ok.1 h
    obtain ⟨-, -, h⟩ := Except.bind_eq_ok.1 h
    split at h
    · cases h
      rfl
    · cases h
  · cases h

namespace OpportunitySet

/-- What a set takes from facilities. -/
def offers (set : OpportunitySet α) : List (FacilityId × String) :=
  set.items.map fun o => (o.facility, set.activityType)

/-- **A set takes all offers of its type**, in their order. -/
theorem offers_of_ofType [Number α] {activityType : String} {fs : Facilities α}
    {network : Network α} {exponent : α} {set : OpportunitySet α}
    (h : ofType activityType fs network exponent = .ok set) :
    set.offers = fs.offers.filter (·.2 = activityType) := by
  obtain ⟨items, hitems, h⟩ := Except.bind_eq_ok.1 h
  cases h
  have hids : items.map Opportunity.facility = fs.idsOffering activityType := by
    rw [Except.map_of_mapM_eq_ok (g := id) hitems fun _ _ => Opportunity.facility_of_ofFacility,
      List.map_id]
  rw [Facilities.filter_offers, ← hids, List.map_map]
  rfl

end OpportunitySet

namespace SurfaceModel

variable {m : SurfaceModel α} {fs : Facilities α}

/-! ## Types -/

/-- Without types in the settings, those that are found are taken. -/
theorem activityTypes_eq_filter (hm : m.settings.activityTypes = []) :
    m.activityTypes fs = fs.activityTypes.filter (· != m.settings.anchorType) := by
  rw [activityTypes, hm]

/-- **A type is found** just if some facility offers it and it is not the one of anchors. -/
theorem mem_activityTypes_iff (hm : m.settings.activityTypes = []) (h : fs.Sound)
    {activityType : String} :
    activityType ∈ m.activityTypes fs ↔
      activityType ≠ m.settings.anchorType ∧ ∃ f ∈ fs.list, f.offers activityType = true := by
  rw [activityTypes_eq_filter hm, List.mem_filter, h.activityTypes_eq, List.mem_eraseDups,
    Facilities.mem_map_snd_offers_iff, bne_iff_ne, and_comm]

/-- Types come in the order in which they first appear among the offers. -/
theorem pairwise_activityTypes (hm : m.settings.activityTypes = []) (h : fs.Sound) :
    (m.activityTypes fs).Pairwise fun t u =>
      (fs.offers.map Prod.snd).idxOf t < (fs.offers.map Prod.snd).idxOf u := by
  rw [activityTypes_eq_filter hm, h.activityTypes_eq]
  exact (pairwise_idxOf_eraseDups _).filter _

theorem nodup_activityTypes (hm : m.settings.activityTypes = []) (h : fs.Sound) :
    (m.activityTypes fs).Nodup := by
  rw [activityTypes_eq_filter hm, h.activityTypes_eq]
  exact (nodup_eraseDups _).filter _

/-! ## Offers -/

/-- **The sets of different types share out the offers of these types.** -/
theorem perm_offers [Number α] {sets : List (OpportunitySet α)}
    (hsets : m.opportunitySets fs = .ok sets) (htypes : (m.activityTypes fs).Nodup) :
    (sets.flatMap OpportunitySet.offers).Perm (fs.offers.filter (·.2 ∈ m.activityTypes fs)) := by
  have hoffers : sets.map OpportunitySet.offers =
      (m.activityTypes fs).map fun t => fs.offers.filter (·.2 = t) :=
    Except.map_of_mapM_eq_ok hsets fun _ _ => OpportunitySet.offers_of_ofType
  rw [List.flatMap_def, hoffers, ← List.flatMap_def]
  exact flatMap_filter_perm Prod.snd htypes fs.offers

/-- If types are found, their offers are all but those of anchors. -/
theorem filter_offers_activityTypes (hm : m.settings.activityTypes = []) (h : fs.Sound) :
    fs.offers.filter (·.2 ∈ m.activityTypes fs) =
      fs.offers.filter (·.2 ≠ m.settings.anchorType) := by
  refine List.filter_congr fun offer hoffer => decide_eq_decide.2 ?_
  rw [mem_activityTypes_iff hm h, ← Facilities.mem_map_snd_offers_iff]
  exact and_iff_left (List.mem_map_of_mem hoffer)

/-- A type that is found has a set with opportunities. -/
theorem items_ne_nil [Number α] (hm : m.settings.activityTypes = []) (h : fs.Sound)
    {sets : List (OpportunitySet α)} (hsets : m.opportunitySets fs = .ok sets)
    {set : OpportunitySet α} (hset : set ∈ sets) : set.items ≠ [] := by
  obtain ⟨activityType, hmem, hof⟩ := Except.exists_of_mem_mapM hsets hset
  obtain ⟨offer, hoffer, rfl⟩ := List.mem_map.1
    (Facilities.mem_map_snd_offers_iff.2 ((mem_activityTypes_iff hm h).1 hmem).2)
  have htaken : offer ∈ set.offers := by
    rw [OpportunitySet.offers_of_ofType hof]
    exact List.mem_filter.2 ⟨hoffer, decide_eq_true rfl⟩
  obtain ⟨o, ho, -⟩ := List.mem_map.1 htaken
  exact List.ne_nil_of_mem ho

/-! ## Runs -/

/-- **A run over the types that are found uses every offer once**, up to those of anchors.

Facilities that were read or built call by call are sound, and stay so when options are changed that
keep their types. The offers are all those of all facilities, by facility and then by type. The types
that are found are the different ones among the offers, but for the one of anchors, each where it
appears first. If a run succeeds, every type has one surface, computed from the set of that type.
Together the sets have just the offers of all types but the one of anchors, each offer in one set and
once, and no set is empty. -/
theorem found_types_share_offers [Number α] (m : SurfaceModel α)
    (hm : m.settings.activityTypes = []) :
    (∀ calls : List (FacilitiesCall α), (Calls.after FacilitiesCall.apply {} calls).Sound) ∧
    (∀ bytes (fs : Facilities α), Facilities.ofDocument bytes = .ok fs → fs.Sound) ∧
    (∀ (fs : Facilities α) id activityType change, fs.Sound →
      (∀ o : ActivityOption α, (change o).activityType = o.activityType) →
      (fs.modify id (·.modifyOption activityType change)).Sound) ∧
    ∀ fs : Facilities α, fs.Sound →
      let anchor := m.settings.anchorType
      let types := m.activityTypes fs
      (∀ id t, (id, t) ∈ fs.offers ↔ ∃ f, fs.get? id = some f ∧ f.offers t = true) ∧
      fs.offers.Pairwise (fun a b => a.1.index < b.1.index ∨ a.1 = b.1 ∧ a.2 < b.2) ∧
      types.Nodup ∧
      types.Pairwise (fun t u =>
        (fs.offers.map Prod.snd).idxOf t < (fs.offers.map Prod.snd).idxOf u) ∧
      (∀ t, t ∈ types ↔ t ≠ anchor ∧ ∃ f ∈ fs.list, f.offers t = true) ∧
      ∀ surfaces, (m.run fs).2 = .ok surfaces →
        ∃ sets, m.opportunitySets fs = .ok sets ∧
          sets.map OpportunitySet.activityType = types ∧
          sets.mapM (m.compute · fs) = .ok surfaces ∧
          surfaces.map Surface.activityType = types ∧
          (sets.flatMap OpportunitySet.offers).Perm (fs.offers.filter (·.2 ≠ anchor)) ∧
          (sets.flatMap OpportunitySet.offers).Nodup ∧
          ∀ set ∈ sets, set.items ≠ [] := by
  refine ⟨Facilities.sound_after, fun _ _ => Facilities.sound_of_ofDocument,
    fun _ id activityType _ h hchange => h.modifyOption id activityType hchange, ?_⟩
  intro fs h anchor types
  refine ⟨fun _ _ => h.mem_offers_iff, h.pairwise_offers, nodup_activityTypes hm h,
    pairwise_activityTypes hm h, fun _ => mem_activityTypes_iff hm h, ?_⟩
  intro surfaces hrun
  obtain ⟨sets, hsets, hsurfaces⟩ := exists_sets_of_run hrun
  have htypes : sets.map OpportunitySet.activityType = types := by
    rw [Except.map_of_mapM_eq_ok (g := id) hsets fun _ _ =>
      OpportunitySet.activityType_of_ofType, List.map_id]
  have hperm : (sets.flatMap OpportunitySet.offers).Perm (fs.offers.filter (·.2 ≠ anchor)) :=
    filter_offers_activityTypes hm h ▸ perm_offers hsets (nodup_activityTypes hm h)
  refine ⟨sets, hsets, htypes, hsurfaces, ?_, hperm,
    hperm.nodup_iff.2 (h.nodup_offers.filter _), fun _ => items_ne_nil hm h hsets⟩
  rw [Except.map_of_mapM_eq_ok hsurfaces fun _ _ => activityType_of_compute, htypes]

/-- Options without a capacity are opportunities of any network with nodes. -/
theorem exists_ofType_real {facilities : Facilities ℝ} (h : facilities.Numbered)
    {network : Network ℝ} (hempty : network.isEmpty = false) {activityType : String}
    (hplain : ∀ f ∈ facilities.list, ∀ o, f.option? activityType = some o → o.capacity = none) :
    ∃ set, OpportunitySet.ofType activityType facilities network 1 = .ok set := by
  have hitem : ∀ id ∈ facilities.idsOffering activityType,
      ∃ o, Opportunity.ofFacility activityType facilities network 1 id = .ok o := by
    intro id hid
    obtain ⟨f, hf, hoffers⟩ := h.mem_idsOffering_iff.1 hid
    obtain ⟨o, ho⟩ : ∃ o, f.option? activityType = some o :=
      Option.isSome_iff_exists.1
        (Std.TreeMap.isSome_getElem?_iff_mem.2 (Std.TreeMap.contains_iff_mem.1 hoffers))
    have hcapacity : f.capacityD activityType ((1 : ℕ) : ℝ) = .ok ((1 : ℕ) : ℝ) := by
      rw [Facility.capacityD, Facility.requireOption, ho]
      simp [hplain f (h.get?_eq_some_iff.1 hf).1 o ho]
    have hcheck : checkCapacity ((1 : ℕ) : ℝ) 1 = .ok () := by simp [checkCapacity]
    exact Opportunity.exists_ofFacility hf hcapacity hcheck hempty
  obtain ⟨items, hitems⟩ := Except.exists_mapM_eq_ok_iff.2 hitem
  exact ⟨_, Except.bind_eq_ok.2 ⟨items, hitems, rfl⟩⟩

/-- A corner shop with a flat, and a mall where one can also stroll. -/
theorem found_types_share_offers_street :
    let street : Network ℝ := NetworkBuilder.build {
      nodes := #[{ label := "a", coord := ⟨0, 0⟩ }, { label := "b", coord := ⟨100, 0⟩ }]
      links := #[{ label := "a_b", source := ⟨0⟩, target := ⟨1⟩, length := 100, speed := 10 }] }
    let settings : SurfaceSettings ℝ := SurfaceSettings.plain 50 ⟨-1, 1⟩
    let corner : Facility ℝ := (({ id := ⟨0⟩, label := "corner", coord := ⟨0, 0⟩ } :
      Facility ℝ).addOption { activityType := "h" }).addOption { activityType := "shop" }
    let mall : Facility ℝ := (({ id := ⟨1⟩, label := "mall", coord := ⟨110, 0⟩ } :
      Facility ℝ).addOption { activityType := "leisure" }).addOption { activityType := "shop" }
    let facilities : Facilities ℝ := { list := #[corner, mall] }
    settings.activityTypes = [] ∧ facilities.Sound ∧
    ∃ (grid : MeasuringGrid ℝ) (m : SurfaceModel ℝ) (surfaces : List (Surface ℝ))
      (sets : List (OpportunitySet ℝ)),
      build settings street (Network.leastCosts settings.speeds) (some grid) = .ok m ∧
      (m.run facilities).2 = .ok surfaces ∧ m.opportunitySets facilities = .ok sets ∧
      (sets.flatMap OpportunitySet.offers).Perm
        [(⟨0⟩, "shop"), (⟨1⟩, "leisure"), (⟨1⟩, "shop")] ∧
      ∀ set ∈ sets, set.items ≠ [] := by
  intro street settings corner mall facilities
  have hnumbered : facilities.Numbered := by
    rintro (_ | _ | i) f hf <;> simp [facilities] at hf <;> exact hf ▸ rfl
  have hempty : ∀ f : Facility ℝ, f.options = {} → f.Filed := by
    intro f hf t o ho
    rw [Facility.option?, hf] at ho
    simp at ho
  have hsound : facilities.Sound := by
    refine ⟨hnumbered, fun f hf => ?_⟩
    obtain rfl | rfl : f = corner ∨ f = mall := by simpa [facilities] using hf
    · exact ((hempty _ rfl).addOption _).addOption _
    · exact ((hempty _ rfl).addOption _).addOption _
  have hoffers : facilities.offers =
      [(⟨0⟩, "h"), (⟨0⟩, "shop"), (⟨1⟩, "leisure"), (⟨1⟩, "shop")] := by decide +kernel
  have hplain : ∀ f ∈ facilities.list, ∀ t o, f.option? t = some o → o.capacity = none := by
    intro f hf t o ho
    obtain rfl | rfl : f = corner ∨ f = mall := by simpa [facilities] using hf
    all_goals
      simp only [corner, mall, Facility.option?, Facility.addOption,
        Std.TreeMap.getElem?_insert] at ho
      grind
  have hnodes : street.isEmpty = false := rfl
  obtain ⟨grid, hgrid, hsize⟩ := MeasuringGrid.exists_ofBox_street hnodes
  have hlaid := MeasuringGrid.laidOut_of_ofBox hgrid
  let m : SurfaceModel ℝ :=
    { settings, network := street, router := Network.leastCosts settings.speeds, grid }
  have hmodes : settings.modes.Nodup := by decide
  obtain ⟨surfaces, hrun, -⟩ := exists_run_real (m := m) hmodes
    (hlaid.numbered (hsize ▸ by decide)) rfl (fun _ => hlaid.node_lt) fun t _ =>
      exists_ofType_real hnumbered hnodes fun f hf => hplain f hf t
  obtain ⟨-, -, -, hfound⟩ := found_types_share_offers m rfl
  obtain ⟨-, -, -, -, -, hsurfaces⟩ := hfound facilities hsound
  obtain ⟨sets, hsets, -, -, -, hperm, -, hitems⟩ := hsurfaces surfaces hrun
  rw [hoffers] at hperm
  exact ⟨rfl, hsound, grid, m, surfaces, sets, rfl, hrun, hsets, hperm, hitems⟩

end SurfaceModel

end SpatialAccess
