import SpatialAccess.Proofs.Facility.Collection
import SpatialAccess.Proofs.Gravity.CachedScore
import SpatialAccess.Proofs.Gravity.Checks
import SpatialAccess.Proofs.Gravity.Shops
import SpatialAccess.Proofs.Network.Middle

/-!
# Every look-up of a gravity model finds something

A model looks up capacities, facilities, nodes and remembered utilities, and where there is nothing
to be found it goes on with a number that is undefined. It never has to. Here everything that a score
is made of is told once more, this time with look-ups that may come to nothing; what is told so has
a value wherever the model has been built, and it is the one that the model gives. Only the ends of
links are beyond what a model checks.

* `GravityModel.Stocked`: what is kept for shops and candidates covers all of them.
  `stocked_of_buildWith`: so it is in a model that was built.
* `personPotential?`, `globalUtility?`, `computePotential?`: what the model computes, `none` if a
  look-up finds nothing.
* `fillAll?_eq`, `exec_forM_fill_remembers`: after persons have been filled in, all of them are
  remembered.
* `Refusal`: what the score of a layout can be refused for. `BreaksOff`: where its places cannot be
  found out.
* **`look_ups_succeed`**: on a model that was built, whatever layout is scored and whatever is
  remembered, all look-ups find something but those of nodes at the ends of links, and there is a
  score or a refusal. **`look_ups_break_off_deadEnd`**: a link may lead to no node.
-/

namespace SpatialAccess

namespace GravityModel

variable {α : Type} [Number α]

/-! ## Look-ups that may come to nothing -/

/-- How much a facility at a place attracts somebody from a home, if its capacity is known. -/
def attractionOf? (m : GravityModel α) (home location : Point α) (id : FacilityId) : Option α :=
  m.capacity[id]?.map fun capacity => m.attraction (home.distance location) capacity

/-- How much a shop attracts somebody from a home, if the shop and its capacity are known. -/
def shopAttraction? (m : GravityModel α) (facilities : Facilities α) (home : Point α)
    (id : FacilityId) : Option α := do
  m.attractionOf? home (← facilities.get? id).coord id

/-- How much candidate number `k` attracts, if there is one and its capacity is known. -/
def personPotential? (m : GravityModel α) (home : Point α) (k : ℕ) (location : Point α) :
    Option α := do
  m.attractionOf? home location (← m.candidates[k]?)

/-- The attraction of the shops that do not move, if all of them are known. -/
def fixedUtility? (m : GravityModel α) (facilities : Facilities α) (person : PersonId)
    (home : Point α) : Option α :=
  match m.settings.shopSampling with
  | .zone =>
    match m.index.homeZone? person with
    | none => some ((0 : ℕ) : α)
    | some zone =>
      let shops := (m.index.shopsIn zone).filter fun id => !m.candidates.contains id
      (shops.mapM (m.shopAttraction? facilities home)).map Number.sum
  | _ =>
    let shops := m.fixedShops.map Destination.facility
    (shops.mapM (m.shopAttraction? facilities home)).map Number.sum

/-- The attraction of the candidates at their places, if all their capacities are known. -/
def movingUtility? (m : GravityModel α) (home : Point α) (locations : List (Point α)) : Option α :=
  ((m.candidates.zip locations).mapM fun (id, location) => m.attractionOf? home location id).map
    Number.sum

/-- The attraction of everything to one person or why it is refused, if all look-ups succeed. -/
def globalUtility? (m : GravityModel α) (facilities : Facilities α) (person : PersonId)
    (home : Point α) (locations : List (Point α)) : Option (Except (DataError α) α) := do
  let utility := (← m.fixedUtility? facilities person home) + (← m.movingUtility? home locations)
  return if ((0 : ℕ) : α) < utility ∧ Number.isFinite utility then .ok utility
    else .error (.badUtility person utility)

/-- The middle of a link or why there is none, unless an end of the link is no node. -/
def place? (m : GravityModel α) (link : LinkId) : Option (Except (DataError α) (Point α)) :=
  (m.network.middle? link).map fun middle? =>
    match middle? with
    | some p => .ok p
    | none => .error (.unknownLink link)

/-- Where a layout puts the candidates or why it cannot. The first link without a middle settles it:
one that is not there is an error, and one that dangles leads to nothing. -/
def locations? (m : GravityModel α) (layout : List LinkId) :
    Option (Except (DataError α) (List (Point α))) :=
  if layout.length ≠ m.candidates.length then
    some (.error (.layoutLength layout.length m.candidates.length))
  else (layout.mapM fun link => ExceptT.mk (m.place? link)).run

/-- Remembers the utilities of persons up to the first one that is refused, if all look-ups
succeed. -/
def fillAll? (m : GravityModel α) (facilities : Facilities α) (locations : List (Point α)) :
    List (PersonId × Point α) → UtilityCache α →
      Option (Except (DataError α) PUnit × UtilityCache α)
  | [], cache => some (.ok ⟨⟩, cache)
  | (person, home) :: rs, cache =>
    match cache.get? person with
    | some _ => m.fillAll? facilities locations rs cache
    | none => do
      match ← m.globalUtility? facilities person home locations with
      | .ok utility => m.fillAll? facilities locations rs (cache.insert person utility)
      | .error e => return (.error e, cache)

/-- The shares that candidates of given capacities win of one person, if the utility of the person
is remembered. -/
def personScore? (m : GravityModel α) (cache : UtilityCache α)
    (placed : List (Point α × α)) (resident : PersonId × Point α) : Option α := do
  let utility ← cache.get? resident.1
  return Number.sum (placed.map fun (location, capacity) =>
    m.attraction (resident.2.distance location) capacity / utility)

/-- The score of a layout or why it is refused, with the cache that is left, if all look-ups
succeed. -/
def computePotential? (m : GravityModel α) (facilities : Facilities α) (layout : List LinkId)
    (cache : UtilityCache α) : Option (Except (DataError α) α × UtilityCache α) := do
  match ← m.locations? layout with
  | .error e => return (.error e, cache)
  | .ok locations =>
    match ← m.fillAll? facilities locations m.persons (cache.sync layout) with
    | (.error e, cache) => return (.error e, cache)
    | (.ok _, cache) =>
      let capacities ← m.candidates.mapM fun id => m.capacity[id]?
      let scores ← m.persons.mapM (m.personScore? cache (locations.zip capacities))
      return (.ok (Number.sum scores), cache)

/-! ## What a model keeps -/

/-- What a model keeps for shops and candidates covers all of them. -/
structure Stocked (m : GravityModel α) (facilities : Facilities α) : Prop where
  candidate : ∀ id ∈ m.candidates, ∃ c, m.capacity[id]? = some c
  shop : ∀ s ∈ m.index.shops, ∃ c, m.capacity[s.facility]? = some c
  facility : ∀ s ∈ m.index.shops, ∃ f, facilities.get? s.facility = some f ∧ f.coord = s.coord
  fixed : m.fixedShops ⊆ m.index.shops
  zone : ∀ zone, m.index.destinationsIn zone ⊆ m.index.shops

omit [Number α] in
theorem chooseShops_subset (settings : GravitySettings α) (others : List (Destination α)) :
    chooseShops settings others ⊆ others := by
  unfold chooseShops
  split
  · exact (Draw.keepAmount_sublist _ _ _).1.subset
  · exact List.nil_subset _
  · exact List.Subset.refl _

/-- **A model that was built is stocked**: capacities have been looked up for all shops and
candidates, and the shops that everybody counts are some of the shops of the index. -/
theorem stocked_of_buildWith {attraction : α → α → α} {settings : GravitySettings α}
    {network : Network α} {population : Population α} {facilities : Facilities α}
    {candidates : List FacilityId} {m : GravityModel α} (hfacilities : facilities.Numbered)
    (h : buildWith attraction settings network population facilities candidates = .ok m) :
    m.Stocked facilities := by
  obtain ⟨⟨p, extent, -, -, hindex⟩, hshops, -⟩ := index_of_buildWith h
  obtain ⟨_, _, capacity, -, -, hcapacity, -, hm⟩ := buildWith_eq_ok h
  have hknown : ∀ id ∈ m.index.opportunities ++ candidates, ∃ c, m.capacity[id]? = some c := by
    intro id hid
    obtain ⟨c, hc⟩ := exists_capacities_iff.1 ⟨capacity, hcapacity⟩ id hid
    refine ⟨c, ?_⟩
    rw [congrArg GravityModel.capacity hm, getElem?_capacities hcapacity hid, hc]
    rfl
  refine ⟨fun id hid => ?_, fun s hs => ?_, fun s hs => ?_, fun s hs => ?_, fun zone => ?_⟩
  · rw [candidates_of_buildWith h] at hid
    exact hknown id (List.mem_append_right _ hid)
  · exact hknown s.facility (List.mem_append_left _ (List.mem_map_of_mem hs))
  · rw [hshops] at hs
    obtain ⟨f, hf, rfl⟩ := List.mem_map.1 hs
    exact ⟨f, hfacilities.get?_id (Facilities.mem_offering_iff.1 hf).1, rfl⟩
  · rw [congrArg GravityModel.fixedShops hm] at hs
    exact List.mem_of_mem_filter (chooseShops_subset _ _ hs)
  · rw [hindex]
    exact SpatialIndex.destinationsIn_subset_shops zone

/-! ## Attractions and utilities -/

theorem attractionOf?_eq {m : GravityModel α} {id : FacilityId} (h : ∃ c, m.capacity[id]? = some c)
    (home location : Point α) :
    m.attractionOf? home location id = some (m.attractionOf home location id) := by
  obtain ⟨c, hc⟩ := h
  simp [attractionOf?, attractionOf, capacityOf, hc]

namespace Stocked

variable {m : GravityModel α} {facilities : Facilities α}

theorem personPotential?_eq (h : m.Stocked facilities) (home : Point α) {k : ℕ}
    (hk : k < m.candidates.length) (location : Point α) :
    m.personPotential? home k location = some (m.personPotential home k location) := by
  have hget : m.candidates[k]? = some m.candidates[k] := List.getElem?_eq_getElem hk
  simp only [personPotential?, personPotential, hget]
  exact attractionOf?_eq (h.candidate _ (List.getElem_mem hk)) home location

theorem sum_shopAttraction? (h : m.Stocked facilities) (home : Point α)
    {shops : List (Destination α)} (hshops : shops ⊆ m.index.shops) :
    ((shops.map Destination.facility).mapM (m.shopAttraction? facilities home)).map Number.sum =
      some (Number.sum (shops.map fun s => m.attractionOf home s.coord s.facility)) := by
  rw [List.mapM_map, Option.mapM_eq_some_map fun s hs => ?_, Option.map_some]
  obtain ⟨f, hf, hcoord⟩ := h.facility s (hshops hs)
  simp only [Function.comp, shopAttraction?, hf, Option.bind_eq_bind, Option.bind_some, hcoord]
  exact attractionOf?_eq (h.shop s (hshops hs)) home s.coord

theorem fixedUtility?_eq (h : m.Stocked facilities) (person : PersonId) (home : Point α) :
    m.fixedUtility? facilities person home = some (m.fixedUtility person home) := by
  cases hsampling : m.settings.shopSampling with
  | zone =>
    simp only [fixedUtility?, fixedUtility, zoneUtility, hsampling]
    cases m.index.homeZone? person with
    | none => rfl
    | some zone =>
      simp only [SpatialIndex.shopsIn, List.filter_map]
      exact h.sum_shopAttraction? home
        (List.Subset.trans (List.filter_subset_self _) (h.zone zone))
  | all | random =>
    simp only [fixedUtility?, fixedUtility, hsampling]
    exact h.sum_shopAttraction? home h.fixed

theorem movingUtility?_eq (h : m.Stocked facilities) (home : Point α)
    (locations : List (Point α)) :
    m.movingUtility? home locations = some (m.movingUtility home locations) := by
  rw [movingUtility?, movingUtility, Option.mapM_eq_some_map fun c hc => ?_, Option.map_some]
  exact attractionOf?_eq (h.candidate c.1 (List.of_mem_zip hc).1) home c.2

theorem globalUtility?_eq (h : m.Stocked facilities) (person : PersonId) (home : Point α)
    (locations : List (Point α)) :
    m.globalUtility? facilities person home locations =
      some (m.globalUtility person home locations) := by
  rw [globalUtility?, h.fixedUtility?_eq, h.movingUtility?_eq]
  rfl

/-! ## Filling in -/

theorem fillAll?_eq (h : m.Stocked facilities) (locations : List (Point α))
    (rs : List (PersonId × Point α)) (c : UtilityCache α) :
    m.fillAll? facilities locations rs c = some ((rs.forM (m.fill locations)).exec c) := by
  induction rs generalizing c with
  | nil => rfl
  | cons r rs ih =>
    rw [fillAll?, ExceptT.exec_forM_cons, exec_fill, h.globalUtility?_eq]
    cases c.get? r.1 with
    | some _ => exact ih c
    | none =>
      cases m.globalUtility r.1 r.2 locations with
      | ok utility => exact ih (c.insert r.1 utility)
      | error e => rfl

end Stocked

variable {m : GravityModel α}

/-- Filling in one person leaves the person remembered and forgets nobody, or fails as the utility
does. -/
theorem exec_fill_remembers (m : GravityModel α) (locations : List (Point α))
    (r : PersonId × Point α) (c : UtilityCache α) :
    (∃ c', (m.fill locations r).exec c = (.ok ⟨⟩, c') ∧ c'.Extends c ∧
      ∃ utility, c'.get? r.1 = some utility) ∨
    ∃ e, (m.fill locations r).exec c = (.error e, c) ∧
      m.globalUtility r.1 r.2 locations = .error e := by
  rw [exec_fill]
  cases hget : c.get? r.1 with
  | some utility => exact .inl ⟨c, rfl, .refl c, utility, hget⟩
  | none =>
    cases hu : m.globalUtility r.1 r.2 locations with
    | error e => exact .inr ⟨e, rfl, rfl⟩
    | ok utility =>
      exact .inl ⟨c.insert r.1 utility, rfl, .insert hget, utility,
        (UtilityCache.get?_insert ..).trans (if_pos rfl)⟩

/-- **Filling in persons** leaves all of them remembered and forgets nobody, or fails as the utility
of one of them does. -/
theorem exec_forM_fill_remembers (m : GravityModel α) (locations : List (Point α))
    (rs : List (PersonId × Point α)) (c : UtilityCache α) :
    (∃ c', (rs.forM (m.fill locations)).exec c = (.ok ⟨⟩, c') ∧ c'.Extends c ∧
      ∀ r ∈ rs, ∃ utility, c'.get? r.1 = some utility) ∨
    ∃ e c', (rs.forM (m.fill locations)).exec c = (.error e, c') ∧
      ∃ r ∈ rs, m.globalUtility r.1 r.2 locations = .error e := by
  induction rs generalizing c with
  | nil => exact .inl ⟨c, rfl, .refl c, List.forall_mem_nil _⟩
  | cons r rs ih =>
    rw [ExceptT.exec_forM_cons]
    obtain ⟨c₁, hfill, hext₁, utility, hutility⟩ | ⟨e, hfill, he⟩ :=
      exec_fill_remembers m locations r c
    · rw [hfill]
      obtain ⟨c', hrun, hext, hrs⟩ | ⟨e, c', hrun, r', hr', he⟩ := ih c₁
      · -- what was filled in first is still there at the end
        exact .inl ⟨c', hrun, hext.trans hext₁,
          List.forall_mem_cons.2 ⟨⟨utility, hext.get? _ _ hutility⟩, hrs⟩⟩
      · exact .inr ⟨e, c', hrun, r', List.mem_cons_of_mem r hr', he⟩
    · rw [hfill]
      exact .inr ⟨e, c, rfl, r, List.mem_cons_self, he⟩

/-! ## Scores and refusals -/

theorem personScore?_eq {c : UtilityCache α} {r : PersonId × Point α}
    (h : ∃ utility, c.get? r.1 = some utility) (locations : List (Point α)) :
    m.personScore? c (locations.zip (m.candidates.map m.capacityOf)) r =
      some (m.personScore c locations r) := by
  obtain ⟨utility, hutility⟩ := h
  simp only [personScore?, personScore, hutility, List.zip_map_right, List.map_map]
  rfl

/-- What the score of a layout can be refused for. -/
inductive Refusal (m : GravityModel α) (layout : List LinkId) : DataError α → Prop
  | layoutLength : layout.length ≠ m.candidates.length →
      Refusal m layout (.layoutLength layout.length m.candidates.length)
  | unknownLink {link : LinkId} : link ∈ layout → m.network.link? link = none →
      Refusal m layout (.unknownLink link)
  | badUtility {r : PersonId × Point α} {utility : α} : r ∈ m.persons →
      ¬(((0 : ℕ) : α) < utility ∧ Number.isFinite utility) →
      Refusal m layout (.badUtility r.1 utility)

/-! ## Places -/

/-- Where a layout puts the candidates cannot be found out: it has a link for each of them, but the
first of these links that has no middle dangles. -/
structure BreaksOff (m : GravityModel α) (layout : List LinkId) : Prop where
  length_eq : layout.length = m.candidates.length
  network : m.network.BreaksOff layout

/-- The middle of a link or why there is none. -/
def place (m : GravityModel α) (link : LinkId) : Except (DataError α) (Point α) :=
  match m.network.midpoint? link with
  | some p => .ok p
  | none => .error (.unknownLink link)

theorem place?_of_dangles {link : LinkId} (h : m.network.Dangles link) : m.place? link = none := by
  rw [place?, Network.middle?_eq_none_iff.2 h, Option.map_none]

theorem place?_of_not_dangles {link : LinkId} (h : ¬m.network.Dangles link) :
    m.place? link = some (m.place link) := by
  rw [← Network.middle?_eq_none_iff] at h
  obtain ⟨middle?, hmiddle⟩ := Option.ne_none_iff_exists'.1 h
  rw [place?, place, Network.midpoint?, hmiddle, Option.map_some, Option.join_some]

/-- The places of links are found one by one, or looking for them breaks off. -/
theorem run_mapM_place? (m : GravityModel α) (links : List LinkId) :
    m.network.BreaksOff links ∧ (links.mapM fun link => ExceptT.mk (m.place? link)).run = none ∨
    ¬m.network.BreaksOff links ∧
      (links.mapM fun link => ExceptT.mk (m.place? link)).run = some (links.mapM m.place) := by
  induction links with
  | nil => exact .inr ⟨nofun, rfl⟩
  | cons link links ih =>
    simp only [List.mapM_cons, ExceptT.run_bind, ExceptT.run_mk]
    by_cases hdangles : m.network.Dangles link
    · exact .inl ⟨.here hdangles, by rw [place?_of_dangles hdangles]; rfl⟩
    rw [place?_of_not_dangles hdangles]
    cases hmiddle : m.network.midpoint? link with
    | none =>
      -- an unknown link is an error before any other link is looked at
      refine .inr ⟨fun h => ?_, by rw [place, hmiddle]; rfl⟩
      cases h with
      | here h => exact hdangles h
      | behind h _ => exact Option.some_ne_none _ (h.symm.trans hmiddle)
    | some p =>
      have hplace : m.place link = .ok p := by rw [place, hmiddle]
      rw [hplace]
      obtain ⟨hrest, hrun⟩ | ⟨hrest, hrun⟩ := ih
      · exact .inl ⟨.behind hmiddle hrest, by simp [hrun]⟩
      · refine .inr ⟨fun h => ?_, ?_⟩
        · cases h with
          | here h => exact hdangles h
          | behind _ h => exact hrest h
        · cases hplaces : links.mapM m.place <;> simp [hrun, hplaces] <;> rfl

theorem locations?_of_breaksOff {layout : List LinkId} (h : m.BreaksOff layout) :
    m.locations? layout = none := by
  rw [locations?, if_neg (not_not_intro h.length_eq)]
  obtain ⟨-, hrun⟩ | ⟨hrest, -⟩ := m.run_mapM_place? layout
  · exact hrun
  · exact (hrest h.network).elim

theorem locations?_of_not_breaksOff {layout : List LinkId} (h : ¬m.BreaksOff layout) :
    m.locations? layout = some (m.locations layout) := by
  unfold locations? locations
  split
  · rfl
  · next hlength =>
    obtain ⟨hrest, -⟩ | ⟨-, hrun⟩ := m.run_mapM_place? layout
    · exact (h ⟨not_not.1 hlength, hrest⟩).elim
    · exact hrun

/-- Unless looking for their places breaks off, only a link that is not there has none. -/
theorem unknown_of_not_breaksOff {links : List LinkId} (h : ¬m.network.BreaksOff links)
    {e : DataError α} (he : links.mapM m.place = .error e) :
    ∃ link ∈ links, m.network.link? link = none ∧ e = .unknownLink link := by
  induction links with
  | nil => cases he
  | cons link links ih =>
    rw [List.mapM_cons] at he
    cases hmiddle : m.network.midpoint? link with
    | none =>
      obtain hlink | hdangles := Network.midpoint?_eq_none_iff.1 hmiddle
      · rw [place, hmiddle] at he
        exact ⟨link, List.mem_cons_self, hlink, (Except.error.inj he).symm⟩
      · exact (h (.here hdangles)).elim
    | some p =>
      rw [place, hmiddle] at he
      obtain he | ⟨_, -, he⟩ := Except.bind_eq_error.1 he
      · cases he
      obtain he | ⟨_, -, he⟩ := Except.bind_eq_error.1 he
      · obtain ⟨link', hmem, hlink⟩ := ih (fun hrest => h (.behind hmiddle hrest)) he
        exact ⟨link', List.mem_cons_of_mem link hmem, hlink⟩
      · cases he

/-! ## Whole layouts -/

theorem computePotential?_of_breaksOff {layout : List LinkId} (hlayout : m.BreaksOff layout)
    (facilities : Facilities α) (c : UtilityCache α) :
    m.computePotential? facilities layout c = none := by
  rw [computePotential?, locations?_of_breaksOff hlayout]
  rfl

theorem computePotential?_of_not_breaksOff {facilities : Facilities α} (h : m.Stocked facilities)
    {layout : List LinkId} (hlayout : ¬m.BreaksOff layout) (c : UtilityCache α) :
    m.computePotential? facilities layout c = some ((m.computePotential layout).exec c) := by
  rw [computePotential?, locations?_of_not_breaksOff hlayout]
  simp only [computePotential, ExceptT.exec_bind, ExceptT.exec_ofExcept]
  cases m.locations layout with
  | error e => rfl
  | ok locations =>
    have hcapacities : (m.candidates.mapM fun id => m.capacity[id]?) =
        some (m.candidates.map m.capacityOf) := by
      refine Option.mapM_eq_some_map fun id hid => ?_
      obtain ⟨capacity, hcapacity⟩ := h.candidate id hid
      simp [capacityOf, hcapacity]
    simp only [Option.bind_eq_bind, Option.bind_some, ExceptT.exec_modify, h.fillAll?_eq]
    obtain ⟨c', hrun, -, hremembered⟩ | ⟨e, c', hrun, -⟩ :=
      exec_forM_fill_remembers m locations m.persons (c.sync layout)
    · rw [hrun]
      simp only [hcapacities, Option.bind_some]
      rw [Option.mapM_eq_some_map fun r hr => personScore?_eq (hremembered r hr) locations]
      rfl
    · rw [hrun]
      rfl

theorem refusal_of_exec {layout : List LinkId} (hlayout : ¬m.BreaksOff layout)
    {c c' : UtilityCache α} {e : DataError α}
    (h : (m.computePotential layout).exec c = (.error e, c')) : m.Refusal layout e := by
  simp only [computePotential, ExceptT.exec_bind, ExceptT.exec_ofExcept] at h
  cases hl : m.locations layout with
  | error e' =>
    rw [hl] at h
    cases h
    by_cases hlength : layout.length = m.candidates.length
    · rw [GravityModel.locations, if_neg (not_not_intro hlength)] at hl
      obtain ⟨link, hmem, hlink, rfl⟩ :=
        unknown_of_not_breaksOff (fun hrest => hlayout ⟨hlength, hrest⟩) hl
      exact .unknownLink hmem hlink
    · cases hl.symm.trans (locations_of_length_ne hlength)
      exact .layoutLength hlength
  | ok locations =>
    rw [hl] at h
    simp only [ExceptT.exec_modify] at h
    obtain ⟨c₁, hrun, -, -⟩ | ⟨e', c₁, hrun, r, hr, hu⟩ :=
      exec_forM_fill_remembers m locations m.persons (c.sync layout)
    · rw [hrun] at h
      cases h
    · rw [hrun] at h
      cases h
      simp only [globalUtility] at hu
      split at hu
      · cases hu
      · next hbad =>
        cases hu
        exact .badUtility hr hbad

/-- **Every look-up finds something, but for nodes at the ends of links.** On a model that was built,
over any network and of facilities that carry their places as identifiers, all look-ups of
capacities, facilities and remembered utilities succeed and come to what the model gives: for any
candidate by number, for the utility of any person, and for the score of any layout, whatever is
remembered when it is begun. The score breaks off just at a layout whose first link without a middle
dangles, and there is no such layout if all links join nodes. Any other layout has a score, or it is
refused for its length, for a link that is not there or for the utility of somebody who is scored. -/
theorem look_ups_succeed {settings : GravitySettings α} {network : Network α}
    {population : Population α} {facilities : Facilities α} {candidates : List FacilityId}
    (hfacilities : facilities.Numbered)
    (h : build settings network population facilities candidates = .ok m) :
    (∀ home k location, k < m.candidates.length →
      m.personPotential? home k location = some (m.personPotential home k location)) ∧
    (∀ person home locations, m.globalUtility? facilities person home locations =
      some (m.globalUtility person home locations)) ∧
    (∀ layout cache,
      (m.BreaksOff layout → m.computePotential? facilities layout cache = none) ∧
      (¬m.BreaksOff layout →
        m.computePotential? facilities layout cache =
          some ((m.computePotential layout).exec cache) ∧
        ∀ e, ((m.computePotential layout).exec cache).1 = .error e → m.Refusal layout e)) ∧
    ((∀ l ∈ network.links,
        l.source.index < network.nodes.size ∧ l.target.index < network.nodes.size) →
      ∀ layout, ¬m.BreaksOff layout) := by
  have hstocked : m.Stocked facilities := stocked_of_buildWith hfacilities h
  obtain rfl := (attraction_of_buildWith h).2
  refine ⟨fun home k location hk => hstocked.personPotential?_eq home hk location,
    fun person home locations => hstocked.globalUtility?_eq person home locations,
    fun layout cache => ⟨fun hlayout => computePotential?_of_breaksOff hlayout facilities cache,
      fun hlayout => ⟨computePotential?_of_not_breaksOff hstocked hlayout cache, fun e he => ?_⟩⟩,
    fun hends layout hlayout => Network.not_breaksOff hends layout hlayout.network⟩
  exact refusal_of_exec hlayout (Prod.ext he rfl)

theorem numbered_smallTown : smallTown.facilities.Numbered := by
  intro i f hf
  rcases i with _ | _ | i
  · cases hf
    rfl
  · cases hf
    rfl
  · simp [smallTown] at hf

/-- On the small town a layout has a score by look-ups that may come to nothing, and a layout
without links is refused. -/
theorem look_ups_succeed_smallTown :
    smallTown.facilities.Numbered ∧
    ∃ m : GravityModel Float,
      build smallTown.settings smallTown.network smallTown.population smallTown.facilities
        smallTown.candidates = .ok m ∧
      (∃ p, m.personPotential? ⟨0, 20⟩ 0 ⟨50, 0⟩ = some p) ∧
      (∃ outcome, m.computePotential? smallTown.facilities [⟨0⟩] {} = some outcome) ∧
      ∃ e, ((m.computePotential []).exec {}).1 = .error e ∧ m.Refusal [] e := by
  have hends : ∀ l ∈ smallTown.network.links, l.source.index < smallTown.network.nodes.size ∧
      l.target.index < smallTown.network.nodes.size := by decide +kernel
  obtain ⟨m, h⟩ := build_smallTown
  have hcandidates : m.candidates = [⟨1⟩] := candidates_of_buildWith h
  obtain ⟨hpotential, -, hlayouts, hjoined⟩ := look_ups_succeed numbered_smallTown h
  have hshort : ((m.computePotential []).exec {}).1 =
      .error (.layoutLength ([] : List LinkId).length m.candidates.length) :=
    congrArg Prod.fst (exec_of_locations_error (locations_of_length_ne (by simp [hcandidates])) {})
  exact ⟨numbered_smallTown, m, h, ⟨_, hpotential _ 0 _ (by simp [hcandidates])⟩,
    ⟨_, ((hlayouts [⟨0⟩] {}).2 (hjoined hends _)).1⟩, _, hshort,
    ((hlayouts [] {}).2 (hjoined hends _)).2 _ hshort⟩

/-- The street of the small town with a link behind it that leads to no node. -/
def deadEnd : Network Float :=
  NetworkBuilder.build {
    nodes := #[{ label := "a", coord := ⟨0, 0⟩ }, { label := "b", coord := ⟨100, 0⟩ }]
    links := #[
      { label := "a_b", source := ⟨0⟩, target := ⟨1⟩, length := 100, speed := 10 },
      { label := "b_c", source := ⟨1⟩, target := ⟨2⟩, length := 100, speed := 10 }] }

/-- **A score can break off.** Over a link that leads to no node a model is built as over any other,
but a layout that puts the candidate there has neither a score nor a refusal. -/
theorem look_ups_break_off_deadEnd :
    ∃ m : GravityModel Float,
      build smallTown.settings deadEnd smallTown.population smallTown.facilities
        smallTown.candidates = .ok m ∧
      m.computePotential? smallTown.facilities [⟨1⟩] {} = none := by
  obtain ⟨m, h⟩ : ∃ m : GravityModel Float, build smallTown.settings deadEnd smallTown.population
      smallTown.facilities smallTown.candidates = .ok m :=
    exists_buildWith_iff.2 (exists_buildWith_iff.1 build_smallTown)
  have hdangles : deadEnd.Dangles ⟨1⟩ := ⟨_, rfl, .inr rfl⟩
  refine ⟨m, h, computePotential?_of_breaksOff ⟨?_, ?_⟩ _ _⟩
  · rw [candidates_of_buildWith h]
    rfl
  · rw [(attraction_of_buildWith h).2]
    exact .here hdangles

end GravityModel

end SpatialAccess
