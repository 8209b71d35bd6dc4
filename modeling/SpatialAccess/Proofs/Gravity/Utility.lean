import Mathlib.Analysis.SpecialFunctions.Pow.Real
import SpatialAccess.Proofs.Facility.Collection
import SpatialAccess.Proofs.Gravity.CachedScore
import SpatialAccess.Proofs.Gravity.Checks
import SpatialAccess.Proofs.Number.Exact

/-!
# Utilities and scores in exact arithmetic

* `Located`: everybody is looked up in the zone of their home. `located_of_buildWith`: so it is in a
  model that was built.
* `shopsAt`: the shops that count for a home besides the candidates.
* `utilityAt`: the attraction of all shops and candidates for a home.
  **`globalUtility_eq_ok_iff`**: it is the utility of everybody who lives there, if it is positive.
* `likelihoods`: the shares of the candidates. **`directScore_eq_ok_iff`**: the score is the sum of
  the likelihoods over all candidates and persons.
-/

namespace SpatialAccess

namespace GravityModel

section Homes

variable {α : Type} [Number α]

/-- Everybody is looked up in the zone of their home. -/
def Located (m : GravityModel α) : Prop :=
  ∀ r ∈ m.persons, m.index.homeZone? r.1 = m.index.grid.zoneOf? r.2

theorem located_of_buildWith {attraction : α → α → α} {settings : GravitySettings α}
    {network : Network α} {population : Population α} {facilities : Facilities α}
    {candidates : List FacilityId} {m : GravityModel α}
    (h : buildWith attraction settings network population facilities candidates = .ok m) :
    m.Located := by
  obtain ⟨_, grid, _, -, -, -, -, hm⟩ := buildWith_eq_ok h
  intro r hr
  have hhome := home?_of_mem_persons h hr
  rw [hm] at hhome ⊢
  simp only at hhome ⊢
  rw [SpatialIndex.homeZone?_build, hhome]
  rfl

/-- The shops that count for a home besides the candidates. -/
def shopsAt (m : GravityModel α) (home : Point α) : List (Destination α) :=
  match m.settings.shopSampling with
  | .zone =>
    match m.index.grid.zoneOf? home with
    | none => []
    | some zone => (m.index.destinationsIn zone).filter fun s => !m.candidates.contains s.facility
  | _ => m.fixedShops

theorem exists_eq_ofFn {β : Type} {n : ℕ} {xs : List β} (h : xs.length = n) :
    ∃ x : Fin n → β, xs = List.ofFn x := by
  subst h
  exact ⟨xs.get, (List.ofFn_get xs).symm⟩

/-- The candidates have places just if all links of a layout are known. -/
theorem locations_ofFn_eq_ok_iff {m : GravityModel α} {n : ℕ} (hn : m.candidates.length = n)
    (links : Fin n → LinkId) {locations : List (Point α)} :
    m.locations (List.ofFn links) = .ok locations ↔
      ∃ place : Fin n → Point α, (∀ k, m.network.midpoint? (links k) = some (place k)) ∧
        locations = List.ofFn place := by
  rw [GravityModel.locations, if_neg (by simp [hn]), Except.mapM_eq_ok_iff]
  refine Iff.trans (b := List.Forall₂ (fun link p => m.network.midpoint? link = some p)
    (List.ofFn links) locations)
    ⟨fun h => h.imp fun link p hp => ?_, fun h => h.imp fun link p hp => ?_⟩ ?_
  · cases hlink : m.network.midpoint? link with
    | none => simp [hlink] at hp
    | some place => simpa [hlink] using hp
  · simp [hp]
  constructor
  · intro h
    have hlength := (List.length_ofFn (f := links)).symm.trans h.length_eq
    obtain ⟨place, rfl⟩ := exists_eq_ofFn hlength.symm
    rw [List.forall₂_iff_get] at h
    exact ⟨place, fun k => by simpa using h.2 k (by simp) (by simp), rfl⟩
  · rintro ⟨place, hplace, rfl⟩
    rw [List.forall₂_iff_get]
    exact ⟨by simp, fun k _ _ => by simpa using hplace _⟩

theorem length_of_locations {m : GravityModel α} {layout : List LinkId} {locations : List (Point α)}
    (h : m.locations layout = .ok locations) : layout.length = m.candidates.length := by
  by_contra hlength
  rw [locations_of_length_ne hlength] at h
  cases h

end Homes

/-! ## Utilities -/

variable {m : GravityModel ℝ}

/-- The attraction of all shops and candidates for a home. -/
noncomputable def utilityAt (m : GravityModel ℝ) (home : Point ℝ)
    (locations : List (Point ℝ)) : ℝ :=
  ((m.shopsAt home).map fun s => m.attractionOf home s.coord s.facility).sum +
    ((m.candidates.zip locations).map fun c => m.attractionOf home c.2 c.1).sum

theorem fixedUtility_eq {person : PersonId} {home : Point ℝ}
    (h : m.index.homeZone? person = m.index.grid.zoneOf? home) :
    m.fixedUtility person home =
      ((m.shopsAt home).map fun s => m.attractionOf home s.coord s.facility).sum := by
  cases hsampling : m.settings.shopSampling with
  | zone =>
    simp only [fixedUtility, shopsAt, zoneUtility, hsampling, h]
    cases m.index.grid.zoneOf? home with
    | none => simp
    | some zone => exact Number.sum_real _
  | all | random =>
    simp only [fixedUtility, shopsAt, hsampling]
    exact Number.sum_real _

/-- **The utility of a person** is the attraction of everything for the home, and it is refused
unless it is positive. -/
theorem globalUtility_eq_ok_iff {person : PersonId} {home : Point ℝ}
    (h : m.index.homeZone? person = m.index.grid.zoneOf? home) {locations : List (Point ℝ)} {u : ℝ} :
    m.globalUtility person home locations = .ok u ↔
      0 < m.utilityAt home locations ∧ u = m.utilityAt home locations := by
  have hsum : m.fixedUtility person home + m.movingUtility home locations =
      m.utilityAt home locations := by
    rw [fixedUtility_eq h, movingUtility, Number.sum_real]
    rfl
  simp only [globalUtility, hsum, Nat.cast_zero, Number.isFinite_real, and_true]
  split
  · next hpos => simp [hpos, eq_comm]
  · next hpos => simp [hpos]

theorem zip_ofFn {β γ : Type} (xs : List β) (y : Fin xs.length → γ) :
    xs.zip (List.ofFn y) = List.ofFn fun k => (xs[k], y k) := by
  refine List.ext_getElem (by simp) fun k _ _ => ?_
  simp

/-! ## Scores -/

/-- The shares that the candidates win for a home. -/
noncomputable def likelihoods (m : GravityModel ℝ) (home : Point ℝ) (locations : List (Point ℝ)) :
    List ℝ :=
  (m.candidates.zip locations).map fun c =>
    m.attractionOf home c.2 c.1 / m.utilityAt home locations

theorem shares_eq (m : GravityModel ℝ) (home : Point ℝ) (locations : List (Point ℝ)) :
    m.shares locations home (m.utilityAt home locations) = (m.likelihoods home locations).sum := by
  rw [shares, Number.sum_real, likelihoods, ← List.zip_swap locations, List.map_map]
  rfl

theorem directShares_eq_ok_iff {r : PersonId × Point ℝ}
    (h : m.index.homeZone? r.1 = m.index.grid.zoneOf? r.2) {locations : List (Point ℝ)} {won : ℝ} :
    m.directShares locations r = .ok won ↔
      0 < m.utilityAt r.2 locations ∧ won = (m.likelihoods r.2 locations).sum := by
  rw [← shares_eq]
  cases hu : m.globalUtility r.1 r.2 locations with
  | error e =>
    have hpos : ¬0 < m.utilityAt r.2 locations := by
      intro hpos
      rw [(globalUtility_eq_ok_iff h).2 ⟨hpos, rfl⟩] at hu
      cases hu
    simp [directShares_of_error hu, hpos]
  | ok u =>
    obtain ⟨hpos, rfl⟩ := (globalUtility_eq_ok_iff h).1 hu
    simp [directShares_of_ok hu, hpos, eq_comm]

/-- **The score of a layout** is the sum of all likelihoods, and there is one just if all links are
known and no utility is refused. -/
theorem directScore_eq_ok_iff (hm : m.Located) {layout : List LinkId} {score : ℝ} :
    m.directScore layout = .ok score ↔
      ∃ locations, m.locations layout = .ok locations ∧
        (∀ r ∈ m.persons, 0 < m.utilityAt r.2 locations) ∧
        score = (m.persons.map fun r => (m.likelihoods r.2 locations).sum).sum := by
  have hwon : ∀ {locations : List (Point ℝ)} {won : List ℝ},
      m.persons.mapM (m.directShares locations) = .ok won ↔
        (∀ r ∈ m.persons, 0 < m.utilityAt r.2 locations) ∧
          won = m.persons.map fun r => (m.likelihoods r.2 locations).sum :=
    Except.mapM_eq_ok_iff_map fun r hr _ => directShares_eq_ok_iff (hm r hr)
  simp only [directScore, Except.bind_eq_ok, hwon]
  constructor
  · rintro ⟨locations, hl, won, ⟨hpos, rfl⟩, h⟩
    cases h
    exact ⟨locations, hl, hpos, Number.sum_real _⟩
  · rintro ⟨locations, hl, hpos, rfl⟩
    exact ⟨locations, hl, _, ⟨hpos, rfl⟩, congrArg Except.ok (Number.sum_real _)⟩

/-- A history of scores, each utility computed anew. -/
theorem scoreAll_eq_directScore (hm : m.HomesUnique) (layouts : List (List LinkId)) :
    ((m.scoreAll layouts).run {}).1 = layouts.map m.directScore := by
  obtain ⟨c, hrun, -⟩ := scoreAll_run hm layouts m.coherent_empty
  rw [hrun]

/-- Models that differ only in where their utilities come from score alike. -/
theorem directScore_congr {m' : GravityModel ℝ} {settings : GravitySettings ℝ}
    {index : SpatialIndex ℝ} {fixedShops : List (Destination ℝ)}
    (hm' : m' = { m with settings, index, fixedShops })
    (hfixed : ∀ r ∈ m.persons, m'.fixedUtility r.1 r.2 = m.fixedUtility r.1 r.2)
    (layout : List LinkId) : m'.directScore layout = m.directScore layout := by
  have hshares : ∀ locations, m.persons.mapM (m'.directShares locations) =
      m.persons.mapM (m.directShares locations) := by
    intro locations
    refine Except.mapM_congr fun r hr => ?_
    simp only [directShares, globalUtility, hfixed r hr]
    rw [hm']
    rfl
  simp only [directScore, ← hshares]
  rw [hm']
  rfl

/-! ## A village -/

/-- A shop and another one of a given capacity, a person and a road with its middle, all at one
place. -/
noncomputable def village (capacity : ℝ) (candidates : List FacilityId) : Scenario ℝ where
  settings := .plain 1 { distance := -1, capacity := 1 }
  network := NetworkBuilder.build {
    nodes := #[{ label := "a", coord := ⟨-50, 0⟩ }, { label := "b", coord := ⟨50, 0⟩ }]
    links := #[{ label := "a_b", source := ⟨0⟩, target := ⟨1⟩, length := 100, speed := 10 }] }
  population.list := #[
    { id := ⟨0⟩, label := "p", plans := #[[{ activityType := "h", coord := ⟨0, 0⟩ }]] }]
  facilities.list := #[
    Facility.addOption { id := ⟨0⟩, label := "f", coord := ⟨0, 0⟩ }
      { activityType := shopType, capacity := some 10 },
    Facility.addOption { id := ⟨1⟩, label := "g", coord := ⟨0, 0⟩ }
      { activityType := shopType, capacity := some capacity }]
  candidates

theorem checkedCapacity_village (capacity : ℝ) (candidates : List FacilityId) :
    checkedCapacity (village capacity candidates).facilities 1 ⟨0⟩ = .ok 10 ∧
      checkedCapacity (village capacity candidates).facilities 1 ⟨1⟩ = .ok capacity := by
  constructor
  · exact checkedCapacity_eq_ok_iff.2
      ⟨_, rfl, Facility.capacity_addOption _ rfl, by simp [checkCapacity]⟩
  · exact checkedCapacity_eq_ok_iff.2
      ⟨_, rfl, Facility.capacity_addOption _ rfl, by simp [checkCapacity, Number.isWhole]⟩

theorem offering_village (capacity : ℝ) (candidates : List FacilityId) :
    (village capacity candidates).facilities.offering shopType =
      (village capacity candidates).facilities.list.toList := by
  refine List.filter_eq_self.2 fun f hf => ?_
  simp only [village, List.mem_cons, List.not_mem_nil, or_false] at hf
  obtain rfl | rfl := hf <;> exact Facility.offers_of_capacity (Facility.capacity_addOption _ rfl)

theorem numbered_village (capacity : ℝ) (candidates : List FacilityId) :
    (village capacity candidates).facilities.Numbered := by
  intro i f hf
  rcases i with _ | _ | i
  · cases hf
    rfl
  · cases hf
    rfl
  · simp [village] at hf

theorem idsOffering_village (capacity : ℝ) (candidates : List FacilityId) :
    (village capacity candidates).facilities.idsOffering shopType = [⟨0⟩, ⟨1⟩] := by
  rw [Facilities.idsOffering, offering_village]
  rfl

/-- A model of the village can be built, whatever the capacity and the network are. -/
theorem exists_build_village (capacity : ℝ) (settings : GravitySettings ℝ)
    (hzones : settings.zones ≠ 0 ∧ settings.zones ≤ Partitioner.limit)
    (hbetas : settings.betas.capacity = 1) (network : Network ℝ) {candidates : List FacilityId}
    (hnodup : candidates.Nodup) (hcandidates : candidates ⊆ [⟨0⟩, ⟨1⟩]) :
    ∃ m : GravityModel ℝ, build settings network (village capacity candidates).population
      (village capacity candidates).facilities candidates = .ok m := by
  obtain ⟨hfirst, hsecond⟩ := checkedCapacity_village capacity candidates
  refine exists_buildWith_iff.2 ⟨hzones, ?_, fun id hid => ?_, hnodup⟩
  · rw [sites, offering_village]
    exact List.append_ne_nil_of_right_ne_nil _ (by simp [village])
  · have hids : id ∈ [(⟨0⟩ : FacilityId), ⟨1⟩] := by
      rw [idsOffering_village] at hid
      exact (List.mem_append.1 hid).elim (fun h => h) fun h => hcandidates h
    simp only [List.mem_cons, List.not_mem_nil, or_false] at hids
    rw [hbetas]
    obtain rfl | rfl := hids
    · exact ⟨10, hfirst⟩
    · exact ⟨capacity, hsecond⟩

theorem build_village (capacity : ℝ) {candidates : List FacilityId} (hnodup : candidates.Nodup)
    (hcandidates : candidates ⊆ [⟨0⟩, ⟨1⟩]) :
    ∃ m : GravityModel ℝ, build (village capacity candidates).settings
      (village capacity candidates).network (village capacity candidates).population
      (village capacity candidates).facilities (village capacity candidates).candidates = .ok m :=
  exists_build_village capacity (.plain 1 ⟨-1, 1⟩) ⟨Nat.one_ne_zero, by decide⟩ rfl _ hnodup
    hcandidates

/-- The road of the village, and another one whose middle is twenty to the north. -/
noncomputable def twoRoads : Network ℝ :=
  NetworkBuilder.build {
    nodes := #[{ label := "a", coord := ⟨-50, 0⟩ }, { label := "b", coord := ⟨50, 0⟩ },
      { label := "c", coord := ⟨-50, 20⟩ }, { label := "d", coord := ⟨50, 20⟩ }]
    links := #[{ label := "a_b", source := ⟨0⟩, target := ⟨1⟩, length := 100, speed := 10 },
      { label := "c_d", source := ⟨2⟩, target := ⟨3⟩, length := 100, speed := 10 }] }

theorem midpoint?_village (capacity : ℝ) (candidates : List FacilityId) :
    (village capacity candidates).network.midpoint? ⟨0⟩ = some ⟨0, 0⟩ := by
  show some ((⟨-50, 0⟩ : Point ℝ).midpoint ⟨50, 0⟩) = _
  simp [Point.midpoint]

theorem midpoint?_twoRoads :
    twoRoads.midpoint? ⟨0⟩ = some ⟨0, 0⟩ ∧ twoRoads.midpoint? ⟨1⟩ = some ⟨0, 20⟩ := by
  constructor
  · show some ((⟨-50, 0⟩ : Point ℝ).midpoint ⟨50, 0⟩) = _
    simp [Point.midpoint]
  · show some ((⟨-50, 20⟩ : Point ℝ).midpoint ⟨50, 20⟩) = _
    norm_num [Point.midpoint]

end GravityModel

end SpatialAccess
