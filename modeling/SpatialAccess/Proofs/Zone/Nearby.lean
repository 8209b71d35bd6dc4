import Mathlib.Tactic.Linarith
import SpatialAccess.Proofs.Groups
import SpatialAccess.Proofs.Zone.Binning

/-!
# Opportunities around a point

The opportunities around a point are looked for in the zones near it only. In exact arithmetic none is
missed, wherever the point lies.

* `ZoneGrid.mem_zonesNear_iff`, `ZoneGrid.nodup_zonesNear`: which zones are looked at, each of them
  once.
* `Point.mem_square_of_distanceSq_le`: what is within a distance is within the square around it.
* **`ZoneGrid.exists_zoneOf?_mem_zonesNear`**: whatever lies in the box and within the radius is in one
  of these zones.
* **`SpatialIndex.shopsWithin_eq_filter`**: what is found is what a search through all opportunities
  finds.
-/

namespace SpatialAccess

/-! ## Zones near a point -/

namespace ZoneGrid

theorem mem_between_iff {low high k : ℕ} : k ∈ between low high ↔ low ≤ k ∧ k ≤ high := by
  simp only [between, List.mem_map, List.mem_range]
  constructor
  · rintro ⟨i, hi, rfl⟩
    omega
  · rintro ⟨hlow, hhigh⟩
    exact ⟨k - low, by omega, by omega⟩

theorem nodup_between (low high : ℕ) : (between low high).Nodup :=
  List.nodup_range.map fun _ _ h => Nat.add_left_cancel h

variable {α : Type} [Number α] {g : ZoneGrid α} {p : Point α} {radius : α}

theorem mem_zonesNear_iff {id : ZoneId} :
    id ∈ g.zonesNear p radius ↔ ∃ i j : ℕ,
      ((g.xs.cell (p.x - radius)).val ≤ i ∧ i ≤ (g.xs.cell (p.x + radius)).val) ∧
      ((g.ys.cell (p.y - radius)).val ≤ j ∧ j ≤ (g.ys.cell (p.y + radius)).val) ∧
      id = g.idAt i j := by
  simp only [zonesNear, List.mem_flatMap, List.mem_map, mem_between_iff, eq_comm (a := id)]
  constructor
  · rintro ⟨i, hi, j, hj, hid⟩
    exact ⟨i, j, hi, hj, hid⟩
  · rintro ⟨i, j, hi, hj, hid⟩
    exact ⟨i, hi, j, hj, hid⟩

theorem nodup_zonesNear (g : ZoneGrid α) (p : Point α) (radius : α) :
    (g.zonesNear p radius).Nodup := by
  have hrow : ∀ j ∈ between (g.ys.cell (p.y - radius)) (g.ys.cell (p.y + radius)),
      j < g.order := fun j hj => by
    have hlt : (g.ys.cell (p.y + radius)).val < g.order := g.rows ▸ (g.ys.cell (p.y + radius)).isLt
    exact Nat.lt_of_le_of_lt (mem_between_iff.1 hj).2 hlt
  refine List.nodup_flatMap.2 ⟨fun i _ => ?_, ?_⟩
  · exact (nodup_between _ _).map_on fun j hj k hk h => (idAt_inj (hrow j hj) (hrow k hk) h).2
  · refine (nodup_between _ _).imp fun {i k} hne id hi hk => ?_
    obtain ⟨j, hj, rfl⟩ := List.mem_map.1 hi
    obtain ⟨l, hl, heq⟩ := List.mem_map.1 hk
    exact hne (idAt_inj (hrow l hl) (hrow j hj) heq).1.symm

end ZoneGrid

/-! ## Squares -/

/-- What is within a distance of a point is in the square around it. -/
theorem Point.mem_square_of_distanceSq_le {p q : Point ℝ} {radius : ℝ} (hradius : 0 ≤ radius)
    (h : q.distanceSq p ≤ radius * radius) :
    (p.x - radius ≤ q.x ∧ q.x ≤ p.x + radius) ∧ p.y - radius ≤ q.y ∧ q.y ≤ p.y + radius := by
  simp only [distanceSq] at h
  have hx : |q.x - p.x| ≤ radius := abs_le_of_sq_le_sq (by nlinarith [sq_nonneg (q.y - p.y)]) hradius
  have hy : |q.y - p.y| ≤ radius := abs_le_of_sq_le_sq (by nlinarith [sq_nonneg (q.x - p.x)]) hradius
  rw [abs_le] at hx hy
  exact ⟨⟨by linarith, by linarith⟩, by linarith, by linarith⟩

namespace ZoneGrid

/-- In exact arithmetic a partition whose box holds anything has edges that never fall. -/
theorem rises_partition_of_contains (p : Partitioner) {extent : Box ℝ} {q : Point ℝ}
    (h : (p.partition extent).box.contains q = true) : (p.partition extent).Rises := by
  obtain ⟨⟨hx, hx'⟩, hy, hy'⟩ := Box.contains_eq_true_iff.1 h
  exact ⟨Axis.rises_equal (hx.trans hx') p.order_pos, Axis.rises_equal (hy.trans hy') p.order_pos⟩

/-- **Whatever lies in the box and within the radius is in one of the zones near the point.** -/
theorem exists_zoneOf?_mem_zonesNear {g : ZoneGrid ℝ} (hg : g.Rises) {p q : Point ℝ} {radius : ℝ}
    (hradius : 0 ≤ radius) (hq : g.box.contains q = true)
    (hdistance : q.distanceSq p ≤ radius * radius) :
    ∃ zone ∈ g.zonesNear p radius, g.zoneOf? q = some zone := by
  obtain ⟨⟨hleft, hright⟩, hbelow, habove⟩ := Point.mem_square_of_distanceSq_le hradius hdistance
  refine ⟨_, mem_zonesNear_iff.2 ⟨g.xs.cell q.x, g.ys.cell q.y, ?_, ?_, rfl⟩, if_pos hq⟩
  · exact ⟨Axis.cell_le_cell hg.xs.nonDecreasing hleft, Axis.cell_le_cell hg.xs.nonDecreasing hright⟩
  · exact ⟨Axis.cell_le_cell hg.ys.nonDecreasing hbelow, Axis.cell_le_cell hg.ys.nonDecreasing habove⟩

end ZoneGrid

/-! ## Searching -/

namespace SpatialIndex

/-- What some zones hold are the opportunities in one of these zones. -/
theorem flatMap_destinationsIn_perm {α : Type} [Number α] (grid : ZoneGrid α)
    (population : Population α) (facilities : Facilities α) (types : IndexTypes)
    {zones : List ZoneId} (h : zones.Nodup) :
    (zones.flatMap (build grid population facilities types).destinationsIn).Perm
      (((facilities.offering types.opportunity).filter fun f =>
        ∃ zone ∈ zones, grid.zoneOf? f.coord = some zone).map destination) := by
  have hsome : (zones.map some).Nodup := h.map fun _ _ heq => Option.some.inj heq
  have hperm := flatMap_filter_perm (fun f : Facility α => grid.zoneOf? f.coord) hsome
    (facilities.offering types.opportunity)
  rw [List.flatMap_map] at hperm
  have hmem : ∀ f : Facility α, grid.zoneOf? f.coord ∈ zones.map some ↔
      ∃ zone ∈ zones, grid.zoneOf? f.coord = some zone := by simp [eq_comm]
  refine (List.Perm.of_eq ?_).trans ((hperm.map destination).trans (List.Perm.of_eq ?_))
  · rw [List.map_flatMap]
    refine congrArg (List.flatMap · zones) (funext fun zone => ?_)
    simp only [destinationsIn_build, beq_eq_decide]
  · exact congrArg _ (List.filter_congr fun f _ => decide_eq_decide.2 (hmem f))

variable {facilities : Facilities ℝ} {population : Population ℝ} {types : IndexTypes}

/-- **What is found around a point** is what lies in the box and within the radius, by identifier. -/
theorem shopsWithin_build (h : facilities.Numbered) {grid : ZoneGrid ℝ}
    (hgrid : ∀ q, grid.box.contains q = true → grid.Rises) (q : Point ℝ) {radius : ℝ}
    (hradius : 0 ≤ radius) :
    (build grid population facilities types).shopsWithin q radius =
      ((facilities.offering types.opportunity).filter fun f =>
        grid.box.contains f.coord && decide (f.coord.distanceSq q ≤ radius * radius)).map
          Facility.id := by
  have hsame : ∀ f : Facility ℝ,
      (decide (f.coord.distanceSq q ≤ radius * radius) &&
        decide (∃ zone ∈ grid.zonesNear q radius, grid.zoneOf? f.coord = some zone)) =
      (grid.box.contains f.coord && decide (f.coord.distanceSq q ≤ radius * radius)) := by
    intro f
    rw [Bool.and_comm, Bool.eq_iff_iff]
    simp only [Bool.and_eq_true, decide_eq_true_eq, and_congr_left_iff]
    intro hdistance
    constructor
    · rintro ⟨zone, -, hzone⟩
      exact (Option.ite_none_right_eq_some.1 hzone).1
    · intro hbox
      exact ZoneGrid.exists_zoneOf?_mem_zonesNear (hgrid _ hbox) hradius hbox hdistance
  have hnear := ((flatMap_destinationsIn_perm grid population facilities types
    (grid.nodup_zonesNear q radius)).filter fun d =>
      decide (d.coord.distanceSq q ≤ radius * radius)).map Destination.facility
  rw [List.filter_map, List.filter_filter, List.map_map] at hnear
  refine mergeSort_eq_of_perm (hnear.trans (List.Perm.of_eq ?_))
    ((h.pairwise_idsOffering types.opportunity).sublist (List.filter_sublist.map Facility.id))
  exact congrArg (List.map Facility.id) (List.filter_congr fun f _ => hsame f)

/-- **Looking around a point misses nothing.** Whatever box the zones are cut from, and wherever the
point lies, the opportunities in the box and within the radius are found, each once and by
identifier. If the zones are those of the scenario itself, these are all opportunities within the
radius. -/
theorem shopsWithin_eq_filter (h : facilities.Numbered) (p : Partitioner)
    (population : Population ℝ) (types : IndexTypes) (q : Point ℝ) {radius : ℝ}
    (hradius : 0 ≤ radius) :
    (∀ extent : Box ℝ,
      let grid := p.partition extent
      let found := (build grid population facilities types).shopsWithin q radius
      found.Pairwise (fun a b => a.index < b.index) ∧
      ∀ id, id ∈ found ↔ ∃ f, facilities.get? id = some f ∧ f.offers types.opportunity = true ∧
        grid.box.contains f.coord = true ∧ f.coord.distanceSq q ≤ radius * radius) ∧
    ∀ grid, p.ofScenario population facilities types.opportunity = .ok grid →
      (build grid population facilities types).shopsWithin q radius =
        ((facilities.offering types.opportunity).filter fun f =>
          decide (f.coord.distanceSq q ≤ radius * radius)).map Facility.id := by
  constructor
  · intro extent grid found
    have hfound : found = _ :=
      shopsWithin_build h (fun _ => ZoneGrid.rises_partition_of_contains p) q hradius
    refine ⟨?_, fun id => ?_⟩
    · rw [hfound]
      exact (h.pairwise_idsOffering types.opportunity).sublist
        (List.filter_sublist.map Facility.id)
    · simp only [hfound, List.mem_map, List.mem_filter, Facilities.mem_offering_iff,
        Bool.and_eq_true, decide_eq_true_eq, h.get?_eq_some_iff]
      constructor
      · rintro ⟨f, ⟨⟨hf, hoffers⟩, hbox, hdistance⟩, rfl⟩
        exact ⟨f, ⟨hf, rfl⟩, hoffers, hbox, hdistance⟩
      · rintro ⟨f, ⟨hf, rfl⟩, hoffers, hbox, hdistance⟩
        exact ⟨f, ⟨⟨hf, hoffers⟩, hbox, hdistance⟩, rfl⟩
  · intro grid hscenario
    obtain ⟨extent, -, rfl⟩ := Partitioner.ofScenario_eq_ok_iff.1 hscenario
    obtain ⟨-, hshops⟩ := Partitioner.exists_zoneOf?_of_ofScenario hscenario
      (fun _ _ home _ => home.isDefined_real) fun f _ => f.coord.isDefined_real
    rw [shopsWithin_build h (fun _ => ZoneGrid.rises_partition_of_contains p) q hradius]
    -- the box of the scenario holds all opportunities
    refine congrArg (List.map Facility.id) (List.filter_congr fun f hf => ?_)
    obtain ⟨zone, hzone⟩ := hshops f hf
    rw [(Option.ite_none_right_eq_some.1 hzone).1, Bool.true_and]

/-! ## A parade of shops -/

/-- Two shops along one street, and a third one up the hill. -/
noncomputable def parade : Facilities ℝ where
  list := #[
    Facility.addOption { id := ⟨0⟩, label := "baker", coord := ⟨0, 0⟩ } { activityType := "shop" },
    Facility.addOption { id := ⟨1⟩, label := "butcher", coord := ⟨8, 0⟩ } { activityType := "shop" },
    Facility.addOption { id := ⟨2⟩, label := "grocer", coord := ⟨8, 8⟩ } { activityType := "shop" }]

theorem offering_parade : parade.offering "shop" = parade.list.toList := by
  simp [parade, Facilities.offering, Facility.offers, Facility.addOption]

theorem numbered_parade : parade.Numbered := by
  intro i f hf
  rcases i with _ | _ | _ | i
  · cases hf
    rfl
  · cases hf
    rfl
  · cases hf
    rfl
  · simp [parade] at hf

/-- Both shops of the street are found, one of them across the border of a zone and just as far away
as is looked for. -/
theorem shopsWithin_eq_filter_parade :
    ∃ (p : Partitioner) (grid : ZoneGrid ℝ), parade.Numbered ∧ (0 : ℝ) ≤ 5 ∧
      p.ofScenario {} parade "shop" = .ok grid ∧
      (build grid {} parade {}).shopsWithin ⟨3, 0⟩ 5 = [⟨0⟩, ⟨1⟩] := by
  let p : Partitioner := ⟨2, .symmetric, by decide, by decide⟩
  obtain ⟨extent, hextent⟩ : ∃ extent, Box.ofPoints? ((parade.offering "shop").map Facility.coord) =
      some extent := by
    rw [offering_parade]
    exact ⟨_, rfl⟩
  have hgrid : p.ofScenario {} parade "shop" = .ok (p.partition extent) :=
    Partitioner.ofScenario_eq_ok_iff.2 ⟨extent, hextent, rfl⟩
  have hradius : (0 : ℝ) ≤ 5 := by norm_num
  refine ⟨p, _, numbered_parade, hradius, hgrid, ?_⟩
  rw [(shopsWithin_eq_filter numbered_parade p {} {} ⟨3, 0⟩ hradius).2 _ hgrid, offering_parade]
  norm_num [parade, Point.distanceSq, Facility.addOption]

end SpatialIndex

end SpatialAccess
