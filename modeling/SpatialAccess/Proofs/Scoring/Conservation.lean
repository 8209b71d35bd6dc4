import SpatialAccess.Proofs.Number.Exact
import SpatialAccess.Proofs.Scoring.Booking

/-!
# Every second of a stay is booked once

* `sum_toList_insert`: what an entry that is put into a map does to a sum over the map.
* `performed_clip`, `performed_add_waiting_clip`: the accounts of one stay.
  `Stay.segments_ordered`: when none of its parts ends before it starts.
* `market`: a facility whose hours overlap.
* `Ledger.total`: a sum over all durations. `ScoringPipeline.total_addSegment`: what a part of a
  stay adds to it.
* `ScoringPipeline.durations_addStay`, `ScoringPipeline.durations_foldl_addStay`: the time performed
  of each activity type.
* **`ScoringPipeline.time_conserved`**: time performed and time waited add up to all stays, and the
  order of the stays does not matter.
-/

namespace SpatialAccess

/-! ## Sums over maps -/

/-- Where an entry of a map stands among the others. -/
theorem toList_perm_of_getElem? {β : Type} {m : Std.TreeMap String β} {k : String} {v : β}
    (h : m[k]? = some v) :
    m.toList.Perm ((k, v) :: m.toList.filter fun e => decide ¬(k == e.1) = true) := by
  have hinsert : m.Equiv (m.insert k v) := by
    refine .of_forall_constGet?_eq fun k' => ?_
    rw [Std.TreeMap.getElem?_insert]
    split
    · next hk => rw [← Std.LawfulEqOrd.eq_of_compare hk, h]
    · rfl
  exact (Std.TreeMap.equiv_iff_toList_perm.1 hinsert).trans Std.TreeMap.toList_insert_perm

/-- The sum over a map with an entry put in: the new value counts instead of the old one. -/
theorem sum_toList_insert (m : Std.TreeMap String ℝ) (k : String) (v : ℝ) {g : String → ℝ → ℝ}
    (hg : g k 0 = 0) :
    ((m.insert k v).toList.map fun e => g e.1 e.2).sum =
      (m.toList.map fun e => g e.1 e.2).sum - g k (m[k]?.getD 0) + g k v := by
  have hnew := ((Std.TreeMap.toList_insert_perm (t := m) (k := k) (v := v)).map
    fun e => g e.1 e.2).sum_eq
  rw [List.map_cons, List.sum_cons] at hnew
  cases hold : m[k]? with
  | none =>
    have hothers : m.toList.filter (fun e => decide ¬(k == e.1) = true) = m.toList := by
      refine List.filter_eq_self.2 fun e he => ?_
      have hget := Std.TreeMap.mem_toList_iff_getElem?_eq_some.1 he
      simp only [beq_iff_eq, decide_not, Bool.not_eq_true', decide_eq_false_iff_not]
      rintro rfl
      simp [hold] at hget
    rw [hnew, hothers, Option.getD_none, hg]
    ring
  | some old =>
    have hall := ((toList_perm_of_getElem? hold).map fun e => g e.1 e.2).sum_eq
    rw [List.map_cons, List.sum_cons] at hall
    rw [hnew, hall, Option.getD_some]
    ring

/-- A quantity that every step raises by an amount of its own. -/
theorem foldl_eq_add_sum {σ β : Type} {f : σ → ℝ} {step : σ → β → σ} {amount : β → ℝ}
    (h : ∀ s x, f (step s x) = f s + amount x) (xs : List β) (s : σ) :
    f (xs.foldl step s) = f s + (xs.map amount).sum := by
  induction xs generalizing s with
  | nil => simp
  | cons x xs ih => rw [List.foldl_cons, ih, h, List.map_cons, List.sum_cons, add_assoc]

/-! ## One stay -/

theorem segments_clip {arrival departure : ℝ} {hours : List (OpeningTime ℝ)} (h : hours ≠ []) :
    (clip arrival departure hours).segments = hours.map (clipTo arrival departure) := by
  cases hours with
  | nil => exact absurd rfl h
  | cons _ _ => rfl

theorem performed_clip (arrival departure : ℝ) (hours : List (OpeningTime ℝ)) :
    (clip arrival departure hours).performed =
      ((clip arrival departure hours).segments.map fun s => s.2 - s.1).sum := by
  unfold clip
  split
  · simp
  · simp only [List.sum_eq_foldl, List.foldl_map, Nat.cast_zero]

theorem performed_add_waiting_clip (arrival departure : ℝ) (hours : List (OpeningTime ℝ)) :
    (clip arrival departure hours).performed + (clip arrival departure hours).waiting =
      departure - arrival := by
  unfold clip
  split
  · simp
  · exact add_sub_cancel _ _

namespace Stay

variable (stay : Stay ℝ) (facilities : Facilities ℝ) (day : DayType)

theorem performed_eq_sum :
    (stay.clipped facilities day).performed =
      ((stay.clipped facilities day).segments.map fun s => s.2 - s.1).sum :=
  performed_clip ..

theorem performed_add_waiting :
    (stay.clipped facilities day).performed + (stay.clipped facilities day).waiting =
      stay.departure - stay.arrival :=
  performed_add_waiting_clip ..

end Stay

/-- The part of a stay within hours that do not close before they open. -/
theorem clipTo_fst_le_snd {arrival departure : ℝ} (h : arrival ≤ departure) {t : OpeningTime ℝ}
    (hopens : 0 ≤ t.opens) (hcloses : t.opens ≤ t.closes) :
    (clipTo arrival departure t).1 ≤ (clipTo arrival departure t).2 := by
  simp only [clipTo, Nat.cast_zero, hopens, hopens.trans hcloses, true_and]
  split
  · exact le_rfl
  · next hmeets =>
    simp only [not_or, not_lt] at hmeets
    dsimp only
    split <;> split <;> linarith

/-- Within such hours no part of a stay ends before it starts. -/
theorem Stay.segments_ordered {stay : Stay ℝ} (h : stay.arrival ≤ stay.departure)
    {facilities : Facilities ℝ} {day : DayType}
    (hhours : ∀ t ∈ stay.openingTimes facilities day, 0 ≤ t.opens ∧ t.opens ≤ t.closes) :
    ∀ segment ∈ (stay.clipped facilities day).segments, segment.1 ≤ segment.2 := by
  unfold clipped clip
  split
  · exact List.forall_mem_singleton.2 h
  · intro segment hsegment
    obtain ⟨t, ht, rfl⟩ := List.mem_map.1 hsegment
    exact clipTo_fst_le_snd h (hhours t ht).1 (hhours t ht).2

/-! ## A market -/

/-- From nine to twelve on working days, and from ten to one on Wednesdays. -/
noncomputable def marketHours : List (OpeningTime ℝ) :=
  [⟨.wkday, 32400, 43200⟩, ⟨.wed, 36000, 46800⟩]

/-- What is offered at these hours. -/
noncomputable def marketShop : ActivityOption ℝ :=
  { activityType := "shop", openingTimes := marketHours }

/-- A market that is open at these hours. -/
noncomputable def market : Facilities ℝ where
  list := #[Facility.addOption { id := ⟨0⟩, label := "market", coord := ⟨0, 0⟩ } marketShop]

theorem openingTimesOn_marketShop (day : DayType) :
    marketShop.openingTimesOn day = marketHours.filter fun t => t.day.covers day := by
  have hsorted : marketHours.Pairwise fun s t => Number.totalLE s.opens t.opens = true := by
    have hopens : Number.totalLE (32400 : ℝ) 36000 = true := decide_eq_true (by norm_num)
    simp [marketHours, hopens]
  exact List.mergeSort_of_pairwise (hsorted.filter _)

theorem openingTimes_market {stay : Stay ℝ} (hfacility : stay.facility? = some ⟨0⟩)
    (htype : stay.activityType = "shop") (day : DayType) :
    stay.openingTimes market day = marketHours.filter fun t => t.day.covers day := by
  have hoption : ((stay.facility?.bind market.get?).bind fun f => f.option? stay.activityType) =
      some marketShop := by
    rw [hfacility, htype]
    rfl
  rw [Stay.openingTimes, hoption]
  exact openingTimesOn_marketShop day

namespace Ledger

/-- A sum over all activity types with their durations. -/
noncomputable def total (l : Ledger ℝ) (g : String → ℝ → ℝ) : ℝ :=
  (l.durations.toList.map fun e => g e.1 e.2).sum

theorem duration_eq (l : Ledger ℝ) (activityType : String) :
    l.duration activityType = l.durations[activityType]?.getD 0 := by
  rw [duration, Nat.cast_zero]

theorem duration_blank (activityType : String) : (blank : Ledger ℝ).duration activityType = 0 :=
  Nat.cast_zero

theorem total_blank (g : String → ℝ → ℝ) : (blank : Ledger ℝ).total g = 0 := rfl

theorem waiting_blank : (blank : Ledger ℝ).waiting = 0 := Nat.cast_zero

end Ledger

namespace ScoringPipeline

variable (p : ScoringPipeline ℝ) (facilities : Facilities ℝ)

/-! ## Durations -/

theorem durations_addSegment (stay : Stay ℝ) (l : Ledger ℝ) (segment : ℝ × ℝ) (t : String) :
    (p.addSegment stay l segment).durations[t]? =
      if stay.activityType = t then some (l.duration t + (segment.2 - segment.1))
      else l.durations[t]? := by
  rw [addSegment, Std.TreeMap.getElem?_insert]
  by_cases h : stay.activityType = t
  · simp [h]
  · rw [if_neg (mt Std.LawfulEqOrd.eq_of_compare h), if_neg h]

theorem duration_addSegment (stay : Stay ℝ) (l : Ledger ℝ) (segment : ℝ × ℝ) (t : String) :
    (p.addSegment stay l segment).duration t =
      l.duration t + if stay.activityType = t then segment.2 - segment.1 else 0 := by
  rw [Ledger.duration_eq, durations_addSegment]
  split
  · rfl
  · rw [Ledger.duration_eq, add_zero]

/-- What a part of a stay adds to a sum over all durations. -/
theorem total_addSegment (stay : Stay ℝ) (l : Ledger ℝ) (segment : ℝ × ℝ) {g : String → ℝ → ℝ}
    (hg : g stay.activityType 0 = 0) :
    (p.addSegment stay l segment).total g = l.total g +
      (g stay.activityType (l.duration stay.activityType + (segment.2 - segment.1)) -
        g stay.activityType (l.duration stay.activityType)) := by
  rw [Ledger.total, addSegment, sum_toList_insert _ _ _ hg, ← Ledger.duration_eq, Ledger.total]
  ring

theorem durations_foldl_addSegment (stay : Stay ℝ) {segments : List (ℝ × ℝ)} (h : segments ≠ [])
    (l : Ledger ℝ) (t : String) :
    (segments.foldl (p.addSegment stay) l).durations[t]? =
      if stay.activityType = t then
        some (l.duration t + (segments.map fun s => s.2 - s.1).sum)
      else l.durations[t]? := by
  induction segments generalizing l with
  | nil => exact absurd rfl h
  | cons segment segments ih =>
    rw [List.foldl_cons, List.map_cons, List.sum_cons]
    cases segments with
    | nil => rw [List.foldl_nil, durations_addSegment, List.map_nil, List.sum_nil, add_zero]
    | cons =>
      rw [ih (List.cons_ne_nil _ _), duration_addSegment, durations_addSegment]
      split
      · rw [add_assoc]
      · rfl

/-- The time that a stay was performed for. -/
noncomputable def performed (stay : Stay ℝ) : ℝ :=
  (stay.clipped facilities p.params.day).performed

/-- By how much a stay was too short. -/
noncomputable def shortfall (stay : Stay ℝ) : ℝ :=
  let performed := (stay.clipped facilities p.params.day).performed
  if 0 ≤ p.params.minimumDuration ∧ performed < p.params.minimumDuration then
    p.params.minimumDuration - performed
  else 0

theorem durations_addStay (l : Ledger ℝ) (stay : Stay ℝ) (t : String) :
    (p.addStay facilities l stay).durations[t]? =
      if stay.activityType = t then some (l.duration t + p.performed facilities stay)
      else l.durations[t]? := by
  rw [performed, Stay.performed_eq_sum]
  exact p.durations_foldl_addSegment stay (stay.segments_ne_nil facilities p.params.day) l t

/-- **The time performed of an activity type** is that of all stays of the type. -/
theorem durations_foldl_addStay (stays : List (Stay ℝ)) (l : Ledger ℝ) (t : String) :
    (stays.foldl (p.addStay facilities) l).durations[t]? =
      if ∃ stay ∈ stays, stay.activityType = t then
        some (l.duration t +
          ((stays.filter (·.activityType = t)).map (p.performed facilities)).sum)
      else l.durations[t]? := by
  induction stays generalizing l with
  | nil => simp
  | cons stay stays ih =>
    rw [List.foldl_cons, ih, Ledger.duration_eq, durations_addStay]
    by_cases hstay : stay.activityType = t
    · have hexists : ∃ s ∈ stay :: stays, s.activityType = t := ⟨stay, List.mem_cons_self, hstay⟩
      have hfilter : (stay :: stays).filter (·.activityType = t) =
          stay :: stays.filter (·.activityType = t) := List.filter_cons_of_pos (decide_eq_true hstay)
      rw [if_pos hstay, if_pos hexists, Option.getD_some, hfilter, List.map_cons, List.sum_cons,
        ← add_assoc, ite_eq_left_iff]
      intro hnone
      rw [List.filter_eq_nil_iff.2 fun other hother h => hnone ⟨other, hother, of_decide_eq_true h⟩,
        List.map_nil, List.sum_nil, add_zero]
    · simp [hstay, Ledger.duration_eq]

/-! ## Time -/

/-- Booking parts of a stay changes nothing but durations and records. -/
theorem exists_foldl_addSegment_eq (stay : Stay ℝ) (segments : List (ℝ × ℝ)) (l : Ledger ℝ) :
    ∃ durations records, segments.foldl (p.addSegment stay) l = { l with durations, records } := by
  refine List.foldlRecOn (motive := fun l' : Ledger ℝ => ∃ durations records,
    l' = { l with durations, records }) _ _ ⟨l.durations, l.records, rfl⟩ ?_
  rintro _ ⟨durations, records, rfl⟩ segment _
  exact ⟨_, _, rfl⟩

theorem waiting_addStay (l : Ledger ℝ) (stay : Stay ℝ) :
    (p.addStay facilities l stay).waiting =
      l.waiting + (stay.clipped facilities p.params.day).waiting := by
  obtain ⟨durations, records, h⟩ := p.exists_foldl_addSegment_eq stay
    (stay.clipped facilities p.params.day).segments l
  simp only [addStay, bookRest, h]

theorem tooShort_addStay (l : Ledger ℝ) (stay : Stay ℝ) :
    (p.addStay facilities l stay).tooShort = l.tooShort + p.shortfall facilities stay := by
  obtain ⟨durations, records, h⟩ := p.exists_foldl_addSegment_eq stay
    (stay.clipped facilities p.params.day).segments l
  simp only [addStay, bookRest, h, shortfall, Nat.cast_zero]
  split
  · rfl
  · rw [add_zero]

/-- What a stay adds to the time performed in all. -/
theorem total_addStay (l : Ledger ℝ) (stay : Stay ℝ) :
    (p.addStay facilities l stay).total (fun _ d => d) =
      l.total (fun _ d => d) + p.performed facilities stay := by
  rw [performed, Stay.performed_eq_sum]
  refine foldl_eq_add_sum (f := fun l : Ledger ℝ => l.total fun _ d => d)
    (fun l segment => ?_) _ l
  rw [total_addSegment _ _ _ _ rfl, add_sub_cancel_left]

variable {p facilities}

/-! ## All stays -/

/-- The stays of a plan follow each other without a gap. -/
theorem sum_sequence (plan : Plan ℝ) (arrival : ℝ) :
    ((Stay.sequence arrival plan).map fun s => s.departure - s.arrival).sum =
      ((Stay.sequence arrival plan).getLast?.map Stay.departure).getD arrival - arrival := by
  induction plan generalizing arrival with
  | nil => simp [Stay.sequence]
  | cons a plan ih =>
    rw [Stay.sequence, List.map_cons, List.sum_cons, ih, List.getLast?_cons]
    cases (Stay.sequence (a.endTime?.getD (Number.upper dayEnd arrival)) plan).getLast? <;> simp

/-- **Every second of every stay is booked once**, as performed or as waited for, whatever the
opening times are: time performed by all activity types and time waited add up to the lengths of the
stays. For the stays of a plan that is the end of the last one. Neither the durations nor the time
waited nor the time by which stays were too short depend on the order of the stays, and neither does
it whether they can be booked. -/
theorem time_conserved {stays : List (Stay ℝ)} {l : Ledger ℝ}
    (h : p.ledger? facilities stays = some l) :
    (l.durations.toList.map Prod.snd).sum + l.waiting =
      (stays.map fun s => s.departure - s.arrival).sum ∧
    (∀ plan, stays = Stay.ofPlan plan →
      (l.durations.toList.map Prod.snd).sum + l.waiting =
        (stays.getLast?.map Stay.departure).getD 0) ∧
    ∀ stays', stays'.Perm stays → ∃ l', p.ledger? facilities stays' = some l' ∧
      l'.durations.toList = l.durations.toList ∧ l'.waiting = l.waiting ∧
      l'.tooShort = l.tooShort := by
  obtain ⟨hbookable, rfl⟩ := ledger?_eq_some_iff.1 h
  have hsum : ((stays.foldl (p.addStay facilities) Ledger.blank).durations.toList.map
      Prod.snd).sum + (stays.foldl (p.addStay facilities) Ledger.blank).waiting =
        (stays.map fun s => s.departure - s.arrival).sum := by
    have htotal := foldl_eq_add_sum (f := fun l : Ledger ℝ => l.total fun _ d => d)
      (p.total_addStay facilities) stays Ledger.blank
    have hwaiting := foldl_eq_add_sum (f := Ledger.waiting) (p.waiting_addStay facilities) stays
      Ledger.blank
    rw [Ledger.total_blank, zero_add] at htotal
    rw [hwaiting, Ledger.waiting_blank, zero_add]
    have hstay : ∀ stay : Stay ℝ, p.performed facilities stay +
        (stay.clipped facilities p.params.day).waiting = stay.departure - stay.arrival :=
      fun stay => stay.performed_add_waiting facilities p.params.day
    rw [← List.map_congr_left fun stay _ => hstay stay, List.sum_map_add, ← htotal]
    rfl
  refine ⟨hsum, ?_, fun stays' hperm => ?_⟩
  · rintro plan rfl
    rw [hsum, Stay.ofPlan, sum_sequence, Nat.cast_zero, sub_zero]
  · have hbookable' := fun stay hstay => hbookable stay (hperm.mem_iff.1 hstay)
    refine ⟨_, ledger?_eq_some_iff.2 ⟨hbookable', rfl⟩, ?_, ?_, ?_⟩
    · refine Std.TreeMap.equiv_iff_toList_eq.1 (.of_forall_constGet?_eq fun t => ?_)
      simp only [durations_foldl_addStay, hperm.mem_iff,
        ((hperm.filter _).map (p.performed facilities)).sum_eq]
    · rw [foldl_eq_add_sum (p.waiting_addStay facilities),
        foldl_eq_add_sum (p.waiting_addStay facilities), (hperm.map _).sum_eq]
    · rw [foldl_eq_add_sum (p.tooShort_addStay facilities),
        foldl_eq_add_sum (p.tooShort_addStay facilities), (hperm.map _).sum_eq]

/-- A day with a visit to the market from eight to two, of which two hours count twice as performed;
they are taken off the time waited. -/
theorem time_conserved_market :
    let p : ScoringPipeline ℝ := ⟨.standard, .linear, .none⟩
    let plan : Plan ℝ := [{ activityType := "h", coord := ⟨0, 0⟩, endTime? := some 28800 },
      { activityType := "shop", coord := ⟨0, 0⟩, facility? := some ⟨0⟩, endTime? := some 50400 },
      { activityType := "h", coord := ⟨0, 0⟩ }]
    ∃ l l', p.ledger? market (Stay.ofPlan plan) = some l ∧
      (l.durations.toList.map Prod.snd).sum + l.waiting = 86400 ∧
      p.ledger? market (Stay.ofPlan plan).reverse = some l' ∧
      l'.durations.toList = l.durations.toList ∧ l'.waiting = l.waiting := by
  intro p plan
  have hbookable : ∀ stay ∈ Stay.ofPlan plan, p.Bookable market stay :=
    fun _ _ _ _ hrecorded => absurd hrecorded.1 Bool.false_ne_true
  have h := ledger?_eq_some_iff.2 ⟨hbookable, rfl⟩
  obtain ⟨-, hplan, hperm⟩ := time_conserved h
  obtain ⟨l', hl', hdurations, hwaiting, -⟩ := hperm _ (List.reverse_perm _)
  refine ⟨_, l', h, ?_, hl', hdurations, hwaiting⟩
  rw [hplan plan rfl]
  have hlast : Number.upper (dayEnd : ℝ) 50400 = 86400 := by
    rw [Number.upper_real, dayEnd]
    norm_num
  simpa [plan, Stay.ofPlan, Stay.sequence] using hlast

end ScoringPipeline

end SpatialAccess
