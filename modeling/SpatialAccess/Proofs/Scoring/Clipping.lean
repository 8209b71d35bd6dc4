import SpatialAccess.Proofs.Scoring.OpenTime

/-!
# Parts of a stay

What is left of a stay within hours that open at some time and do not close before.

* `OpeningTime.Proper`: such hours. `OpeningTime.Proper.clipTo_eq`: the part of a stay in them.
* `OpeningTime.Proper.length_clipTo`: the length of this part is that of what they share with the
  stay. `OpeningTime.Proper.volume_inter_times`: this is how far the closest time within the hours
  moves during the stay, so that stays can be cut in two.
* `volume_inter_openTimes`: if no two hours share more than a moment, these lengths add up.
* **`clip_spec`**: the parts of a stay, the time performed and the time waited.
-/

namespace SpatialAccess

open MeasureTheory

/-! ## One part -/

namespace OpeningTime

/-- Hours that open at some time, and do not close before. -/
def Proper (t : OpeningTime ℝ) : Prop :=
  0 ≤ t.opens ∧ t.opens ≤ t.closes

/-- The times at which hours are open. -/
def times (t : OpeningTime ℝ) : Set ℝ :=
  Set.Icc t.opens t.closes

/-- The time within hours that is closest to a time. -/
noncomputable def closest (t : OpeningTime ℝ) (x : ℝ) : ℝ :=
  max t.opens (min x t.closes)

namespace Proper

variable {t u : OpeningTime ℝ} {arrival departure : ℝ}

theorem isOpenAt_iff (ht : t.Proper) {x : ℝ} : t.IsOpenAt x ↔ x ∈ t.times := by
  simp only [IsOpenAt, ht.1, ht.1.trans ht.2, true_imp_iff, times, Set.mem_Icc]

/-- The part of a stay in proper hours, whether they meet or not. -/
theorem clipTo_eq (ht : t.Proper) (arrival departure : ℝ) :
    clipTo arrival departure t = if t.opens ≤ departure ∧ arrival ≤ t.closes then
      (max arrival t.opens, min departure t.closes) else (departure, departure) := by
  simp only [clipTo, Nat.cast_zero, ht.1, ht.1.trans ht.2, true_and]
  by_cases hmeet : t.opens ≤ departure ∧ arrival ≤ t.closes
  · rw [if_pos hmeet, if_neg (by simpa [not_or] using hmeet)]
    congr 1
    · split
      · next h => exact (max_eq_right h.le).symm
      · next h => exact (max_eq_left (not_lt.1 h)).symm
    · split
      · next h => exact (min_eq_right h.le).symm
      · next h => exact (min_eq_left (not_lt.1 h)).symm
  · rw [if_neg hmeet, if_pos (by rwa [not_and_or, not_le, not_le] at hmeet)]

theorem clipTo_mem_Icc (ht : t.Proper) (h : arrival ≤ departure) :
    arrival ≤ (clipTo arrival departure t).1 ∧ (clipTo arrival departure t).2 ≤ departure := by
  rw [ht.clipTo_eq]
  split
  · exact ⟨le_max_left _ _, min_le_left _ _⟩
  · exact ⟨h, le_rfl⟩

/-- **The part of a stay in proper hours** is as long as what they share. -/
theorem length_clipTo (ht : t.Proper) (h : arrival ≤ departure) :
    (clipTo arrival departure t).2 - (clipTo arrival departure t).1 =
      volume.real (Set.Icc arrival departure ∩ t.times) := by
  obtain ⟨-, hhours⟩ := id ht
  rw [ht.clipTo_eq, times, Set.Icc_inter_Icc]
  split
  · next hmeet =>
    have hordered : max arrival t.opens ≤ min departure t.closes :=
      max_le (le_min h hmeet.2) (le_min hmeet.1 hhours)
    exact (Real.volume_real_Icc_of_le hordered).symm
  · next hmiss =>
    have hempty : min departure t.closes ≤ max arrival t.opens := by
      obtain hlate | hearly := not_and_or.1 hmiss
      · exact (min_le_left _ _).trans ((not_le.1 hlate).le.trans (le_max_right _ _))
      · exact (min_le_right _ _).trans ((not_le.1 hearly).le.trans (le_max_left _ _))
    rw [Real.volume_real_Icc, max_eq_right (sub_nonpos.2 hempty), sub_self]

/-- What hours share with a stay is how far the closest time within them moves during the stay. -/
theorem volume_inter_times (ht : t.Proper) (h : arrival ≤ departure) :
    volume.real (Set.Icc arrival departure ∩ t.times) =
      t.closest departure - t.closest arrival := by
  obtain ⟨-, hhours⟩ := ht
  rw [times, Set.Icc_inter_Icc, Real.volume_real_Icc, closest, closest]
  grind

/-- Parts of a stay in hours that share no more than a moment share no more than a moment. -/
theorem apart_clipTo (ht : t.Proper) (hu : u.Proper) (hapart : (t.times ∩ u.times).Subsingleton)
    (arrival departure : ℝ) :
    Span.Apart (clipTo arrival departure t) (clipTo arrival departure u) := by
  rw [times, times, Set.Icc_inter_Icc, Set.subsingleton_Icc_iff] at hapart
  rw [Span.Apart, ht.clipTo_eq, hu.clipTo_eq]
  split
  · split
    · exact (min_le_min (min_le_right _ _) (min_le_right _ _)).trans
        (hapart.trans (max_le_max (le_max_right _ _) (le_max_right _ _)))
    -- what misses a stay is the moment of its departure, and shares at most this with other parts
    · exact (min_le_right _ _).trans (le_max_right _ _)
  · exact (min_le_left _ _).trans (le_max_left _ _)

end Proper

end OpeningTime

/-! ## All parts -/

section Clip

variable {arrival departure : ℝ} {ts : List (OpeningTime ℝ)}

theorem performed_clip_eq_sum_volume (h : arrival ≤ departure) (hts : ts ≠ [])
    (hhours : ∀ t ∈ ts, t.Proper) : (clip arrival departure ts).performed =
      (ts.map fun t => volume.real (Set.Icc arrival departure ∩ t.times)).sum := by
  rw [performed_clip, segments_clip hts, List.map_map]
  exact congrArg List.sum (List.map_congr_left fun t ht => (hhours t ht).length_clipTo h)

/-- A stay can be cut in two. -/
theorem performed_clip_split (hts : ts ≠ []) (hhours : ∀ t ∈ ts, t.Proper) {m : ℝ}
    (hm : m ∈ Set.Icc arrival departure) : (clip arrival departure ts).performed =
      (clip arrival m ts).performed + (clip m departure ts).performed := by
  rw [performed_clip_eq_sum_volume (hm.1.trans hm.2) hts hhours,
    performed_clip_eq_sum_volume hm.1 hts hhours, performed_clip_eq_sum_volume hm.2 hts hhours,
    ← List.sum_map_add]
  refine congrArg List.sum (List.map_congr_left fun t ht => ?_)
  rw [(hhours t ht).volume_inter_times (hm.1.trans hm.2), (hhours t ht).volume_inter_times hm.1,
    (hhours t ht).volume_inter_times hm.2]
  ring

/-- The parts of a stay cover what the hours share with it, but for the moment of the departure. -/
theorem volume_covered_segments (hts : ts ≠ []) (hhours : ∀ t ∈ ts, t.Proper) :
    volume.real (Span.covered (clip arrival departure ts).segments) =
      volume.real (Set.Icc arrival departure ∩ ⋃ t ∈ ts, t.times) := by
  refine measureReal_congr ?_
  filter_upwards [Measure.ae_ne volume departure] with x hx
  refine propext ((mem_covered_segments_clip_iff hts hx).trans (and_congr_right fun _ => ?_))
  rw [Set.mem_iUnion₂]
  constructor
  · rintro ⟨t, ht, hopen⟩
    exact ⟨t, ht, (hhours t ht).isOpenAt_iff.1 hopen⟩
  · rintro ⟨t, ht, htimes⟩
    exact ⟨t, ht, (hhours t ht).isOpenAt_iff.2 htimes⟩

/-- Hours that share no more than a moment with each other, share with a stay what is performed. -/
theorem performed_clip_eq_volume (h : arrival ≤ departure) (hts : ts ≠ [])
    (hhours : ∀ t ∈ ts, t.Proper)
    (hapart : ts.Pairwise fun t u => (t.times ∩ u.times).Subsingleton) :
    (clip arrival departure ts).performed =
      volume.real (Set.Icc arrival departure ∩ ⋃ t ∈ ts, t.times) := by
  have hordered : ∀ s ∈ (clip arrival departure ts).segments, s.1 ≤ s.2 := by
    rw [segments_clip hts, List.forall_mem_map]
    exact fun t ht => clipTo_fst_le_snd h (hhours t ht).1 (hhours t ht).2
  have hparts : (clip arrival departure ts).segments.Pairwise Span.Apart := by
    rw [segments_clip hts, List.pairwise_map]
    exact hapart.imp_of_mem fun ht hu hshare =>
      (hhours _ ht).apart_clipTo (hhours _ hu) hshare arrival departure
  rw [← volume_covered_segments hts hhours, performed_clip]
  exact ((Span.volume_covered_eq_iff hordered).2 hparts).symm

/-- What is not performed is the part of the stay outside all hours. -/
theorem waiting_clip_eq_volume (h : arrival ≤ departure) (hts : ts ≠ [])
    (hhours : ∀ t ∈ ts, t.Proper)
    (hapart : ts.Pairwise fun t u => (t.times ∩ u.times).Subsingleton) :
    (clip arrival departure ts).waiting =
      volume.real (Set.Icc arrival departure \ ⋃ t ∈ ts, t.times) := by
  have htimes : MeasurableSet (⋃ t ∈ ts, t.times) :=
    .biUnion ts.finite_toSet.countable fun _ _ => measurableSet_Icc
  have hsplit : volume.real (Set.Icc arrival departure ∩ ⋃ t ∈ ts, t.times) +
      volume.real (Set.Icc arrival departure \ ⋃ t ∈ ts, t.times) =
        volume.real (Set.Icc arrival departure) :=
    measureReal_inter_add_sdiff htimes measure_Icc_lt_top.ne
  rw [Real.volume_real_Icc_of_le h, ← performed_clip_eq_volume h hts hhours hapart] at hsplit
  linarith [performed_add_waiting_clip arrival departure ts]

/-- **The parts of a stay** within hours that open at some time and do not close before. There is one
for each of the hours, and none leaves the stay. Time performed is what the hours share with the
stay, and can be taken together from two halves of it. If no two of the hours share more than a
moment, then time waited is what is left of the stay outside of them. -/
theorem clip_spec (h : arrival ≤ departure) (hts : ts ≠ []) (hhours : ∀ t ∈ ts, t.Proper) :
    (clip arrival departure ts).segments = (ts.map fun t =>
      if t.opens ≤ departure ∧ arrival ≤ t.closes then
        (max arrival t.opens, min departure t.closes) else (departure, departure)) ∧
    (∀ s ∈ (clip arrival departure ts).segments,
      arrival ≤ s.1 ∧ s.1 ≤ s.2 ∧ s.2 ≤ departure) ∧
    (clip arrival departure ts).performed =
      (ts.map fun t => volume.real (Set.Icc arrival departure ∩ t.times)).sum ∧
    (∀ m ∈ Set.Icc arrival departure, (clip arrival departure ts).performed =
      (clip arrival m ts).performed + (clip m departure ts).performed) ∧
    (ts.Pairwise (fun t u => (t.times ∩ u.times).Subsingleton) →
      (clip arrival departure ts).performed ≤ departure - arrival ∧
      (clip arrival departure ts).waiting =
        volume.real (Set.Icc arrival departure \ ⋃ t ∈ ts, t.times)) := by
  refine ⟨?_, ?_, performed_clip_eq_sum_volume h hts hhours,
    fun m => performed_clip_split hts hhours, fun hapart => ?_⟩
  · rw [segments_clip hts]
    exact List.map_congr_left fun t ht => (hhours t ht).clipTo_eq arrival departure
  · rw [segments_clip hts, List.forall_mem_map]
    intro t ht
    obtain ⟨hfrom, huntil⟩ := (hhours t ht).clipTo_mem_Icc h
    exact ⟨hfrom, clipTo_fst_le_snd h (hhours t ht).1 (hhours t ht).2, huntil⟩
  · have hwaiting := waiting_clip_eq_volume h hts hhours hapart
    have hnonneg : 0 ≤ volume.real (Set.Icc arrival departure \ ⋃ t ∈ ts, t.times) :=
      measureReal_nonneg
    refine ⟨?_, hwaiting⟩
    linarith [performed_add_waiting_clip arrival departure ts]

/-- From eight to half past eleven, and from two to six. -/
noncomputable def breakHours : List (OpeningTime ℝ) :=
  [⟨.wed, 28800, 41400⟩, ⟨.wed, 50400, 64800⟩]

/-- On a stay from ten to three, the hours of the break are waited, which are two and a half. -/
theorem clip_spec_breakHours :
    (36000 : ℝ) ≤ 54000 ∧ breakHours ≠ [] ∧ (∀ t ∈ breakHours, t.Proper) ∧
      breakHours.Pairwise (fun t u => (t.times ∩ u.times).Subsingleton) ∧
      (clip 36000 54000 breakHours).segments = [(36000, 41400), (50400, 54000)] ∧
      volume.real (Set.Icc 36000 54000 \ ⋃ t ∈ breakHours, t.times) = 9000 := by
  have hstay : (36000 : ℝ) ≤ 54000 := by norm_num
  have hnonempty : breakHours ≠ [] := List.cons_ne_nil _ _
  have hproper : ∀ t ∈ breakHours, t.Proper := by
    norm_num [breakHours, OpeningTime.Proper]
  have hapart : breakHours.Pairwise fun t u => (t.times ∩ u.times).Subsingleton := by
    norm_num [breakHours, OpeningTime.times, Set.Icc_inter_Icc, Set.subsingleton_Icc_iff]
  obtain ⟨hsegments, -, -, -, hwaiting⟩ := clip_spec hstay hnonempty hproper
  refine ⟨hstay, hnonempty, hproper, hapart, ?_, ?_⟩
  · rw [hsegments]
    norm_num [breakHours]
  · rw [← (hwaiting hapart).2]
    norm_num [clip, clipTo, breakHours]

end Clip

end SpatialAccess
