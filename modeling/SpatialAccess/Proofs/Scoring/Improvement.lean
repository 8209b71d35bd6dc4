import SpatialAccess.Proofs.Scoring.Conservation
import SpatialAccess.Proofs.Scoring.Crowding
import SpatialAccess.Proofs.Scoring.Refusal

/-!
# What parts of stays add to the score

* `PerformanceKind.monotoneOn_utility`: more time performed is never worth less.
* `ScoringPipeline.earned`: what the durations of some activity types are worth.
* `ScoringPipeline.Balanced`: the improvements recorded in a ledger are the worth of its durations.
  `ScoringPipeline.Balanced.addSegment`: a part of a stay more keeps that;
  `ScoringPipeline.Balanced.foldl_addStay`: so do all stays.
* `ScoringPipeline.finish_eq_ok_iff`: when there is a score, and which one.
* **`ScoringPipeline.improvements_eq_earned`**: the improvements that are recorded are what the
  penalised activity types earn, and the penalties are at most that.
-/

namespace SpatialAccess

/-! ## Utility -/

theorem zeroUtilityDuration_pos {typical : ℝ} (h : 0 < typical) (priority : ℝ) :
    0 < zeroUtilityDuration typical priority :=
  mul_pos (div_pos h (by rw [Nat.cast_pos]; decide)) (Real.exp_pos _)

/-- Longer is not worth less by the logarithm: a negative worth of waiting does not count. -/
theorem logarithmicUtility_le {params : ScoringParams ℝ} {typical d d' : ℝ}
    (hperforming : 0 ≤ params.performing) (htypical : 0 < typical) (hd : 0 < d) (hle : d ≤ d') :
    logarithmicUtility params typical d ≤ logarithmicUtility params typical d' := by
  have hhour : (0 : ℝ) < ((3600 : ℕ) : ℝ) := by norm_num
  have hzero := zeroUtilityDuration_pos htypical params.priority
  have hlog : Real.log (d / ((3600 : ℕ) : ℝ) / zeroUtilityDuration typical params.priority) ≤
      Real.log (d' / ((3600 : ℕ) : ℝ) / zeroUtilityDuration typical params.priority) :=
    Real.log_le_log (div_pos (div_pos hd hhour) hzero) (by gcongr)
  simp only [logarithmicUtility, Number.upper_real, Nat.cast_zero]
  refine max_le (le_max_left _ _) (max_le ?_ ?_)
  · refine le_max_of_le_right (le_max_of_le_left ?_)
    exact mul_le_mul_of_nonneg_left hlog (mul_nonneg hperforming htypical.le)
  · obtain hwaiting | hwaiting := le_total 0 params.waiting
    · exact le_max_of_le_right (le_max_of_le_right (mul_le_mul_of_nonneg_left hle hwaiting))
    · exact le_max_of_le_left (mul_nonpos_of_nonpos_of_nonneg hwaiting hd.le)

/-- **More time is never worth less** by either rule, unless performing costs. -/
theorem PerformanceKind.monotoneOn_utility (k : PerformanceKind) {params : ScoringParams ℝ}
    {typical : ℝ} (hperforming : 0 ≤ params.performing) (htypical : 0 < typical) :
    MonotoneOn (k.utility params typical) (Set.Ici 0) := by
  intro d hd d' _ hle
  cases k with
  | linear => exact mul_le_mul_of_nonneg_left hle hperforming
  | charyparNagel =>
    simp only [utility, Nat.cast_zero]
    obtain hd | rfl := (Set.mem_Ici.1 hd).lt_or_eq
    · rw [if_pos hd, if_pos (hd.trans_le hle)]
      exact logarithmicUtility_le hperforming htypical hd hle
    · have hnothing : Number.abs (0 : ℝ) = 0 := abs_zero
      rw [if_neg (lt_irrefl _), hnothing, mul_zero]
      split
      · simp only [logarithmicUtility, Number.upper_real, Nat.cast_zero]
        exact le_max_left _ _
      · next hd' => simp [le_antisymm (not_lt.1 hd') hle, hnothing]

namespace ScoringPipeline

variable {p : ScoringPipeline ℝ} {facilities : Facilities ℝ}

/-! ## Worth -/

/-- Doing nothing is worth nothing. -/
theorem worth_zero (p : ScoringPipeline ℝ) (activityType : String) :
    p.worth activityType 0 = 0 := by
  cases h : p.params.typical? activityType with
  | none => rw [worth_of_typical?_eq_none h, Nat.cast_zero]
  | some typical =>
    rw [worth_of_typical? h]
    cases p.performance with
    | charyparNagel => simp [PerformanceKind.utility, Number.abs]
    | linear => exact mul_zero _

/-- What the durations of the activity types of a kind are worth. -/
noncomputable def earned (p : ScoringPipeline ℝ) (l : Ledger ℝ) (kind : String → Bool) : ℝ :=
  ((l.durations.toList.filter fun e => kind e.1).map fun e => p.worth e.1 e.2).sum

theorem earned_eq_total (l : Ledger ℝ) (kind : String → Bool) :
    p.earned l kind = l.total fun t d => if kind t then p.worth t d else 0 := by
  rw [earned, Ledger.total]
  induction l.durations.toList with
  | nil => rfl
  | cons e es ih =>
    rw [List.map_cons, List.sum_cons, ← ih]
    by_cases h : kind e.1
    · simp only [List.filter_cons, h, if_true, List.map_cons, List.sum_cons]
    · simp only [List.filter_cons, h, Bool.false_eq_true, if_false, zero_add]

theorem earned_add_earned_not (l : Ledger ℝ) (kind : String → Bool) :
    p.earned l kind + p.earned l (fun t => !kind t) = l.total p.worth := by
  rw [earned_eq_total, earned_eq_total, Ledger.total, Ledger.total, Ledger.total,
    ← List.sum_map_add]
  congr 2
  funext e
  cases kind e.1 <;> simp

/-- Whether more time performed of a penalised type is never worth less. -/
def Grows (p : ScoringPipeline ℝ) : Prop :=
  ∀ t, p.penalty.appliesTo t → ∀ typical, p.params.typical? t = some typical →
    MonotoneOn (p.performance.utility p.params typical) (Set.Ici 0)

theorem grows_of_nonneg (hperforming : 0 ≤ p.params.performing)
    (htypical : ∀ t typical, p.params.typical? t = some typical → 0 < typical) : p.Grows :=
  fun t _ typical h => p.performance.monotoneOn_utility hperforming (htypical t typical h)

/-! ## Parts of stays -/

variable {stay : Stay ℝ} {segment : ℝ × ℝ} {l : Ledger ℝ}

theorem duration_addSegment_nonneg (h : segment.1 ≤ segment.2) (hl : ∀ t, 0 ≤ l.duration t)
    (t : String) : 0 ≤ (p.addSegment stay l segment).duration t := by
  rw [duration_addSegment]
  refine add_nonneg (hl t) ?_
  split
  · exact sub_nonneg.2 h
  · exact le_rfl

/-- A part of a stay that is not empty and of a penalised type is recorded. -/
theorem isRecorded_or_eq (h : segment.1 ≤ segment.2)
    (happlies : p.penalty.appliesTo stay.activityType) :
    p.IsRecorded stay segment ∨ segment.1 = segment.2 :=
  h.lt_or_eq.imp_left fun hlt => ⟨happlies, by rwa [Nat.cast_zero, sub_pos]⟩

/-- The improvements stay the worth of all durations of penalised types. -/
theorem improvements_addSegment (h : segment.1 ≤ segment.2)
    (hl : (l.records.map PenaltyRecord.improvement).sum = p.earned l p.penalty.appliesTo) :
    ((p.addSegment stay l segment).records.map PenaltyRecord.improvement).sum =
      p.earned (p.addSegment stay l segment) p.penalty.appliesTo := by
  rw [earned_eq_total] at hl
  rw [earned_eq_total, total_addSegment _ _ _ _ (by rw [worth_zero, ite_self]), ← hl, addSegment,
    List.map_append, List.sum_append, add_right_inj]
  by_cases hrecorded : p.IsRecorded stay segment
  · rw [if_pos hrecorded, if_pos hrecorded.1, if_pos hrecorded.1, List.map_singleton,
      List.sum_singleton, recordOf]
  · -- nothing is recorded of a part that is empty or whose type is not penalised
    rw [if_neg hrecorded, List.map_nil, List.sum_nil, eq_comm, sub_eq_zero]
    by_cases happlies : p.penalty.appliesTo stay.activityType
    · obtain hyes | heq := isRecorded_or_eq h happlies
      · exact absurd hyes hrecorded
      · rw [heq, sub_self, add_zero]
    · rw [if_neg happlies, if_neg happlies]

/-- A penalised type that time was performed of has a typical duration. -/
theorem typical?_addSegment (h : segment.1 ≤ segment.2)
    (hbookable : p.IsRecorded stay segment → (p.params.typical? stay.activityType).isSome)
    (hl : ∀ t, p.penalty.appliesTo t → l.duration t = 0 ∨ (p.params.typical? t).isSome) (t : String)
    (happlies : p.penalty.appliesTo t) :
    (p.addSegment stay l segment).duration t = 0 ∨ (p.params.typical? t).isSome := by
  rw [duration_addSegment]
  split
  · next hstay =>
    subst hstay
    obtain hrecorded | heq := isRecorded_or_eq h happlies
    · exact .inr (hbookable hrecorded)
    · rw [heq, sub_self, add_zero]
      exact hl _ happlies
  · rw [add_zero]
    exact hl t happlies

/-- A part of a stay never lowers the score, if more time is not worth less. -/
theorem improvement_recordOf_nonneg (h : segment.1 ≤ segment.2) (hl : ∀ t, 0 ≤ l.duration t)
    (hgrows : p.Grows) (happlies : p.penalty.appliesTo stay.activityType) :
    0 ≤ (p.recordOf stay l segment).improvement := by
  have hbefore := hl stay.activityType
  have hreached : l.duration stay.activityType ≤
      l.duration stay.activityType + (segment.2 - segment.1) :=
    le_add_of_nonneg_right (sub_nonneg.2 h)
  rw [recordOf, sub_nonneg]
  cases htypical : p.params.typical? stay.activityType with
  | none => rw [worth_of_typical?_eq_none htypical, worth_of_typical?_eq_none htypical]
  | some typical =>
    rw [worth_of_typical? htypical, worth_of_typical? htypical]
    exact hgrows _ happlies typical htypical hbefore (hbefore.trans hreached) hreached

theorem improvements_addSegment_nonneg (h : segment.1 ≤ segment.2) (hl : ∀ t, 0 ≤ l.duration t)
    (hgrows : p.Grows) (hrecords : ∀ r ∈ l.records, 0 ≤ r.improvement) :
    ∀ r ∈ (p.addSegment stay l segment).records, 0 ≤ r.improvement := by
  intro r hr
  obtain hr | hr := List.mem_append.1 hr
  · exact hrecords r hr
  · split at hr
    · next hrecorded =>
      rw [List.mem_singleton.1 hr]
      exact improvement_recordOf_nonneg h hl hgrows hrecorded.1
    · exact absurd hr List.not_mem_nil

/-! ## Runs -/

/-- What holds of a ledger after parts of stays none of which ends before it starts. -/
structure Balanced (p : ScoringPipeline ℝ) (l : Ledger ℝ) : Prop where
  duration_nonneg : ∀ t, 0 ≤ l.duration t
  improvements : (l.records.map PenaltyRecord.improvement).sum = p.earned l p.penalty.appliesTo
  typical : ∀ t, p.penalty.appliesTo t → l.duration t = 0 ∨ (p.params.typical? t).isSome
  improvement_nonneg : p.Grows → ∀ r ∈ l.records, 0 ≤ r.improvement

namespace Balanced

theorem blank : p.Balanced .blank where
  duration_nonneg t := (Ledger.duration_blank t).ge
  improvements := rfl
  typical t _ := .inl (Ledger.duration_blank t)
  improvement_nonneg _ := List.forall_mem_nil _

theorem addSegment (hl : p.Balanced l) (h : segment.1 ≤ segment.2)
    (hbookable : p.IsRecorded stay segment → (p.params.typical? stay.activityType).isSome) :
    p.Balanced (p.addSegment stay l segment) where
  duration_nonneg := duration_addSegment_nonneg h hl.duration_nonneg
  improvements := improvements_addSegment h hl.improvements
  typical := typical?_addSegment h hbookable hl.typical
  improvement_nonneg hgrows :=
    improvements_addSegment_nonneg h hl.duration_nonneg hgrows (hl.improvement_nonneg hgrows)

theorem bookRest (hl : p.Balanced l) (clipped : Clipped ℝ) : p.Balanced (p.bookRest clipped l) where
  duration_nonneg := hl.duration_nonneg
  improvements := hl.improvements
  typical := hl.typical
  improvement_nonneg := hl.improvement_nonneg

/-- Stays without a reversed part keep a ledger balanced. -/
theorem foldl_addStay (hl : p.Balanced l) {stays : List (Stay ℝ)}
    (hbookable : ∀ stay ∈ stays, p.Bookable facilities stay)
    (hparts : ∀ stay ∈ stays, ∀ segment ∈ (stay.clipped facilities p.params.day).segments,
      segment.1 ≤ segment.2) :
    p.Balanced (stays.foldl (p.addStay facilities) l) :=
  List.foldlRecOn _ _ hl fun _ hl stay hstay =>
    (List.foldlRecOn _ _ hl fun _ hl segment hsegment => hl.addSegment
      (hparts stay hstay segment hsegment) (hbookable stay hstay segment hsegment)).bookRest _

end Balanced

/-! ## The score -/

theorem performanceOf_eq_ok_iff {l : Ledger ℝ} {performance : ℝ} :
    p.performanceOf l = .ok performance ↔
      (∀ e ∈ l.durations.toList, (p.params.typical? e.1).isSome) ∧
        performance = l.total p.worth := by
  have hfold : ∀ (es : List (String × ℝ)) (sum : ℝ),
      es.foldlM (fun sum (activityType, duration) => do
        return sum + (← p.utility activityType duration)) sum = .ok performance ↔
          (∀ e ∈ es, (p.params.typical? e.1).isSome) ∧
            performance = sum + (es.map fun e => p.worth e.1 e.2).sum := by
    intro es
    induction es with
    | nil =>
      intro sum
      rw [List.map_nil, List.sum_nil, add_zero, List.foldlM_nil,
        and_iff_right (List.forall_mem_nil _), eq_comm (a := performance)]
      exact ⟨Except.ok.inj, congrArg Except.ok⟩
    | cons e es ih =>
      intro sum
      rw [List.foldlM_cons, Except.bind_eq_ok]
      simp only [ih, List.forall_mem_cons]
      cases h : p.params.typical? e.1 with
      | none => simp [utility, h]
      | some typical => simp [utility_of_typical? h, worth_of_typical? h, add_assoc]
  rw [performanceOf, hfold, Nat.cast_zero, zero_add]
  rfl

/-- There is a score just if every activity type that was booked has a typical duration. -/
theorem finish_eq_ok_iff {l : Ledger ℝ} {score : ScoreBreakdown ℝ} :
    p.finish l = .ok score ↔ (∀ e ∈ l.durations.toList, (p.params.typical? e.1).isSome) ∧
      score = {
        tooShort := p.params.earlyDeparture * l.tooShort
        waiting := p.params.waiting * l.waiting
        performance := l.total p.worth
        penalties := (l.records.map p.penalty.amount).sum } := by
  rw [finish, Except.bind_eq_ok]
  simp only [performanceOf_eq_ok_iff, Number.sum_real]
  constructor
  · rintro ⟨_, ⟨htypical, rfl⟩, h⟩
    exact ⟨htypical, (Except.ok.inj h).symm⟩
  · rintro ⟨htypical, rfl⟩
    exact ⟨_, ⟨htypical, rfl⟩, rfl⟩

/-- **The improvements that are recorded** are what all time performed of penalised types is worth,
however stays of different types and at different facilities follow each other: each of them that
lasted at all has a typical duration, and the rest of the performance is that of the other types. If
more time is never worth less, and loads are those of visitors, **the penalties are between nothing
and that**. -/
theorem improvements_eq_earned {stays : List (Stay ℝ)} {l : Ledger ℝ}
    (h : p.ledger? facilities stays = some l)
    (hparts : ∀ stay ∈ stays, ∀ segment ∈ (stay.clipped facilities p.params.day).segments,
      segment.1 ≤ segment.2) :
    (l.records.map PenaltyRecord.improvement).sum = p.earned l p.penalty.appliesTo ∧
    (∀ t, p.penalty.appliesTo t →
      l.duration t = 0 ∨ p.utility t (l.duration t) = .ok (p.worth t (l.duration t))) ∧
    ∀ score, p.finish l = .ok score →
      (∀ e ∈ l.durations.toList, p.utility e.1 e.2 = .ok (p.worth e.1 e.2)) ∧
      score.performance =
        p.earned l p.penalty.appliesTo + p.earned l (fun t => !p.penalty.appliesTo t) ∧
      (p.Grows → p.penalty.OfVisitors →
        score.penalties ∈ Set.Icc 0 (p.earned l p.penalty.appliesTo)) := by
  obtain ⟨hbookable, rfl⟩ := ledger?_eq_some_iff.1 h
  have hbalanced := Balanced.blank.foldl_addStay hbookable hparts
  refine ⟨hbalanced.improvements, fun t happlies => ?_, fun score hscore => ?_⟩
  · refine (hbalanced.typical t happlies).imp_right fun htypical => ?_
    exact utility_eq_ok htypical _
  obtain ⟨htypical, rfl⟩ := finish_eq_ok_iff.1 hscore
  refine ⟨fun e he => utility_eq_ok (htypical e he) _, (earned_add_earned_not _ _).symm,
    fun hgrows hvisitors => ?_⟩
  have hamount := fun r hr =>
    Penalty.amount_mem_Icc hvisitors (hbalanced.improvement_nonneg hgrows r hr)
  constructor
  · refine List.sum_nonneg fun amount hmem => ?_
    obtain ⟨r, hr, rfl⟩ := List.mem_map.1 hmem
    exact (hamount r hr).1
  · rw [← hbalanced.improvements]
    exact List.sum_le_sum fun r hr => (hamount r hr).2

/-- A day with a visit to a crowded market, the parts of which overlap. -/
theorem improvements_eq_earned_market :
    let load : FacilityLoad ℝ := .ofVisits 1 [(32400, 36000), (32400, 36000)]
    let p : ScoringPipeline ℝ := {
      params := (ScoringParams.standard.withTypical "h" 43200).withTypical "shop" 3600
      performance := .charyparNagel
      penalty := .facilityLoad (({} : Std.HashMap _ _).insert ⟨0⟩ load) 1 1 }
    let stays : List (Stay ℝ) := [
      { activityType := "h", arrival := 0, departure := 28800 },
      { activityType := "shop", facility? := some ⟨0⟩, arrival := 28800, departure := 50400 },
      { activityType := "h", arrival := 50400, departure := 86400 }]
    ∃ l score, p.ledger? market stays = some l ∧ p.finish l = .ok score ∧
      (l.records.map PenaltyRecord.improvement).sum = p.earned l p.penalty.appliesTo ∧
      score.performance =
        p.earned l p.penalty.appliesTo + p.earned l (fun t => !p.penalty.appliesTo t) ∧
      score.penalties ∈ Set.Icc 0 (p.earned l p.penalty.appliesTo) := by
  intro load p stays
  have htypical : ∀ stay ∈ stays, (p.params.typical? stay.activityType).isSome := by
    simp only [stays, List.forall_mem_cons, List.not_mem_nil, false_imp_iff, implies_true, and_true]
    exact ⟨rfl, rfl, rfl⟩
  have hbookable : ∀ stay ∈ stays, p.Bookable market stay :=
    fun stay hstay _ _ _ => htypical stay hstay
  have hledger := ledger?_eq_some_iff.2 ⟨hbookable, rfl⟩
  have hparts : ∀ stay ∈ stays, ∀ segment ∈ (stay.clipped market p.params.day).segments,
      segment.1 ≤ segment.2 := by
    simp only [stays, List.forall_mem_cons, List.not_mem_nil, false_imp_iff, implies_true, and_true]
    refine ⟨Stay.segments_ordered (by norm_num) (List.forall_mem_nil _),
      Stay.segments_ordered (by norm_num) ?_,
      Stay.segments_ordered (by norm_num) (List.forall_mem_nil _)⟩
    rw [openingTimes_market rfl rfl]
    intro t ht
    have hhours : ∀ t ∈ marketHours, 0 ≤ t.opens ∧ t.opens ≤ t.closes := by norm_num [marketHours]
    exact hhours t (List.mem_of_mem_filter ht)
  have hgrows : p.Grows := by
    have hperforming : 0 ≤ p.params.performing := div_nonneg (Nat.cast_nonneg _) (Nat.cast_nonneg _)
    refine grows_of_nonneg hperforming fun t typical h => ?_
    simp only [p, ScoringParams.typical?, ScoringParams.withTypical, ScoringParams.standard,
      Std.TreeMap.getElem?_insert] at h
    split at h
    · norm_num [← Option.some.inj h]
    · split at h
      · norm_num [← Option.some.inj h]
      · cases h
  have hvisitors : p.penalty.OfVisitors := by
    refine ⟨zero_le_one, fun id load' h => ?_⟩
    rw [Std.HashMap.getElem?_insert] at h
    split at h
    · exact ⟨1, _, (Option.some.inj h).symm⟩
    · simp at h
  obtain ⟨score, hscore⟩ := (exists_finish_eq_ok_iff hledger).2 htypical
  obtain ⟨himprovements, -, hfinish⟩ := improvements_eq_earned hledger hparts
  obtain ⟨-, hperformance, hpenalties⟩ := hfinish score hscore
  exact ⟨_, score, hledger, hscore, himprovements, hperformance, hpenalties hgrows hvisitors⟩

end ScoringPipeline

end SpatialAccess
