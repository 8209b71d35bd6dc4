import SpatialAccess.Proofs.Outcome
import SpatialAccess.Scoring.Ledger

/-!
# Booking stays

* `Stay.clipped`: the performed parts of a stay. `Stay.segments_ne_nil`: there always are some.
* `ScoringPipeline.worth`: what a duration is worth, without an error.
* `ScoringPipeline.addSegment`, `ScoringPipeline.addStay`: booking that cannot fail.
* `ScoringPipeline.Bookable`: what a stay needs to be booked, whatever was booked before.
* `ScoringPipeline.ledger?`: the ledger after stays.
  **`ScoringPipeline.ledger?_eq_some_iff`**: there is one just if every stay is bookable, and then
  it has every stay added.
-/

namespace SpatialAccess

open ExceptT

variable {α : Type} [Number α]

/-- The performed parts of a stay on a day. -/
def Stay.clipped (s : Stay α) (facilities : Facilities α) (day : DayType) : Clipped α :=
  clip s.arrival s.departure (s.openingTimes facilities day)

theorem Stay.segments_ne_nil (s : Stay α) (facilities : Facilities α) (day : DayType) :
    (s.clipped facilities day).segments ≠ [] := by
  unfold clipped clip
  split <;> simp_all

namespace ScoringPipeline

/-- What a total duration of an activity type is worth; nothing if there is no typical one. -/
def worth (p : ScoringPipeline α) (activityType : String) (duration : α) : α :=
  (p.utility activityType duration).toOption.getD ((0 : Nat) : α)

theorem utility_of_typical? {p : ScoringPipeline α} {activityType : String} {typical : α}
    (h : p.params.typical? activityType = some typical) (duration : α) :
    p.utility activityType duration = .ok (p.performance.utility p.params typical duration) := by
  rw [utility, h]

theorem worth_of_typical? {p : ScoringPipeline α} {activityType : String} {typical : α}
    (h : p.params.typical? activityType = some typical) (duration : α) :
    p.worth activityType duration = p.performance.utility p.params typical duration := by
  rw [worth, utility_of_typical? h]
  rfl

theorem worth_of_typical?_eq_none {p : ScoringPipeline α} {activityType : String}
    (h : p.params.typical? activityType = none) (duration : α) :
    p.worth activityType duration = ((0 : Nat) : α) := by
  rw [worth, utility, h]
  rfl

theorem utility_eq_ok {p : ScoringPipeline α} {activityType : String}
    (h : (p.params.typical? activityType).isSome) (duration : α) :
    p.utility activityType duration = .ok (p.worth activityType duration) := by
  obtain ⟨typical, h⟩ := Option.isSome_iff_exists.1 h
  rw [worth_of_typical? h, utility_of_typical? h]

theorem toOption_utility (p : ScoringPipeline α) (activityType : String) (duration : α) :
    (p.utility activityType duration).toOption =
      if (p.params.typical? activityType).isSome then some (p.worth activityType duration)
      else none := by
  split
  · next h =>
    rw [utility_eq_ok h]
    rfl
  · next h =>
    rw [utility, Option.not_isSome_iff_eq_none.1 h]
    rfl

/-! ## Parts of stays -/

/-- Whether a part of a stay is recorded, to be penalised. -/
def IsRecorded (p : ScoringPipeline α) (stay : Stay α) (segment : α × α) : Prop :=
  p.penalty.appliesTo stay.activityType ∧ ((0 : Nat) : α) < segment.2 - segment.1

instance (p : ScoringPipeline α) (stay : Stay α) : DecidablePred (p.IsRecorded stay) := fun _ =>
  inferInstanceAs (Decidable (_ ∧ _))

/-- A part of a stay, with the worth that it adds to what a ledger has. -/
def recordOf (p : ScoringPipeline α) (stay : Stay α) (l : Ledger α) (segment : α × α) :
    PenaltyRecord α :=
  let before := l.duration stay.activityType
  let reached := before + (segment.2 - segment.1)
  { facility? := stay.facility?, start := segment.1, stop := segment.2
    improvement := p.worth stay.activityType reached - p.worth stay.activityType before }

/-- A ledger with a part of a stay added. -/
def addSegment (p : ScoringPipeline α) (stay : Stay α) (l : Ledger α) (segment : α × α) :
    Ledger α :=
  { l with
    durations := l.durations.insert stay.activityType
      (l.duration stay.activityType + (segment.2 - segment.1))
    records := l.records ++
      if p.IsRecorded stay segment then [p.recordOf stay l segment] else [] }

theorem exec?_bookSegment (p : ScoringPipeline α) (stay : Stay α) (segment : α × α) (l : Ledger α) :
    exec? (p.bookSegment stay segment) l =
      if p.IsRecorded stay segment → (p.params.typical? stay.activityType).isSome then
        some (⟨⟩, p.addSegment stay l segment)
      else none := by
  obtain ⟨start, stop⟩ := segment
  simp only [bookSegment, exec?_bind, exec?_get, exec?_modify, Option.bind_some]
  by_cases hrecorded : p.IsRecorded stay (start, stop)
  · have hcondition : p.penalty.appliesTo stay.activityType ∧ ((0 : Nat) : α) < stop - start :=
      hrecorded
    rw [if_pos hcondition, addSegment, if_pos hrecorded]
    simp only [exec?_bind, exec?_ofExcept, toOption_utility, exec?_modify, hrecorded, true_imp_iff]
    split <;> rfl
  · have hcondition : ¬(p.penalty.appliesTo stay.activityType ∧ ((0 : Nat) : α) < stop - start) :=
      hrecorded
    rw [if_neg hcondition, if_pos fun h => absurd h hrecorded, addSegment, if_neg hrecorded,
      List.append_nil]
    rfl

/-! ## Stays -/

/-- A ledger with a stay added. -/
def addStay (p : ScoringPipeline α) (facilities : Facilities α) (l : Ledger α) (stay : Stay α) :
    Ledger α :=
  let clipped := stay.clipped facilities p.params.day
  p.bookRest clipped (clipped.segments.foldl (p.addSegment stay) l)

/-- Whether a stay can be booked: if a part of it is recorded, its type has a typical duration. -/
def Bookable (p : ScoringPipeline α) (facilities : Facilities α) (stay : Stay α) : Prop :=
  ∀ segment ∈ (stay.clipped facilities p.params.day).segments,
    p.IsRecorded stay segment → (p.params.typical? stay.activityType).isSome

instance (p : ScoringPipeline α) (facilities : Facilities α) :
    DecidablePred (p.Bookable facilities) := fun stay => by
  unfold Bookable
  infer_instance

theorem exec?_book (p : ScoringPipeline α) (facilities : Facilities α) (stay : Stay α)
    (l : Ledger α) :
    exec? (p.book facilities stay) l =
      if p.Bookable facilities stay then some (⟨⟩, p.addStay facilities l stay) else none := by
  have hsegments : exec? ((stay.clipped facilities p.params.day).segments.forM
      (p.bookSegment stay)) l = if p.Bookable facilities stay then
        some (⟨⟩, (stay.clipped facilities p.params.day).segments.foldl (p.addSegment stay) l)
      else none :=
    (exec?_forM_ite (fun segment l => p.exec?_bookSegment stay segment l) _ l).trans
      (if_congr Iff.rfl rfl rfl)
  simp only [book, exec?_bind, exec?_modify]
  change (exec? ((stay.clipped facilities p.params.day).segments.forM _) l).bind _ = _
  rw [hsegments]
  split <;> rfl

/-- The ledger after stays, if all of them can be booked. -/
def ledger? (p : ScoringPipeline α) (facilities : Facilities α) (stays : List (Stay α)) :
    Option (Ledger α) :=
  (exec? (stays.forM (p.book facilities)) Ledger.blank).map Prod.snd

/-- **Stays can be booked one after the other** just if each of them can be booked alone. -/
theorem ledger?_eq_some_iff {p : ScoringPipeline α} {facilities : Facilities α}
    {stays : List (Stay α)} {l : Ledger α} :
    p.ledger? facilities stays = some l ↔
      (∀ stay ∈ stays, p.Bookable facilities stay) ∧
        l = stays.foldl (p.addStay facilities) Ledger.blank := by
  rw [ledger?, exec?_forM_ite (fun stay l => p.exec?_book facilities stay l)]
  split
  · next h =>
    rw [and_iff_right h, Option.map_some, Option.some_inj]
    exact eq_comm
  · next h => simp only [Option.map_none, reduceCtorEq, h, false_and]

end ScoringPipeline

end SpatialAccess
