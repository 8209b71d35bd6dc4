import Mathlib.Data.Set.Insert
import SpatialAccess.Proofs.Scoring.Booking

/-!
# When there is no score

A typical duration is looked up when a part of a stay is recorded, and again for every activity type
that was booked. Every stay is booked under its type, so what is missing is missed in the end, if it
is not missed before.

* `Stay.types`, `Ledger.types`: the activity types of stays, and those that are booked.
  `ScoringPipeline.types_foldl_addStay`: stays are booked under each of their types.
* `ScoringPipeline.Misses`: an error names an activity type without a typical duration.
  `ScoringPipeline.ends_book`, `ScoringPipeline.ends_finish`: no other error comes of booking stays,
  nor of what is booked. `ScoringPipeline.exists_finish_eq_ok_iff`: when booked stays have a score.
* **`ScoringPipeline.score_fails_iff`**: there is no score just if an activity type of the stays has
  no typical duration.
-/

namespace SpatialAccess

open ExceptT

variable {α : Type}

/-- The activity types of stays. -/
def Stay.types (stays : List (Stay α)) : Set String :=
  {t | t ∈ stays.map Stay.activityType}

/-- The activity types that are booked. -/
def Ledger.types (l : Ledger α) : Set String :=
  {t | t ∈ l.durations}

theorem Stay.types_nil : Stay.types ([] : List (Stay α)) = ∅ := by
  ext t
  simp [types]

theorem Stay.types_cons (stay : Stay α) (stays : List (Stay α)) :
    Stay.types (stay :: stays) = insert stay.activityType (Stay.types stays) := by
  ext t
  simp [types]

theorem Ledger.types_blank [Number α] : (Ledger.blank : Ledger α).types = ∅ := by
  ext t
  simp [types, blank]

namespace ScoringPipeline

variable [Number α] {p : ScoringPipeline α} {facilities : Facilities α}

/-! ## Activity types that are booked -/

theorem types_addSegment (stay : Stay α) (l : Ledger α) (segment : α × α) :
    (p.addSegment stay l segment).types = insert stay.activityType l.types := by
  ext t
  change t ∈ l.durations.insert _ _ ↔ t = stay.activityType ∨ t ∈ l.durations
  rw [Std.TreeMap.mem_insert, Std.LawfulEqOrd.compare_eq_iff_eq, eq_comm]

/-- A stay is booked under its type, as it always has a part. -/
theorem types_addStay (stay : Stay α) (l : Ledger α) :
    (p.addStay facilities l stay).types = insert stay.activityType l.types := by
  have hparts : ∀ segments : List (α × α), segments ≠ [] → ∀ l : Ledger α,
      (segments.foldl (p.addSegment stay) l).types = insert stay.activityType l.types := by
    intro segments hne
    induction segments with
    | nil => exact absurd rfl hne
    | cons segment segments ih =>
      intro l
      rw [List.foldl_cons, ← types_addSegment (p := p) stay l segment]
      cases segments with
      | nil => rfl
      | cons =>
        rw [ih (List.cons_ne_nil _ _), types_addSegment, Set.insert_idem]
  exact hparts _ (stay.segments_ne_nil facilities p.params.day) l

/-- **Stays are booked under each of their types**, whatever was performed of them. -/
theorem types_foldl_addStay (stays : List (Stay α)) :
    (stays.foldl (p.addStay facilities) .blank).types = Stay.types stays := by
  have hfold : ∀ l : Ledger α, (stays.foldl (p.addStay facilities) l).types =
      Stay.types stays ∪ l.types := by
    induction stays with
    | nil => exact fun l => by rw [Stay.types_nil, Set.empty_union, List.foldl_nil]
    | cons stay stays ih =>
      intro l
      rw [List.foldl_cons, ih, types_addStay, Stay.types_cons, Set.insert_union, Set.union_insert]
  rw [hfold, Ledger.types_blank, Set.union_empty]

theorem types_of_ledger? {stays : List (Stay α)} {l : Ledger α}
    (h : p.ledger? facilities stays = some l) : l.types = Stay.types stays := by
  rw [(ledger?_eq_some_iff.1 h).2, types_foldl_addStay]

/-! ## Errors -/

/-- Activity types all have a typical duration. -/
def Knows (p : ScoringPipeline α) (types : Set String) : Prop :=
  ∀ t ∈ types, (p.params.typical? t).isSome

/-- An error names an activity type, one of some types, that has no typical duration. -/
def Misses (p : ScoringPipeline α) (types : Set String) (e : ScoringError) : Prop :=
  ∃ t ∈ types, p.params.typical? t = none ∧ e = .missingTypicalDuration t

theorem ends_utility {types : Set String} {t : String} (ht : t ∈ types) (d : α) :
    (p.utility t d).Ends (fun _ => (p.params.typical? t).isSome) (p.Misses types) := by
  unfold utility
  split
  · next h => exact .ok (Option.isSome_of_eq_some h)
  · next h => exact .error ⟨t, ht, h, rfl⟩

/-- Booking a part of a stay may only miss the typical duration of its type. -/
theorem ends_bookSegment {types : Set String} {stay : Stay α} (hstay : stay.activityType ∈ types)
    (segment : α × α) (l : Ledger α) :
    Ends (p.bookSegment stay segment) l (fun _ _ => True) fun e _ => p.Misses types e := by
  obtain ⟨start, stop⟩ := segment
  have hmissed : ∀ {d : α} (e : ScoringError), p.utility stay.activityType d = .error e →
      p.Misses types e := fun e h => (h ▸ ends_utility hstay _ : Except.Ends _ _ _).bad
  refine ends_get_bind (ends_bind ?_)
  change Ends (ite _ _ _) _ _ _
  split
  · exact ends_ofExcept_bind (fun _ _ => ends_ofExcept_bind (fun _ _ => trivial) hmissed) hmissed
  · exact trivial

/-- **Booking stays** may only miss the typical duration of one of their types. -/
theorem ends_book (stays : List (Stay α)) (l : Ledger α) :
    Ends (stays.forM (p.book facilities)) l (fun _ _ => True)
      fun e _ => p.Misses (Stay.types stays) e := by
  refine ends_forM (fun stay hstay l => ends_bind ?_) l
  exact ends_forM (fun segment _ l => ends_bookSegment (List.mem_map_of_mem hstay) segment l) l

theorem ends_performanceOf (l : Ledger α) :
    (p.performanceOf l).Ends (fun _ => p.Knows l.types) (p.Misses l.types) := by
  have hfold : ∀ es : List (String × α), (∀ e ∈ es, e.1 ∈ l.types) → ∀ sum : α,
      (es.foldlM (fun sum (activityType, duration) => do
        return sum + (← p.utility activityType duration)) sum).Ends
          (fun _ => ∀ e ∈ es, (p.params.typical? e.1).isSome) (p.Misses l.types) := by
    intro es
    induction es with
    | nil => exact fun _ _ => .ok (List.forall_mem_nil _)
    | cons first es ih =>
      obtain ⟨t, d⟩ := first
      intro hes sum
      obtain ⟨ht, hes⟩ := List.forall_mem_cons.1 hes
      rw [List.foldlM_cons]
      have hfirst : (do return sum + (← p.utility t d) : Except ScoringError α).Ends
          (fun _ => (p.params.typical? t).isSome) (p.Misses l.types) :=
        (ends_utility ht d).bind fun _ h => .ok h
      refine hfirst.bind fun sum' hfirst => ?_
      exact (ih hes sum').imp (fun _ hrest => List.forall_mem_cons.2 ⟨hfirst, hrest⟩) fun _ h => h
  have hkeys : ∀ t, t ∈ l.types ↔ t ∈ l.durations.toList.map Prod.fst := by
    intro t
    rw [Std.TreeMap.map_fst_toList_eq_keys, Std.TreeMap.mem_keys]
    rfl
  refine (hfold _ (fun e he => (hkeys e.1).2 (List.mem_map_of_mem he)) _).imp ?_ fun _ h => h
  intro _ h t ht
  obtain ⟨e, he, rfl⟩ := List.mem_map.1 ((hkeys t).1 ht)
  exact h e he

/-- **The score of what is booked** may only miss the typical duration of one of its types. -/
theorem ends_finish (p : ScoringPipeline α) (l : Ledger α) :
    (p.finish l).Ends (fun _ => p.Knows l.types) (p.Misses l.types) :=
  (ends_performanceOf l).bind fun _ h => .ok h

/-- There is a score of stays that were booked just if the type of each of them has a typical
duration. -/
theorem exists_finish_eq_ok_iff {stays : List (Stay α)} {l : Ledger α}
    (h : p.ledger? facilities stays = some l) :
    (∃ score, p.finish l = .ok score) ↔
      ∀ stay ∈ stays, (p.params.typical? stay.activityType).isSome := by
  have hends := p.ends_finish l
  rw [types_of_ledger? h] at hends
  constructor
  · rintro ⟨score, hscore⟩ stay hstay
    rw [hscore] at hends
    exact hends.good _ (List.mem_map_of_mem hstay)
  · intro htypical
    cases hfinish : p.finish l with
    | ok score => exact ⟨score, rfl⟩
    | error e =>
      rw [hfinish] at hends
      obtain ⟨_, ht, hnone, -⟩ := hends.bad
      obtain ⟨stay, hstay, rfl⟩ := List.mem_map.1 ht
      exact absurd hnone (Option.isSome_iff_ne_none.1 (htypical stay hstay))

theorem score_eq (stays : List (Stay α)) : p.score facilities stays =
    match exec (stays.forM (p.book facilities)) .blank with
    | (.error e, _) => .error e
    | (.ok (), l) => p.finish l := rfl

/-- A score tells that every activity type of the stays has a typical duration, and an error names
one that has none. -/
theorem ends_score (p : ScoringPipeline α) (facilities : Facilities α) (stays : List (Stay α)) :
    (p.score facilities stays).Ends (fun _ => p.Knows (Stay.types stays))
      (p.Misses (Stay.types stays)) := by
  rw [score_eq]
  cases hrun : exec (stays.forM (p.book facilities)) .blank with
  | mk result l =>
    cases result with
    | error e => exact .error ((ends_book stays .blank).bad hrun)
    | ok =>
      -- whoever comes to the end has booked every stay
      have hledger : p.ledger? facilities stays = some l := by
        rw [ledger?, exec?_eq_some_iff.2 hrun, Option.map_some]
      rw [← types_of_ledger? hledger]
      exact p.ends_finish l

theorem exists_error_iff (p : ScoringPipeline α) (facilities : Facilities α)
    (stays : List (Stay α)) : (∃ e, p.score facilities stays = .error e) ↔
      ∃ t ∈ Stay.types stays, p.params.typical? t = none := by
  have hends := p.ends_score facilities stays
  constructor
  · rintro ⟨e, he⟩
    rw [he] at hends
    obtain ⟨t, ht, hnone, -⟩ := hends.bad
    exact ⟨t, ht, hnone⟩
  · rintro ⟨t, ht, hnone⟩
    cases hscore : p.score facilities stays with
    | error e => exact ⟨e, rfl⟩
    | ok score =>
      rw [hscore] at hends
      exact absurd hnone (Option.isSome_iff_ne_none.1 (hends.good t ht))

/-- **There is no score** just if an activity type of the stays has no typical duration, and then the
error names such a type. So it does not matter for this where and when the stays are, whether any
time is performed of them, nor what is penalised and how performance is rewarded. -/
theorem score_fails_iff (p : ScoringPipeline α) (facilities : Facilities α)
    (stays : List (Stay α)) :
    ((∃ e, p.score facilities stays = .error e) ↔
      ∃ stay ∈ stays, p.params.typical? stay.activityType = none) ∧
    (∀ e, p.score facilities stays = .error e → ∃ stay ∈ stays,
      p.params.typical? stay.activityType = none ∧
        e = .missingTypicalDuration stay.activityType) ∧
    ∀ (p' : ScoringPipeline α) (facilities' : Facilities α) (stays' : List (Stay α)),
      p'.params.typicalDurations = p.params.typicalDurations →
      stays'.map Stay.activityType = stays.map Stay.activityType →
      ((∃ e, p'.score facilities' stays' = .error e) ↔ ∃ e, p.score facilities stays = .error e) := by
  have hfails := exists_error_iff p facilities stays
  refine ⟨?_, fun e he => ?_, fun p' facilities' stays' hdurations htypes => ?_⟩
  · simp [hfails, Stay.types]
  · have hends := p.ends_score facilities stays
    rw [he] at hends
    obtain ⟨t, ht, hnone, rfl⟩ := hends.bad
    obtain ⟨stay, hstay, rfl⟩ := List.mem_map.1 ht
    exact ⟨stay, hstay, hnone, rfl⟩
  · have hsame : Stay.types stays' = Stay.types stays := by
      rw [Stay.types, Stay.types, htypes]
    have htypical : ∀ t, p'.params.typical? t = p.params.typical? t := fun t =>
      congrArg (fun durations => durations[t]?) hdurations
    simp only [hfails, exists_error_iff, hsame, htypical]

/-- A visit to a shop that takes no time is missed, and whether it is penalised or not. -/
theorem score_fails_iff_noTime :
    let params : ScoringParams Float := ScoringParams.standard.withTypical "h" 43200
    let strict : ScoringPipeline Float := ⟨params, .charyparNagel, .facilityLoad {} 1 1⟩
    let lenient : ScoringPipeline Float := ⟨params, .linear, .none⟩
    let home : Stay Float := { activityType := "h", arrival := 0, departure := 28800 }
    let visit : Stay Float := { activityType := "shop", arrival := 28800, departure := 32400 }
    let noVisit : Stay Float := { activityType := "shop", arrival := 28800, departure := 28800 }
    params.typical? "shop" = none ∧
      strict.score {} [home, visit] = .error (.missingTypicalDuration "shop") ∧
      ∃ e, lenient.score {} [home, noVisit] = .error e := by
  intro params strict lenient home visit noVisit
  have hshop : params.typical? "shop" = none := rfl
  have hhome : params.typical? "h" ≠ none := by
    rw [Option.ne_none_iff_isSome]
    rfl
  obtain ⟨hfails, hnames, hsame⟩ := score_fails_iff strict {} [home, visit]
  obtain ⟨e, he⟩ := hfails.2 ⟨visit, by simp, hshop⟩
  have htypes : [home, noVisit].map Stay.activityType = [home, visit].map Stay.activityType := by
    simp only [List.map_cons, List.map_nil, home, noVisit, visit]
  refine ⟨hshop, ?_, (hsame lenient {} [home, noVisit] rfl htypes).2 ⟨e, he⟩⟩
  obtain ⟨stay, hstay, hnone, rfl⟩ := hnames e he
  obtain rfl | rfl : stay = home ∨ stay = visit := by simpa using hstay
  · exact absurd hnone hhome
  · exact he

end ScoringPipeline

end SpatialAccess
