import SpatialAccess.Proofs.Facility.Opened

/-!
# Refused tags leave no trace

A reader of facilities documents can go on after it has refused a tag. Whatever the tag was refused
for, and wherever in the document it came, the reader is as it was before the tag.

* `FacilitiesReader.answers`: what a reader answers to calls one after the other.
* `FacilitiesReader.Coherent.eq_of_refused`: a coherent reader that refuses a tag does not change.
* **`FacilitiesReader.refused_leaves_no_trace`**: all later calls are answered as if the refused one
  had not been made, and they lead to the same reader.
-/

namespace SpatialAccess

open ExceptT

namespace FacilitiesReader

variable {α : Type} [Number α]

/-- What a reader answers to calls one after the other, where those that it refuses are passed
over. -/
def answers (r : FacilitiesReader α) : List DocumentTag → List (Except (ScenarioError α) Unit)
  | [] => []
  | tag :: tags => (exec (readTag tag) r).1 :: answers (exec (readTag tag) r).2 tags

theorem length_answers (r : FacilitiesReader α) (tags : List DocumentTag) :
    (r.answers tags).length = tags.length := by
  induction tags generalizing r with
  | nil => rfl
  | cons tag tags ih => rw [answers, List.length_cons, List.length_cons, ih]

theorem answers_append (r : FacilitiesReader α) (tags tags' : List DocumentTag) :
    r.answers (tags ++ tags') =
      r.answers tags ++ (tags.foldl (fun r tag => (exec (readTag tag) r).2) r).answers tags' := by
  induction tags generalizing r with
  | nil => rfl
  | cons tag tags ih => exact congrArg ((exec (readTag tag) r).1 :: ·) (ih _)

/-- The answers behind some calls are those of the reader that the calls have led to. -/
theorem answers_afterCalls (tags tags' : List DocumentTag) :
    answers (α := α) {} (tags ++ tags') = answers {} tags ++ (afterCalls tags).answers tags' :=
  answers_append {} tags tags'

/-- A coherent reader that refuses a tag does not change. -/
theorem Coherent.eq_of_refused {r : FacilitiesReader α} (hr : r.Coherent) {tag : DocumentTag}
    {e : ScenarioError α} (he : (exec (readTag tag) r).1 = .error e) :
    (exec (readTag tag) r).2 = r :=
  ((ends_readTag hr tag).bad (Prod.ext he rfl)).1

/-- **A refused tag leaves no trace.** Whatever a reader has read or refused before, a tag that it
refuses changes neither its state nor what is open nor the facilities that it has collected. So all
later calls are answered as if the refused one had not been made, and they lead to the same
reader. -/
theorem refused_leaves_no_trace {before : List DocumentTag} {tag : DocumentTag}
    {e : ScenarioError α} (he : (exec (readTag tag) (afterCalls before)).1 = .error e) :
    (exec (readTag tag) (afterCalls (α := α) before)).2 = afterCalls before ∧
      ∀ after : List DocumentTag,
        (answers (α := α) {} (before ++ tag :: after)).eraseIdx before.length =
          answers {} (before ++ after) ∧
        afterCalls (α := α) (before ++ tag :: after) = afterCalls (before ++ after) := by
  have hcoherent : (afterCalls (α := α) before).Coherent :=
    List.foldlRecOn _ _ coherent_empty fun _ h tag _ => h.exec_readTag tag
  have hsame := hcoherent.eq_of_refused he
  refine ⟨hsame, fun after => ⟨?_, ?_⟩⟩
  · have hlength : before.length = (answers (α := α) {} before).length := (length_answers _ _).symm
    rw [answers_afterCalls, answers_afterCalls, answers, hsame, hlength,
      List.eraseIdx_append_of_length_le (Nat.le_refl _), Nat.sub_self, List.eraseIdx_cons_zero]
  · have happend : ∀ tags : List DocumentTag, afterCalls (α := α) (before ++ tags) =
        tags.foldl (fun r tag => (exec (readTag tag) r).2) (afterCalls before) :=
      fun tags => List.foldl_append
    rw [happend, happend, List.foldl_cons, hsame]

/-! ## Two kiosks -/

theorem exec_of_after? {r r' : FacilitiesReader α} {tag : DocumentTag}
    (h : r.after? tag = some r') : (exec (readTag tag) r).2 = r' := by
  obtain ⟨⟨_, s⟩, hs, rfl⟩ := Option.map_eq_some_iff.1 h
  rw [exec?_eq_some_iff.1 hs]

theorem exists_error_of_after? {r : FacilitiesReader α} {tag : DocumentTag}
    (h : r.after? tag = none) : ∃ e, (exec (readTag tag) r).1 = .error e := by
  rw [after?, Option.map_eq_none_iff] at h
  unfold exec? at h
  split at h
  · cases h
  · next e s hexec => exact ⟨e, by rw [hexec]⟩

/-- A second facility of one label is refused at its last check, and the document can still be
closed. -/
theorem refused_leaves_no_trace_kiosk :
    let kiosk : DocumentTag := .start "facility" [("id", "kiosk"), ("x", "3"), ("y", "4")]
    let before : List DocumentTag := [.start "facilities" [], kiosk, .finish "facility"]
    ∃ e : ScenarioError Float, (exec (readTag kiosk) (afterCalls before)).1 = .error e ∧
      (answers (α := Float) {} (before ++ [kiosk, .finish "facilities"])).eraseIdx 3 =
        answers {} (before ++ [.finish "facilities"]) ∧
      afterCalls (α := Float) (before ++ [kiosk, .finish "facilities"]) =
        afterCalls (before ++ [.finish "facilities"]) := by
  intro kiosk before
  obtain ⟨coord, hcoord⟩ : ∃ coord : Point Float,
      TagAttributes.point? [("id", "kiosk"), ("x", "3"), ("y", "4")] = some coord :=
    Option.isSome_iff_exists.1 (by decide +kernel)
  let f : Facility Float := { id := ⟨0⟩, label := "kiosk", coord }
  have hfirst : (inFacilities (α := Float) {}).after? kiosk = some (inFacility {} f) := by
    rw [after?_facility, hcoord]
    exact if_pos ⟨by simp, by decide⟩
  have hafter : afterCalls (α := Float) before = inFacilities (Facilities.add {} f) := by
    show (exec (readTag (.finish "facility")) (exec (readTag kiosk) (inFacilities {})).2).2 = _
    rw [exec_of_after? hfirst, exec_of_after? (after?_facilityEnd {} f)]
  have hsecond : (inFacilities (Facilities.add {} f)).after? kiosk = none := by
    rw [after?_facility, hcoord]
    exact if_neg fun h => by simp [Facilities.contains_add, f] at h
  obtain ⟨e, he⟩ := exists_error_of_after? hsecond
  rw [← hafter] at he
  exact ⟨e, he, (refused_leaves_no_trace he).2 [.finish "facilities"]⟩

end FacilitiesReader

end SpatialAccess
