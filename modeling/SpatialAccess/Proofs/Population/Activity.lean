import SpatialAccess.Population.Table
import SpatialAccess.Proofs.Outcome

/-!
# The activity of a row

What a row of a population table says, apart from blanks at the ends of its texts, and why it may
stand for no activity.

* `PopulationRow.Says`, `PopulationRow.SaysNothing`: the text of a field that may be left out.
* `PopulationRow.RefersTo`, `PopulationRow.LiesAt`, `PopulationRow.EndsAt`: the facility, the place
  and the end of what a row stands for. `PopulationRow.StandsFor`: all of it.
* `PopulationRow.Refused`: why a row stands for no activity, and the error that says so.
* **`PopulationRow.activity_eq_ok_iff`**, **`PopulationRow.activity_eq_error_iff`**: what is made of
  a row is the activity that it stands for, or the error that it is refused with.
-/

namespace SpatialAccess.PopulationRow

/-! ## Texts -/

/-- A field has a text, which may have blanks at both ends. -/
def Says (field : Option String) (text : String) : Prop :=
  text ≠ "" ∧ ∃ s, field = some s ∧ Text.trim s = text

/-- A field is left out or has nothing but blanks. -/
def SaysNothing (field : Option String) : Prop :=
  ∀ s, field = some s → Text.trim s = ""

theorem trimmed?_eq_some_iff {field : Option String} {text : String} :
    trimmed? field = some text ↔ Says field text := by
  simp only [trimmed?, Says, Option.filter_eq_some_iff, Option.map_eq_some_iff, Bool.not_eq_true',
    String.isEmpty_eq_false_iff, and_comm]

theorem trimmed?_eq_none_iff {field : Option String} : trimmed? field = none ↔ SaysNothing field := by
  simp [trimmed?, SaysNothing, Option.filter_eq_none_iff]

/-! ## Activities -/

variable {α : Type}

/-- The facility that a row refers to, if it refers to one. -/
inductive RefersTo (row : PopulationRow α) (facilities : Facilities α) :
    Option FacilityId → Prop
  | nothing : SaysNothing row.facility → RefersTo row facilities none
  | facility {label : String} {id : FacilityId} : Says row.facility label →
      facilities.lookup? label = some id → RefersTo row facilities (some id)

/-- The place of a row: its own coordinate, or that of its facility if it does not have both parts
of one. -/
inductive LiesAt (row : PopulationRow α) (facilities : Facilities α)
    (facility? : Option FacilityId) : Point α → Prop
  | own {x y : α} : row.x = some x → row.y = some y → LiesAt row facilities facility? ⟨x, y⟩
  | facility {id : FacilityId} {f : Facility α} : row.x = none ∨ row.y = none →
      facility? = some id → facilities.get? id = some f → LiesAt row facilities facility? f.coord

/-- The end time of a row, if it has one. -/
inductive EndsAt [Number α] (row : PopulationRow α) : Option α → Prop
  | never : SaysNothing row.endTime → EndsAt row none
  | time {text : String} {t : α} : Says row.endTime text → Clock.read text = .ok t →
      EndsAt row (some t)

/-- A row stands for an activity. -/
structure StandsFor [Number α] (row : PopulationRow α) (facilities : Facilities α)
    (a : Activity α) : Prop where
  activityType_eq : a.activityType = row.activityType
  facility : row.RefersTo facilities a.facility?
  coord : row.LiesAt facilities a.facility? a.coord
  endTime : row.EndsAt a.endTime?

/-- A row stands for no activity; the checks come in this order. -/
inductive Refused [Number α] (row : PopulationRow α) (facilities : Facilities α) :
    ScenarioError α → Prop
  | unknownFacility {label : String} : Says row.facility label →
      facilities.lookup? label = none →
      Refused row facilities (.data (.unknownFacility row.person label))
  | noLocation {facility? : Option FacilityId} : row.RefersTo facilities facility? →
      row.x = none ∨ row.y = none → facility?.bind facilities.get? = none →
      Refused row facilities (.noLocation row.activityType row.person)
  | badTime {facility? : Option FacilityId} {coord : Point α} {text : String} {cause : Clock.Error} :
      row.RefersTo facilities facility? → row.LiesAt facilities facility? coord →
      Says row.endTime text → (Clock.read text : Except Clock.Error α) = .error cause →
      Refused row facilities (.time cause)

section Parts

variable {row : PopulationRow α} {facilities : Facilities α} {e : ScenarioError α}
  {facility? : Option FacilityId}

theorem facilityId?_eq_ok_iff :
    row.facilityId? facilities = .ok facility? ↔ row.RefersTo facilities facility? := by
  constructor
  · intro h
    unfold facilityId? at h
    split at h
    · next hnone =>
      cases h
      exact .nothing (trimmed?_eq_none_iff.1 hnone)
    · next label hlabel =>
      split at h
      · next id hid =>
        cases h
        exact .facility (trimmed?_eq_some_iff.1 hlabel) hid
      · cases h
  · rintro (hnothing | ⟨hsaid, hid⟩)
    · rw [facilityId?, trimmed?_eq_none_iff.2 hnothing]
    · rw [facilityId?, trimmed?_eq_some_iff.2 hsaid]
      simp only [hid]

theorem facilityId?_eq_error_iff :
    row.facilityId? facilities = .error e ↔ ∃ label, Says row.facility label ∧
      facilities.lookup? label = none ∧ .data (.unknownFacility row.person label) = e := by
  simp only [facilityId?, ← trimmed?_eq_some_iff]
  cases trimmed? row.facility with
  | none => simp
  | some label => cases hlabel : facilities.lookup? label <;> simp [hlabel]

theorem coord_eq_ok_iff {p : Point α} :
    row.coord facilities facility? = .ok p ↔ row.LiesAt facilities facility? p := by
  constructor
  · intro h
    unfold coord at h
    split at h
    · next hx hy =>
      cases h
      exact .own hx hy
    · next f hf hown =>
      cases h
      obtain ⟨id, hid, hget⟩ := Option.bind_eq_some_iff.1 hf
      refine .facility ?_ hid hget
      by_contra hboth
      simp only [not_or, Option.ne_none_iff_exists'] at hboth
      obtain ⟨⟨x, hx⟩, y, hy⟩ := hboth
      exact hown x y hx hy
    · cases h
  · rintro (⟨hx, hy⟩ | ⟨hxy, rfl, hget⟩)
    · rw [coord, hx, hy]
    · rw [coord, Option.bind_some, hget]
      obtain hx | hy := hxy
      · rw [hx]
      · rw [hy]
        cases row.x <;> rfl

theorem coord_eq_error_iff :
    row.coord facilities facility? = .error e ↔ (row.x = none ∨ row.y = none) ∧
      facility?.bind facilities.get? = none ∧ .noLocation row.activityType row.person = e := by
  rw [coord]
  cases row.x <;> cases row.y <;> cases facility?.bind facilities.get? <;> simp

variable [Number α]

theorem endTime?_eq_ok_iff {t? : Option α} : row.endTime? = .ok t? ↔ row.EndsAt t? := by
  constructor
  · intro h
    unfold endTime? at h
    split at h
    · next hnone =>
      cases h
      exact .never (trimmed?_eq_none_iff.1 hnone)
    · next text htext =>
      obtain ⟨t, ht, rfl⟩ := Except.map_eq_ok.1 h
      exact .time (trimmed?_eq_some_iff.1 htext) (Except.mapError_eq_ok.1 ht)
  · rintro (hnothing | ⟨hsaid, ht⟩)
    · rw [endTime?, trimmed?_eq_none_iff.2 hnothing]
    · rw [endTime?, trimmed?_eq_some_iff.2 hsaid]
      simp only [ht]
      rfl

theorem endTime?_eq_error_iff :
    row.endTime? = .error e ↔ ∃ text cause, Says row.endTime text ∧
      (Clock.read text : Except Clock.Error α) = .error cause ∧ .time cause = e := by
  simp only [endTime?, ← trimmed?_eq_some_iff]
  cases trimmed? row.endTime with
  | none => simp
  | some text => simp [Except.map_eq_error, Except.mapError_eq_error]

/-- **What is made of a row** is the activity that it stands for. -/
theorem activity_eq_ok_iff {a : Activity α} :
    row.activity facilities = .ok a ↔ row.StandsFor facilities a := by
  simp only [activity, Except.bind_eq_ok, facilityId?_eq_ok_iff, coord_eq_ok_iff,
    endTime?_eq_ok_iff]
  constructor
  · rintro ⟨facility?, hfacility, coord, hcoord, endTime?, hendTime, h⟩
    cases h
    exact ⟨rfl, hfacility, hcoord, hendTime⟩
  · rintro ⟨htype, hfacility, hcoord, hendTime⟩
    exact ⟨_, hfacility, _, hcoord, _, hendTime, by rw [← htype]; rfl⟩

/-- **A row stands for no activity** just if it is refused, and with the error that it is refused
with. -/
theorem activity_eq_error_iff : row.activity facilities = .error e ↔ row.Refused facilities e := by
  rw [activity, Except.bind_eq_error]
  constructor
  · rintro (h | ⟨facility?, hfacility, h⟩)
    · obtain ⟨label, htext, hlabel, rfl⟩ := facilityId?_eq_error_iff.1 h
      exact .unknownFacility htext hlabel
    have hfacility := facilityId?_eq_ok_iff.1 hfacility
    obtain h | ⟨coord, hcoord, h⟩ := Except.bind_eq_error.1 h
    · obtain ⟨hxy, hget, rfl⟩ := coord_eq_error_iff.1 h
      exact .noLocation hfacility hxy hget
    obtain h | ⟨endTime?, -, h⟩ := Except.bind_eq_error.1 h
    · obtain ⟨text, cause, htext, hcause, rfl⟩ := endTime?_eq_error_iff.1 h
      exact .badTime hfacility (coord_eq_ok_iff.1 hcoord) htext hcause
    · cases h
  · rintro (⟨htext, hlabel⟩ | ⟨hfacility, hxy, hget⟩ | ⟨hfacility, hcoord, htext, hcause⟩)
    · exact .inl (facilityId?_eq_error_iff.2 ⟨_, htext, hlabel, rfl⟩)
    · exact .inr ⟨_, facilityId?_eq_ok_iff.2 hfacility, Except.bind_eq_error.2
        (.inl (coord_eq_error_iff.2 ⟨hxy, hget, rfl⟩))⟩
    · exact .inr ⟨_, facilityId?_eq_ok_iff.2 hfacility, Except.bind_eq_error.2
        (.inr ⟨_, coord_eq_ok_iff.2 hcoord, Except.bind_eq_error.2
          (.inl (endTime?_eq_error_iff.2 ⟨_, _, htext, hcause, rfl⟩))⟩)⟩

end Parts

end SpatialAccess.PopulationRow
