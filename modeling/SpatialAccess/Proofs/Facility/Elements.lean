import SpatialAccess.Facility.Document

/-!
# Facilities documents as trees

* `DocumentTag`: a start tag with its attributes, or an end tag.
* `Detail`, `ActivityElement`, `FacilityElement`, `FacilitiesElement`: the elements that matter,
  each with the tags that it is written with. Inside an activity the tags of capacities and opening
  times may stand in any order, start tags and end tags alike.
* `DocumentState.accepts`: tags that may follow each other from a state to the outside.
* `DocumentState.Closes`: tags that a state can be left with, told without states.
* **`DocumentState.closes_of_accepts`**: tags that may follow each other up to the outside are those
  of elements.
-/

namespace SpatialAccess

/-- A tag of a facilities document. -/
inductive DocumentTag where
  | start (name : String) (attributes : TagAttributes)
  | finish (name : String)
  deriving DecidableEq, Repr

namespace DocumentTag

/-- The element that a tag begins or ends. -/
def element : DocumentTag → Element
  | start name _ => .ofName name
  | finish name => .ofName name

/-- A tag without its attributes. -/
def event : DocumentTag → TagEvent
  | start name _ => .start (.ofName name)
  | finish name => .finish (.ofName name)

/-- Whether a tag belongs to an element that matters. -/
def isKnown (tag : DocumentTag) : Bool :=
  tag.element != .other

end DocumentTag

/-- The tag name of an element that matters. -/
def Element.tagName : Element → String
  | facilities => "facilities"
  | facility => "facility"
  | activity => "activity"
  | capacity => "capacity"
  | opentime => "opentime"
  | other => ""

theorem Element.eq_tagName {name : String} {e : Element} (h : ofName name = e) (he : e ≠ other) :
    name = e.tagName := by
  subst h
  unfold ofName at he ⊢
  split <;> simp_all [tagName]

/-! ## Elements -/

/-- A tag inside an activity element. -/
inductive Detail where
  | capacity (attributes : TagAttributes)
  | capacityEnd
  | opentime (attributes : TagAttributes)
  | opentimeEnd
  deriving DecidableEq, Repr

/-- An activity element. -/
structure ActivityElement where
  attributes : TagAttributes
  details : List Detail
  deriving DecidableEq, Repr

/-- A facility element. -/
structure FacilityElement where
  attributes : TagAttributes
  activities : List ActivityElement
  deriving DecidableEq, Repr

/-- A facilities element. -/
structure FacilitiesElement where
  attributes : TagAttributes
  facilities : List FacilityElement
  deriving DecidableEq, Repr

/-- A document may have any number of roots. -/
abbrev FacilitiesDocument := List FacilitiesElement

/-- The facility elements of a document. -/
def FacilitiesDocument.facilities (doc : FacilitiesDocument) : List FacilityElement :=
  doc.flatMap FacilitiesElement.facilities

/-- The tag that a detail is. -/
def Detail.tag : Detail → DocumentTag
  | capacity attributes => .start "capacity" attributes
  | capacityEnd => .finish "capacity"
  | opentime attributes => .start "opentime" attributes
  | opentimeEnd => .finish "opentime"

/-- The tags of an activity element. -/
def ActivityElement.tags (e : ActivityElement) : List DocumentTag :=
  .start "activity" e.attributes :: e.details.map Detail.tag ++ [.finish "activity"]

/-- The tags of a facility element. -/
def FacilityElement.tags (e : FacilityElement) : List DocumentTag :=
  .start "facility" e.attributes :: e.activities.flatMap ActivityElement.tags ++ [.finish "facility"]

/-- The tags of a facilities element. -/
def FacilitiesElement.tags (e : FacilitiesElement) : List DocumentTag :=
  .start "facilities" e.attributes :: e.facilities.flatMap FacilityElement.tags ++
    [.finish "facilities"]

/-- The tags of a document. -/
def FacilitiesDocument.tags (doc : FacilitiesDocument) : List DocumentTag :=
  doc.flatMap FacilitiesElement.tags

/-! ## From states to elements -/

namespace DocumentState

/-- Whether tags may follow each other from a state and end outside. -/
def accepts : DocumentState → List DocumentTag → Bool
  | s, [] => s = outside
  | s, tag :: tags =>
    match s.next? tag.event with
    | some next => next.accepts tags
    | none => false

/-- Outside: elements follow. -/
def ClosesOutside (tags : List DocumentTag) : Prop :=
  ∃ doc : FacilitiesDocument, tags = doc.tags

/-- In a facilities element: its facilities follow, then its end, then what may stand outside. -/
def ClosesFacilities (tags : List DocumentTag) : Prop :=
  ∃ (es : List FacilityElement) (rest : List DocumentTag),
    tags = es.flatMap FacilityElement.tags ++ .finish "facilities" :: rest ∧ ClosesOutside rest

/-- In a facility element: its activities follow, then its end. -/
def ClosesFacility (tags : List DocumentTag) : Prop :=
  ∃ (es : List ActivityElement) (rest : List DocumentTag),
    tags = es.flatMap ActivityElement.tags ++ .finish "facility" :: rest ∧ ClosesFacilities rest

/-- In an activity element: its details follow, then its end. -/
def ClosesActivity (tags : List DocumentTag) : Prop :=
  ∃ (ds : List Detail) (rest : List DocumentTag),
    tags = ds.map Detail.tag ++ .finish "activity" :: rest ∧ ClosesFacility rest

/-- Tags that complete the elements that are open in a state. -/
def Closes : DocumentState → List DocumentTag → Prop
  | outside => ClosesOutside
  | inFacilities => ClosesFacilities
  | inFacility => ClosesFacility
  | inActivity => ClosesActivity

theorem closes_start_facilities {attributes : TagAttributes} {tags : List DocumentTag}
    (h : Closes inFacilities tags) : Closes outside (.start "facilities" attributes :: tags) := by
  obtain ⟨es, rest, rfl, doc, rfl⟩ := h
  exact ⟨⟨attributes, es⟩ :: doc, by simp [FacilitiesDocument.tags, FacilitiesElement.tags]⟩

theorem closes_start_facility {attributes : TagAttributes} {tags : List DocumentTag}
    (h : Closes inFacility tags) : Closes inFacilities (.start "facility" attributes :: tags) := by
  obtain ⟨as, _, rfl, es, rest, rfl, hrest⟩ := h
  exact ⟨⟨attributes, as⟩ :: es, rest, by simp [FacilityElement.tags], hrest⟩

theorem closes_start_activity {attributes : TagAttributes} {tags : List DocumentTag}
    (h : Closes inActivity tags) : Closes inFacility (.start "activity" attributes :: tags) := by
  obtain ⟨ds, _, rfl, as, rest, rfl, hrest⟩ := h
  exact ⟨⟨attributes, ds⟩ :: as, rest, by simp [ActivityElement.tags], hrest⟩

theorem closes_detail {d : Detail} {tags : List DocumentTag} (h : Closes inActivity tags) :
    Closes inActivity (d.tag :: tags) := by
  obtain ⟨ds, rest, rfl, hrest⟩ := h
  exact ⟨d :: ds, rest, by simp, hrest⟩

theorem closes_finish_activity {tags : List DocumentTag} (h : Closes inFacility tags) :
    Closes inActivity (.finish "activity" :: tags) :=
  ⟨[], tags, rfl, h⟩

theorem closes_finish_facility {tags : List DocumentTag} (h : Closes inFacilities tags) :
    Closes inFacility (.finish "facility" :: tags) :=
  ⟨[], tags, rfl, h⟩

theorem closes_finish_facilities {tags : List DocumentTag} (h : Closes outside tags) :
    Closes inFacilities (.finish "facilities" :: tags) :=
  ⟨[], tags, rfl, h⟩

/-- A known tag that may stand in a state completes its elements with what completes the elements of
the state behind it. -/
theorem Closes.cons {s next : DocumentState} {tag : DocumentTag} (hknown : tag.isKnown = true)
    (hnext : s.next? tag.event = some next) {tags : List DocumentTag} (h : next.Closes tags) :
    s.Closes (tag :: tags) := by
  cases tag with
  | start name attributes =>
    simp only [DocumentTag.isKnown, DocumentTag.element, bne_iff_ne] at hknown
    simp only [DocumentTag.event] at hnext
    generalize hname : Element.ofName name = e at hnext hknown
    obtain rfl := Element.eq_tagName hname hknown
    -- of all states and elements only the five that the table of states has are left
    cases s <;> cases e <;> cases hnext <;> try contradiction
    · exact closes_start_facilities h
    · exact closes_start_facility h
    · exact closes_start_activity h
    · exact closes_detail (d := .capacity attributes) h
    · exact closes_detail (d := .opentime attributes) h
  | finish name =>
    simp only [DocumentTag.isKnown, DocumentTag.element, bne_iff_ne] at hknown
    simp only [DocumentTag.event] at hnext
    generalize hname : Element.ofName name = e at hnext hknown
    obtain rfl := Element.eq_tagName hname hknown
    cases s <;> cases e <;> cases hnext <;> try contradiction
    · exact closes_finish_facilities h
    · exact closes_finish_facility h
    · exact closes_finish_activity h
    · exact closes_detail (d := .capacityEnd) h
    · exact closes_detail (d := .opentimeEnd) h

/-- **Tags that may follow each other up to the outside are those of elements.** -/
theorem closes_of_accepts {s : DocumentState} {tags : List DocumentTag}
    (hknown : ∀ tag ∈ tags, tag.isKnown = true) (h : s.accepts tags = true) : s.Closes tags := by
  induction tags generalizing s with
  | nil =>
    obtain rfl : s = outside := of_decide_eq_true h
    exact ⟨[], rfl⟩
  | cons tag tags ih =>
    cases hnext : s.next? tag.event with
    | none => simp [accepts, hnext] at h
    | some next =>
      simp only [accepts, hnext] at h
      exact .cons (hknown tag List.mem_cons_self) hnext
        (ih (fun t ht => hknown t (List.mem_cons_of_mem tag ht)) h)

end DocumentState

end SpatialAccess
