import SpatialAccess.Proofs.Facility.Reading

/-!
# What a reader of facilities documents holds open

A reader keeps its place in the nesting of elements twice: as a state, and as the facility and the
activity that are open. Whatever tags it gets, and also where it has refused some of them, both
agree.

* `FacilitiesReader.Coherent`: what is open is what the state says.
* `ScenarioError.isLoss`: the errors of a reader that has lost what should be open.
* `FacilitiesReader.ends_startElement`: in a coherent reader a start tag opens its element, or is
  refused for another reason and changes nothing. `FacilitiesReader.ends_readTag`: the same for
  every tag.
* **`FacilitiesReader.coherent_afterCalls`**: every reader is coherent, and no tag is refused
  because what should be open is lost.
-/

namespace SpatialAccess

open ExceptT

variable {α : Type}

/-- Whether an error says that what should be open is not there. -/
def ScenarioError.isLoss : ScenarioError α → Bool
  | noOpenFacility => true
  | noOpenActivity => true
  | lostActivity _ => true
  | _ => false

/-! ## Attributes -/

namespace TagAttributes

variable {attributes : TagAttributes} {tag key : String} {e : ScenarioError α}

theorem isLoss_of_require (h : attributes.require tag key = .error e) : e.isLoss = false := by
  unfold require at h
  split at h <;> cases h
  rfl

theorem isLoss_of_requireDay (h : attributes.requireDay tag key = .error e) : e.isLoss = false := by
  obtain h | ⟨raw, -, h⟩ := Except.bind_eq_error.1 h
  · exact isLoss_of_require h
  · split at h <;> cases h
    rfl

variable [Number α]

theorem isLoss_of_requireNumber (h : attributes.requireNumber tag key = .error e) :
    e.isLoss = false := by
  obtain h | ⟨raw, -, h⟩ := Except.bind_eq_error.1 h
  · exact isLoss_of_require h
  · split at h <;> cases h
    rfl

theorem isLoss_of_requireTime (h : attributes.requireTime tag key = .error e) :
    e.isLoss = false := by
  obtain h | ⟨raw, -, h⟩ := Except.bind_eq_error.1 h
  · exact isLoss_of_require h
  · obtain ⟨cause, -, rfl⟩ := Except.mapError_eq_error.1 h
    rfl

end TagAttributes

namespace FacilitiesReader

/-! ## What is open -/

/-- The facility that is open, if the collection has it. -/
def openFacility? (r : FacilitiesReader α) : Option (Facility α) :=
  r.facility?.bind r.facilities.get?

/-- What is open is what a state says: nothing outside of facilities, a facility of the collection
inside of one, and in an activity also its type, which the facility offers. -/
def HoldsOpen (r : FacilitiesReader α) : DocumentState → Prop
  | .outside | .inFacilities => r.facility? = none ∧ r.activity? = none
  | .inFacility => (∃ f, r.openFacility? = some f) ∧ r.activity? = none
  | .inActivity => ∃ f activityType, r.openFacility? = some f ∧ r.activity? = some activityType ∧
      f.offers activityType = true

/-- What is open is what the state says. -/
def Coherent (r : FacilitiesReader α) : Prop :=
  r.HoldsOpen r.state

theorem openFacility?_eq_some_iff {r : FacilitiesReader α} {f : Facility α} :
    r.openFacility? = some f ↔ ∃ id, r.facility? = some id ∧ r.facilities.get? id = some f :=
  Option.bind_eq_some_iff

/-! ## Changing what is open -/

section Changes

variable {r : FacilitiesReader α} {id : FacilityId} {f : Facility α}

theorem exec_changeFacility (hid : r.facility? = some id) (hf : r.facilities.get? id = some f)
    (change : Facility α → Facility α) :
    exec (changeFacility change) r =
      (.ok ⟨⟩, { r with facilities := r.facilities.modify id change }) := by
  have hopen : (r.facility?.filter fun id => (r.facilities.get? id).isSome) = some id := by
    rw [hid, Option.filter_some, hf, Option.isSome_some, if_pos rfl]
  rw [changeFacility, exec_get_bind, hopen]
  rfl

theorem exec_changeOption (hid : r.facility? = some id) (hf : r.facilities.get? id = some f)
    {activityType : String} (hactivity : r.activity? = some activityType)
    (hoffers : f.offers activityType = true) (change : ActivityOption α → ActivityOption α) :
    exec (changeOption change) r =
      (.ok ⟨⟩, { r with
        facilities := r.facilities.modify id fun f => f.modifyOption activityType change }) := by
  have hopen : r.facility?.bind r.facilities.get? = some f :=
    openFacility?_eq_some_iff.2 ⟨id, hid, hf⟩
  rw [changeOption, exec_get_bind, hactivity]
  simp only [hopen, hoffers, if_true]
  rw [exec_changeFacility hid hf, hactivity]

end Changes

/-- A tag is refused for another reason than that something is lost, and nothing has changed. -/
def Refused (r : FacilitiesReader α) (e : ScenarioError α) (r' : FacilitiesReader α) : Prop :=
  r' = r ∧ e.isLoss = false

/-! ## Tags -/

section Tags

variable {r : FacilitiesReader α} {name : String} {attributes : TagAttributes}

theorem ends_changeOption (h : r.HoldsOpen .inActivity)
    (change : ActivityOption α → ActivityOption α) :
    Ends (changeOption change) r (fun _ r' => r'.HoldsOpen .inActivity) r.Refused := by
  obtain ⟨f, activityType, hf, hactivity, hoffers⟩ := h
  obtain ⟨id, hid, hf⟩ := openFacility?_eq_some_iff.1 hf
  unfold Ends
  rw [exec_changeOption hid hf hactivity hoffers]
  refine ⟨f.modifyOption activityType change, activityType, ?_, hactivity, ?_⟩
  · refine openFacility?_eq_some_iff.2 ⟨id, hid, ?_⟩
    rw [Facilities.get?_modify, hf, Option.map_some]
  · rw [Facility.offers_eq] at hoffers ⊢
    rw [Facility.option?_modifyOption, if_pos rfl, Option.isSome_map, hoffers]

/-- **An end tag closes its element.** -/
theorem ends_endElement (h : r.Coherent) {element : Element} {next : DocumentState}
    (hnext : r.state.next? (.finish element) = some next) :
    Ends (endElement element) r (fun _ r' => r'.HoldsOpen next) r.Refused := by
  unfold Coherent at h
  generalize r.state = state at h hnext
  -- only what the states allow is left
  cases element <;> cases state <;> cases hnext
  case facility.inFacility => exact ⟨rfl, h.2⟩
  case activity.inActivity =>
    obtain ⟨f, -, hf, -, -⟩ := h
    exact ⟨⟨f, hf⟩, rfl⟩
  all_goals exact h

theorem ends_advance_bind {event : TagEvent} {f : DocumentState → ReadStep α Unit}
    {Good : Unit → FacilitiesReader α → Prop}
    (h : ∀ next, r.state.next? event = some next → Ends (f next) r Good r.Refused) :
    Ends (advance event name >>= f) r Good r.Refused := by
  refine ends_bind (ends_get_bind ?_)
  split
  · next hnext => exact h _ hnext
  · exact ⟨rfl, rfl⟩

variable [Number α]

theorem ends_facility (h : r.HoldsOpen .inFacilities) :
    Ends (startElement name attributes .facility) r (fun _ r' => r'.HoldsOpen .inFacility)
      r.Refused := by
  refine ends_ofExcept_bind (fun label _ => ?_)
    fun e he => ⟨rfl, TagAttributes.isLoss_of_require he⟩
  refine ends_ofExcept_bind (fun x _ => ?_)
    fun e he => ⟨rfl, TagAttributes.isLoss_of_requireNumber he⟩
  refine ends_ofExcept_bind (fun y _ => ?_)
    fun e he => ⟨rfl, TagAttributes.isLoss_of_requireNumber he⟩
  refine ends_get_bind (ends_ofExcept_bind ?_ fun e he => ?_)
  · rintro ⟨id, fs⟩ hcreate
    obtain ⟨-, -, rfl, rfl⟩ := Facilities.create_eq_ok_iff.1 (Except.mapError_eq_ok.1 hcreate)
    refine ⟨⟨{
      id := ⟨r.facilities.size⟩, label, coord := ⟨x, y⟩, desc := attributes.lookup "desc" }, ?_⟩,
      h.2⟩
    refine openFacility?_eq_some_iff.2 ⟨⟨r.facilities.size⟩, rfl, ?_⟩
    rw [Facilities.get?_modify, Facilities.get?_add, if_pos rfl]
    rfl
  · obtain ⟨cause, -, rfl⟩ := Except.mapError_eq_error.1 he
    exact ⟨rfl, rfl⟩

theorem ends_activity (h : r.HoldsOpen .inFacility) :
    Ends (startElement name attributes .activity) r (fun _ r' => r'.HoldsOpen .inActivity)
      r.Refused := by
  obtain ⟨⟨f, hf⟩, -⟩ := h
  obtain ⟨id, hid, hf⟩ := openFacility?_eq_some_iff.1 hf
  refine ends_ofExcept_bind (fun activityType _ => ends_bind ?_) fun e he =>
    ⟨rfl, TagAttributes.isLoss_of_require he⟩
  unfold Ends
  rw [exec_changeFacility hid hf]
  refine ⟨f.createOption activityType, activityType, ?_, rfl, ?_⟩
  · refine openFacility?_eq_some_iff.2 ⟨id, hid, ?_⟩
    rw [Facilities.get?_modify, hf, Option.map_some]
  · rw [Facility.offers_eq, Facility.option?_createOption, if_pos rfl, Option.isSome_some]

theorem ends_capacity (h : r.HoldsOpen .inActivity) :
    Ends (startElement name attributes .capacity) r (fun _ r' => r'.HoldsOpen .inActivity)
      r.Refused :=
  ends_ofExcept_bind (fun _ _ => ends_changeOption h _) fun _ he =>
    ⟨rfl, TagAttributes.isLoss_of_requireNumber he⟩

theorem ends_opentime (h : r.HoldsOpen .inActivity) :
    Ends (startElement name attributes .opentime) r (fun _ r' => r'.HoldsOpen .inActivity)
      r.Refused := by
  refine ends_ofExcept_bind (fun day _ => ?_)
    fun e he => ⟨rfl, TagAttributes.isLoss_of_requireDay he⟩
  refine ends_ofExcept_bind (fun opens _ => ?_)
    fun e he => ⟨rfl, TagAttributes.isLoss_of_requireTime he⟩
  refine ends_ofExcept_bind (fun closes _ => ?_)
    fun e he => ⟨rfl, TagAttributes.isLoss_of_requireTime he⟩
  exact ends_changeOption h _

/-- **A start tag opens its element**, or is refused for another reason than a loss. -/
theorem ends_startElement (h : r.Coherent) {element : Element} {next : DocumentState}
    (hnext : r.state.next? (.start element) = some next) :
    Ends (startElement name attributes element) r (fun _ r' => r'.HoldsOpen next) r.Refused := by
  unfold Coherent at h
  generalize r.state = state at h hnext
  cases element <;> cases state <;> cases hnext
  case facility.inFacilities => exact ends_facility h
  case activity.inFacility => exact ends_activity h
  case capacity.inActivity => exact ends_capacity h
  case opentime.inActivity => exact ends_opentime h
  all_goals exact h

/-- **A coherent reader stays coherent**, whatever tag it gets. If it refuses the tag it does so for
another reason than that something is lost, and nothing has changed. -/
theorem ends_readTag (h : r.Coherent) (tag : DocumentTag) :
    Ends (readTag tag) r (fun _ r' => r'.Coherent) r.Refused := by
  cases tag with
  | start name attributes =>
    exact ends_advance_bind fun next hnext => ends_bind (ends_startElement h hnext)
  | finish name =>
    exact ends_advance_bind fun next hnext => ends_bind (ends_endElement h hnext)

theorem Coherent.exec_readTag (h : r.Coherent) (tag : DocumentTag) :
    (exec (readTag tag) r).2.Coherent := by
  rcases hrun : exec (readTag tag) r with ⟨e | _, r'⟩
  · obtain ⟨rfl, -⟩ := (ends_readTag h tag).bad hrun
    exact h
  · exact (ends_readTag h tag).good hrun

end Tags

/-! ## Runs -/

theorem coherent_empty : ({} : FacilitiesReader α).Coherent :=
  ⟨rfl, rfl⟩

variable [Number α]

/-- The reader behind tags, where those that it refuses are passed over. -/
def afterCalls (tags : List DocumentTag) : FacilitiesReader α :=
  tags.foldl (fun r tag => (exec (readTag tag) r).2) {}

/-- **Whatever tags a reader has got, and also where it has refused some of them, what is open is
what its state says.** So it never refuses a tag because what should be open is lost. -/
theorem coherent_afterCalls (tags : List DocumentTag) :
    let r : FacilitiesReader α := afterCalls tags
    r.Coherent ∧ ∀ tag e, (exec (readTag tag) r).1 = .error e →
      e ≠ .noOpenFacility ∧ e ≠ .noOpenActivity ∧ ∀ activityType, e ≠ .lostActivity activityType := by
  intro r
  have hr : r.Coherent :=
    List.foldlRecOn _ _ coherent_empty fun _ h tag _ => h.exec_readTag tag
  refine ⟨hr, fun tag e he => ?_⟩
  have hloss : e.isLoss = false := ((ends_readTag hr tag).bad (Prod.ext he rfl)).2
  refine ⟨?_, ?_, ?_⟩
  · rintro rfl
    cases hloss
  · rintro rfl
    cases hloss
  · rintro activityType rfl
    cases hloss

end FacilitiesReader

end SpatialAccess
