import SpatialAccess.Proofs.Facility.Collection
import SpatialAccess.Proofs.Facility.Contents

/-!
# Reading tags of facilities documents

* `FacilitiesReader.after?`, `FacilitiesReader.afterAll?`: the reader behind tags that can be read.
  `FacilitiesReader.next?_of_after?`: it follows the states of a document.
* `FacilitiesReader.afterAll?_filter_isKnown`: tags of other elements are passed over.
* `FacilitiesReader.outside`, `FacilitiesReader.inFacilities`, `FacilitiesReader.inFacility`,
  `FacilitiesReader.inActivity`: readers that stand in an element, and what each tag does there.
-/

namespace SpatialAccess

open ExceptT

namespace FacilitiesReader

variable {α : Type} [Number α]

/-- Reads a tag. -/
def readTag : DocumentTag → ReadStep α Unit
  | .start name attributes => startTag name attributes
  | .finish name => endTag name

/-- The reader behind a tag, if that can be read. -/
def after? (r : FacilitiesReader α) (tag : DocumentTag) : Option (FacilitiesReader α) :=
  (exec? (readTag tag) r).map Prod.snd

/-- The reader behind tags, if they can be read. -/
def afterAll? (r : FacilitiesReader α) (tags : List DocumentTag) : Option (FacilitiesReader α) :=
  tags.foldlM after? r

theorem exec?_forM_readTag (tags : List DocumentTag) (r : FacilitiesReader α) :
    exec? (tags.forM readTag) r = (r.afterAll? tags).map fun r' => (⟨⟩, r') :=
  exec?_forM readTag tags r

omit [Number α] in
theorem exec?_advance (event : TagEvent) (name : String) (r : FacilitiesReader α) :
    exec? (advance event name) r = (r.state.next? event).map fun next => (next, r) := by
  rw [advance, exec?_bind, exec?_get, Option.bind_some]
  cases r.state.next? event <;> rfl

/-- A start tag may stand where it does, its element can be read, and then the state changes. -/
theorem after?_start (name : String) (attributes : TagAttributes) (r : FacilitiesReader α) :
    r.after? (.start name attributes) =
      (r.state.next? (.start (.ofName name))).bind fun next =>
        (exec? (startElement name attributes (.ofName name)) r).map fun p =>
          { p.2 with state := next } := by
  simp only [after?, readTag, startTag, exec?_bind, exec?_advance, exec?_modify]
  cases r.state.next? (.start (.ofName name)) with
  | none => rfl
  | some next =>
    simp only [Option.map_some, Option.bind_some]
    cases exec? (startElement name attributes (.ofName name)) r <;> rfl

theorem after?_finish (name : String) (r : FacilitiesReader α) :
    r.after? (.finish name) =
      (r.state.next? (.finish (.ofName name))).bind fun next =>
        (exec? (endElement (.ofName name)) r).map fun p => { p.2 with state := next } := by
  simp only [after?, readTag, endTag, exec?_bind, exec?_advance, exec?_modify]
  cases r.state.next? (.finish (.ofName name)) with
  | none => rfl
  | some next =>
    simp only [Option.map_some, Option.bind_some]
    cases exec? (endElement (.ofName name)) r <;> rfl

/-! ## States and tags -/

theorem next?_of_after? {tag : DocumentTag} {r r' : FacilitiesReader α}
    (h : r.after? tag = some r') : r.state.next? tag.event = some r'.state := by
  cases tag with
  | start name attributes =>
    rw [after?_start, Option.bind_eq_some_iff] at h
    obtain ⟨next, hnext, h⟩ := h
    obtain ⟨p, -, rfl⟩ := Option.map_eq_some_iff.1 h
    exact hnext
  | finish name =>
    rw [after?_finish, Option.bind_eq_some_iff] at h
    obtain ⟨next, hnext, h⟩ := h
    obtain ⟨p, -, rfl⟩ := Option.map_eq_some_iff.1 h
    exact hnext

theorem accepts_of_afterAll? {tags : List DocumentTag} {r r' : FacilitiesReader α}
    (h : r.afterAll? tags = some r') (hend : r'.state = .outside) : r.state.accepts tags = true := by
  induction tags generalizing r with
  | nil =>
    cases h
    exact decide_eq_true hend
  | cons tag tags ih =>
    obtain ⟨r₁, hr₁, h⟩ := Option.bind_eq_some_iff.1 h
    rw [DocumentState.accepts, next?_of_after? hr₁]
    exact ih h

/-- A tag of no element that matters changes nothing. -/
theorem after?_of_unknown {tag : DocumentTag} (h : tag.isKnown = false) (r : FacilitiesReader α) :
    r.after? tag = some r := by
  have hother : ∀ s : DocumentState,
      s.next? (.start .other) = some s ∧ s.next? (.finish .other) = some s := by
    intro s
    cases s <;> exact ⟨rfl, rfl⟩
  simp only [DocumentTag.isKnown, bne_eq_false_iff_eq] at h
  cases tag with
  | start name attributes =>
    rw [after?_start, show Element.ofName name = .other from h, (hother r.state).1]
    rfl
  | finish name =>
    rw [after?_finish, show Element.ofName name = .other from h, (hother r.state).2]
    rfl

theorem afterAll?_filter_isKnown (tags : List DocumentTag) (r : FacilitiesReader α) :
    r.afterAll? (tags.filter DocumentTag.isKnown) = r.afterAll? tags := by
  induction tags generalizing r with
  | nil => rfl
  | cons tag tags ih =>
    cases h : tag.isKnown with
    | true =>
      rw [List.filter_cons_of_pos h]
      exact congrArg (Option.bind (r.after? tag)) (funext ih)
    | false =>
      rw [List.filter_cons_of_neg (by simp [h]), ih, afterAll?, afterAll?, List.foldlM_cons,
        after?_of_unknown h]
      rfl

/-! ## Readers that stand in an element -/

/-- A reader outside of all elements. -/
def outside (fs : Facilities α) : FacilitiesReader α :=
  { facilities := fs }

/-- A reader between facilities. -/
def inFacilities (fs : Facilities α) : FacilitiesReader α :=
  { state := .inFacilities, facilities := fs }

/-- A reader in the facility that it has created last. -/
def inFacility (fs : Facilities α) (f : Facility α) : FacilitiesReader α :=
  { state := .inFacility, facilities := fs.add f, facility? := some f.id }

/-- A reader in an activity of the facility that it has created last. -/
def inActivity (fs : Facilities α) (f : Facility α) (activityType : String) : FacilitiesReader α :=
  { state := .inActivity, facilities := fs.add f, facility? := some f.id,
    activity? := some activityType }

theorem after?_facilities (fs : Facilities α) (attributes : TagAttributes) :
    (outside fs).after? (.start "facilities" attributes) =
      some (inFacilities { fs with name := attributes.lookup "name" }) :=
  rfl

theorem after?_facilitiesEnd (fs : Facilities α) :
    (inFacilities fs).after? (.finish "facilities") = some (outside fs) :=
  rfl

theorem after?_facilityEnd (fs : Facilities α) (f : Facility α) :
    (inFacility fs f).after? (.finish "facility") = some (inFacilities (fs.add f)) :=
  rfl

theorem after?_activityEnd (fs : Facilities α) (f : Facility α) (activityType : String) :
    (inActivity fs f activityType).after? (.finish "activity") = some (inFacility fs f) :=
  rfl

/-- A facility can be created just if its element has a label that is new and a place, and if there
is an identifier left. -/
theorem after?_facility (fs : Facilities α) (attributes : TagAttributes) :
    (inFacilities fs).after? (.start "facility" attributes) =
      (attributes.lookup "id").bind fun label =>
        attributes.point?.bind fun coord =>
          if fs.byLabel.contains label = false ∧ fs.size < Id.limit then
            some (inFacility fs { id := ⟨fs.size⟩, label, coord, desc := attributes.lookup "desc" })
          else none := by
  have hmodify : ∀ (id : FacilityId) (label : String) (coord : Point α), id.index = fs.size →
      (fs.add { id, label, coord }).modify id
          (fun f => { f with desc := attributes.lookup "desc" }) =
        fs.add { id, label, coord, desc := attributes.lookup "desc" } := fun id label coord hid =>
    Facilities.modify_add (f := { id, label, coord }) hid rfl rfl
  rw [after?_start, show Element.ofName "facility" = .facility from rfl]
  simp only [inFacilities, DocumentState.next?, Option.bind_some, startElement, exec?_bind,
    exec?_ofExcept, TagAttributes.toOption_require, TagAttributes.toOption_requireNumber, exec?_get,
    exec?_set, Except.toOption_mapError, Facilities.toOption_create, TagAttributes.point?]
  cases attributes.lookup "id" with
  | none => rfl
  | some label =>
    cases (attributes.number? "x" : Option α) with
    | none => rfl
    | some x =>
      cases (attributes.number? "y" : Option α) with
      | none => rfl
      | some y =>
        simp only [Option.map_some, Option.bind_some]
        split
        · simp only [Option.map_some, Option.bind_some, hmodify]
          rfl
        · rfl

omit [Number α] in
theorem exec?_changeFacility {r : FacilitiesReader α} {fs : Facilities α} {f : Facility α}
    (hf : f.id.index = fs.size) (hr : r.facility? = some f.id) (hfs : r.facilities = fs.add f)
    {change : Facility α → Facility α} (hid : (change f).id = f.id)
    (hlabel : (change f).label = f.label) :
    exec? (changeFacility change) r = some (⟨⟩, { r with facilities := fs.add (change f) }) := by
  have hget : (fs.add f).get? f.id = some f := by rw [Facilities.get?_add, if_pos hf]
  rw [changeFacility, exec?_bind, exec?_get, Option.bind_some]
  simp only [hr, hfs, Option.filter_some, hget, Option.isSome_some, if_true,
    Facilities.modify_add hf hid hlabel]
  rfl

omit [Number α] in
theorem exec?_changeOption {fs : Facilities α} {f : Facility α} (hf : f.id.index = fs.size)
    {activityType : String} (hoffers : f.offers activityType = true)
    (change : ActivityOption α → ActivityOption α) :
    exec? (changeOption change) (inActivity fs f activityType) =
      some (⟨⟩, inActivity fs (f.modifyOption activityType change) activityType) := by
  have hget : (fs.add f).get? f.id = some f := by rw [Facilities.get?_add, if_pos hf]
  rw [changeOption, exec?_bind, exec?_get, Option.bind_some]
  simp only [inActivity, Option.bind_some, hget, hoffers, if_true]
  rw [exec?_changeFacility hf rfl rfl rfl rfl]
  rfl

theorem after?_activity {fs : Facilities α} {f : Facility α} (hf : f.id.index = fs.size)
    (attributes : TagAttributes) :
    (inFacility fs f).after? (.start "activity" attributes) =
      (attributes.lookup "type").map fun activityType =>
        inActivity fs (f.createOption activityType) activityType := by
  rw [after?_start, show Element.ofName "activity" = .activity from rfl]
  simp only [inFacility, DocumentState.next?, Option.bind_some, startElement, exec?_bind,
    exec?_ofExcept, TagAttributes.toOption_require, exec?_modify]
  cases attributes.lookup "type" with
  | none => rfl
  | some activityType =>
    simp only [Option.map_some, Option.bind_some]
    rw [exec?_changeFacility hf rfl rfl (f.id_createOption activityType)
      (f.label_createOption activityType)]
    simp only [Option.bind_some, Option.map_some, inActivity, Facility.id_createOption]

theorem after?_detail {fs : Facilities α} {f : Facility α} (hf : f.id.index = fs.size)
    {activityType : String} (hoffers : f.offers activityType = true) (d : Detail) :
    (inActivity fs f activityType).after? d.tag =
      if d.isReadable α then some (inActivity fs (Detail.apply activityType f d) activityType)
      else none := by
  cases d with
  | capacityEnd | opentimeEnd => rfl
  | capacity attributes =>
    have hstart := after?_start "capacity" attributes (inActivity fs f activityType)
    simp only [show Element.ofName "capacity" = .capacity from rfl, startElement, exec?_bind,
      exec?_ofExcept, TagAttributes.toOption_requireNumber] at hstart
    rw [Detail.tag, hstart]
    obtain hv | ⟨value, hv⟩ := Option.eq_none_or_eq_some (attributes.number? "value" : Option α)
    · simp only [hv, Detail.isReadable]
      rfl
    · simp only [hv, Detail.isReadable, Option.map_some, Option.bind_some, Option.isSome_some,
        if_true, exec?_changeOption hf hoffers, Detail.apply, Option.toList_some,
        ActivityOption.extend_capacity]
      rfl
  | opentime attributes =>
    have hstart := after?_start "opentime" attributes (inActivity fs f activityType)
    simp only [show Element.ofName "opentime" = .opentime from rfl, startElement, exec?_bind,
      exec?_ofExcept, TagAttributes.toOption_requireDay,
      TagAttributes.toOption_requireTime] at hstart
    rw [Detail.tag, hstart]
    simp only [Detail.isReadable, Detail.apply, TagAttributes.openingTime?]
    obtain hday | ⟨day, hday⟩ := Option.eq_none_or_eq_some
      ((attributes.lookup "day").bind DayType.read?)
    · simp only [hday]
      rfl
    obtain hopens | ⟨opens, hopens⟩ := Option.eq_none_or_eq_some
      (attributes.time? "start_time" : Option α)
    · simp only [hday, hopens]
      rfl
    obtain hcloses | ⟨closes, hcloses⟩ := Option.eq_none_or_eq_some
      (attributes.time? "end_time" : Option α)
    · simp only [hday, hopens, hcloses]
      rfl
    simp only [hday, hopens, hcloses, Option.map_some, Option.bind_some, Option.bind_eq_bind,
      Option.pure_def, Option.isSome_some, if_true, Option.toList_some,
      exec?_changeOption hf hoffers, ActivityOption.extend_openingTime]
    rfl

end FacilitiesReader

end SpatialAccess
