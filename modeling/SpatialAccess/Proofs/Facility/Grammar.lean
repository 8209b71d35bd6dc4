import SpatialAccess.Proofs.Facility.Described
import SpatialAccess.Proofs.Facility.Elements
import SpatialAccess.Proofs.Facility.Reading

/-!
# Facilities documents are read just if they are well-formed

* `Facilities.ofTags`: the facilities of the tags of a document.
* `FacilitiesReader.afterAll?_document`: the tags of a document are read as its elements say.
* `Facilities.exists_listsDocument_of_ofTags`: a collection of tags has the facilities of elements.
* **`Facilities.ofTags_spec`**: tags can be read just if they are those of a document that a
  collection can be made of, and then the collection has what the document says.
-/

namespace SpatialAccess

namespace FacilitiesReader

variable {α : Type} [Number α]

theorem afterAll?_cons (r : FacilitiesReader α) (tag : DocumentTag) (tags : List DocumentTag) :
    r.afterAll? (tag :: tags) = (r.after? tag).bind fun r' => r'.afterAll? tags :=
  rfl

theorem afterAll?_append (r : FacilitiesReader α) (tags tags' : List DocumentTag) :
    r.afterAll? (tags ++ tags') = (r.afterAll? tags).bind fun r' => r'.afterAll? tags' :=
  List.foldlM_append

theorem afterAll?_singleton (r : FacilitiesReader α) (tag : DocumentTag) :
    r.afterAll? [tag] = r.after? tag := by
  rw [afterAll?_cons]
  cases r.after? tag <;> rfl

/-- Reading the tags of items one after another, where each item takes the reader from one known
state to the next. -/
theorem afterAll?_flatMap {σ ι : Type} {state : σ → FacilitiesReader α}
    {tags : ι → List DocumentTag} {step : σ → ι → Option σ}
    (hstep : ∀ s i, (state s).afterAll? (tags i) = (step s i).map state) (items : List ι) (s : σ) :
    (state s).afterAll? (items.flatMap tags) = (items.foldlM step s).map state := by
  induction items generalizing s with
  | nil => rfl
  | cons i items ih =>
    rw [List.flatMap_cons, afterAll?_append, hstep s i, List.foldlM_cons]
    cases step s i with
    | none => rfl
    | some s' => exact ih s'

theorem afterAll?_details {fs : Facilities α} {f : Facility α} (hf : f.id.index = fs.size)
    {activityType : String} (hoffers : f.offers activityType = true) (ds : List Detail) :
    (inActivity fs f activityType).afterAll? (ds.map Detail.tag) =
      if ds.all (Detail.isReadable α) then
        some (inActivity fs (ds.foldl (Detail.apply activityType) f) activityType)
      else none := by
  induction ds generalizing f with
  | nil => rfl
  | cons d ds ih =>
    rw [List.map_cons, afterAll?_cons, after?_detail hf hoffers, List.all_cons]
    cases d.isReadable α with
    | false => rfl
    | true =>
      obtain ⟨options, happly⟩ := d.exists_apply_eq activityType f
      refine ih (by rw [happly, hf]) ?_
      rw [Facility.offers_eq, Detail.option?_apply, if_pos rfl, Option.isSome_map,
        ← Facility.offers_eq, hoffers]

theorem afterAll?_activity {fs : Facilities α} {f : Facility α} (hf : f.id.index = fs.size)
    (e : ActivityElement) :
    (inFacility fs f).afterAll? e.tags =
      if e.isReadable α then some (inFacility fs (e.apply f)) else none := by
  rw [ActivityElement.tags, List.cons_append, afterAll?_cons, after?_activity hf,
    ActivityElement.isReadable, ActivityElement.apply]
  cases e.attributes.lookup "type" with
  | none => rfl
  | some activityType =>
    have hid : (f.createOption activityType).id.index = fs.size := by
      rw [Facility.id_createOption, hf]
    have hoffers : (f.createOption activityType).offers activityType = true := by
      rw [Facility.offers_eq, Facility.option?_createOption, if_pos rfl, Option.isSome_some]
    rw [Option.map_some, Option.bind_some, afterAll?_append, afterAll?_details hid hoffers,
      Option.isSome_some, Bool.true_and]
    split
    · rw [Option.bind_some, afterAll?_singleton, after?_activityEnd]
    · rfl

theorem afterAll?_activities {fs : Facilities α} {f : Facility α} (hf : f.id.index = fs.size)
    (es : List ActivityElement) :
    (inFacility fs f).afterAll? (es.flatMap ActivityElement.tags) =
      if es.all (ActivityElement.isReadable α) then
        some (inFacility fs (es.foldl ActivityElement.apply f))
      else none := by
  induction es generalizing f with
  | nil => rfl
  | cons e es ih =>
    rw [List.flatMap_cons, afterAll?_append, afterAll?_activity hf, List.all_cons, List.foldl_cons]
    cases e.isReadable α with
    | false => rfl
    | true =>
      obtain ⟨options, happly⟩ := e.exists_apply_eq f
      exact ih (by rw [happly, hf])

/-- A facility element is read just if its facility can be added. -/
theorem afterAll?_facility (fs : Facilities α) (e : FacilityElement) :
    (inFacilities fs).afterAll? e.tags = (fs.addElement? e).map inFacilities := by
  rw [FacilityElement.tags, List.cons_append, afterAll?_cons, after?_facility,
    Facilities.addElement?]
  cases e.attributes.lookup "id" with
  | none => rfl
  | some label =>
    cases (e.attributes.point? : Option (Point α)) with
    | none => rfl
    | some coord =>
      simp only [Option.bind_some]
      by_cases hnew : fs.byLabel.contains label = false ∧ fs.size < Id.limit
      · rw [if_pos hnew, Option.bind_some, afterAll?_append, afterAll?_activities rfl]
        by_cases hread : e.activities.all (ActivityElement.isReadable α) = true
        · rw [if_pos hread, if_pos ⟨hnew.1, hnew.2, hread⟩, Option.bind_some, afterAll?_singleton,
            after?_facilityEnd]
          rfl
        · rw [if_neg hread, if_neg fun h => hread h.2.2]
          rfl
      · rw [if_neg hnew, if_neg fun h => hnew ⟨h.1, h.2.1⟩]
        rfl

theorem afterAll?_facilityElements (fs : Facilities α) (es : List FacilityElement) :
    (inFacilities fs).afterAll? (es.flatMap FacilityElement.tags) =
      (fs.addElements? es).map inFacilities :=
  afterAll?_flatMap afterAll?_facility es fs

/-- The tags of a document are read just if its facilities can be added. -/
theorem afterAll?_document (fs : Facilities α) (doc : FacilitiesDocument) :
    (outside fs).afterAll? doc.tags = (fs.addDocument? doc).map outside := by
  refine afterAll?_flatMap (fun fs e => ?_) doc fs
  rw [FacilitiesElement.tags, List.cons_append, afterAll?_cons, after?_facilities, Option.bind_some,
    afterAll?_append, afterAll?_facilityElements, Facilities.addFacilities?]
  cases { fs with name := e.attributes.lookup "name" }.addElements? e.facilities with
  | none => rfl
  | some fs' =>
    rw [Option.map_some, Option.bind_some, afterAll?_singleton, after?_facilitiesEnd]
    rfl

end FacilitiesReader

/-! ## Documents -/

namespace Facilities

open ExceptT FacilitiesReader

variable {α : Type} [Number α]

/-- The facilities of the tags of a document: all tags are read, then the document is over. -/
def ofTags (tags : List DocumentTag) : Except (ScenarioError α) (Facilities α) :=
  let reading : ReadStep α Unit := tags.forM readTag
  match reading.run.run {} with
  | (.error e, _) => .error e
  | (.ok (), reader) => reader.finish

theorem ofTags_eq_ok_iff {tags : List DocumentTag} {fs : Facilities α} :
    ofTags tags = .ok fs ↔
      ∃ r : FacilitiesReader α, (outside {}).afterAll? tags = some r ∧ r.state = .outside ∧
        r.facilities = fs := by
  have hall : ∀ r : FacilitiesReader α, (outside {}).afterAll? tags = some r ↔
      exec (tags.forM readTag) (outside {}) = (.ok ⟨⟩, r) := by
    intro r
    rw [← exec?_eq_some_iff, exec?_forM_readTag]
    simp
  have hofTags : ofTags tags =
      match exec (tags.forM readTag) (outside (α := α) {}) with
      | (.error e, _) => .error e
      | (.ok (), reader) => reader.finish := rfl
  simp only [hall, hofTags]
  rcases exec (tags.forM readTag) (outside (α := α) {}) with ⟨_ | ⟨⟩, r⟩
  · simp
  · by_cases hend : r.state = .outside <;> simp [finish, hend]

theorem ofTags_tags (doc : FacilitiesDocument) (fs : Facilities α) :
    ofTags doc.tags = .ok fs ↔ Facilities.addDocument? {} doc = some fs := by
  rw [ofTags_eq_ok_iff, afterAll?_document]
  constructor
  · rintro ⟨r, hr, -, rfl⟩
    obtain ⟨fs, hfs, rfl⟩ := Option.map_eq_some_iff.1 hr
    exact hfs
  · intro h
    exact ⟨outside fs, Option.map_eq_some_iff.2 ⟨fs, h, rfl⟩, rfl, rfl⟩

theorem ofTags_filter_isKnown (tags : List DocumentTag) (fs : Facilities α) :
    ofTags (tags.filter DocumentTag.isKnown) = .ok fs ↔ ofTags tags = .ok fs := by
  rw [ofTags_eq_ok_iff, ofTags_eq_ok_iff, afterAll?_filter_isKnown]

/-- Only tags of documents can be read. -/
theorem exists_document_of_ofTags {tags : List DocumentTag} {fs : Facilities α}
    (h : ofTags tags = .ok fs) :
    ∃ doc : FacilitiesDocument, tags.filter DocumentTag.isKnown = doc.tags := by
  obtain ⟨r, hr, hend, -⟩ := ofTags_eq_ok_iff.1 ((ofTags_filter_isKnown tags fs).2 h)
  exact DocumentState.closes_of_accepts (s := .outside)
    (fun tag htag => (List.mem_filter.1 htag).2) (accepts_of_afterAll? hr hend)

/-- The collection of a document has the facilities of its elements. -/
theorem exists_listsDocument_of_ofTags {tags : List DocumentTag} {fs : Facilities α}
    (h : ofTags tags = .ok fs) : ∃ doc : FacilitiesDocument, fs.ListsDocument doc := by
  obtain ⟨doc, htags⟩ := exists_document_of_ofTags h
  rw [← ofTags_filter_isKnown, htags, ofTags_tags] at h
  exact ⟨doc, (addDocument?_spec doc).2 fs h⟩

/-- **Tags can be read just if, without those of elements that do not matter, they are those of a
document whose elements can be read and whose labels are all different**; as each facility needs an
identifier of its own, there must not be more of them than identifiers. Then the collection has the
facilities of the document, numbered in its order, and each facility has the label, the place, the
description and the options that its element says. The name is the one of the last facilities
element. -/
theorem ofTags_spec (tags : List DocumentTag) :
    ((∃ fs : Facilities α, ofTags tags = .ok fs) ↔
      ∃ doc : FacilitiesDocument, tags.filter DocumentTag.isKnown = doc.tags ∧
        FacilityElement.Allowed α doc.facilities) ∧
    ∀ (doc : FacilitiesDocument) (fs : Facilities α),
      tags.filter DocumentTag.isKnown = doc.tags → ofTags tags = .ok fs →
        fs.size = doc.facilities.length ∧
        (∀ (i : ℕ) (e : FacilityElement), doc.facilities[i]? = some e →
          ∃ f, fs.get? ⟨i⟩ = some f ∧ f.id = ⟨i⟩ ∧ e.Describes f) ∧
        fs.name = doc.getLast?.bind fun e => e.attributes.lookup "name" := by
  have hread : ∀ (doc : FacilitiesDocument) (fs : Facilities α),
      tags.filter DocumentTag.isKnown = doc.tags →
        (ofTags tags = .ok fs ↔ Facilities.addDocument? {} doc = some fs) := by
    intro doc fs htags
    rw [← ofTags_filter_isKnown, htags, ofTags_tags]
  refine ⟨⟨?_, ?_⟩, fun doc fs htags h => ?_⟩
  · rintro ⟨fs, h⟩
    obtain ⟨doc, htags⟩ := exists_document_of_ofTags h
    exact ⟨doc, htags, (addDocument?_spec doc).1.1 ⟨fs, (hread doc fs htags).1 h⟩⟩
  · rintro ⟨doc, htags, hallowed⟩
    obtain ⟨fs, h⟩ := (addDocument?_spec doc).1.2 hallowed
    exact ⟨fs, (hread doc fs htags).2 h⟩
  · obtain ⟨hlists, hname⟩ := (addDocument?_spec doc).2 fs ((hread doc fs htags).1 h)
    exact ⟨hlists.size_eq, hlists.get?, hname⟩

end Facilities

end SpatialAccess
