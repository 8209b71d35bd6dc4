import Mathlib.Data.List.Nodup
import SpatialAccess.Proofs.Facility.Collection
import SpatialAccess.Proofs.Facility.Contents

/-!
# Collections that facility elements describe

* `FacilityElement.Allowed`: elements that a collection can be made of. All of them can be read, no
  label occurs twice, and there are identifiers for all of them.
* `Facilities.addElement?`, `Facilities.addElements?`: a collection with the facilities of more
  elements.
* `Facilities.Lists`: a collection has the facilities of elements, in their order.
* **`Facilities.addDocument?_spec`**: a document can be added just if all its elements together are
  allowed, and then the collection has the facilities of all of them.
-/

namespace SpatialAccess

variable {α : Type} [Number α]

/-! ## Allowed elements -/

/-- The labels of facility elements. -/
def FacilityElement.labels (es : List FacilityElement) : List String :=
  es.filterMap fun e => e.attributes.lookup "id"

variable (α) in
/-- A collection can be made of facility elements. -/
structure FacilityElement.Allowed (es : List FacilityElement) : Prop where
  isReadable : ∀ e ∈ es, e.isReadable α = true
  nodup : (labels es).Nodup
  length_le : es.length ≤ Id.limit

namespace FacilityElement

theorem isReadable_iff {e : FacilityElement} :
    e.isReadable α = true ↔
      ∃ label, e.attributes.lookup "id" = some label ∧
        ∃ coord : Point α, e.attributes.point? = some coord ∧
          ∀ a ∈ e.activities, a.isReadable α = true := by
  simp only [isReadable, Bool.and_eq_true, List.all_eq_true, Option.isSome_iff_exists, and_assoc]
  constructor
  · rintro ⟨⟨label, hlabel⟩, ⟨coord, hcoord⟩, h⟩
    exact ⟨label, hlabel, coord, hcoord, h⟩
  · rintro ⟨label, hlabel, coord, hcoord, h⟩
    exact ⟨⟨label, hlabel⟩, ⟨coord, hcoord⟩, h⟩

theorem labels_append (es es' : List FacilityElement) :
    labels (es ++ es') = labels es ++ labels es' :=
  List.filterMap_append

theorem labels_singleton {e : FacilityElement} {label : String}
    (h : e.attributes.lookup "id" = some label) : labels [e] = [label] := by
  simp [labels, h]

theorem allowed_nil : Allowed α [] :=
  ⟨by simp, List.nodup_nil, Nat.zero_le _⟩

theorem Allowed.of_append {es es' : List FacilityElement} (h : Allowed α (es ++ es')) :
    Allowed α es := by
  refine ⟨fun e he => h.isReadable e (List.mem_append_left _ he), ?_, ?_⟩
  · exact List.Nodup.of_append_left (labels_append es es' ▸ h.nodup)
  · have hle := h.length_le
    rw [List.length_append] at hle
    omega

theorem allowed_concat_iff {es : List FacilityElement} (hes : Allowed α es) {e : FacilityElement} :
    Allowed α (es ++ [e]) ↔
      e.isReadable α = true ∧ (∀ label ∈ labels es, e.attributes.lookup "id" ≠ some label) ∧
        es.length < Id.limit := by
  constructor
  · rintro ⟨hread, hnodup, hlength⟩
    rw [List.length_append, List.length_singleton] at hlength
    refine ⟨hread e (by simp), fun label hmem hlabel => ?_, hlength⟩
    rw [labels_append, labels_singleton hlabel] at hnodup
    exact List.disjoint_of_nodup_append hnodup hmem (by simp)
  · rintro ⟨hread, hnew, hlength⟩
    refine ⟨fun e' he' => ?_, ?_, by rwa [List.length_append, List.length_singleton]⟩
    · obtain he' | he' := List.mem_append.1 he'
      · exact hes.isReadable e' he'
      · exact List.mem_singleton.1 he' ▸ hread
    · obtain ⟨label, hlabel, -⟩ := isReadable_iff.1 hread
      rw [labels_append, labels_singleton hlabel]
      exact List.Nodup.append hes.nodup (List.nodup_singleton _) fun l hl hl' =>
        hnew l hl (List.mem_singleton.1 hl' ▸ hlabel)

end FacilityElement

/-! ## Adding elements -/

namespace Facilities

open FacilityElement (Allowed labels allowed_concat_iff)

/-- The collection with the facility of an element more, if it can be added. -/
def addElement? (fs : Facilities α) (e : FacilityElement) : Option (Facilities α) :=
  (e.attributes.lookup "id").bind fun label =>
    e.attributes.point?.bind fun coord =>
      if fs.byLabel.contains label = false ∧ fs.size < Id.limit ∧
          e.activities.all (ActivityElement.isReadable α) = true then
        some (fs.add (e.apply { id := ⟨fs.size⟩, label, coord, desc := e.attributes.lookup "desc" }))
      else none

/-- The collection with the facilities of elements more, if they can be added. -/
def addElements? (fs : Facilities α) (es : List FacilityElement) : Option (Facilities α) :=
  es.foldlM addElement? fs

theorem addElement?_eq_some_iff {fs fs' : Facilities α} {e : FacilityElement} :
    fs.addElement? e = some fs' ↔
      ∃ label coord, e.attributes.lookup "id" = some label ∧ e.attributes.point? = some coord ∧
        (fs.byLabel.contains label = false ∧ fs.size < Id.limit ∧
          e.activities.all (ActivityElement.isReadable α) = true) ∧
        fs' = fs.add
          (e.apply { id := ⟨fs.size⟩, label, coord, desc := e.attributes.lookup "desc" }) := by
  simp only [addElement?, Option.bind_eq_some_iff, Option.ite_none_right_eq_some, Option.some.injEq]
  constructor
  · rintro ⟨label, hlabel, coord, hcoord, h, rfl⟩
    exact ⟨label, coord, hlabel, hcoord, h, rfl⟩
  · rintro ⟨label, coord, hlabel, hcoord, h, rfl⟩
    exact ⟨label, hlabel, coord, hcoord, h, rfl⟩

/-- A collection has the facilities of elements, in their order. -/
structure Lists (fs : Facilities α) (es : List FacilityElement) : Prop where
  size_eq : fs.size = es.length
  get? : ∀ (i : ℕ) (e : FacilityElement), es[i]? = some e →
    ∃ f, fs.get? ⟨i⟩ = some f ∧ f.id = ⟨i⟩ ∧ e.Describes f
  contains : ∀ label, fs.byLabel.contains label = true ↔ label ∈ labels es
  allowed : Allowed α es

theorem lists_empty : ({} : Facilities α).Lists [] where
  size_eq := rfl
  get? := by simp
  contains := by simp [labels]
  allowed := FacilityElement.allowed_nil

theorem Lists.exists_addElement?_iff {fs : Facilities α} {es : List FacilityElement}
    (h : fs.Lists es) (e : FacilityElement) :
    (∃ fs', fs.addElement? e = some fs') ↔ Allowed α (es ++ [e]) := by
  rw [allowed_concat_iff h.allowed]
  simp only [addElement?_eq_some_iff]
  constructor
  · rintro ⟨_, label, coord, hlabel, hcoord, ⟨hnew, hsize, hread⟩, -⟩
    have hreadable : e.isReadable α = true :=
      FacilityElement.isReadable_iff.2 ⟨label, hlabel, coord, hcoord, List.all_eq_true.1 hread⟩
    refine ⟨hreadable, fun l hl hl' => ?_, h.size_eq ▸ hsize⟩
    obtain rfl := Option.some.inj (hlabel.symm.trans hl')
    rw [(h.contains label).2 hl] at hnew
    cases hnew
  · rintro ⟨hread, hnew, hlength⟩
    obtain ⟨label, hlabel, coord, hcoord, hread⟩ := FacilityElement.isReadable_iff.1 hread
    refine ⟨_, label, coord, hlabel, hcoord,
      ⟨?_, h.size_eq ▸ hlength, List.all_eq_true.2 hread⟩, rfl⟩
    rw [Bool.eq_false_iff]
    exact fun hc => hnew label ((h.contains label).1 hc) hlabel

theorem lists_addElement? {fs fs' : Facilities α} {es : List FacilityElement} (h : fs.Lists es)
    {e : FacilityElement} (hadd : fs.addElement? e = some fs') : fs'.Lists (es ++ [e]) := by
  have hallowed : Allowed α (es ++ [e]) := (h.exists_addElement?_iff e).1 ⟨fs', hadd⟩
  obtain ⟨label, coord, hlabel, hcoord, -, rfl⟩ := addElement?_eq_some_iff.1 hadd
  have hread : e.isReadable α = true := hallowed.isReadable e (by simp)
  obtain ⟨options, happly⟩ := FacilityElement.exists_apply_eq
    { id := ⟨fs.size⟩, label, coord, desc := e.attributes.lookup "desc" } e
  refine ⟨by simp [h.size_eq], fun i e' he' => ?_, fun l => ?_, hallowed⟩
  · rw [get?_add]
    obtain hi | rfl | hi := Nat.lt_trichotomy i es.length
    · rw [if_neg (by simp only [h.size_eq]; omega)]
      rw [List.getElem?_append_left hi] at he'
      exact h.get? i e' he'
    · rw [List.getElem?_concat_length] at he'
      cases he'
      refine ⟨_, if_pos h.size_eq.symm, by rw [happly, h.size_eq], ?_⟩
      refine ⟨by rw [happly, hlabel], by rw [happly, hcoord], by rw [happly],
        fun activityType => ?_⟩
      exact FacilityElement.option?_apply hread (fun _ => rfl) activityType
    · rw [List.getElem?_eq_none (by simp; omega)] at he'
      cases he'
  · rw [contains_add, FacilityElement.labels_append, FacilityElement.labels_singleton hlabel,
      happly]
    rw [Bool.or_eq_true, beq_iff_eq, h.contains, List.mem_append, List.mem_singleton, or_comm,
      eq_comm (a := label)]

/-- Adding elements gathers them, and keeps the name. -/
theorem gathers_addElement? (name : Option String) :
    Gathers (addElement? (α := α)) (fun fs es => fs.Lists es ∧ fs.name = name) (Allowed α) where
  allowed h := h.1.allowed
  of_append := Allowed.of_append
  exists_iff e h := h.1.exists_addElement?_iff e
  holds := by
    rintro fs es e fs' ⟨hlists, hname⟩ hadd
    refine ⟨lists_addElement? hlists hadd, ?_⟩
    obtain ⟨_, _, -, -, -, rfl⟩ := addElement?_eq_some_iff.1 hadd
    exact hname

/-! ## Documents -/

/-- The collection with the facilities of a facilities element more, and its name. -/
def addFacilities? (fs : Facilities α) (e : FacilitiesElement) : Option (Facilities α) :=
  { fs with name := e.attributes.lookup "name" }.addElements? e.facilities

/-- The collection with the facilities of a document more. -/
def addDocument? (fs : Facilities α) (doc : FacilitiesDocument) : Option (Facilities α) :=
  doc.foldlM addFacilities? fs

/-- A collection has the facilities of a document, and the name of its last facilities element. -/
structure ListsDocument (fs : Facilities α) (doc : FacilitiesDocument) : Prop where
  lists : fs.Lists doc.facilities
  name_eq : fs.name = doc.getLast?.bind fun e => e.attributes.lookup "name"

theorem listsDocument_empty : ({} : Facilities α).ListsDocument [] :=
  ⟨lists_empty, rfl⟩

/-- Adding facilities elements gathers them. -/
theorem gathers_addFacilities? :
    Gathers (addFacilities? (α := α)) ListsDocument
      fun doc => Allowed α (FacilitiesDocument.facilities doc) := by
  have hadd : ∀ {fs : Facilities α} {doc : FacilitiesDocument} (e : FacilitiesElement),
      fs.ListsDocument doc →
        ((∃ fs', fs.addFacilities? e = some fs') ↔
          Allowed α (FacilitiesDocument.facilities (doc ++ [e]))) ∧
        ∀ fs', fs.addFacilities? e = some fs' → fs'.ListsDocument (doc ++ [e]) := by
    intro fs doc e h
    have happend : FacilitiesDocument.facilities (doc ++ [e]) = doc.facilities ++ e.facilities := by
      simp [FacilitiesDocument.facilities]
    have hname : { fs with name := e.attributes.lookup "name" }.Lists doc.facilities :=
      ⟨h.lists.size_eq, h.lists.get?, h.lists.contains, h.lists.allowed⟩
    obtain ⟨hiff, hlists⟩ := (gathers_addElement? _).foldlM ⟨hname, rfl⟩ e.facilities
    rw [happend]
    refine ⟨hiff, fun fs' hfs' => ⟨happend ▸ (hlists fs' hfs').1, ?_⟩⟩
    rw [(hlists fs' hfs').2, List.getLast?_concat]
    rfl
  constructor
  · exact fun h => h.lists.allowed
  · intro doc doc' h
    rw [FacilitiesDocument.facilities, List.flatMap_append] at h
    exact h.of_append
  · exact fun e h => (hadd e h).1
  · exact fun h hfs' => (hadd _ h).2 _ hfs'

/-- **A document can be added to nothing** just if all its facility elements together are allowed,
and then the collection has the facilities of all of them. -/
theorem addDocument?_spec (doc : FacilitiesDocument) :
    ((∃ fs : Facilities α, addDocument? {} doc = some fs) ↔ Allowed α doc.facilities) ∧
      ∀ fs : Facilities α, addDocument? {} doc = some fs → fs.ListsDocument doc :=
  gathers_addFacilities?.foldlM listsDocument_empty doc

end Facilities

end SpatialAccess
