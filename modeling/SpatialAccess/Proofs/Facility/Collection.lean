import SpatialAccess.Facility.Basic
import SpatialAccess.Proofs.Registry

/-!
# Collections of facilities

* `Facilities.add`: a collection with a facility at its end. `Facilities.create_eq_ok_iff`: creating
  adds a facility unless its label is taken or all identifiers are used up.
* `Facilities.Numbered`: facilities carry their places as identifiers. New facilities and changes
  keep this up.
* `Facilities.Numbered.mem_idsOffering_iff`, `Facilities.Numbered.pairwise_idsOffering`: just the
  facilities that offer an activity type are listed under it, in their order.
-/

namespace SpatialAccess

variable {α : Type}

namespace Facility

theorem offers_eq (f : Facility α) (activityType : String) :
    f.offers activityType = (f.option? activityType).isSome :=
  Std.TreeMap.contains_eq_isSome_getElem?

/-- Only what is offered has a capacity. -/
theorem offers_of_capacity {f : Facility α} {activityType : String} {capacity : α}
    (h : f.capacity activityType = .ok capacity) : f.offers activityType = true := by
  obtain ⟨o, ho, -⟩ := Except.bind_eq_ok.1 h
  unfold requireOption at ho
  rw [offers_eq]
  split at ho
  · next hoption => rw [hoption, Option.isSome_some]
  · cases ho

theorem capacity_addOption (f : Facility α) {o : ActivityOption α} {capacity : α}
    (h : o.capacity = some capacity) : (f.addOption o).capacity o.activityType = .ok capacity := by
  have hoption : (f.addOption o).option? o.activityType = some o := by simp [option?, addOption]
  simp only [Facility.capacity, requireOption, hoption, Except.bind_eq_ok]
  exact ⟨o, rfl, by rw [h]; rfl⟩

end Facility

namespace Facilities

/-- A collection with a facility at its end. -/
def add (fs : Facilities α) (f : Facility α) : Facilities α :=
  { fs with list := fs.list.push f, byLabel := fs.byLabel.insert f.label f.id }

@[simp] theorem size_add (fs : Facilities α) (f : Facility α) : (fs.add f).size = fs.size + 1 :=
  Array.size_push ..

theorem get?_add (fs : Facilities α) (f : Facility α) (id : FacilityId) :
    (fs.add f).get? id = if id.index = fs.size then some f else fs.get? id :=
  Array.getElem?_push

theorem get?_modify (fs : Facilities α) (id : FacilityId) (change : Facility α → Facility α) :
    (fs.modify id change).get? id = (fs.get? id).map change := by
  simp [modify, get?, Array.getElem?_modify]

theorem contains_add (fs : Facilities α) (f : Facility α) (label : String) :
    (fs.add f).byLabel.contains label = (f.label == label || fs.byLabel.contains label) := by
  simp [add]

section Create

variable {fs fs' : Facilities α} {label : String} {coord : Point α}

theorem createM_eq_ok_iff {id : FacilityId} :
    (createM label coord).exec fs = (.ok id, fs') ↔
      fs.byLabel.contains label = false ∧ fs.size < Id.limit ∧ id = ⟨fs.size⟩ ∧
        fs' = fs.add { id, label, coord } := by
  simp only [createM, ExceptT.exec_onPart_eq_ok_iff, Registry.createM_eq_ok_iff]
  constructor
  · rintro ⟨_, ⟨hnew, hlimit, rfl, rfl⟩, rfl⟩
    exact ⟨hnew, hlimit, rfl, rfl⟩
  · rintro ⟨hnew, hlimit, rfl, rfl⟩
    exact ⟨_, ⟨hnew, hlimit, rfl, rfl⟩, rfl⟩

theorem createM_eq_error_iff {e : CreateError} :
    ((createM label coord).exec fs).1 = .error e ↔
      fs.byLabel.contains label = true ∧ e = .duplicate "facility" label ∨
        fs.byLabel.contains label = false ∧ Id.limit ≤ fs.size ∧ e = .tooMany "facilities" :=
  Registry.createM_eq_error_iff

theorem atomic_createM : (createM (α := α) label coord).Atomic :=
  Registry.atomic_createM.onPart fun _ => rfl

theorem create_eq_ok_iff {id : FacilityId} :
    fs.create label coord = .ok (id, fs') ↔
      fs.byLabel.contains label = false ∧ fs.size < Id.limit ∧ id = ⟨fs.size⟩ ∧
        fs' = fs.add { id, label, coord } :=
  ExceptT.attempt_eq_ok_iff.trans createM_eq_ok_iff

end Create

theorem toOption_create (fs : Facilities α) (label : String) (coord : Point α) :
    (fs.create label coord).toOption =
      if fs.byLabel.contains label = false ∧ fs.size < Id.limit then
        some (⟨fs.size⟩, fs.add { id := ⟨fs.size⟩, label, coord })
      else none := by
  refine Option.ext fun p => ?_
  rw [Except.toOption_eq_some_iff, create_eq_ok_iff, Option.ite_none_right_eq_some,
    Option.some.injEq]
  constructor
  · rintro ⟨hnew, hlimit, hid, hfs⟩
    exact ⟨⟨hnew, hlimit⟩, Prod.ext hid.symm (by rw [hfs, hid])⟩
  · rintro ⟨⟨hnew, hlimit⟩, rfl⟩
    exact ⟨hnew, hlimit, rfl, rfl⟩

/-- Changing the facility at the end of a collection. -/
theorem modify_add {fs : Facilities α} {f : Facility α} (hf : f.id.index = fs.size)
    {change : Facility α → Facility α} (hid : (change f).id = f.id)
    (hlabel : (change f).label = f.label) :
    (fs.add f).modify f.id change = fs.add (change f) := by
  have hlist : (fs.list.push f).modify f.id.index change = fs.list.push (change f) := by
    rw [hf]
    exact modify_push_size fs.list f change
  simp only [modify, add, hlist, hid, hlabel]

/-- Facilities carry their places as identifiers. -/
def Numbered (fs : Facilities α) : Prop :=
  fs.toRegistry.Numbered Facility.id

theorem Numbered.add {fs : Facilities α} (h : fs.Numbered) {f : Facility α}
    (hf : f.id.index = fs.size) : (fs.add f).Numbered :=
  h.push hf _

theorem Numbered.modify {fs : Facilities α} (h : fs.Numbered) (id : FacilityId)
    {change : Facility α → Facility α} (hchange : ∀ f, (change f).id = f.id) :
    (fs.modify id change).Numbered :=
  Registry.Numbered.modify h id.index hchange

theorem Numbered.get?_eq_some_iff {fs : Facilities α} (h : fs.Numbered) {id : FacilityId}
    {f : Facility α} : fs.get? id = some f ↔ f ∈ fs.list ∧ f.id = id :=
  h.getElem?_eq_some_iff

theorem Numbered.get?_id {fs : Facilities α} (h : fs.Numbered) {f : Facility α}
    (hf : f ∈ fs.list) : fs.get? f.id = some f :=
  h.get?_eq_some_iff.2 ⟨hf, rfl⟩

/-! ## What facilities offer -/

theorem mem_offering_iff {fs : Facilities α} {activityType : String} {f : Facility α} :
    f ∈ fs.offering activityType ↔ f ∈ fs.list ∧ f.offers activityType = true := by
  rw [offering, List.mem_filter, Array.mem_toList_iff]

theorem Numbered.nodup_idsOffering {fs : Facilities α} (h : fs.Numbered) (activityType : String) :
    (fs.idsOffering activityType).Nodup :=
  (List.filter_sublist.map Facility.id).nodup h.nodup_ids

/-- Just the facilities that offer an activity type are listed under it, -/
theorem Numbered.mem_idsOffering_iff {fs : Facilities α} (h : fs.Numbered) {activityType : String}
    {id : FacilityId} :
    id ∈ fs.idsOffering activityType ↔
      ∃ f, fs.get? id = some f ∧ f.offers activityType = true := by
  simp only [idsOffering, List.mem_map, mem_offering_iff, h.get?_eq_some_iff]
  constructor
  · rintro ⟨f, ⟨hf, hoffers⟩, rfl⟩
    exact ⟨f, ⟨hf, rfl⟩, hoffers⟩
  · rintro ⟨f, ⟨hf, rfl⟩, hoffers⟩
    exact ⟨f, ⟨hf, hoffers⟩, rfl⟩

/-- and in the order of their identifiers. -/
theorem Numbered.pairwise_idsOffering {fs : Facilities α} (h : fs.Numbered)
    (activityType : String) :
    (fs.idsOffering activityType).Pairwise fun a b => a.index < b.index :=
  h.pairwise_ids.sublist (List.filter_sublist.map Facility.id)

end Facilities

end SpatialAccess
