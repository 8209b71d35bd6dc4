import Mathlib.Data.List.Nodup
import SpatialAccess.Proofs.Facility.Tokens
import SpatialAccess.Proofs.Groups
import SpatialAccess.Proofs.Labels

/-!
# What a collection of facilities offers

The activity types of a collection are found by going through the options of all facilities. The
facilities of one type are found by asking each facility for it. Both look at the same offers.

* `Facilities.Sound`: facilities are numbered, and their options are kept under their own types.
  `Facilities.sound_after`, `Facilities.sound_of_ofDocument`: so it is behind any calls and in every
  collection that was read. `Facilities.Sound.modifyOption`: so it stays when options are changed.
* `Facilities.offers`: the offers of all facilities. `Facilities.Sound.mem_offers_iff`,
  `Facilities.Sound.pairwise_offers`: it has all of them, by facility and then by type.
* `Facilities.Sound.activityTypes_eq`: the activity types are those of the offers, each where it
  appears first.
* `Facilities.filter_offers`: the offers of one type are those of the facilities that have it.
-/

namespace SpatialAccess

variable {α : Type}

/-! ## Options of a facility -/

theorem values_eq_map_toList {β : Type} (t : Std.TreeMap String β) :
    t.values = t.toList.map Prod.snd := by
  have hfoldr : t.values = t.foldr (fun _ b bs => b :: bs) [] := rfl
  rw [hfoldr, Std.TreeMap.foldr_eq_foldr_toList, List.map_eq_foldr]

/-- Options that are kept under their own types have the types under which they are kept. -/
theorem Facility.Filed.map_activityType_values {f : Facility α} (h : f.Filed) :
    f.options.values.map ActivityOption.activityType = f.options.keys := by
  rw [values_eq_map_toList, ← Std.TreeMap.map_fst_toList_eq_keys, List.map_map]
  refine List.map_congr_left fun ⟨activityType, o⟩ ho => ?_
  exact h activityType o (Std.TreeMap.mem_toList_iff_getElem?_eq_some.1 ho)

theorem Facility.mem_keys_iff {f : Facility α} {activityType : String} :
    activityType ∈ f.options.keys ↔ f.offers activityType = true := by
  rw [Std.TreeMap.mem_keys, offers, Std.TreeMap.contains_iff_mem]

/-- Of one type there is one key, if the type is offered. -/
theorem Facility.filter_keys (f : Facility α) (activityType : String) :
    f.options.keys.filter (· = activityType) =
      if f.offers activityType then [activityType] else [] := by
  rw [List.filter_eq, List.Nodup.count Std.TreeMap.nodup_keys]
  by_cases hoffers : f.offers activityType = true
  · rw [if_pos (mem_keys_iff.2 hoffers), if_pos hoffers]
    rfl
  · rw [if_neg (mt mem_keys_iff.1 hoffers), if_neg hoffers]
    rfl

/-- What an element describes is kept under its own type. -/
theorem FacilityElement.Describes.filed [Number α] {e : FacilityElement} {f : Facility α}
    (h : e.Describes f) : f.Filed := by
  intro activityType o ho
  rw [h.option?, FacilityElement.option?] at ho
  split at ho <;> cases ho
  rfl

theorem Facility.Filed.modifyOption {f : Facility α} (h : f.Filed) (activityType : String)
    {change : ActivityOption α → ActivityOption α}
    (hchange : ∀ o, (change o).activityType = o.activityType) :
    (f.modifyOption activityType change).Filed := by
  intro other o ho
  rw [option?, Facility.modifyOption, Std.TreeMap.getElem?_modify] at ho
  split at ho
  · next heq =>
    obtain ⟨o', ho', rfl⟩ := Option.map_eq_some_iff.1 ho
    rw [hchange, h activityType o' ho', Std.LawfulEqOrd.eq_of_compare heq]
  · exact h other o ho

namespace Facilities

/-! ## Sound collections -/

/-- Facilities carry their places as identifiers, and keep every option under its own type. -/
structure Sound (fs : Facilities α) : Prop where
  numbered : fs.Numbered
  filed : ∀ f ∈ fs.list, f.Filed

theorem Registers.sound {fs : Facilities α} {labels : List String} (h : fs.Registers labels) :
    fs.Sound where
  numbered i f hf := congrArg Id.index (h.labelled.id_eq i f hf)
  filed := h.filed

/-- **Behind any calls a collection is sound.** -/
theorem sound_after (calls : List (FacilitiesCall α)) :
    (Calls.after FacilitiesCall.apply {} calls).Sound :=
  (registers_after calls).sound

/-- **A collection that was read is sound.** -/
theorem sound_of_ofDocument [Number α] {bytes : Markup.Bytes} {fs : Facilities α}
    (h : ofDocument bytes = .ok fs) : fs.Sound := by
  obtain ⟨doc, hdoc⟩ := exists_listsDocument_of_ofDocument h
  have hget : ∀ (i : ℕ) (f : Facility α), fs.list[i]? = some f →
      f.id = ⟨i⟩ ∧ ∃ e : FacilityElement, e.Describes f := by
    intro i f hf
    have hi : i < doc.facilities.length := by
      rw [← hdoc.lists.size_eq]
      exact (Array.getElem?_eq_some_iff.1 hf).1
    obtain ⟨g, hg, hid, hdescribes⟩ := hdoc.lists.get? i _ (List.getElem?_eq_getElem hi)
    rw [get?, hf] at hg
    cases hg
    exact ⟨hid, _, hdescribes⟩
  refine ⟨fun i f hf => congrArg Id.index (hget i f hf).1, fun f hf => ?_⟩
  obtain ⟨i, hi⟩ := Array.mem_iff_getElem?.1 hf
  obtain ⟨-, e, hdescribes⟩ := hget i f hi
  exact hdescribes.filed

/-- **A collection stays sound** when an option is changed that keeps its type. -/
theorem Sound.modifyOption {fs : Facilities α} (h : fs.Sound) (id : FacilityId)
    (activityType : String) {change : ActivityOption α → ActivityOption α}
    (hchange : ∀ o, (change o).activityType = o.activityType) :
    (fs.modify id (·.modifyOption activityType change)).Sound where
  numbered := h.numbered.modify id fun _ => rfl
  filed := by
    intro g hg
    obtain ⟨i, hi⟩ := Array.mem_iff_getElem?.1 hg
    rw [modify, Array.getElem?_modify] at hi
    split at hi
    · obtain ⟨f, hf, rfl⟩ := Option.map_eq_some_iff.1 hi
      exact (h.filed f (Array.mem_of_getElem? hf)).modifyOption activityType hchange
    · exact h.filed g (Array.mem_of_getElem? hi)

/-! ## Offers -/

/-- The offers of all facilities: by facility, and then by type in the order of keys. -/
def offers (fs : Facilities α) : List (FacilityId × String) :=
  fs.list.toList.flatMap fun f => f.options.keys.map fun activityType => (f.id, activityType)

theorem mem_map_snd_offers_iff {fs : Facilities α} {activityType : String} :
    activityType ∈ fs.offers.map Prod.snd ↔ ∃ f ∈ fs.list, f.offers activityType = true := by
  simp only [offers, List.map_flatMap, List.map_map, List.mem_flatMap, List.mem_map,
    Array.mem_toList_iff, Function.comp_apply, exists_eq_right, Facility.mem_keys_iff]

/-- The offers of one type are those of the facilities that have it. -/
theorem filter_offers (fs : Facilities α) (activityType : String) :
    fs.offers.filter (·.2 = activityType) =
      (fs.idsOffering activityType).map fun id => (id, activityType) := by
  rw [offers, idsOffering, offering, List.filter_flatMap]
  induction fs.list.toList with
  | nil => rfl
  | cons f list ih =>
    have hown : ((f.options.keys.map fun activityType => (f.id, activityType)).filter
        (·.2 = activityType)) =
          (f.options.keys.filter (· = activityType)).map fun activityType => (f.id, activityType) :=
      List.filter_map
    rw [List.flatMap_cons, ih, hown, f.filter_keys, List.filter_cons]
    split <;> rfl

/-- Just what facilities offer is listed. -/
theorem Sound.mem_offers_iff {fs : Facilities α} (h : fs.Sound) {id : FacilityId}
    {activityType : String} :
    (id, activityType) ∈ fs.offers ↔ ∃ f, fs.get? id = some f ∧ f.offers activityType = true := by
  simp only [offers, List.mem_flatMap, List.mem_map, Array.mem_toList_iff, Prod.mk.injEq,
    h.numbered.get?_eq_some_iff, ← Facility.mem_keys_iff]
  constructor
  · rintro ⟨f, hf, _, hkey, rfl, rfl⟩
    exact ⟨f, ⟨hf, rfl⟩, hkey⟩
  · rintro ⟨f, ⟨hf, rfl⟩, hkey⟩
    exact ⟨f, hf, activityType, hkey, rfl, rfl⟩

/-- **Offers are listed by facility, and then by type**, each once. -/
theorem Sound.pairwise_offers {fs : Facilities α} (h : fs.Sound) :
    fs.offers.Pairwise fun a b => a.1.index < b.1.index ∨ a.1 = b.1 ∧ a.2 < b.2 := by
  rw [offers, List.pairwise_flatMap]
  constructor
  · intro f _
    rw [List.pairwise_map]
    exact Std.TreeMap.ordered_keys.imp fun hlt => .inr ⟨rfl, compareOfLessAndEq_eq_lt.1 hlt⟩
  · refine (List.pairwise_map.1 h.numbered.pairwise_ids).imp fun {f g} hlt a ha b hb => ?_
    obtain ⟨_, -, rfl⟩ := List.mem_map.1 ha
    obtain ⟨_, -, rfl⟩ := List.mem_map.1 hb
    exact .inl hlt

theorem Sound.nodup_offers {fs : Facilities α} (h : fs.Sound) : fs.offers.Nodup :=
  h.pairwise_offers.imp fun {a b} hab (heq : a = b) => by
    subst heq
    exact hab.elim (Nat.lt_irrefl _) fun hab => String.lt_irrefl _ hab.2

/-- **The activity types** are those of the offers, each where it appears first. -/
theorem Sound.activityTypes_eq {fs : Facilities α} (h : fs.Sound) :
    fs.activityTypes = (fs.offers.map Prod.snd).eraseDups := by
  rw [activityTypes, offers, List.map_flatMap]
  refine congrArg List.eraseDups (List.flatMap_congr fun f hf => ?_)
  rw [(h.filed f (Array.mem_toList_iff.1 hf)).map_activityType_values, List.map_map]
  exact (List.map_id _).symm

end Facilities

end SpatialAccess
