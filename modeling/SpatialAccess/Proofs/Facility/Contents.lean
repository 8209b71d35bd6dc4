import SpatialAccess.Proofs.Facility.Collection
import SpatialAccess.Proofs.Facility.Elements

/-!
# What a facilities document says

* `TagAttributes.number?`, `TagAttributes.openingTime?`: what attributes say, if it can be read.
* `FacilityElement.isReadable`: every attribute that has to be there can be read.
* `FacilityElement.option?`: what a facility element says about an activity type. Of several
  capacities the last one counts; opening times are taken together.
* `FacilityElement.Describes`: a facility is as an element says.
* `FacilityElement.apply`: the activities of an element added to a facility.
  **`FacilityElement.option?_apply`**: that gives the options that the element says.
-/

namespace SpatialAccess

/-! ## Attributes -/

namespace TagAttributes

variable {α : Type} [Number α]

/-- The number under a key, if there is one. -/
def number? (attributes : TagAttributes) (key : String) : Option α :=
  (attributes.lookup key).bind fun raw => Number.read? (Text.trim raw)

/-- The time under a key, if there is one. -/
def time? (attributes : TagAttributes) (key : String) : Option α :=
  (attributes.lookup key).bind fun raw => (Clock.read raw).toOption

/-- The point that two keys give, if they do. -/
def point? (attributes : TagAttributes) : Option (Point α) := do
  return ⟨← attributes.number? "x", ← attributes.number? "y"⟩

/-- The opening time that three keys give, if they do. -/
def openingTime? (attributes : TagAttributes) : Option (OpeningTime α) := do
  return ⟨← (attributes.lookup "day").bind DayType.read?, ← attributes.time? "start_time",
    ← attributes.time? "end_time"⟩

variable (attributes : TagAttributes) (tag key : String)

omit [Number α] in
theorem toOption_require :
    (attributes.require tag key : Except (ScenarioError α) String).toOption =
      attributes.lookup key := by
  rw [require]
  cases attributes.lookup key <;> rfl

theorem toOption_requireNumber :
    (attributes.requireNumber tag key : Except (ScenarioError α) α).toOption =
      attributes.number? key := by
  rw [requireNumber, Except.toOption_bind, toOption_require, number?]
  refine congrArg (Option.bind _) (funext fun raw => ?_)
  cases (Number.read? (Text.trim raw) : Option α) <;> rfl

theorem toOption_requireTime :
    (attributes.requireTime tag key : Except (ScenarioError α) α).toOption =
      attributes.time? key := by
  rw [requireTime, Except.toOption_bind, toOption_require, time?]
  exact congrArg (Option.bind _) (funext fun raw => Except.toOption_mapError _ _)

omit [Number α] in
theorem toOption_requireDay :
    (attributes.requireDay tag key : Except (ScenarioError α) DayType).toOption =
      (attributes.lookup key).bind DayType.read? := by
  rw [requireDay, Except.toOption_bind, toOption_require]
  refine congrArg (Option.bind _) (funext fun raw => ?_)
  cases DayType.read? raw <;> rfl

end TagAttributes

/-! ## What has to be readable -/

section Readable

variable (α : Type) [Number α]

/-- Whether a capacity or an opening time can be read. -/
def Detail.isReadable : Detail → Bool
  | capacity attributes => (attributes.number? "value" : Option α).isSome
  | opentime attributes => (attributes.openingTime? : Option (OpeningTime α)).isSome
  | _ => true

/-- Whether an activity element has a type, and all that is in it can be read. -/
def ActivityElement.isReadable (e : ActivityElement) : Bool :=
  (e.attributes.lookup "type").isSome && e.details.all (Detail.isReadable α)

/-- Whether a facility element has a label and a place, and all that is in it can be read. -/
def FacilityElement.isReadable (e : FacilityElement) : Bool :=
  (e.attributes.lookup "id").isSome && (e.attributes.point? : Option (Point α)).isSome &&
    e.activities.all (ActivityElement.isReadable α)

end Readable

/-! ## Options -/

variable {α : Type} [Number α]

/-- The capacity that a detail gives. -/
def Detail.capacity? : Detail → Option α
  | capacity attributes => attributes.number? "value"
  | _ => none

/-- The opening time that a detail gives. -/
def Detail.openingTime? : Detail → Option (OpeningTime α)
  | opentime attributes => attributes.openingTime?
  | _ => none

/-- All capacities in an activity element. -/
def ActivityElement.capacities (e : ActivityElement) : List α :=
  e.details.filterMap Detail.capacity?

/-- All opening times in an activity element. -/
def ActivityElement.openingTimes (e : ActivityElement) : List (OpeningTime α) :=
  e.details.filterMap Detail.openingTime?

namespace FacilityElement

/-- The activity elements of a type. -/
def ofType (e : FacilityElement) (activityType : String) : List ActivityElement :=
  e.activities.filter fun a => a.attributes.lookup "type" == some activityType

/-- What a facility element says about an activity type: the last capacity and all opening times of
the activity elements of that type, if there are any. -/
def option? (e : FacilityElement) (activityType : String) : Option (ActivityOption α) :=
  match e.ofType activityType with
  | [] => none
  | own => some {
    activityType
    capacity := (own.flatMap ActivityElement.capacities).getLast?
    openingTimes := own.flatMap ActivityElement.openingTimes }

/-- A facility is as an element says. -/
structure Describes (e : FacilityElement) (f : Facility α) : Prop where
  label : e.attributes.lookup "id" = some f.label
  coord : e.attributes.point? = some f.coord
  desc : f.desc = e.attributes.lookup "desc"
  option? : ∀ activityType, f.option? activityType = e.option? activityType

end FacilityElement

/-! ## Adding activities to a facility -/

/-- An option with capacities and opening times read after those it has. -/
def ActivityOption.extend (o : ActivityOption α) (capacities : List α)
    (openingTimes : List (OpeningTime α)) : ActivityOption α :=
  { o with
    capacity := capacities.getLast?.or o.capacity
    openingTimes := o.openingTimes ++ openingTimes }

omit [Number α] in
theorem ActivityOption.extend_extend (o : ActivityOption α) (cs cs' : List α)
    (ts ts' : List (OpeningTime α)) :
    (o.extend cs ts).extend cs' ts' = o.extend (cs ++ cs') (ts ++ ts') := by
  simp [extend, List.getLast?_append, Option.or_assoc]

omit [Number α] in
theorem ActivityOption.extend_capacity (o : ActivityOption α) (value : α) :
    o.extend [value] [] = { o with capacity := some value } := by
  simp [extend]

omit [Number α] in
theorem ActivityOption.extend_openingTime (o : ActivityOption α) (time : OpeningTime α) :
    o.extend [] [time] = o.addOpeningTime time := by
  simp [extend, addOpeningTime]

/-- A facility with what a detail adds to the option of an activity type. -/
def Detail.apply (activityType : String) (f : Facility α) : Detail → Facility α
  | capacity attributes =>
    f.modifyOption activityType fun o => o.extend (attributes.number? "value").toList []
  | opentime attributes =>
    f.modifyOption activityType fun o => o.extend [] attributes.openingTime?.toList
  | _ => f

/-- A facility with what an activity element adds to it. -/
def ActivityElement.apply (f : Facility α) (e : ActivityElement) : Facility α :=
  match e.attributes.lookup "type" with
  | some activityType => e.details.foldl (Detail.apply activityType) (f.createOption activityType)
  | none => f

/-- A facility with the activities of an element. -/
def FacilityElement.apply (f : Facility α) (e : FacilityElement) : Facility α :=
  e.activities.foldl ActivityElement.apply f

namespace Facility

variable {α : Type} (f : Facility α) (activityType other : String)

theorem id_createOption : (f.createOption activityType).id = f.id := by
  unfold createOption
  split <;> rfl

theorem label_createOption : (f.createOption activityType).label = f.label := by
  unfold createOption
  split <;> rfl

theorem option?_modifyOption (change : ActivityOption α → ActivityOption α) :
    (f.modifyOption activityType change).option? other =
      if activityType = other then (f.option? other).map change else f.option? other := by
  rw [option?, modifyOption, Std.TreeMap.getElem?_modify]
  by_cases h : activityType = other
  · subst h
    simp [option?]
  · rw [if_neg (mt Std.LawfulEqOrd.eq_of_compare h), if_neg h, option?]

theorem option?_addOption (o : ActivityOption α) :
    (f.addOption o).option? other = if o.activityType = other then some o else f.option? other := by
  rw [option?, addOption, Std.TreeMap.getElem?_insert]
  by_cases h : o.activityType = other
  · subst h
    simp
  · rw [if_neg (mt Std.LawfulEqOrd.eq_of_compare h), if_neg h, option?]

theorem option?_createOption :
    (f.createOption activityType).option? other =
      if activityType = other then some ((f.option? other).getD { activityType }) else
        f.option? other := by
  unfold createOption
  split
  · next hoffers =>
    split
    · next h =>
      subst h
      rw [offers, Std.TreeMap.contains_eq_isSome_getElem?] at hoffers
      obtain ⟨o, ho⟩ := Option.isSome_iff_exists.1 hoffers
      simp [option?, ho]
    · rfl
  · next hoffers =>
    rw [offers, Std.TreeMap.contains_eq_isSome_getElem?, Bool.not_eq_true,
      Option.isSome_eq_false_iff, Option.isNone_iff_eq_none] at hoffers
    rw [option?_addOption]
    split
    · next h =>
      subst h
      rw [option?, hoffers, Option.getD_none]
    · rfl

end Facility

theorem Detail.option?_apply (activityType other : String) (f : Facility α) (d : Detail) :
    (Detail.apply activityType f d).option? other =
      if activityType = other then
        (f.option? other).map fun o => o.extend d.capacity?.toList d.openingTime?.toList
      else f.option? other := by
  cases d with
  | capacity attributes => exact f.option?_modifyOption ..
  | opentime attributes => exact f.option?_modifyOption ..
  | capacityEnd | opentimeEnd =>
    simp [apply, capacity?, openingTime?, ActivityOption.extend]

theorem option?_foldl_details (activityType other : String) (ds : List Detail) (f : Facility α) :
    (ds.foldl (Detail.apply activityType) f).option? other =
      if activityType = other then
        (f.option? other).map fun o =>
          o.extend (ds.filterMap Detail.capacity?) (ds.filterMap Detail.openingTime?)
      else f.option? other := by
  induction ds generalizing f with
  | nil => simp [ActivityOption.extend]
  | cons d ds ih =>
    rw [List.foldl_cons, ih, Detail.option?_apply]
    by_cases h : activityType = other
    · simp only [h, if_true, Option.map_map]
      congr 1
      funext o
      simp only [Function.comp_apply, ActivityOption.extend_extend]
      congr 1 <;> simp only [List.filterMap_cons] <;> split <;> simp_all
    · simp only [h, if_false]

theorem ActivityElement.option?_apply {e : ActivityElement} {activityType : String}
    (h : e.attributes.lookup "type" = some activityType) (f : Facility α) (other : String) :
    (e.apply f).option? other =
      if activityType = other then
        some (((f.option? other).getD { activityType }).extend e.capacities e.openingTimes)
      else f.option? other := by
  rw [apply, h]
  simp only [option?_foldl_details, Facility.option?_createOption]
  split <;> rfl

/-- What the activities of an element add to the option of a type. -/
theorem option?_foldl_activities (activityType : String) (es : List ActivityElement)
    (hes : ∀ e ∈ es, ∃ t, e.attributes.lookup "type" = some t) (f : Facility α) :
    (es.foldl ActivityElement.apply f).option? activityType =
      match es.filter fun a => a.attributes.lookup "type" == some activityType with
      | [] => f.option? activityType
      | own => some (((f.option? activityType).getD { activityType }).extend
          (own.flatMap ActivityElement.capacities) (own.flatMap ActivityElement.openingTimes)) := by
  induction es generalizing f with
  | nil => rfl
  | cons e es ih =>
    obtain ⟨t, ht⟩ := hes e List.mem_cons_self
    rw [List.foldl_cons, ih fun e' he' => hes e' (List.mem_cons_of_mem e he'),
      ActivityElement.option?_apply ht]
    by_cases h : t = activityType
    · subst h
      rw [List.filter_cons_of_pos (by simp [ht])]
      cases es.filter fun a => a.attributes.lookup "type" == some t with
      | nil => simp
      | cons own owns => simp [ActivityOption.extend_extend]
    · rw [List.filter_cons_of_neg (by simp [ht, h]), if_neg h]

/-- Activities change nothing of a facility but its options. -/
theorem Detail.exists_apply_eq (activityType : String) (f : Facility α) (d : Detail) :
    ∃ options, Detail.apply activityType f d = { f with options } := by
  cases d <;> exact ⟨_, rfl⟩

theorem ActivityElement.exists_apply_eq (f : Facility α) (e : ActivityElement) :
    ∃ options, e.apply f = { f with options } := by
  unfold apply
  split
  · next activityType _ =>
    refine List.foldlRecOn (motive := fun g : Facility α => ∃ options, g = { f with options })
      _ _ ?_ ?_
    · unfold Facility.createOption
      split <;> exact ⟨_, rfl⟩
    · rintro _ ⟨options, rfl⟩ d _
      exact d.exists_apply_eq activityType _
  · exact ⟨_, rfl⟩

theorem FacilityElement.exists_apply_eq (f : Facility α) (e : FacilityElement) :
    ∃ options, e.apply f = { f with options } := by
  refine List.foldlRecOn (motive := fun g : Facility α => ∃ options, g = { f with options })
    _ _ ⟨f.options, rfl⟩ ?_
  rintro _ ⟨options, rfl⟩ a _
  exact a.exists_apply_eq _

/-- **The activities of an element give a new facility the options that the element says.** -/
theorem FacilityElement.option?_apply {e : FacilityElement} (he : e.isReadable α = true)
    {f : Facility α} (hf : ∀ activityType, f.option? activityType = none) (activityType : String) :
    (e.apply f).option? activityType = e.option? activityType := by
  have htype : ∀ a ∈ e.activities, ∃ t, a.attributes.lookup "type" = some t := by
    intro a ha
    simp only [isReadable, Bool.and_eq_true, List.all_eq_true] at he
    have := he.2 a ha
    simp only [ActivityElement.isReadable, Bool.and_eq_true] at this
    exact Option.isSome_iff_exists.1 this.1
  rw [apply, option?_foldl_activities _ _ htype, hf, option?, ofType]
  split <;> simp [ActivityOption.extend]

end SpatialAccess
