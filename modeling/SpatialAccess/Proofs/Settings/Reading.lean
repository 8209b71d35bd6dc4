import SpatialAccess.Proofs.Outcome
import SpatialAccess.Settings.Group
import SpatialAccess.Surface.Settings

/-!
# Reading values of a group

* `ConfigError.IsRefusal`: the errors of values, as against that of a document that cannot be read.
* `Group.value?`: the value under a key, as far as there is one that can be read.
* `Group.ends_require`, `Group.ends_parse`, `Group.ends_parseD`: what comes of reading a value.
* **`SurfaceSettings.modesOf_eq_ok_iff`**: the modes of a group, told by which items its list has.
* **`SurfaceSettings.ofGroup_congr_modes`**: so the order of that list and what it repeats do not
  matter.
-/

namespace SpatialAccess

/-- The error is about what settings say. -/
def ConfigError.IsRefusal {α : Type} : ConfigError α → Prop
  | unreadable => False
  | _ => True

theorem ConfigError.IsRefusal.message {e : ConfigError Float} (h : e.IsRefusal) :
    e.message = "configuration error: " ++ e.detail := by
  cases e <;> first | rfl | exact h.elim

namespace Settings.Group

open ConfigError

variable {α β : Type}

/-- The value under a key, if there is one that can be read. -/
def value? (g : Group) (read : String → Option β) (key : String) : Option β :=
  (g.get? key).bind fun raw => read (Text.trim raw)

variable (g : Group) (read : String → Option β) (key : String)

theorem ends_require :
    (g.require key : Except (ConfigError α) String).Ends (fun _ => True) IsRefusal := by
  unfold require
  cases g.get? key with
  | none => exact .error trivial
  | some raw => exact .ok trivial

theorem ends_parse? : (g.parse? read key : Except (ConfigError α) (Option β)).Ends
    (fun v => v = g.value? read key) IsRefusal := by
  unfold parse? value?
  cases g.get? key with
  | none => exact .ok rfl
  | some raw =>
    dsimp only [Option.bind_some]
    cases read (Text.trim raw) with
    | none => exact .error trivial
    | some b => exact .ok rfl

theorem ends_parse : (g.parse read key : Except (ConfigError α) β).Ends
    (fun b => g.value? read key = some b) IsRefusal := by
  refine (g.ends_parse? read key).bind fun v hv => ?_
  cases v with
  | none => exact .error trivial
  | some b => exact .ok hv.symm

theorem ends_parseD (default : β) : (g.parseD read key default : Except (ConfigError α) β).Ends
    (fun b => b = (g.value? read key).getD default) IsRefusal :=
  (g.ends_parse? read key).bind fun _ hv => .ok (hv ▸ rfl)

/-- Groups of one name with the same texts under all keys but one. -/
structure AgreeBut (key : String) (g g' : Group) : Prop where
  name : g.name = g'.name
  get? : ∀ key', key' ≠ key → g.get? key' = g'.get? key'

theorem agreeBut_set (raw raw' : String) : (g.set key raw).AgreeBut key (g.set key raw') where
  name := rfl
  get? key' hkey := by
    simp [set, Group.get?, Std.TreeMap.getElem?_insert, Ne.symm hkey]

namespace AgreeBut

variable {g key} {g' : Group} {key' : String} (h : AgreeBut key g g') (hkey : key' ≠ key)
include h hkey

theorem parse? : (g.parse? read key' : Except (ConfigError α) (Option β)) = g'.parse? read key' := by
  unfold Group.parse?
  rw [h.get? key' hkey, h.name]

theorem parse : (g.parse read key' : Except (ConfigError α) β) = g'.parse read key' := by
  unfold Group.parse
  rw [h.parse? read hkey, h.name]

theorem parseD (default : β) :
    (g.parseD read key' default : Except (ConfigError α) β) = g'.parseD read key' default := by
  unfold Group.parseD
  rw [h.parse? read hkey]

end AgreeBut

end Settings.Group

/-! ## Modes -/

namespace Settings

variable {α : Type}

theorem ends_readMode (s : String) :
    (readMode s : Except (ConfigError α) Mode).Ends (fun _ => True) ConfigError.IsRefusal := by
  unfold readMode
  cases Mode.read? s with
  | none => exact .error trivial
  | some m => exact .ok trivial

theorem readMode_eq_ok {s : String} {m : Mode} :
    (readMode s : Except (ConfigError α) Mode) = .ok m ↔ Mode.read? s = some m := by
  unfold readMode
  cases Mode.read? s <;> simp

end Settings

namespace SurfaceSettings

open Settings (Group)

variable {α : Type}

/-- The modes that the items of a list name, in column order. -/
def columns (items : List String) : List Mode :=
  if items = [] then [.freeSpeed]
  else Mode.all.filter fun m => ∃ item ∈ items, Mode.read? item = some m

theorem columns_congr {items items' : List String} (h : ∀ item, item ∈ items ↔ item ∈ items') :
    columns items = columns items' := by
  have hnil : items = [] ↔ items' = [] := by
    simp only [List.eq_nil_iff_forall_not_mem, h]
  unfold columns
  simp only [hnil, h]

theorem columns_sublist (items : List String) : (columns items).Sublist Mode.all := by
  unfold columns
  split
  · decide
  · exact List.filter_sublist

theorem mem_columns {items : List String} {m : Mode} (hm : ∃ item ∈ items, Mode.read? item = some m) :
    m ∈ columns items := by
  have hne : items ≠ [] := by
    rintro rfl
    simp at hm
  rw [columns, if_neg hne]
  exact List.mem_filter.2 ⟨Mode.mem_all m, decide_eq_true hm⟩

theorem columns_ne_nil {items : List String} (h : ∀ item ∈ items, (Mode.read? item).isSome) :
    columns items ≠ [] := by
  cases items with
  | nil => exact List.cons_ne_nil _ _
  | cons item items =>
    obtain ⟨m, hm⟩ := Option.isSome_iff_exists.1 (h item List.mem_cons_self)
    exact List.ne_nil_of_mem (mem_columns ⟨item, List.mem_cons_self, hm⟩)

/-- Modes that were read from items are put into the columns of the items. -/
theorem normalize_of_mapM {items : List String} {modes : List Mode} (hne : items ≠ [])
    (h : items.mapM Settings.readMode = (.ok modes : Except (ConfigError α) (List Mode))) :
    Mode.normalize modes = columns items := by
  rw [columns, if_neg hne, Mode.normalize]
  refine List.filter_congr fun m _ => ?_
  rw [Bool.eq_iff_iff, List.contains_iff_mem, decide_eq_true_iff]
  constructor
  · intro hm
    obtain ⟨item, hitem, hread⟩ := Except.exists_of_mem_mapM h hm
    exact ⟨item, hitem, Settings.readMode_eq_ok.1 hread⟩
  · rintro ⟨item, hitem, hread⟩
    obtain ⟨m', hm', hread'⟩ := Except.exists_of_mapM_eq_ok h hitem
    rw [Settings.readMode_eq_ok, hread] at hread'
    exact Option.some.inj hread' ▸ hm'

/-- **The modes of a group** depend on which items its list has, not on their order. -/
theorem modesOf_eq_ok_iff {g : Group} {modes : List Mode} :
    (modesOf g : Except (ConfigError α) (List Mode)) = .ok modes ↔
      (∀ item ∈ g.items "modes", (Mode.read? item).isSome) ∧
        modes = columns (g.items "modes") := by
  unfold modesOf
  split
  · next hitems =>
    rw [hitems]
    constructor
    · rintro ⟨⟩
      exact ⟨List.forall_mem_nil _, rfl⟩
    · rintro ⟨-, rfl⟩
      rfl
  · next items hne =>
    rw [Except.bind_eq_ok]
    constructor
    · rintro ⟨read, hread, ⟨⟩⟩
      refine ⟨fun item hitem => ?_, normalize_of_mapM hne hread⟩
      obtain ⟨m, -, hm⟩ := Except.exists_of_mapM_eq_ok hread hitem
      rw [Settings.readMode_eq_ok.1 hm]
      rfl
    · rintro ⟨hreadable, rfl⟩
      have hall : ∀ item ∈ g.items "modes", ∃ m,
          Settings.readMode item = (.ok m : Except (ConfigError α) Mode) := fun item hitem =>
        (Option.isSome_iff_exists.1 (hreadable item hitem)).imp fun m hm =>
          Settings.readMode_eq_ok.2 hm
      obtain ⟨modes, hmodes⟩ := Except.exists_mapM_eq_ok_iff.2 hall
      exact ⟨modes, hmodes, congrArg Except.ok (normalize_of_mapM hne hmodes)⟩

theorem ends_modesOf (g : Group) : (modesOf g : Except (ConfigError α) (List Mode)).Ends
    (fun modes => (∀ item ∈ g.items "modes", (Mode.read? item).isSome) ∧
      modes = columns (g.items "modes")) ConfigError.IsRefusal := by
  have hends : (modesOf g : Except (ConfigError α) (List Mode)).Ends (fun _ => True)
      ConfigError.IsRefusal := by
    unfold modesOf
    split
    · exact .ok trivial
    · exact (Except.ends_mapM fun item _ => Settings.ends_readMode item).bind fun _ _ =>
        .ok trivial
  exact hends.eq_ok.imp (fun modes hmodes => modesOf_eq_ok_iff.1 hmodes) fun _ he => he

variable [Number α]

theorem overridesOf_congr {g g' : Group} (h : g.AgreeBut "modes" g') :
    (overridesOf g : Except (ConfigError α) (List (Mode × α))) = overridesOf g' := by
  unfold overridesOf
  refine congrArg (· >>= _) (Except.mapM_congr fun mode _ => ?_)
  rw [h.parse? _ (by cases mode <;> decide)]

theorem speedsOf_congr {g g' : Group} (h : g.AgreeBut "modes" g') :
    (speedsOf g : Except (ConfigError α) (TravelSpeeds α)) = speedsOf g' := by
  unfold speedsOf speed
  rw [h.parseD _ (by decide), h.parseD _ (by decide), h.parseD _ (by decide),
    h.parseD _ (by decide)]

/-- **Neither order nor repetition of modes matters.** -/
theorem ofGroup_congr_modes {g g' : Group} (h : g.AgreeBut "modes" g')
    (hitems : ∀ item, item ∈ g.items "modes" ↔ item ∈ g'.items "modes") {s : SurfaceSettings α} :
    (ofGroup g : Except (ConfigError α) (SurfaceSettings α)) = .ok s ↔
      (ofGroup g' : Except (ConfigError α) (SurfaceSettings α)) = .ok s := by
  have hmodes : ∀ modes, (modesOf g : Except (ConfigError α) _) = .ok modes ↔
      (modesOf g' : Except (ConfigError α) _) = .ok modes := by
    intro modes
    rw [modesOf_eq_ok_iff, modesOf_eq_ok_iff, columns_congr hitems]
    simp only [hitems]
  unfold ofGroup
  rw [h.parseD _ (by decide), h.parse _ (by decide), h.parse _ (by decide), overridesOf_congr h,
    speedsOf_congr h, h.get? "boundingBox" (by decide), h.get? "anchorType" (by decide)]
  simp only [Except.bind_eq_ok, hmodes]
  rw [Group.items, Group.items, h.get? "activityTypes" (by decide)]

end SurfaceSettings

end SpatialAccess
