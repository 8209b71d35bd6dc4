import SpatialAccess.Proofs.Gravity.Checks
import SpatialAccess.Proofs.Number.Double.Nearest
import SpatialAccess.Proofs.Settings.Reading
import SpatialAccess.Scoring.Settings
import SpatialAccess.Surface.Compute

/-!
# Accepted settings can be used

Settings are checked where they are read; later stages check some of them once more.

* `GravitySettings.Valid`, `SurfaceSettings.Valid`, `ScoringSettings.Valid`: what later stages ask for.
* **`GravitySettings.ends_ofGroup`**, **`SurfaceSettings.ends_ofGroup`**,
  **`ScoringSettings.ends_ofGroup`**: a group is refused, or its settings are valid.
* `GravityModel.ends_build`, `SurfaceModel.ends_build`: valid settings are never refused later.
* **`Settings.Group.accepted_or_refused`**: all of this for any group.
-/

namespace SpatialAccess

open Settings (Group)
open ConfigError (IsRefusal)

/-! ## The gravity model -/

namespace GravitySettings

/-- What later stages ask of the settings of a gravity model. -/
structure Valid {α : Type} [Number α] (s : GravitySettings α) : Prop where
  zones_pos : 1 ≤ s.zones
  zones_le : s.zones ≤ Partitioner.limit
  rate_pos : ((0 : ℕ) : α) < s.personRate
  rate_le_one : s.personRate ≤ ((1 : ℕ) : α)
  shopNumber : s.shopSampling = .random → s.shopNumber.isSome

theorem Valid.zones_accepted {α : Type} [Number α] {s : GravitySettings α} (h : s.Valid) :
    s.zones ≠ 0 ∧ s.zones ≤ Partitioner.limit :=
  ⟨Nat.one_le_iff_ne_zero.1 h.zones_pos, h.zones_le⟩

theorem ends_readPartition {α : Type} (raw : String) :
    (PartitionMode.read raw : Except (ConfigError α) PartitionMode).Ends (fun _ => True)
      IsRefusal := by
  unfold PartitionMode.read
  split
  · exact .ok trivial
  · exact .error trivial

/-- A number of zones that is accepted was written as a natural from one up to the limit. -/
theorem ends_checkZones (x : Float) :
    (checkZones x).Ends (fun n => x = ((n : ℕ) : Float) ∧ 1 ≤ n ∧ n ≤ Partitioner.limit)
      IsRefusal := by
  unfold checkZones
  by_cases hlow : x < ((1 : ℕ) : Float) ∨ ¬Number.isWhole x
  · rw [if_pos hlow]
    exact .error trivial
  rw [if_neg hlow]
  by_cases hhigh : ((Partitioner.limit : ℕ) : Float) < x
  · rw [if_pos hhigh]
    exact .error trivial
  rw [if_neg hhigh]
  rw [not_or, not_not] at hlow
  exact .ok (Double.natCast_of_isWhole hlow.2 (by decide) hlow.1 hhigh)

theorem ends_checkRate {α : Type} [Number α] (rate : α) :
    (checkRate rate).Ends (fun rate => ((0 : ℕ) : α) < rate ∧ rate ≤ ((1 : ℕ) : α)) IsRefusal := by
  unfold checkRate
  exact Except.ends_ite id trivial

/-- **A group for the gravity model** is refused, or its settings are valid. -/
theorem ends_ofGroup (g : Group) :
    (ofGroup g : Except (ConfigError Float) (GravitySettings Float)).Ends
      (fun s => s.Valid ∧ g.value? Number.read? "zones" = some ((s.zones : ℕ) : Float))
      IsRefusal := by
  unfold ofGroup
  refine (g.ends_require "partition").bind fun raw _ => ?_
  refine (ends_readPartition raw).bind fun partition _ => ?_
  refine (g.ends_parse Number.read? "zones").bind fun written hwritten => ?_
  refine (ends_checkZones written).bind fun zones hzones => ?_
  refine (g.ends_parse Number.read? "betaDistance").bind fun distance _ => ?_
  refine (g.ends_parse Number.read? "betaCapacity").bind fun capacity _ => ?_
  refine (g.ends_parseD Number.read? "samplingRatePersons" _).bind fun share _ => ?_
  refine (ends_checkRate share).bind fun rate hrate => ?_
  refine (g.ends_parseD ShopSampling.read? "samplingTypeShops" _).bind fun sampling _ => ?_
  refine (g.ends_parse? (Decimal.natural? Decimal.limit64) "samplingNumberShops").bind
    fun number _ => ?_
  obtain ⟨rfl, hpos, hle⟩ := hzones
  split
  · exact .error trivial
  · next hnumber =>
    refine (g.ends_parseD _ "seed" _).bind fun seed _ => .ok ⟨?_, hwritten⟩
    refine ⟨hpos, hle, hrate.1, hrate.2, fun hrandom => ?_⟩
    cases number with
    | some n => rfl
    | none => exact absurd ⟨hrandom, rfl⟩ hnumber

end GravitySettings

/-- The error is not about settings. -/
def GravityError.IsNotConfig {α : Type} : GravityError α → Prop
  | config _ => False
  | data _ => True

namespace GravityModel

open GravityError (IsNotConfig)

variable {α : Type} [Number α]

omit [Number α] in
theorem ends_data {β : Type} (x : Except (DataError α) β) :
    (x.mapError GravityError.data).Ends (fun _ => True) IsNotConfig := by
  cases x with
  | ok b => exact .ok trivial
  | error e => exact .error trivial

/-- **Valid settings** give a partition, so a build with them fails for reasons of the data only. -/
theorem ends_build {settings : GravitySettings α} (h : settings.Valid) (network : Network α)
    (population : Population α) (facilities : Facilities α) (candidates : List FacilityId) :
    (build settings network population facilities candidates).Ends (fun _ => True)
      IsNotConfig := by
  have hpartitioner : ((Partitioner.ofOrder settings.zones settings.partition).mapError
      GravityError.config : Except (GravityError α) _).Ends (fun _ => True) IsNotConfig := by
    obtain ⟨partitioner, hok⟩ :=
      (Partitioner.exists_ofOrder_iff (α := α) settings.partition).2 h.zones_accepted
    rw [hok]
    exact .ok trivial
  unfold build buildWith
  refine hpartitioner.bind fun partitioner _ => ?_
  refine (ends_data _).bind fun grid _ => ?_
  refine (ends_data _).bind fun capacity _ => ?_
  exact (ends_data _).bind fun _ _ => .ok trivial

end GravityModel

/-! ## Surfaces -/

namespace SurfaceSettings

/-- What later stages ask of the settings of surfaces. -/
structure Valid {α : Type} [Number α] (s : SurfaceSettings α) : Prop where
  cell_pos : ((0 : ℕ) : α) < s.cellSize
  modes_ne_nil : s.modes ≠ []
  /-- Modes are in column order, each at most once. -/
  modes_sublist : s.modes.Sublist Mode.all
  box_ordered : ∀ box ∈ s.box?, box.minX ≤ box.maxX ∧ box.minY ≤ box.maxY

variable {α : Type} [Number α]

theorem Valid.modes_nodup {s : SurfaceSettings α} (h : s.Valid) : s.modes.Nodup :=
  h.modes_sublist.nodup Mode.nodup_all

theorem ends_checkPositive (key : String) (value : α) :
    (checkPositive key value).Ends (fun value => ((0 : ℕ) : α) < value) IsRefusal := by
  unfold checkPositive
  exact Except.ends_ite id trivial

theorem ends_speed (g : Group) (key : String) (default : ℕ) :
    (speed g key default : Except (ConfigError α) α).Ends (fun _ => True) IsRefusal := by
  unfold speed
  refine (g.ends_parseD Number.read? key _).bind fun written _ => ?_
  exact (ends_checkPositive key written).bind fun _ _ => .ok trivial

theorem ends_speedsOf (g : Group) :
    (speedsOf g : Except (ConfigError α) (TravelSpeeds α)).Ends (fun _ => True) IsRefusal := by
  unfold speedsOf
  refine (ends_speed g "walkSpeedKmh" 3).bind fun walk _ => ?_
  refine (ends_speed g "bikeSpeedKmh" 15).bind fun bike _ => ?_
  refine (ends_speed g "ptSpeedKmh" 50).bind fun transit _ => ?_
  exact (g.ends_parseD Number.read? "beelineDistanceFactor" _).bind fun _ _ => .ok trivial

theorem ends_overridesOf (g : Group) :
    (overridesOf g : Except (ConfigError α) (List (Mode × α))).Ends (fun _ => True) IsRefusal := by
  unfold overridesOf
  refine Except.Ends.bind (P := fun found => ∀ beta ∈ found, True)
    (Except.ends_mapM fun mode _ => ?_) fun _ _ => .ok trivial
  exact (g.ends_parse? Number.read? _).bind fun _ _ => .ok trivial

theorem ends_boxNumber (raw piece : String) :
    (boxNumber raw piece : Except (ConfigError α) α).Ends (fun _ => True) IsRefusal := by
  unfold boxNumber
  dsimp only
  cases (Number.read? (Text.trim piece) : Option α) with
  | none => exact .error trivial
  | some x => exact .ok trivial

theorem ends_readBox (raw : String) : (readBox raw : Except (ConfigError α) (Box α)).Ends
    (fun box => box.minX ≤ box.maxX ∧ box.minY ≤ box.maxY) IsRefusal := by
  unfold readBox
  refine (Except.ends_mapM fun piece _ => ends_boxNumber raw piece).bind fun numbers _ => ?_
  split
  · exact Except.ends_ite id trivial
  · exact .error trivial

/-- **A group for surfaces** is refused, or its settings are valid and have the modes of its list. -/
theorem ends_ofGroup (g : Group) : (ofGroup g : Except (ConfigError α) (SurfaceSettings α)).Ends
    (fun s => s.Valid ∧ s.modes = columns (g.items "modes")) IsRefusal := by
  unfold ofGroup
  refine (g.ends_parseD Number.read? "cellSize" _).bind fun written _ => ?_
  refine (ends_checkPositive "cellSize" written).bind fun cellSize hcell => ?_
  refine (g.ends_parse Number.read? "betaCost").bind fun distance _ => ?_
  refine (g.ends_parse Number.read? "betaCapacity").bind fun capacity _ => ?_
  refine (ends_overridesOf g).bind fun overrides _ => ?_
  refine (ends_modesOf g).bind fun modes hmodes => ?_
  refine (ends_speedsOf g).bind fun speeds _ => ?_
  refine (Except.ends_mapM_option fun raw _ => ends_readBox raw).bind fun box? hbox => ?_
  obtain ⟨hreadable, rfl⟩ := hmodes
  exact .ok ⟨⟨hcell, columns_ne_nil hreadable, columns_sublist _, hbox⟩, rfl⟩

end SurfaceSettings

/-- The error of a network is not about settings. -/
def NetworkError.IsNotConfig {α : Type} : NetworkError α → Prop
  | config _ => False
  | _ => True

/-- The error of a surface is not about settings. -/
def SurfaceError.IsNotConfig {α : Type} : SurfaceError α → Prop
  | config _ => False
  | network cause => cause.IsNotConfig
  | _ => True

namespace MeasuringGrid

open NetworkError (IsNotConfig)

variable {α : Type} [Number α]

theorem ends_pointAt (network : Network α) (id : PointId) (coord : Point α) :
    (pointAt network id coord).Ends (fun _ => True) IsNotConfig := by
  unfold pointAt
  cases network.attach? coord with
  | none => exact .error trivial
  | some found => exact .ok trivial

theorem ends_ofBox {cell : α} (h : ((0 : ℕ) : α) < cell) (box : Box α) (network : Network α) :
    (ofBox box cell network).Ends (fun _ => True) IsNotConfig := by
  unfold ofBox
  rw [if_neg (not_not.2 h)]
  split
  · exact .error trivial
  · have hrow : ∀ row, ((List.range (cellsAlong box.width cell)).mapM fun column =>
        pointAt network (idAt (cellsAlong box.width cell) column row)
          (centre box cell column row)).Ends (fun points => ∀ _ ∈ points, True) IsNotConfig :=
      fun _ => Except.ends_mapM fun _ _ => ends_pointAt network _ _
    exact (Except.ends_mapM fun row _ => hrow row).bind fun _ _ => .ok trivial

theorem ends_covering {cell : α} (h : ((0 : ℕ) : α) < cell) (box? : Option (Box α))
    (network : Network α) : (covering box? cell network).Ends (fun _ => True) IsNotConfig := by
  unfold covering overNetwork
  split
  · exact ends_ofBox h _ network
  · split
    · exact ends_ofBox h _ network
    · exact .error trivial

end MeasuringGrid

namespace SurfaceModel

open SurfaceError (IsNotConfig)

variable {α : Type} [Number α]

/-- **Valid settings** are not refused by a model, whichever router and grid it gets. -/
theorem ends_build {settings : SurfaceSettings α} (h : settings.Valid) (network : Network α)
    (router : Router α) (grid? : Option (MeasuringGrid α)) :
    (build settings network router grid?).Ends (fun _ => True) IsNotConfig := by
  have hmodes : ¬settings.modes.isEmpty := by
    simpa using h.modes_ne_nil
  have hgrid : ((MeasuringGrid.covering settings.box? settings.cellSize network).mapError
      SurfaceError.network).Ends (fun _ => True) IsNotConfig :=
    (MeasuringGrid.ends_covering h.cell_pos _ network).mapError fun _ he => he
  unfold build
  rw [if_neg hmodes]
  by_cases hempty : network.isEmpty
  · simp only [hempty, if_true]
    exact .error trivial
  · simp only [hempty]
    cases grid? with
    | some grid => exact .ok trivial
    | none => exact hgrid.bind fun _ _ => .ok trivial

end SurfaceModel

/-! ## Plan scoring -/

namespace ScoringSettings

variable {α : Type} [Number α]

/-- All durations are positive. -/
def AllPositive (durations : Std.TreeMap String α) : Prop :=
  ∀ (activityType : String) (seconds : α), durations[activityType]? = some seconds →
    ((0 : ℕ) : α) < seconds

/-- What later stages ask of the settings of plan scoring. -/
structure Valid (s : ScoringSettings α) : Prop where
  priority_pos : ((0 : ℕ) : α) < s.params.priority
  typical_pos : AllPositive s.params.typicalDurations

theorem ends_time (key raw : String) :
    (time key raw : Except (ConfigError α) α).Ends (fun _ => True) IsRefusal := by
  unfold time
  cases (Clock.read raw : Except Clock.Error α) with
  | ok seconds => exact .ok trivial
  | error e => exact .error trivial

omit [Number α] in
theorem ends_day (raw : String) :
    (day raw : Except (ConfigError α) DayType).Ends (fun _ => True) IsRefusal := by
  unfold day
  cases DayType.read? raw with
  | some d => exact .ok trivial
  | none => exact .error trivial

theorem ends_typicalDuration (key raw : String) :
    (typicalDuration key raw : Except (ConfigError α) α).Ends (fun seconds => ((0 : ℕ) : α) < seconds)
      IsRefusal := by
  unfold typicalDuration
  exact (ends_time key raw).bind fun seconds _ => Except.ends_ite id trivial

/-- Every typical duration that is read is positive, so all of them are. -/
theorem ends_typicalDurations (g : Group) :
    (typicalDurations g : Except (ConfigError α) (Std.TreeMap String α)).Ends
      AllPositive IsRefusal := by
  unfold typicalDurations
  refine Except.ends_foldlM (fun durations entry hdurations => ?_) (by simp [AllPositive])
  obtain ⟨key, raw⟩ := entry
  dsimp only
  split
  · next activityType _ =>
    refine (ends_typicalDuration key raw).bind fun seconds hseconds => .ok fun other s hs => ?_
    rw [Std.TreeMap.getElem?_insert] at hs
    split at hs
    · exact Option.some.inj hs ▸ hseconds
    · exact hdurations other s hs
  · exact .ok hdurations

theorem ends_worth (g : Group) (key : String) (default : α) :
    (worth g key default : Except (ConfigError α) α).Ends (fun _ => True) IsRefusal := by
  unfold worth
  exact (g.ends_parseD Number.read? key default).bind fun _ _ => .ok trivial

theorem ends_checkPriority (priority : α) :
    (checkPriority priority).Ends (fun priority => ((0 : ℕ) : α) < priority) IsRefusal := by
  unfold checkPriority
  exact Except.ends_ite id trivial

/-- **A group for plan scoring** is refused, or its settings are valid. -/
theorem ends_ofGroup (g : Group) :
    (ofGroup g : Except (ConfigError α) (ScoringSettings α)).Ends Valid IsRefusal := by
  unfold ofGroup
  refine (g.ends_parseD Number.read? "priority" _).bind fun written _ => ?_
  refine (ends_checkPriority written).bind fun priority hpriority => ?_
  refine (Except.ends_mapM_option fun raw _ => ends_time "minimumDuration" raw).bind
    fun minimum? _ => ?_
  refine (Except.ends_mapM_option fun raw _ => ends_day raw).bind fun day? _ => ?_
  refine (ends_typicalDurations g).bind fun typical htypical => ?_
  refine (ends_worth g "performing" _).bind fun performing _ => ?_
  refine (ends_worth g "waiting" _).bind fun waiting _ => ?_
  refine (ends_worth g "lateArrival" _).bind fun lateArrival _ => ?_
  refine (ends_worth g "earlyDeparture" _).bind fun earlyDeparture _ => ?_
  refine (g.ends_parseD PerformanceKind.read? "performanceFunction" _).bind fun performance _ => ?_
  refine (g.ends_parseD PenaltyKind.read? "penaltyFunction" _).bind fun penalty _ => ?_
  refine (g.ends_parseD Number.read? "restraintFcnFactor" _).bind fun factor _ => ?_
  exact (g.ends_parseD Number.read? "restraintFcnExp" _).bind fun exponent _ =>
    .ok ⟨hpriority, htypical⟩

end ScoringSettings

/-! ## Any group -/

/-- A group is accepted with such settings, or refused with a message about the configuration. -/
def Settings.Accepts {β : Type} (x : Except (ConfigError Float) β) (Good : β → Prop) : Prop :=
  x.Ends Good fun e => e.message = "configuration error: " ++ e.detail

/-- **Every group is refused or gives settings that can be used.** -/
theorem Settings.Group.accepted_or_refused (g : Group) :
    Accepts (GravitySettings.ofGroup g) (fun s => s.Valid ∧
      g.value? Number.read? "zones" = some ((s.zones : ℕ) : Float) ∧
      (∃ p, (Partitioner.ofOrder s.zones s.partition : Except (ConfigError Float) _) = .ok p) ∧
      ∀ network population facilities candidates,
        (GravityModel.build s network population facilities candidates).Ends (fun _ => True)
          GravityError.IsNotConfig) ∧
    Accepts (SurfaceSettings.ofGroup g) (fun s => s.Valid ∧ s.modes.Nodup ∧
      ∀ network router grid?, (SurfaceModel.build s network router grid?).Ends (fun _ => True)
        SurfaceError.IsNotConfig) ∧
    (∀ g', g.AgreeBut "modes" g' → (∀ item, item ∈ g.items "modes" ↔ item ∈ g'.items "modes") →
      ∀ s : SurfaceSettings Float, (SurfaceSettings.ofGroup g : Except (ConfigError Float) _) = .ok s ↔
        (SurfaceSettings.ofGroup g' : Except (ConfigError Float) _) = .ok s) ∧
    Accepts (ScoringSettings.ofGroup g) (fun s : ScoringSettings Float => s.Valid) := by
  have hmessage : ∀ e : ConfigError Float, e.IsRefusal →
      e.message = "configuration error: " ++ e.detail := fun e he => he.message
  refine ⟨?_, ?_, fun g' h hitems s => SurfaceSettings.ofGroup_congr_modes h hitems, ?_⟩
  · refine (GravitySettings.ends_ofGroup g).imp (fun s hs => ?_) hmessage
    exact ⟨hs.1, hs.2, (Partitioner.exists_ofOrder_iff s.partition).2 hs.1.zones_accepted,
      GravityModel.ends_build hs.1⟩
  · refine (SurfaceSettings.ends_ofGroup g).imp (fun s hs => ?_) hmessage
    exact ⟨hs.1, hs.1.modes_nodup, SurfaceModel.ends_build hs.1⟩
  · exact (ScoringSettings.ends_ofGroup g).imp (fun _ hs => hs) hmessage

/-- A group that lists modes. -/
def Settings.Group.listing (modes : String) : Group :=
  ((({ name := "accessibility" } : Group).set "betaCost" "-1").set "betaCapacity" "1").set "modes"
    modes

/-- Walking and driving are put in column order, however they are listed. -/
theorem Settings.Group.accepted_or_refused_listing :
    ∃ s : SurfaceSettings Float,
      (SurfaceSettings.ofGroup (listing "walk, car,walk") : Except (ConfigError Float) _) = .ok s ∧
      (SurfaceSettings.ofGroup (listing "car,walk") : Except (ConfigError Float) _) = .ok s ∧
      s.Valid ∧ s.modes = [.car, .walk] := by
  have hitems : (listing "walk, car,walk").items "modes" = ["walk", "car", "walk"] ∧
      (listing "car,walk").items "modes" = ["car", "walk"] := by
    decide +kernel
  have hmodes : (SurfaceSettings.ofGroup (listing "walk, car,walk") :
      Except (ConfigError Float) (SurfaceSettings Float)).toOption.map (·.modes) =
        some [.car, .walk] := by
    decide +kernel
  obtain ⟨-, haccepts, hagree, -⟩ := accepted_or_refused (listing "walk, car,walk")
  obtain ⟨s, hs, hlist⟩ := Option.map_eq_some_iff.1 hmodes
  rw [Except.toOption_eq_some_iff] at hs
  rw [hs] at haccepts
  refine ⟨s, hs, (hagree (listing "car,walk") (agreeBut_set _ _ _ _) ?_ s).1 hs, haccepts.good.1,
    hlist⟩
  intro item
  rw [hitems.1, hitems.2]
  simp only [List.mem_cons, List.not_mem_nil, or_false]
  rw [or_left_comm, or_self]

end SpatialAccess
