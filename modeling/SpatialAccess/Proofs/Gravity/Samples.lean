import SpatialAccess.Proofs.Gravity.Building
import SpatialAccess.Proofs.Number.Double.Scaled

/-!
# Samples do not move each other

Persons and shops are drawn from streams of their own, so a model that samples one of them
differently differs in nothing but that sample.

* **`buildWith_resample`**: settings that agree in zones, partition and capacity exponent lead to the
  same model up to the two samples, or to the same error.
* `SameBut`: two builds that fail alike or whose models are related.
* **`samples_coupled`**: from one stream, a greater rate keeps all that a smaller one keeps. So a model
  that scores a smaller share scores some of the persons of one with a greater share, against the same
  shops; and how shops are chosen does not matter for who is scored.
-/

namespace SpatialAccess

namespace GravitySettings

variable {α : Type}

/-- Settings for another share of the persons. -/
def withRate (settings : GravitySettings α) (rate : α) : GravitySettings α :=
  { settings with personRate := rate }

/-- Settings for another choice of shops. -/
def withShops (settings : GravitySettings α) (sampling : ShopSampling) (number : Option Nat) :
    GravitySettings α :=
  { settings with shopSampling := sampling, shopNumber := number }

end GravitySettings

namespace GravityModel

variable {α : Type} [Number α]

/-- The same model with the samples of other settings. -/
def resample (m : GravityModel α) (population : Population α) (settings : GravitySettings α) :
    GravityModel α :=
  { m with
    settings
    fixedShops := chooseShops settings
      (m.index.shops.filter fun s => !m.candidates.contains s.facility)
    persons := ((Draw.keepRate (residents m.index population) settings.personRate).run
      (streams settings.seed).2).1 }

/-- Two builds fail alike, or their models are related. -/
def SameBut (R : GravityModel α → GravityModel α → Prop)
    (x y : Except (GravityError α) (GravityModel α)) : Prop :=
  (∃ e, x = .error e ∧ y = .error e) ∨ ∃ m n, x = .ok m ∧ y = .ok n ∧ R m n

omit [Number α] in
theorem SameBut.exists_ok {R : GravityModel α → GravityModel α → Prop}
    {x y : Except (GravityError α) (GravityModel α)} {f : GravityModel α → ℕ} {a b : ℕ}
    (h : SameBut R x y) (hx : x.toOption.map f = some a) (hy : y.toOption.map f = some b) :
    ∃ m n, x = .ok m ∧ y = .ok n ∧ R m n ∧ f m = a ∧ f n = b := by
  rcases h with ⟨e, rfl, -⟩ | ⟨m, n, rfl, rfl, hR⟩
  · cases hx
  · exact ⟨m, n, rfl, rfl, hR, Option.some.inj hx, Option.some.inj hy⟩

/-! ## Building once more -/

section Building

variable {attraction : α → α → α} {settings settings' : GravitySettings α} {network : Network α}
  {population : Population α} {facilities : Facilities α} {candidates : List FacilityId}

/-- **A build with other samples.** Its checks read zones, partition and capacity exponent only. -/
theorem buildWith_resample (hzones : settings'.zones = settings.zones)
    (hpartition : settings'.partition = settings.partition)
    (hcapacity : settings'.betas.capacity = settings.betas.capacity) :
    buildWith attraction settings' network population facilities candidates =
      (buildWith attraction settings network population facilities candidates).map
        (·.resample population settings') := by
  unfold buildWith
  rw [hzones, hpartition, hcapacity]
  -- one stage of the build after the other: where it fails, both sides fail alike
  rcases (Partitioner.ofOrder settings.zones settings.partition).mapError _ with e | partitioner
  · rfl
  rcases hgrid : (partitioner.ofScenario population facilities shopType).mapError GravityError.data
    with e | grid
  · simp only [bind, Except.bind, Except.map, hgrid]
  simp only [bind, Except.bind, hgrid]
  rcases (capacities facilities settings.betas.capacity _).mapError _ with e | capacity
  · rfl
  rcases (checkCandidates facilities candidates).mapError GravityError.data with e | _
  · rfl
  rfl

/-- A model that was built has the samples of its settings. -/
theorem resample_of_buildWith {m : GravityModel α}
    (h : buildWith attraction settings network population facilities candidates = .ok m) :
    m.resample population settings = m := by
  have hsame : buildWith attraction settings network population facilities candidates =
      (buildWith attraction settings network population facilities candidates).map
        (·.resample population settings) := buildWith_resample rfl rfl rfl
  rw [h] at hsame
  exact (Except.ok.inj hsame).symm

theorem sameBut_resample {R : GravityModel α → GravityModel α → Prop}
    (hzones : settings'.zones = settings.zones)
    (hpartition : settings'.partition = settings.partition)
    (hbetas : settings'.betas = settings.betas)
    (hR : ∀ m, build settings network population facilities candidates = .ok m →
      R m (m.resample population settings')) :
    SameBut R (build settings network population facilities candidates)
      (build settings' network population facilities candidates) := by
  have hbuild : build settings' network population facilities candidates =
      (build settings network population facilities candidates).map
        (·.resample population settings') := by
    unfold build
    rw [hbetas]
    exact buildWith_resample hzones hpartition (congrArg Betas.capacity hbetas)
  rw [hbuild]
  cases hm : build settings network population facilities candidates with
  | error e => exact .inl ⟨e, rfl, rfl⟩
  | ok m => exact .inr ⟨m, _, rfl, rfl, hR m hm⟩

end Building

/-! ## Two samples -/

/-- The second model scores some of the persons of the first one, and else differs in its settings
only. -/
def FewerPersons (m n : GravityModel α) : Prop :=
  n.persons.Sublist m.persons ∧ n = { m with settings := n.settings, persons := n.persons }

/-- The second model differs in its settings and in the shops that everybody takes into account. -/
def OtherShops (m n : GravityModel α) : Prop :=
  n = { m with settings := n.settings, fixedShops := n.fixedShops }

/-- **Samples are coupled.** -/
theorem samples_coupled [RateNumber α] :
    (∀ (β : Type) (items : List β) (p q : α) (s : Stream), p ≤ q →
      ((Draw.keepRate items p).run s).1.Sublist ((Draw.keepRate items q).run s).1) ∧
    ∀ (settings : GravitySettings α) (network : Network α) (population : Population α)
      (facilities : Facilities α) (candidates : List FacilityId),
      (∀ p q, p ≤ q → SameBut FewerPersons
        (build (settings.withRate q) network population facilities candidates)
        (build (settings.withRate p) network population facilities candidates)) ∧
      ∀ sampling number, SameBut OtherShops
        (build settings network population facilities candidates)
        (build (settings.withShops sampling number) network population facilities candidates) := by
  refine ⟨fun β items p q s h => Draw.keepRate_mono h items s,
    fun settings network population facilities candidates => ⟨fun p q h => ?_, fun _ _ => ?_⟩⟩
  · refine sameBut_resample rfl rfl rfl fun m hm => ?_
    rw [← resample_of_buildWith hm]
    exact ⟨Draw.keepRate_mono h _ _, rfl⟩
  · refine sameBut_resample rfl rfl rfl fun m hm => ?_
    rw [← resample_of_buildWith hm]
    rfl

/-- The model of the small town under other settings. -/
def inSmallTown (settings : GravitySettings Float) :
    Except (GravityError Float) (GravityModel Float) :=
  build settings smallTown.network smallTown.population smallTown.facilities smallTown.candidates

/-- Two and five of six items with a quarter and three quarters of them; one and two persons of the
small town, and the same two persons with a random choice of no shop. -/
theorem samples_coupled_smallTown :
    (0.25 : Float) ≤ 0.75 ∧
    ((Draw.keepRate [1, 2, 3, 4, 5, 6] (0.25 : Float)).run (Stream.ofSeed 4711)).1 = [2, 5] ∧
    [2, 5].Sublist
      ((Draw.keepRate [1, 2, 3, 4, 5, 6] (0.75 : Float)).run (Stream.ofSeed 4711)).1 ∧
    (∃ m n, inSmallTown (smallTown.settings.withRate 0.75) = .ok m ∧
      inSmallTown (smallTown.settings.withRate 0.25) = .ok n ∧ FewerPersons m n ∧
      m.persons.length = 2 ∧ n.persons.length = 1) ∧
    ∃ m n, inSmallTown smallTown.settings = .ok m ∧
      inSmallTown (smallTown.settings.withShops .random (some 0)) = .ok n ∧ OtherShops m n ∧
      m.fixedShops.length = 1 ∧ n.fixedShops.length = 0 := by
  have hrates : (0.25 : Float) ≤ 0.75 := by decide +kernel
  have hsample : ((Draw.keepRate [1, 2, 3, 4, 5, 6] (0.25 : Float)).run
      (Stream.ofSeed 4711)).1 = [2, 5] := by decide +kernel
  obtain ⟨hitems, hmodels⟩ := @samples_coupled Float _ _
  obtain ⟨hpersons, hshops⟩ := hmodels smallTown.settings smallTown.network smallTown.population
    smallTown.facilities smallTown.candidates
  refine ⟨hrates, hsample, ?_, ?_, ?_⟩
  · rw [← hsample]
    exact hitems ℕ _ _ _ _ hrates
  · exact (hpersons _ _ hrates).exists_ok (f := fun m => m.persons.length)
      (by decide +kernel) (by decide +kernel)
  · exact (hshops _ _).exists_ok (f := fun m => m.fixedShops.length)
      (by decide +kernel) (by decide +kernel)

end GravityModel

end SpatialAccess
