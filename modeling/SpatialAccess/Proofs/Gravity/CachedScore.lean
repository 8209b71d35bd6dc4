import SpatialAccess.Proofs.Gravity.Building

/-!
# Scores do not depend on what is remembered

A model is scored many times, and utilities are remembered from one score to the next. They never
show: whatever was scored before, with success or not, a layout scores as it does on a fresh model.

* `UtilityCache`: what `sync` and `insert` do to the look-up.
* `Agrees`, `Coherent`: every remembered utility is the one that would be computed again.
* `directScore`: the score of a layout without a cache. **`exec_computePotential`**: from a coherent
  cache a layout scores as it does directly, and the cache stays coherent.
* `scoreAll`: a history of scores. **`scoreAll_eq_fresh`**: every entry is that of a fresh model.
-/

namespace SpatialAccess

namespace UtilityCache

variable {α : Type}

theorem get?_insert (c : UtilityCache α) (person other : PersonId) (value : α) :
    (c.insert person value).get? other = if person = other then some value else c.get? other := by
  simp [get?, insert, Std.HashMap.getElem?_insert]

/-- Making the current layout current again changes nothing. -/
theorem sync_of_layout_eq {c : UtilityCache α} {layout : List LinkId}
    (h : c.layout = some layout) : c.sync layout = c := by
  simp [sync, isStale, h]

/-- Another layout drops everything. -/
theorem get?_sync_of_layout_ne {c : UtilityCache α} {layout : List LinkId}
    (h : c.layout ≠ some layout) (person : PersonId) : (c.sync layout).get? person = none := by
  simp [sync, isStale, h, invalidate, get?]

@[simp] theorem layout_sync (c : UtilityCache α) (layout : List LinkId) :
    (c.sync layout).layout = some layout := by
  by_cases h : c.layout = some layout
  · rw [sync_of_layout_eq h, h]
  · simp [sync, isStale, h, invalidate]

/-- A cache for the same layout that remembers all that another one does. -/
structure Extends (c' c : UtilityCache α) : Prop where
  layout : c'.layout = c.layout
  get? : ∀ person value, c.get? person = some value → c'.get? person = some value

theorem Extends.refl (c : UtilityCache α) : c.Extends c :=
  ⟨rfl, fun _ _ h => h⟩

theorem Extends.trans {c c₁ c₂ : UtilityCache α} (h₂ : c₂.Extends c₁) (h₁ : c₁.Extends c) :
    c₂.Extends c :=
  ⟨h₂.layout.trans h₁.layout, fun person value h => h₂.get? person value (h₁.get? person value h)⟩

theorem Extends.insert {c : UtilityCache α} {person : PersonId} (h : c.get? person = none)
    {value : α} : (c.insert person value).Extends c := by
  refine ⟨rfl, fun other v hv => ?_⟩
  rw [get?_insert, if_neg, hv]
  rintro rfl
  rw [h] at hv
  cases hv

end UtilityCache

namespace GravityModel

variable {α : Type}

/-! ## Remembering one utility -/

variable [Number α]

theorem exec_fill (m : GravityModel α) (locations : List (Point α)) (r : PersonId × Point α)
    (c : UtilityCache α) :
    (m.fill locations r).exec c =
      match c.get? r.1 with
      | some _ => (.ok ⟨⟩, c)
      | none =>
        match m.globalUtility r.1 r.2 locations with
        | .ok utility => (.ok ⟨⟩, c.insert r.1 utility)
        | .error e => (.error e, c) := by
  simp only [fill, ExceptT.exec_bind, ExceptT.exec_get]
  cases c.get? r.1 with
  | some _ => rfl
  | none => cases m.globalUtility r.1 r.2 locations <;> simp [ExceptT.exec_bind]

/-! ## What is remembered is right -/

/-- Every remembered utility is that of its person with the candidates at given places. -/
def Agrees (m : GravityModel α) (locations : List (Point α)) (c : UtilityCache α) : Prop :=
  ∀ r ∈ m.persons, ∀ utility, c.get? r.1 = some utility →
    m.globalUtility r.1 r.2 locations = .ok utility

/-- Every remembered utility is that of its person under the current layout. -/
def Coherent (m : GravityModel α) (c : UtilityCache α) : Prop :=
  ∀ layout locations, c.layout = some layout → m.locations layout = .ok locations →
    m.Agrees locations c

theorem coherent_empty (m : GravityModel α) : m.Coherent {} := by
  intro layout locations h
  simp at h

theorem Coherent.agrees_sync {m : GravityModel α} {c : UtilityCache α} (hc : m.Coherent c)
    {layout : List LinkId} {locations : List (Point α)} (hl : m.locations layout = .ok locations) :
    m.Agrees locations (c.sync layout) := by
  by_cases h : c.layout = some layout
  · rw [UtilityCache.sync_of_layout_eq h]
    exact hc layout locations h hl
  · intro r _ utility hu
    rw [UtilityCache.get?_sync_of_layout_ne h] at hu
    cases hu

theorem Agrees.insert {m : GravityModel α} (hm : m.HomesUnique) {locations : List (Point α)}
    {c : UtilityCache α} (hc : m.Agrees locations c) {r : PersonId × Point α} (hr : r ∈ m.persons)
    {utility : α} (hu : m.globalUtility r.1 r.2 locations = .ok utility) :
    m.Agrees locations (c.insert r.1 utility) := by
  intro s hs value hv
  rw [UtilityCache.get?_insert] at hv
  split at hv
  · next hrs =>
    rw [← hrs, ← hm r hr s hs hrs, ← Option.some.inj hv]
    exact hu
  · exact hc s hs value hv

/-! ## The score without a cache -/

/-- The shares that the candidates win of a person of given utility. -/
def shares (m : GravityModel α) (locations : List (Point α)) (home : Point α) (utility : α) : α :=
  Number.sum ((locations.zip m.candidates).map fun (location, id) =>
    m.attractionOf home location id / utility)

theorem personScore_of_get? {m : GravityModel α} {c : UtilityCache α} {r : PersonId × Point α}
    {utility : α} (h : c.get? r.1 = some utility) (locations : List (Point α)) :
    m.personScore c locations r = m.shares locations r.2 utility := by
  simp [personScore, shares, h]

/-- The shares won of one person; fails where the utility is refused. -/
def directShares (m : GravityModel α) (locations : List (Point α)) (r : PersonId × Point α) :
    Except (DataError α) α :=
  (m.globalUtility r.1 r.2 locations).map (m.shares locations r.2)

/-- The score of a layout, every utility computed anew. -/
def directScore (m : GravityModel α) (layout : List LinkId) : Except (DataError α) α := do
  let locations ← m.locations layout
  let won ← m.persons.mapM (m.directShares locations)
  return Number.sum won

theorem directShares_of_ok {m : GravityModel α} {locations : List (Point α)}
    {r : PersonId × Point α} {utility : α} (h : m.globalUtility r.1 r.2 locations = .ok utility) :
    m.directShares locations r = .ok (m.shares locations r.2 utility) := by
  rw [directShares, h]
  rfl

theorem directShares_of_error {m : GravityModel α} {locations : List (Point α)}
    {r : PersonId × Point α} {e : DataError α} (h : m.globalUtility r.1 r.2 locations = .error e) :
    m.directShares locations r = .error e := by
  rw [directShares, h]
  rfl

/-! ## Filling a cache -/

/-- Filling in one person either remembers the right utility and forgets nothing, or fails as the
utility does and leaves the cache alone. -/
theorem exec_fill_cases {m : GravityModel α} (hm : m.HomesUnique) {locations : List (Point α)}
    {r : PersonId × Point α} (hr : r ∈ m.persons) {c : UtilityCache α}
    (hc : m.Agrees locations c) :
    (∃ utility c', m.globalUtility r.1 r.2 locations = .ok utility ∧
      (m.fill locations r).exec c = (.ok ⟨⟩, c') ∧ m.Agrees locations c' ∧ c'.Extends c ∧
      c'.get? r.1 = some utility) ∨
    ∃ e, m.globalUtility r.1 r.2 locations = .error e ∧
      (m.fill locations r).exec c = (.error e, c) := by
  rw [exec_fill]
  cases hget : c.get? r.1 with
  | some utility => exact .inl ⟨utility, c, hc r hr utility hget, rfl, hc, .refl c, hget⟩
  | none =>
    cases hu : m.globalUtility r.1 r.2 locations with
    | error e => exact .inr ⟨e, rfl, rfl⟩
    | ok utility =>
      refine .inl ⟨utility, c.insert r.1 utility, rfl, rfl, hc.insert hm hr hu, .insert hget, ?_⟩
      rw [UtilityCache.get?_insert, if_pos rfl]

/-- **Filling a cache.** It fails exactly where the direct score does, forgets nothing, and afterwards
holds the utilities that make up the direct score. -/
theorem exec_forM_fill {m : GravityModel α} (hm : m.HomesUnique) {locations : List (Point α)}
    (rs : List (PersonId × Point α)) (hrs : rs ⊆ m.persons) {c : UtilityCache α}
    (hc : m.Agrees locations c) :
    ∃ c', (rs.forM (m.fill locations)).exec c =
        ((rs.mapM (m.directShares locations)).map fun _ => ⟨⟩, c') ∧
      m.Agrees locations c' ∧ c'.Extends c ∧
      ∀ won, rs.mapM (m.directShares locations) = .ok won →
        rs.map (m.personScore c' locations) = won := by
  induction rs generalizing c with
  | nil =>
    refine ⟨c, rfl, hc, .refl c, fun won h => ?_⟩
    simpa [pure, Except.pure] using h
  | cons r rs ih =>
    have hr : r ∈ m.persons := hrs List.mem_cons_self
    have hrs' : rs ⊆ m.persons := fun s hs => hrs (List.mem_cons_of_mem r hs)
    rw [ExceptT.exec_forM_cons, List.mapM_cons]
    obtain ⟨utility, c₁, hu, hfill, hc₁, hext, hget⟩ | ⟨e, hu, hfill⟩ := exec_fill_cases hm hr hc
    · obtain ⟨c', hrun, hagree, hext', hwon⟩ := ih hrs' hc₁
      rw [hfill, directShares_of_ok hu]
      refine ⟨c', ?_, hagree, hext'.trans hext, fun won h => ?_⟩
      · simp only [hrun]
        cases rs.mapM (m.directShares locations) <;> rfl
      · cases hrest : rs.mapM (m.directShares locations) with
        | error e => rw [hrest] at h; cases h
        | ok rest =>
          rw [hrest] at h
          cases h
          rw [List.map_cons, hwon rest hrest, personScore_of_get? (hext'.get? _ _ hget)]
    · rw [hfill, directShares_of_error hu]
      exact ⟨c, rfl, hc, .refl c, fun won h => by cases h⟩

/-- **One score.** From a coherent cache a layout scores as it does directly, and the cache it leaves
is coherent again, also when a utility is refused on the way. -/
theorem exec_computePotential {m : GravityModel α} (hm : m.HomesUnique) (layout : List LinkId)
    {c : UtilityCache α} (hc : m.Coherent c) :
    ∃ c', (m.computePotential layout).exec c = (m.directScore layout, c') ∧ m.Coherent c' := by
  simp only [computePotential, directScore, ExceptT.exec_bind, ExceptT.exec_ofExcept]
  cases hl : m.locations layout with
  | error e => exact ⟨c, rfl, hc⟩
  | ok locations =>
    obtain ⟨c', hrun, hagree, hext, hwon⟩ :=
      exec_forM_fill hm m.persons (List.Subset.refl _) (hc.agrees_sync hl)
    have hlay : c'.layout = some layout := hext.layout.trans (UtilityCache.layout_sync c layout)
    refine ⟨c', ?_, fun layout' locations' hlay' hl' => ?_⟩
    · simp only [ExceptT.exec_modify, hrun]
      cases hd : m.persons.mapM (m.directShares locations) with
      | error e => simp [Except.map, bind, Except.bind, hd]
      | ok won =>
        simp [Except.map, bind, Except.bind, hd, hwon won hd]
        rfl
    · obtain rfl : layout = layout' := Option.some.inj (hlay.symm.trans hlay')
      obtain rfl : locations = locations' := Except.ok.inj (hl.symm.trans hl')
      exact hagree

/-! ## Histories -/

/-- Scores layouts one after the other, each with what the ones before it left remembered. -/
def scoreAll (m : GravityModel α) (layouts : List (List LinkId)) :
    StateM (UtilityCache α) (List (Except (DataError α) α)) :=
  layouts.mapM fun layout => (m.computePotential layout).run

/-- The score of a layout that a model gives first of all, when nothing is remembered. -/
def freshScore (m : GravityModel α) (layout : List LinkId) : Except (DataError α) α :=
  ((m.computePotential layout).exec {}).1

theorem freshScore_eq {m : GravityModel α} (hm : m.HomesUnique) (layout : List LinkId) :
    m.freshScore layout = m.directScore layout := by
  obtain ⟨c', hrun, -⟩ := exec_computePotential hm layout m.coherent_empty
  rw [freshScore, hrun]

theorem scoreAll_run {m : GravityModel α} (hm : m.HomesUnique) (layouts : List (List LinkId))
    {c : UtilityCache α} (hc : m.Coherent c) :
    ∃ c', (m.scoreAll layouts).run c = (layouts.map m.directScore, c') ∧ m.Coherent c' := by
  induction layouts generalizing c with
  | nil => exact ⟨c, rfl, hc⟩
  | cons layout layouts ih =>
    obtain ⟨c₁, hrun, hc₁⟩ := exec_computePotential hm layout hc
    obtain ⟨c₂, hrest, hc₂⟩ := ih hc₁
    refine ⟨c₂, ?_, hc₂⟩
    simp only [ExceptT.exec] at hrun
    simp only [scoreAll] at hrest ⊢
    rw [List.mapM_cons, StateT.run_bind, hrun]
    exact congrArg (fun p => (m.directScore layout :: p.1, p.2)) hrest

/-! ## Refused layouts -/

theorem locations_of_length_ne {m : GravityModel α} {layout : List LinkId}
    (h : layout.length ≠ m.candidates.length) :
    m.locations layout = .error (.layoutLength layout.length m.candidates.length) := by
  rw [locations, if_pos h]

/-- A layout of the right length fails only by a link that is not in the network. -/
theorem exists_unknown_of_locations {m : GravityModel α} {layout : List LinkId}
    (hlen : layout.length = m.candidates.length) {e : DataError α}
    (h : m.locations layout = .error e) :
    ∃ link ∈ layout, m.network.midpoint? link = none ∧ e = .unknownLink link := by
  rw [locations, if_neg (not_not_intro hlen)] at h
  obtain ⟨link, hlink, he⟩ := Except.exists_of_mapM_eq_error h
  cases hmid : m.network.midpoint? link with
  | some p => rw [hmid] at he; cases he
  | none =>
    rw [hmid] at he
    cases he
    exact ⟨link, hlink, hmid, rfl⟩

theorem locations_ne_ok_of_unknown {m : GravityModel α} {layout : List LinkId} {link : LinkId}
    (hlink : link ∈ layout) (hmid : m.network.midpoint? link = none) (ls : List (Point α)) :
    m.locations layout ≠ .ok ls := by
  intro h
  unfold locations at h
  split at h
  · cases h
  · obtain ⟨p, -, hp⟩ := Except.exists_of_mapM_eq_ok h hlink
    rw [hmid] at hp
    cases hp

theorem exec_of_locations_error {m : GravityModel α} {layout : List LinkId} {e : DataError α}
    (h : m.locations layout = .error e) (c : UtilityCache α) :
    (m.computePotential layout).exec c = (.error e, c) := by
  simp only [computePotential, ExceptT.exec_bind, ExceptT.exec_ofExcept, h]

/-- **Remembering never shows.** On a model that was built, every layout of a history has the outcome
that it has on a fresh model, whatever came before and however that ended; and that is the score with
every utility computed anew. A layout of the wrong length or with an unknown link leaves the cache as
it is. -/
theorem scoreAll_eq_fresh {settings : GravitySettings α} {network : Network α}
    {population : Population α} {facilities : Facilities α} {candidates : List FacilityId}
    {m : GravityModel α} (h : build settings network population facilities candidates = .ok m) :
    (∀ layouts, ((m.scoreAll layouts).run {}).1 = layouts.map m.freshScore) ∧
    (∀ layout, m.freshScore layout = m.directScore layout) ∧
    ∀ layout c,
      (layout.length ≠ m.candidates.length →
        (m.computePotential layout).exec c =
          (.error (.layoutLength layout.length m.candidates.length), c)) ∧
      (layout.length = m.candidates.length → (∃ link ∈ layout, m.network.midpoint? link = none) →
        ∃ link ∈ layout, m.network.midpoint? link = none ∧
          (m.computePotential layout).exec c = (.error (.unknownLink link), c)) := by
  have hm : m.HomesUnique := homesUnique_of_buildWith h
  refine ⟨fun layouts => ?_, freshScore_eq hm, fun layout c => ⟨fun hlen => ?_, fun hlen => ?_⟩⟩
  · obtain ⟨c', hrun, -⟩ := scoreAll_run hm layouts m.coherent_empty
    rw [hrun]
    exact List.map_congr_left fun layout _ => (freshScore_eq hm layout).symm
  · exact exec_of_locations_error (locations_of_length_ne hlen) c
  · rintro ⟨link, hlink, hmid⟩
    cases hl : m.locations layout with
    | ok ls => exact absurd hl (locations_ne_ok_of_unknown hlink hmid ls)
    | error e =>
      obtain ⟨first, hfirst, hnone, rfl⟩ := exists_unknown_of_locations hlen hl
      exact ⟨first, hfirst, hnone, exec_of_locations_error hl c⟩

/-- A history on the small town: a layout, another one, the first one again, one without links, one
with a link that is not there, and the first one once more. -/
theorem scoreAll_eq_fresh_smallTown :
    ∃ m : GravityModel Float,
      build smallTown.settings smallTown.network smallTown.population smallTown.facilities
        smallTown.candidates = .ok m ∧
      (let layouts := [[⟨0⟩], [⟨1⟩], [⟨0⟩], [], [⟨7⟩], [⟨0⟩]]
      ((m.scoreAll layouts).run {}).1 = layouts.map m.freshScore) ∧
      (m.computePotential []).exec {} = (.error (.layoutLength 0 m.candidates.length), {}) := by
  obtain ⟨m, h⟩ := build_smallTown
  have hlen : ([] : List LinkId).length ≠ m.candidates.length := by
    rw [candidates_of_buildWith h]
    decide
  exact ⟨m, h, (scoreAll_eq_fresh h).1 _, ((scoreAll_eq_fresh h).2.2 [] {}).1 hlen⟩

end GravityModel

end SpatialAccess
