import SpatialAccess.Output.Observer
import SpatialAccess.Proofs.Outcome
import SpatialAccess.Proofs.Surface.Setting

/-!
# What a run reports

* `RunEvent.starting`: the event before the surface of a set is computed.
* `SurfaceModel.computeAll_eq_ok`, `SurfaceModel.computeAll_eq_error`: all sets up to the first one
  that fails are started.
* `SurfaceModel.run_of_opportunities_error`, `SurfaceModel.run_of_compute_error`,
  `SurfaceModel.run_of_surfaces`: the three ways in which a run ends.
  `SurfaceModel.exists_sets_of_run`: what stands behind one that succeeds.
* `SurfaceWriter.recording`: a writer that also lists what it was asked to do.
  `WriteObserver.observeAll_recording`: nothing else changes by that.
* `WriteObserver.observeAll_results`: surfaces are written up to the first one that is rejected.
  `WriteObserver.observeAll_run`: the same in a whole run.
* **`SurfaceModel.run_reports`**: a run hands over all results or none, and what is written of them.
-/

namespace SpatialAccess

variable {α : Type}

/-! ## Types of sets and surfaces -/

theorem OpportunitySet.activityType_of_ofType [Number α] {activityType : String}
    {facilities : Facilities α}
    {network : Network α} {exponent : α} {set : OpportunitySet α}
    (h : ofType activityType facilities network exponent = .ok set) :
    set.activityType = activityType := by
  obtain ⟨items, -, h⟩ := Except.bind_eq_ok.1 h
  cases h
  rfl

namespace Surface

theorem activityType_of_insert {s s' : Surface α} {point : PointId} {mode : Mode} {value : α}
    (h : s.insert point mode value = .ok s') : s'.activityType = s.activityType := by
  obtain ⟨slot, -, -, -, rfl⟩ := insert_eq_ok_iff.1 h
  rfl

theorem activityType_of_setDensity {s s' : Surface α} {density : Array α}
    (h : s.setDensity density = .ok s') : s'.activityType = s.activityType := by
  obtain ⟨-, rfl⟩ := setDensity_eq_ok_iff.1 h
  rfl

end Surface

/-- A surface is of the type of the opportunities that it was computed from. -/
theorem SurfaceModel.activityType_of_compute [Number α] {m : SurfaceModel α}
    {set : OpportunitySet α} {facilities : Facilities α} {s : Surface α}
    (h : m.compute set facilities = .ok s) :
    s.activityType = set.activityType := by
  obtain ⟨values, -, h⟩ := Except.bind_eq_ok.1 h
  obtain ⟨filled, hfilled, h⟩ := Except.bind_eq_ok.1 h
  rw [Surface.activityType_of_setDensity h]
  refine Except.foldlM_keeps (P := fun s : Surface α => s.activityType = set.activityType)
    (fun s row s' hs hrow => ?_) hfilled rfl
  exact Except.foldlM_keeps (P := fun s : Surface α => s.activityType = set.activityType)
    (fun s cell s' hs hcell => (Surface.activityType_of_insert hcell).trans hs) hrow hs

/-! ## Computing set after set -/

/-- What is reported before the surface of a set is computed. -/
def RunEvent.starting (set : OpportunitySet α) : RunEvent α :=
  .typeStart set.activityType set.size

namespace SurfaceModel

variable [Number α] {m : SurfaceModel α} {facilities : Facilities α}

theorem computeAll_eq_ok {sets : List (OpportunitySet α)} {surfaces : List (Surface α)}
    (h : sets.mapM (m.compute · facilities) = .ok surfaces) :
    m.computeAll facilities sets = (sets.map .starting, .ok surfaces) := by
  rw [Except.mapM_eq_ok_iff] at h
  induction h with
  | nil => rfl
  | cons hset _ ih => simp [computeAll, hset, ih, RunEvent.starting, Except.map]

/-- The set that fails is the last one to be started. -/
theorem computeAll_eq_error {before after : List (OpportunitySet α)} {set : OpportunitySet α}
    {e : SurfaceError α}
    (hbefore : ∀ set ∈ before, ∃ surface, m.compute set facilities = .ok surface)
    (hset : m.compute set facilities = .error e) :
    m.computeAll facilities (before ++ set :: after) =
      ((before ++ [set]).map .starting, .error e) := by
  induction before with
  | nil => simp [computeAll, hset, RunEvent.starting]
  | cons first before ih =>
    obtain ⟨surface, hfirst⟩ := hbefore first List.mem_cons_self
    have ih := ih fun set hset => hbefore set (List.mem_cons_of_mem first hset)
    simp [computeAll, hfirst, ih, RunEvent.starting, Except.map]

theorem run_of_opportunities_error {e : SurfaceError α}
    (h : m.opportunitySets facilities = .error e) : m.run facilities = ([], .error e) := by
  rw [run, h]

theorem run_of_compute_error {before after : List (OpportunitySet α)} {set : OpportunitySet α}
    {e : SurfaceError α} (hsets : m.opportunitySets facilities = .ok (before ++ set :: after))
    (hbefore : ∀ set ∈ before, ∃ surface, m.compute set facilities = .ok surface)
    (hset : m.compute set facilities = .error e) :
    m.run facilities = ((before ++ [set]).map .starting, .error e) := by
  rw [run, hsets]
  simp only [computeAll_eq_error hbefore hset]

theorem run_of_surfaces {sets : List (OpportunitySet α)} {surfaces : List (Surface α)}
    (hsets : m.opportunitySets facilities = .ok sets)
    (hsurfaces : sets.mapM (m.compute · facilities) = .ok surfaces) :
    m.run facilities =
      (sets.map .starting ++ surfaces.map .result ++
        [.runEnd (m.activityTypes facilities).length], .ok surfaces) := by
  have hlength : surfaces.length = (m.activityTypes facilities).length :=
    (Except.length_of_mapM_eq_ok hsurfaces).trans (Except.length_of_mapM_eq_ok hsets)
  rw [run, hsets]
  simp only [computeAll_eq_ok hsurfaces, hlength]

/-- A run that succeeds has had all its opportunities and has computed all its surfaces. -/
theorem exists_sets_of_run {surfaces : List (Surface α)}
    (h : (m.run facilities).2 = .ok surfaces) :
    ∃ sets, m.opportunitySets facilities = .ok sets ∧
      sets.mapM (m.compute · facilities) = .ok surfaces := by
  cases hsets : m.opportunitySets facilities with
  | error e =>
    rw [run_of_opportunities_error hsets] at h
    cases h
  | ok sets =>
    cases hsurfaces : sets.mapM (m.compute · facilities) with
    | error e =>
      obtain ⟨before, set, after, rfl, hbefore, he⟩ :=
        Except.exists_first_of_mapM_eq_error hsurfaces
      rw [run_of_compute_error hsets hbefore he] at h
      cases h
    | ok surfaces' =>
      rw [run_of_surfaces hsets hsurfaces] at h
      cases h
      exact ⟨sets, rfl, hsurfaces⟩

end SurfaceModel

/-! ## Writers that keep a record -/

variable {σ ε : Type}

/-- What a writer is asked to do. -/
inductive WriterCall (α : Type) where
  | write (surface : Surface α)
  | finish

/-- A writer that also lists what it was asked to do, with the error that came of it. -/
def SurfaceWriter.recording (w : SurfaceWriter σ ε α) :
    SurfaceWriter (σ × List (WriterCall α × Option ε)) ε α where
  write surface s :=
    let (next, error?) := w.write surface s.1
    ((next, s.2 ++ [(.write surface, error?)]), error?)
  finish s :=
    let (next, error?) := w.finish s.1
    ((next, s.2 ++ [(.finish, error?)]), error?)

namespace WriteObserver

/-- An observer whose writer keeps no record. -/
def unrecorded {ρ : Type} (o : WriteObserver (σ × ρ) ε) : WriteObserver σ ε where
  state := o.state.1
  error? := o.error?

/-- Keeping a record makes no difference to anything else. -/
theorem observeAll_recording (w : SurfaceWriter σ ε α) (events : List (RunEvent α))
    (o : WriteObserver (σ × List (WriterCall α × Option ε)) ε) :
    (observeAll w.recording o events).unrecorded = observeAll w o.unrecorded events := by
  induction events generalizing o with
  | nil => rfl
  | cons event events ih =>
    have hevent : (observe w.recording o event).unrecorded = observe w o.unrecorded event := by
      cases event with
      | typeStart | runEnd => rfl
      | result surface =>
        have hkept : o.unrecorded.error?.isSome = o.error?.isSome := rfl
        rw [observe, observe, hkept]
        split <;> rfl
    exact (ih _).trans (congrArg (observeAll w · events) hevent)

theorem observeAll_append (w : SurfaceWriter σ ε α) (o : WriteObserver σ ε)
    (events events' : List (RunEvent α)) :
    observeAll w o (events ++ events') = observeAll w (observeAll w o events) events' :=
  List.foldl_append

theorem observeAll_starting (w : SurfaceWriter σ ε α) (o : WriteObserver σ ε)
    (sets : List (OpportunitySet α)) : observeAll w o (sets.map .starting) = o := by
  induction sets with
  | nil => rfl
  | cons set sets ih => exact ih

theorem observeAll_results_of_error (w : SurfaceWriter σ ε α) {o : WriteObserver σ ε}
    (h : o.error?.isSome) (surfaces : List (Surface α)) :
    observeAll w o (surfaces.map .result) = o := by
  induction surfaces with
  | nil => rfl
  | cons surface surfaces ih =>
    have hresult : observe w o (.result surface) = o := if_pos h
    rw [List.map_cons, observeAll, List.foldl_cons, hresult]
    exact ih

/-- At the end of a run the writer is told that it is done. -/
theorem observe_runEnd (w : SurfaceWriter σ ε α) (types : Nat)
    (o : WriteObserver (σ × List (WriterCall α × Option ε)) ε) :
    ∃ last, (observe w.recording o (.runEnd types)).takeError.1 = o.error?.or last ∧
      (observe w.recording o (.runEnd types)).state.2 = o.state.2 ++ [(.finish, last)] :=
  ⟨(w.finish o.state.1).2, rfl, rfl⟩

/-- **Surfaces are written up to the first one that is rejected**: either all of them are accepted,
or one is rejected, and that one is the last to be written. -/
theorem observeAll_results (w : SurfaceWriter σ ε α) (surfaces : List (Surface α)) (s : σ)
    (record : List (WriterCall α × Option ε)) :
    let o := observeAll w.recording { state := (s, record) } (surfaces.map .result)
    (o.error? = none ∧ o.state.2 = record ++ surfaces.map fun surface => (.write surface, none)) ∨
      ∃ accepted rejected rest e, surfaces = accepted ++ rejected :: rest ∧ o.error? = some e ∧
        o.state.2 = record ++ (accepted.map fun surface => (.write surface, none)) ++
          [(.write rejected, some e)] := by
  induction surfaces generalizing s record with
  | nil => exact .inl ⟨rfl, (List.append_nil record).symm⟩
  | cons surface surfaces ih =>
    intro o
    have ho : o = observeAll w.recording
        { state := ((w.write surface s).1, record ++ [(.write surface, (w.write surface s).2)])
          error? := (w.write surface s).2 }
        (surfaces.map .result) := rfl
    cases hw : (w.write surface s).2 with
    | some e =>
      rw [hw, observeAll_results_of_error _ rfl] at ho
      refine .inr ⟨[], surface, surfaces, e, rfl, ?_, ?_⟩
      · rw [ho]
      · rw [ho, List.map_nil, List.append_nil]
    | none =>
      rw [hw] at ho
      have ih := ih (w.write surface s).1 (record ++ [(.write surface, none)])
      rw [← ho] at ih
      obtain ⟨herror, hrecord⟩ | ⟨accepted, rejected, rest, e, rfl, herror, hrecord⟩ := ih
      · exact .inl ⟨herror, by simpa using hrecord⟩
      · exact .inr ⟨surface :: accepted, rejected, rest, e, rfl, herror, by simpa using hrecord⟩

/-- What is written in a run whose surfaces all are computed. -/
theorem observeAll_run (w : SurfaceWriter σ ε α) (s : σ) (sets : List (OpportunitySet α))
    (surfaces : List (Surface α)) (types : Nat) :
    let watched := observeAll w.recording { state := (s, []) }
      (sets.map .starting ++ surfaces.map .result ++ [.runEnd types])
    (∃ last, watched.takeError.1 = last ∧ watched.state.2 =
        (surfaces.map fun surface => (.write surface, none)) ++ [(.finish, last)]) ∨
      ∃ accepted rejected rest e last, surfaces = accepted ++ rejected :: rest ∧
        watched.takeError.1 = some e ∧ watched.state.2 =
          (accepted.map fun surface => (.write surface, none)) ++
            [(.write rejected, some e), (.finish, last)] := by
  intro watched
  obtain ⟨last, herror, hrecord⟩ := observe_runEnd w types
    (observeAll w.recording { state := (s, []) } (surfaces.map .result))
  have hwatched : watched = observe w.recording
      (observeAll w.recording { state := (s, []) } (surfaces.map .result)) (.runEnd types) := by
    simp only [watched, observeAll_append, observeAll_starting]
    rfl
  rw [← hwatched] at herror hrecord
  obtain ⟨hnone, hall⟩ | ⟨accepted, rejected, rest, e, rfl, hsome, hpart⟩ :=
    observeAll_results w surfaces s []
  · refine .inl ⟨last, ?_, ?_⟩
    · rw [herror, hnone, Option.none_or]
    · rw [hrecord, hall, List.nil_append]
  · refine .inr ⟨accepted, rejected, rest, e, last, rfl, ?_, ?_⟩
    · rw [herror, hsome, Option.some_or]
    · rw [hrecord, hpart, List.nil_append, List.append_assoc]
      rfl

end WriteObserver

/-! ## Runs -/

/-- **A run hands over all results or none.** It ends in one of three ways.

* The opportunities of a type cannot be had: nothing is reported, and nothing is written.
* A surface cannot be computed: its type is the last one that is started, and nothing is written.
* All surfaces are computed: every type is started, then every result is handed over, then the run
  is over. The results are written up to the first one that is rejected, and the writer is told once
  that it is done. The error that is handed over is the first one.

A writer that keeps a record of all it is asked to do stands for any writer, since the record makes
no other difference. -/
theorem SurfaceModel.run_reports [Number α] (m : SurfaceModel α) (facilities : Facilities α)
    (w : SurfaceWriter σ ε α) (s : σ) :
    let types := m.activityTypes facilities
    let opportunities := fun activityType =>
      OpportunitySet.ofType activityType facilities m.network m.settings.betas.capacity
    let untouched : WriteObserver (σ × List (WriterCall α × Option ε)) ε := { state := (s, []) }
    let watched := WriteObserver.observeAll w.recording untouched (m.run facilities).1
    watched.unrecorded = WriteObserver.observeAll w { state := s } (m.run facilities).1 ∧
    ((∃ before activityType after e, types = before ++ activityType :: after ∧
        (∀ type ∈ before, ∃ set, opportunities type = .ok set) ∧
        opportunities activityType = .error e ∧
        m.run facilities = ([], .error e) ∧ watched = untouched) ∨
      (∃ before set after e, types.mapM opportunities = .ok (before ++ set :: after) ∧
        (before ++ set :: after).map OpportunitySet.activityType = types ∧
        (∀ set ∈ before, ∃ surface, m.compute set facilities = .ok surface) ∧
        m.compute set facilities = .error e ∧
        m.run facilities = ((before ++ [set]).map .starting, .error e) ∧ watched = untouched) ∨
      ∃ sets surfaces, types.mapM opportunities = .ok sets ∧
        sets.map OpportunitySet.activityType = types ∧
        sets.mapM (m.compute · facilities) = .ok surfaces ∧
        surfaces.map Surface.activityType = types ∧
        m.run facilities =
          (sets.map .starting ++ surfaces.map .result ++ [.runEnd types.length], .ok surfaces) ∧
        ((∃ last, watched.takeError.1 = last ∧ watched.state.2 =
            (surfaces.map fun surface => (.write surface, none)) ++ [(.finish, last)]) ∨
          ∃ accepted rejected rest e last, surfaces = accepted ++ rejected :: rest ∧
            watched.takeError.1 = some e ∧ watched.state.2 =
              (accepted.map fun surface => (.write surface, none)) ++
                [(.write rejected, some e), (.finish, last)])) := by
  intro types opportunities untouched watched
  refine ⟨WriteObserver.observeAll_recording w _ _, ?_⟩
  cases hsets : types.mapM opportunities with
  | error e =>
    obtain ⟨before, activityType, after, htypes, hbefore, he⟩ :=
      Except.exists_first_of_mapM_eq_error hsets
    have hrun : m.run facilities = ([], .error e) := run_of_opportunities_error hsets
    refine .inl ⟨before, activityType, after, e, htypes, hbefore, he, hrun, ?_⟩
    simp only [watched, hrun]
    rfl
  | ok sets =>
    have htypes : sets.map OpportunitySet.activityType = types := by
      rw [Except.map_of_mapM_eq_ok (g := id) hsets fun _ _ =>
        OpportunitySet.activityType_of_ofType, List.map_id]
    cases hsurfaces : sets.mapM (m.compute · facilities) with
    | error e =>
      obtain ⟨before, set, after, rfl, hbefore, he⟩ :=
        Except.exists_first_of_mapM_eq_error hsurfaces
      have hrun := run_of_compute_error hsets hbefore he
      refine .inr (.inl ⟨before, set, after, e, rfl, htypes, hbefore, he, hrun, ?_⟩)
      simp only [watched, hrun, WriteObserver.observeAll_starting]
    | ok surfaces =>
      have hrun := run_of_surfaces hsets hsurfaces
      refine .inr (.inr ⟨sets, surfaces, rfl, htypes, hsurfaces, ?_, hrun, ?_⟩)
      · rw [Except.map_of_mapM_eq_ok hsurfaces fun _ _ => activityType_of_compute, htypes]
      · simp only [watched, hrun]
        exact WriteObserver.observeAll_run w s sets surfaces types.length

end SpatialAccess
