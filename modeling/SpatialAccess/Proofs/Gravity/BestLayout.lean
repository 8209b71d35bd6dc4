import Mathlib.Analysis.SpecialFunctions.Pow.Real
import SpatialAccess.Gravity.Search
import SpatialAccess.Proofs.Gravity.Likelihood
import SpatialAccess.Proofs.Random.Positions

/-!
# The best layout of a search

A search keeps the best of the layouts that it evaluates. The cache belongs to the last one of them,
but since remembered utilities never show, the score that is kept stays that of the layout that is
kept.

* `always_drawLayout`, `always_drawTrial`: random layouts and those that moves try consist of links
  of the list.
* `recording`: a way of scoring that also writes down what is scored. `run_climb_recording`: nothing
  else changes by that.
* `RecordedSearch.Ends`: what holds when a recorded search has succeeded or failed, with one lemma
  per step.
* `Best`: a layout that is the best of those evaluated. `ends_move`: a move keeps it up.
* **`localSearch_best`**: the layout that is returned is the best of all evaluated.
  `exec_recordedSearch_of_trials`: a search whose second move leads back.
-/

namespace SpatialAccess.GravityModel

variable {α : Type}

/-! ## Random layouts -/

theorem always_drawLink {links : List LinkId} (h : links ≠ []) :
    Draw.Always (drawLink links) (· ∈ links) := by
  refine (Draw.always_upTo64 (Nat.zero_le _)).bind fun t ht => Draw.always_pure ?_
  have hlt : t < links.length := by
    have := List.length_pos_of_ne_nil h
    omega
  rw [List.getD_eq_getElem _ _ hlt]
  exact List.getElem_mem hlt

/-- A layout of the links of a list for a number of candidates. -/
def Placed (links : List LinkId) (candidates : ℕ) (layout : List LinkId) : Prop :=
  layout.length = candidates ∧ ∀ link ∈ layout, link ∈ links

theorem always_drawLayout {links : List LinkId} (h : links ≠ []) (candidates : ℕ) :
    Draw.Always (drawLayout links candidates) (Placed links candidates) := by
  induction candidates with
  | zero => exact Draw.always_pure ⟨rfl, by simp⟩
  | succ candidates ih =>
    rw [drawLayout, List.replicate_succ, List.mapM_cons]
    refine (always_drawLink h).bind fun link hlink => Draw.Always.bind ih fun layout hlayout => ?_
    exact Draw.always_pure
      ⟨congrArg Nat.succ hlayout.1, List.forall_mem_cons.2 ⟨hlink, hlayout.2⟩⟩

theorem Placed.set {links : List LinkId} {candidates : ℕ} {layout : List LinkId}
    (h : Placed links candidates layout) {link : LinkId} (hlink : link ∈ links) (k : ℕ) :
    Placed links candidates (layout.set k link) := by
  refine ⟨by rw [List.length_set, h.1], fun other hother => ?_⟩
  obtain hmem | rfl := List.mem_or_eq_of_mem_set hother
  · exact h.2 other hmem
  · exact hlink

/-- The layout that a move tries: a random candidate is put on a random link. -/
def drawTrial (links layout : List LinkId) : Draw (List LinkId) := do
  let k ← Draw.upTo64 0 (layout.length - 1)
  return layout.set k (← drawLink links)

theorem always_drawTrial {links : List LinkId} (h : links ≠ []) {candidates : ℕ}
    {layout : List LinkId} (hlayout : Placed links candidates layout) :
    Draw.Always (drawTrial links layout) (Placed links candidates) := by
  refine (Draw.always_upTo64 (Nat.zero_le _)).bind fun k _ => ?_
  exact (always_drawLink h).bind fun link hlink => Draw.always_pure (hlayout.set hlink k)

/-! ## Keeping a record -/

section Recording

variable {M : Type → Type} [Monad M]

/-- A way of scoring that also writes down what is scored. -/
def recording (score : List LinkId → M α) (links : List LinkId) :
    StateT (List (Layout α)) M α := do
  let value ← score links
  modify (· ++ [{ links, score := value }])
  return value

variable [LawfulMonad M]

theorem run_recording (score : List LinkId → M α) (links : List LinkId)
    (record : List (Layout α)) :
    (recording score links).run record =
      (fun value => (value, record ++ [{ links, score := value }])) <$> score links := by
  simp [recording]

variable [Number α] [MonadLiftT Draw M]

theorem run_move_recording (score : List LinkId → M α) (links : List LinkId) (best : Layout α)
    (record : List (Layout α)) :
    Prod.fst <$> (move (recording score) links best).run record = move score links best := by
  simp [move, run_recording]

theorem run_moves_recording (score : List LinkId → M α) (links : List LinkId) (count : ℕ)
    (best : Layout α) (record : List (Layout α)) :
    Prod.fst <$> (moves (recording score) links count best).run record =
      moves score links count best := by
  induction count generalizing best record with
  | zero => simp [moves]
  | succ count ih =>
    rw [moves, moves, StateT.run_bind, map_bind, ← run_move_recording score links best record,
      bind_map_left]
    exact bind_congr fun p => ih p.1 p.2

/-- Keeping a record makes no difference to anything else. -/
theorem run_climb_recording (score : List LinkId → M α) (links : List LinkId)
    (candidates count : ℕ) (record : List (Layout α)) :
    Prod.fst <$> (climb (recording score) links candidates count).run record =
      climb score links candidates count := by
  simp [climb, run_recording, run_moves_recording]

end Recording

/-- A search that writes down the layouts that it evaluates. -/
abbrev RecordedSearch (α : Type) := StateT (List (Layout α)) (Search α)

/-- The search of a model, with all layouts that it evaluates. -/
def recordedSearch [Number α] (m : GravityModel α) (links : List LinkId) (count : ℕ) :
    RecordedSearch α (Layout α) :=
  climb (recording (Search.score m)) links m.candidates.length count

/-! ## Running a search -/

section Running

variable {β γ : Type}

/-- What a search gives from a cache and a stream, and what it leaves of them. -/
def Search.exec (x : Search α β) (c : UtilityCache α) (s : Stream) :
    (Except (DataError α) β × UtilityCache α) × Stream :=
  (x.run.run c).run s

theorem Search.exec_map (f : β → γ) (x : Search α β) (c : UtilityCache α) (s : Stream) :
    (f <$> x).exec c s = (((x.exec c s).1.1.map f, (x.exec c s).1.2), (x.exec c s).2) := by
  simp only [Search.exec, ExceptT.run_map, StateT.run_map]
  rfl

namespace RecordedSearch

/-- A recorded search ends as asked for: what it gives, the record, the cache and the stream are
`Good` if it succeeds, and its error is `Bad` if it fails. -/
def Ends (x : RecordedSearch α β) (record : List (Layout α)) (c : UtilityCache α) (s : Stream)
    (Good : β → List (Layout α) → UtilityCache α → Stream → Prop) (Bad : DataError α → Prop) :
    Prop :=
  match (x.run record).exec c s with
  | ((.ok (b, record'), c'), s') => Good b record' c' s'
  | ((.error e, _), _) => Bad e

variable {record : List (Layout α)} {c : UtilityCache α} {s : Stream} {Bad : DataError α → Prop}

theorem Ends.good {x : RecordedSearch α β}
    {Good : β → List (Layout α) → UtilityCache α → Stream → Prop} (h : Ends x record c s Good Bad)
    {b : β} {record' : List (Layout α)} (hx : ((x.run record).exec c s).1.1 = .ok (b, record')) :
    ∃ c' s', Good b record' c' s' := by
  unfold Ends at h
  rcases hrun : (x.run record).exec c s with ⟨⟨e | ⟨b, record'⟩, c'⟩, s'⟩ <;> rw [hrun] at h hx
  · cases hx
  · cases hx
    exact ⟨c', s', h⟩

theorem Ends.bad {x : RecordedSearch α β}
    {Good : β → List (Layout α) → UtilityCache α → Stream → Prop} (h : Ends x record c s Good Bad)
    {e : DataError α} (hx : ((x.run record).exec c s).1.1 = .error e) : Bad e := by
  unfold Ends at h
  rcases hrun : (x.run record).exec c s with ⟨⟨e | ⟨b, record'⟩, c'⟩, s'⟩ <;> rw [hrun] at h hx
  · cases hx
    exact h
  · cases hx

theorem Ends.exec_eq_ok {x : RecordedSearch α β} {b : β} {record' : List (Layout α)}
    (h : Ends x record c s (fun b' record'' _ _ => b' = b ∧ record'' = record') fun _ => False) :
    ((x.run record).exec c s).1.1 = .ok (b, record') := by
  cases hx : ((x.run record).exec c s).1.1 with
  | error e => exact (h.bad hx).elim
  | ok ended =>
    obtain ⟨_, _, rfl, rfl⟩ := h.good hx
    rfl

theorem Ends.imp {x : RecordedSearch α β}
    {Good Good' : β → List (Layout α) → UtilityCache α → Stream → Prop}
    (h : Ends x record c s Good Bad)
    (himp : ∀ b record' c' s', Good b record' c' s' → Good' b record' c' s') :
    Ends x record c s Good' Bad := by
  unfold Ends at h ⊢
  split at h
  · exact himp _ _ _ _ h
  · exact h

variable {Good : γ → List (Layout α) → UtilityCache α → Stream → Prop}

theorem ends_bind {x : RecordedSearch α β} {f : β → RecordedSearch α γ}
    (h : Ends x record c s (fun b record' c' s' => Ends (f b) record' c' s' Good Bad) Bad) :
    Ends (x >>= f) record c s Good Bad := by
  unfold Ends at h ⊢
  rcases hx : (x.run record).exec c s with ⟨⟨e | ⟨b, record'⟩, c'⟩, s'⟩ <;>
  · rw [hx] at h
    simp only [Search.exec] at hx h
    simp only [Search.exec, StateT.run_bind, ExceptT.run_bind, hx]
    exact h

theorem ends_pure {b : γ} (h : Good b record c s) : Ends (pure b) record c s Good Bad :=
  h

theorem ends_draw {d : Draw β} {f : β → RecordedSearch α γ}
    (h : Ends (f (d.run s).1) record c (d.run s).2 Good Bad) :
    Ends (liftM d >>= f) record c s Good Bad :=
  h

variable [Number α] {m : GravityModel α}

/-- Scoring takes nothing from the stream. -/
theorem exec_recording (layout : List LinkId) :
    ((recording (Search.score m) layout).run record).exec c s =
      ((((m.computePotential layout).exec c).1.map fun value =>
        (value, record ++ [{ links := layout, score := value }]),
        ((m.computePotential layout).exec c).2), s) := by
  rw [run_recording, Search.exec_map]
  rfl

/-- A layout is scored as it is on a fresh model, and it is written down. -/
theorem ends_recording (hm : m.HomesUnique) (hc : m.Coherent c) {layout : List LinkId}
    {f : α → RecordedSearch α γ}
    (hok : ∀ value c', m.freshScore layout = .ok value → m.Coherent c' →
      Ends (f value) (record ++ [{ links := layout, score := value }]) c' s Good Bad)
    (herror : ∀ e, m.freshScore layout = .error e → Bad e) :
    Ends (recording (Search.score m) layout >>= f) record c s Good Bad := by
  obtain ⟨c', hrun, hc'⟩ := exec_computePotential hm layout hc
  rw [← freshScore_eq hm] at hrun
  apply ends_bind
  rw [Ends, exec_recording, hrun]
  cases hfresh : m.freshScore layout with
  | error e => exact herror e hfresh
  | ok value => exact hok value c' hfresh hc'

/-- A move scores the layout that it tries, and takes it if that raises the score. -/
theorem ends_trial (hm : m.HomesUnique) (hc : m.Coherent c) {links trial : List LinkId}
    {best : Layout α} {s' : Stream} (htrial : (drawTrial links best.links).run s = (trial, s'))
    {Good : Layout α → List (Layout α) → UtilityCache α → Stream → Prop}
    (hok : ∀ value c', m.freshScore trial = .ok value → m.Coherent c' →
      Good (if best.score < value then { links := trial, score := value } else best)
        (record ++ [{ links := trial, score := value }]) c' s')
    (herror : ∀ e, m.freshScore trial = .error e → Bad e) :
    Ends (move (recording (Search.score m)) links best) record c s Good Bad := by
  have hmove : move (recording (Search.score m)) links best =
      (liftM (drawTrial links best.links) : RecordedSearch α (List LinkId)) >>= fun trial =>
        recording (Search.score m) trial >>= fun value =>
          pure (if best.score < value then { links := trial, score := value } else best) := rfl
  rw [hmove]
  refine ends_draw ?_
  rw [htrial]
  exact ends_recording hm hc (fun value c' hvalue hc' => ends_pure (hok value c' hvalue hc')) herror

theorem ends_trial_of_ok (hm : m.HomesUnique) (hc : m.Coherent c) {links trial : List LinkId}
    {best : Layout α} {s' : Stream} (htrial : (drawTrial links best.links).run s = (trial, s'))
    {value : α} (hvalue : m.freshScore trial = .ok value)
    {Good : Layout α → List (Layout α) → UtilityCache α → Stream → Prop}
    (hok : ∀ c', m.Coherent c' →
      Good (if best.score < value then { links := trial, score := value } else best)
        (record ++ [{ links := trial, score := value }]) c' s') :
    Ends (move (recording (Search.score m)) links best) record c s Good Bad := by
  refine ends_trial hm hc htrial (fun value' c' hvalue' hc' => ?_) fun e he => ?_
  · obtain rfl := Except.ok.inj (hvalue.symm.trans hvalue')
    exact hok c' hc'
  · cases hvalue.symm.trans he

end RecordedSearch

end Running

/-! ## The best layout -/

section Best

open RecordedSearch

variable [Number α] {m : GravityModel α} {links : List LinkId}

/-- Whatever score a fresh model gives is a number. -/
def NeverNaN (m : GravityModel α) : Prop :=
  ∀ layout score, m.freshScore layout = .ok score → Number.isNaN score = false

/-- An error that some layout of the links of a list has on a fresh model. -/
def Refuses (m : GravityModel α) (links : List LinkId) (e : DataError α) : Prop :=
  ∃ layout, Placed links m.candidates.length layout ∧ m.freshScore layout = .error e

/-- A layout that is the best of those evaluated; all have the scores of a fresh model. -/
structure Best (m : GravityModel α) (links : List LinkId) (best : Layout α)
    (evaluated : List (Layout α)) : Prop where
  mem : best ∈ evaluated
  placed : ∀ layout ∈ evaluated, Placed links m.candidates.length layout.links
  fresh : ∀ layout ∈ evaluated, m.freshScore layout.links = .ok layout.score
  le : ∀ layout ∈ evaluated, layout.score ≤ best.score

theorem Best.first {first : List LinkId} (hplaced : Placed links m.candidates.length first)
    {value : α} (hfresh : m.freshScore first = .ok value) (hvalue : value ≤ value) :
    m.Best links { links := first, score := value } [{ links := first, score := value }] where
  mem := List.mem_singleton_self _
  placed := List.forall_mem_singleton.2 hplaced
  fresh := List.forall_mem_singleton.2 hfresh
  le := List.forall_mem_singleton.2 hvalue

/-- One more layout is evaluated, and taken if its score is higher. -/
theorem Best.trial [OrderedNumber α] {best : Layout α} {evaluated : List (Layout α)}
    (h : m.Best links best evaluated) {trial : List LinkId}
    (hplaced : Placed links m.candidates.length trial) {value : α}
    (hfresh : m.freshScore trial = .ok value) (hvalue : value ≤ value) :
    m.Best links (if best.score < value then { links := trial, score := value } else best)
      (evaluated ++ [{ links := trial, score := value }]) := by
  have hall : ∀ {P : Layout α → Prop}, (∀ layout ∈ evaluated, P layout) →
      P { links := trial, score := value } →
      ∀ layout ∈ evaluated ++ [{ links := trial, score := value }], P layout :=
    fun hevaluated htrial =>
      List.forall_mem_append.2 ⟨hevaluated, List.forall_mem_singleton.2 htrial⟩
  split
  · next hlt =>
    refine ⟨by simp, hall h.placed hplaced, hall h.fresh hfresh, hall ?_ hvalue⟩
    exact fun layout hlayout =>
      OrderedNumber.le_trans (h.le layout hlayout) (OrderedNumber.le_of_lt hlt)
  · next hlt =>
    refine ⟨List.mem_append_left _ h.mem, hall h.placed hplaced, hall h.fresh hfresh, hall h.le ?_⟩
    exact OrderedNumber.le_of_not_lt (h.le best h.mem) hvalue hlt

variable [OrderedNumber α]

/-- **A move** evaluates one more layout, and the best one stays the best. -/
theorem ends_move (hm : m.HomesUnique) (hnan : m.NeverNaN) (hlinks : links ≠ []) {best : Layout α}
    {evaluated : List (Layout α)} (h : m.Best links best evaluated) {c : UtilityCache α}
    (hc : m.Coherent c) (s : Stream) :
    Ends (move (recording (Search.score m)) links best) evaluated c s
      (fun best' evaluated' c' _ => m.Best links best' evaluated' ∧ m.Coherent c' ∧
        ∃ trial, evaluated' = evaluated ++ [trial])
      (m.Refuses links) := by
  have hplaced := always_drawTrial hlinks (h.placed best h.mem) s
  refine ends_trial hm hc rfl (fun value c' hvalue hc' => ?_) fun e he => ⟨_, hplaced, he⟩
  have hself := OrderedNumber.isNaN_eq_false_iff.1 (hnan _ _ hvalue)
  exact ⟨h.trial hplaced hvalue hself, hc', _, rfl⟩

/-- **A number of moves**, by induction: one layout more is evaluated by each of them. -/
theorem ends_moves (hm : m.HomesUnique) (hnan : m.NeverNaN) (hlinks : links ≠ []) (count : ℕ)
    {best : Layout α} {evaluated : List (Layout α)} (h : m.Best links best evaluated)
    {c : UtilityCache α} (hc : m.Coherent c) (s : Stream) :
    Ends (moves (recording (Search.score m)) links count best) evaluated c s
      (fun best' evaluated' _ _ => m.Best links best' evaluated' ∧
        ∃ trials, trials.length = count ∧ evaluated' = evaluated ++ trials)
      (m.Refuses links) := by
  induction count generalizing best evaluated c s with
  | zero => exact ends_pure ⟨h, [], rfl, (List.append_nil _).symm⟩
  | succ count ih =>
    refine ends_bind ((ends_move hm hnan hlinks h hc s).imp ?_)
    rintro best' _ c' s' ⟨hbest, hc', trial, rfl⟩
    refine (ih hbest hc' s').imp ?_
    rintro _ _ _ _ ⟨hbest, trials, rfl, rfl⟩
    exact ⟨hbest, trial :: trials, rfl, by rw [List.append_assoc, List.singleton_append]⟩

/-- **A whole search**, from a random layout. -/
theorem ends_recordedSearch (hm : m.HomesUnique) (hnan : m.NeverNaN) (hlinks : links ≠ [])
    (count : ℕ) {c : UtilityCache α} (hc : m.Coherent c) (s : Stream) :
    Ends (m.recordedSearch links count) [] c s
      (fun best evaluated _ _ => m.Best links best evaluated ∧
        ∃ first trials, evaluated = first :: trials ∧
          first.links = ((drawLayout links m.candidates.length).run s).1 ∧ trials.length = count)
      (m.Refuses links) := by
  have hplaced := always_drawLayout hlinks m.candidates.length s
  refine ends_draw (ends_recording hm hc (fun value c' hvalue hc' => ?_)
    fun e he => ⟨_, hplaced, he⟩)
  have hself := OrderedNumber.isNaN_eq_false_iff.1 (hnan _ _ hvalue)
  refine (ends_moves hm hnan hlinks count (.first hplaced hvalue hself) hc' _).imp ?_
  rintro best _ _ _ ⟨hbest, trials, hlength, rfl⟩
  exact ⟨hbest, _, trials, rfl, rfl, hlength⟩

end Best

/-- **A search returns the best of all layouts that it evaluates.** The model was built, and it may
have scored layouts before. A search that writes down what it evaluates is otherwise the same. If it
succeeds, it has evaluated a random layout and one more for every move. What it returns consists of
links of the list, one for every candidate, with the score that a fresh model gives. It is among the
layouts that were evaluated, and none of them has a higher score; nor has the first one. A search
fails only as a layout of these links does on a fresh model. -/
theorem localSearch_best [Number α] [OrderedNumber α] {settings : GravitySettings α}
    {network : Network α} {population : Population α} {facilities : Facilities α}
    {candidates : List FacilityId} {m : GravityModel α}
    (h : build settings network population facilities candidates = .ok m) {links : List LinkId}
    (hlinks : links ≠ []) (hnan : m.NeverNaN) (count : ℕ) (earlier : List (List LinkId))
    (s : Stream) :
    let cache := ((m.scoreAll earlier).run {}).2
    let outcome := ((m.localSearch links count).exec cache s).1.1
    Prod.fst <$> (m.recordedSearch links count).run [] = m.localSearch links count ∧
    (∀ best, outcome = .ok best →
      ∃ first trials,
        (((m.recordedSearch links count).run []).exec cache s).1.1 = .ok (best, first :: trials) ∧
        first.links = ((drawLayout links m.candidates.length).run s).1 ∧ trials.length = count ∧
        Placed links m.candidates.length best.links ∧
        m.freshScore best.links = .ok best.score ∧ best ∈ first :: trials ∧
        (∀ layout ∈ first :: trials, Placed links m.candidates.length layout.links ∧
          m.freshScore layout.links = .ok layout.score ∧ layout.score ≤ best.score) ∧
        first.score ≤ best.score) ∧
    ∀ e, outcome = .error e →
      ∃ layout, Placed links m.candidates.length layout ∧ m.freshScore layout = .error e := by
  intro cache outcome
  have hm : m.HomesUnique := homesUnique_of_buildWith h
  have hc : m.Coherent cache := by
    obtain ⟨c, hrun, hc⟩ := scoreAll_run hm earlier m.coherent_empty
    simpa only [cache, hrun] using hc
  have hrecorded : Prod.fst <$> (m.recordedSearch links count).run [] = m.localSearch links count :=
    run_climb_recording _ _ _ _ _
  have hends := ends_recordedSearch hm hnan hlinks count hc s
  have houtcome : outcome =
      (((m.recordedSearch links count).run []).exec cache s).1.1.map Prod.fst := by
    simp only [outcome, ← hrecorded, Search.exec_map]
  refine ⟨hrecorded, fun best hbest => ?_, fun e he => ?_⟩
  · obtain ⟨⟨_, _⟩, hrun, rfl⟩ := Except.map_eq_ok.1 (houtcome.symm.trans hbest)
    obtain ⟨-, -, hbest, first, trials, rfl, hfirst, hlength⟩ := hends.good hrun
    exact ⟨first, trials, hrun, hfirst, hlength, hbest.placed _ hbest.mem, hbest.fresh _ hbest.mem,
      hbest.mem, fun layout hlayout =>
        ⟨hbest.placed layout hlayout, hbest.fresh layout hlayout, hbest.le layout hlayout⟩,
      hbest.le first List.mem_cons_self⟩
  · exact hends.bad (Except.map_eq_error.1 (houtcome.symm.trans he))

/-- A search of two moves, of which the first is kept and the second one, back again, is not. -/
theorem exec_recordedSearch_of_trials [Number α] {m : GravityModel α} {links : List LinkId}
    {near far : Layout α} {c : UtilityCache α} {s : Stream} (hm : m.HomesUnique)
    (hc : m.Coherent c) (hnear : m.freshScore near.links = .ok near.score)
    (hfar : m.freshScore far.links = .ok far.score) (hlt : far.score < near.score)
    (hnot : ¬near.score < far.score)
    {first second third : Stream}
    (hfirst : (drawLayout links m.candidates.length).run s = (far.links, first))
    (hsecond : (drawTrial links far.links).run first = (near.links, second))
    (hthird : (drawTrial links near.links).run second = (far.links, third)) :
    (((m.recordedSearch links 2).run []).exec c s).1.1 = .ok (near, [far, near, far]) := by
  refine RecordedSearch.Ends.exec_eq_ok (RecordedSearch.ends_draw ?_)
  rw [hfirst]
  refine RecordedSearch.ends_recording hm hc (fun value c hvalue hc => ?_) fun e he => ?_
  · obtain rfl := Except.ok.inj (hfar.symm.trans hvalue)
    refine RecordedSearch.ends_bind
      (RecordedSearch.ends_trial_of_ok hm hc hsecond hnear fun c hc => ?_)
    rw [if_pos hlt]
    refine RecordedSearch.ends_bind
      (RecordedSearch.ends_trial_of_ok hm hc hthird hfar fun c hc => ?_)
    rw [if_neg hnot]
    exact RecordedSearch.ends_pure ⟨rfl, rfl⟩
  · cases hfar.symm.trans he

/-- Two moves in the village with two roads. The far one is drawn first; the first move is to the
near one and is kept, and the second move is back and is not. -/
theorem localSearch_best_village :
    let town := village 5 [⟨1⟩]
    let links : List LinkId := [⟨0⟩, ⟨1⟩]
    let near : Layout ℝ := { links := [⟨0⟩], score := 51 / 152 }
    let far : Layout ℝ := { links := [⟨1⟩], score := 1 / 3 }
    let s := Stream.ofSeed 13
    ∃ m : GravityModel ℝ,
      build town.settings twoRoads town.population town.facilities town.candidates = .ok m ∧
      m.NeverNaN ∧
      (((m.recordedSearch links 2).run []).exec ((m.scoreAll [[⟨0⟩]]).run {}).2 s).1.1 =
        .ok (near, [far, near, far]) ∧
      ((m.localSearch links 2).exec ((m.scoreAll [[⟨0⟩]]).run {}).2 s).1.1 = .ok near ∧
      m.freshScore near.links = .ok near.score ∧ m.freshScore far.links = .ok far.score ∧
      far.score < near.score ∧ ∀ layout ∈ [far, near, far], layout.score ≤ near.score := by
  intro town links near far s
  obtain ⟨m, h⟩ := exists_build_village 5 town.settings ⟨Nat.one_ne_zero, by decide⟩ rfl
    twoRoads (List.nodup_singleton (⟨1⟩ : FacilityId)) (by simp)
  have hm : m.HomesUnique := homesUnique_of_buildWith h
  have hnan : m.NeverNaN := fun _ score _ => Number.isNaN_real score
  have hlt : far.score < near.score := by
    show (1 / 3 : ℝ) < 51 / 152
    norm_num
  have hnear : m.freshScore near.links = .ok near.score := by
    rw [freshScore_eq hm, directScore_village h le_rfl midpoint?_twoRoads.1 (by norm_num)]
    norm_num [near]
  have hfar : m.freshScore far.links = .ok far.score := by
    rw [freshScore_eq hm, directScore_village h (by norm_num) midpoint?_twoRoads.2 (by norm_num)]
    norm_num [far]
  have hrun : (((m.recordedSearch links 2).run []).exec ((m.scoreAll [[⟨0⟩]]).run {}).2 s).1.1 =
      .ok (near, [far, near, far]) := by
    obtain ⟨c, hcache, hc⟩ := scoreAll_run hm [[⟨0⟩]] m.coherent_empty
    rw [hcache]
    have hcount : m.candidates.length = 1 := by
      rw [candidates_of_buildWith h, List.length_singleton]
    obtain ⟨first, hfirst, second, hsecond, third, hthird⟩ : ∃ first : Stream,
        (drawLayout links 1).run s = (far.links, first) ∧ ∃ second : Stream,
        (drawTrial links far.links).run first = (near.links, second) ∧ ∃ third : Stream,
        (drawTrial links near.links).run second = (far.links, third) :=
      ⟨_, Prod.fst_eq_iff.1 (by decide +kernel), _, Prod.fst_eq_iff.1 (by decide +kernel), _,
        Prod.fst_eq_iff.1 (by decide +kernel)⟩
    exact exec_recordedSearch_of_trials hm hc hnear hfar hlt hlt.le.not_gt (hcount ▸ hfirst)
      hsecond hthird
  obtain ⟨hrecorded, hok, -⟩ := localSearch_best h (List.cons_ne_nil _ _) hnan 2 [[⟨0⟩]] s
  have hsearch : ((m.localSearch links 2).exec ((m.scoreAll [[⟨0⟩]]).run {}).2 s).1.1 =
      .ok near := by
    rw [← hrecorded, Search.exec_map, hrun]
    rfl
  obtain ⟨first, trials, hrun', -, -, -, -, -, hle, -⟩ := hok near hsearch
  have hevaluated := (Prod.mk.inj (Except.ok.inj (hrun'.symm.trans hrun))).2
  exact ⟨m, h, hnan, hrun, hsearch, hnear, hfar, hlt, fun layout hlayout =>
    (hle layout (hevaluated ▸ hlayout)).2.2⟩

end SpatialAccess.GravityModel
