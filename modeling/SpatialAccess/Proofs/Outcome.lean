import Mathlib.Data.List.Forall2
import SpatialAccess.Call

/-!
# Computations that may fail

* `Except.bind_eq_ok`, `Except.bind_eq_error`: when a sequence of two steps succeeds or fails.
* `Except.mapM_eq_ok_iff`: a traversal succeeds where every step does, with the results in order.
* `Except.exists_of_mapM_eq_error`: a traversal fails as one of its steps does.
* `Except.foldlM_gains`: what a traversal makes known, if every step makes something known.
* `Except.Ends`: what holds of the result of a computation, or of its error, with one lemma per way to
  compose computations.
* `Option.foldlM_bind`: reading items between steps is reading all of them first.
* `Gathers`: steps that gather items. **`Gathers.foldlM`**: when a run of them succeeds, and with
  what.
* `ExceptT.exec_bind` and others: what a computation with a state gives and leaves, step by step.
  `ExceptT.Atomic`: a call that changes nothing when it is refused. `ExceptT.Ends`: what holds when a
  computation has succeeded or failed, and in which state. `ExceptT.exec?`: the run where only success
  counts, with one lemma per step.
-/

namespace Except

variable {ε ε' α β : Type}

theorem bind_eq_ok {x : Except ε α} {f : α → Except ε β} {b : β} :
    x >>= f = .ok b ↔ ∃ a, x = .ok a ∧ f a = .ok b := by
  cases x with
  | error e =>
    constructor
    · intro h
      cases h
    · rintro ⟨_, h, _⟩
      cases h
  | ok a =>
    constructor
    · intro h
      exact ⟨a, rfl, h⟩
    · rintro ⟨_, h, hf⟩
      cases h
      exact hf

theorem bind_eq_error {x : Except ε α} {f : α → Except ε β} {e : ε} :
    x >>= f = .error e ↔ x = .error e ∨ ∃ a, x = .ok a ∧ f a = .error e := by
  cases x with
  | error e' =>
    constructor
    · intro h
      cases h
      exact .inl rfl
    · rintro (h | ⟨_, h, _⟩) <;> cases h
      rfl
  | ok a =>
    constructor
    · intro h
      exact .inr ⟨a, rfl, h⟩
    · rintro (h | ⟨_, h, hf⟩) <;> cases h
      exact hf

theorem map_eq_ok {x : Except ε α} {f : α → β} {b : β} :
    x.map f = .ok b ↔ ∃ a, x = .ok a ∧ f a = b := by
  cases x <;> simp [Except.map]

theorem map_eq_error {x : Except ε α} {f : α → β} {e : ε} : x.map f = .error e ↔ x = .error e := by
  cases x <;> simp [Except.map]

theorem mapError_eq_ok {x : Except ε α} {f : ε → ε'} {a : α} :
    x.mapError f = .ok a ↔ x = .ok a := by
  cases x <;> simp [Except.mapError]

theorem mapError_eq_error {x : Except ε α} {f : ε → ε'} {e : ε'} :
    x.mapError f = .error e ↔ ∃ e', x = .error e' ∧ f e' = e := by
  cases x <;> simp [Except.mapError]

theorem toOption_eq_some_iff {x : Except ε α} {a : α} : x.toOption = some a ↔ x = .ok a := by
  cases x <;> simp [Except.toOption]

theorem toOption_bind (x : Except ε α) (f : α → Except ε β) :
    (x >>= f).toOption = x.toOption.bind fun a => (f a).toOption := by
  cases x <;> rfl

theorem toOption_mapError (x : Except ε α) (f : ε → ε') : (x.mapError f).toOption = x.toOption := by
  cases x <;> rfl

theorem mapError_bind (x : Except ε α) (f : α → Except ε β) (g : ε → ε') :
    (x >>= f).mapError g = x.mapError g >>= fun a => (f a).mapError g := by
  cases x <;> rfl

theorem mapError_foldlM (f : β → α → Except ε β) (g : ε → ε') (xs : List α) (b : β) :
    (xs.foldlM f b).mapError g = xs.foldlM (fun b x => (f b x).mapError g) b := by
  induction xs generalizing b with
  | nil => rfl
  | cons x xs ih =>
    rw [List.foldlM_cons, List.foldlM_cons, mapError_bind]
    exact congrArg (bind _) (funext ih)

theorem toOption_foldlM (f : β → α → Except ε β) (xs : List α) (b : β) :
    (xs.foldlM f b).toOption = xs.foldlM (fun b x => (f b x).toOption) b := by
  induction xs generalizing b with
  | nil => rfl
  | cons x xs ih =>
    rw [List.foldlM_cons, List.foldlM_cons, toOption_bind]
    exact congrArg (Option.bind (f b x).toOption) (funext ih)

/-- A traversal with a state keeps what every step keeps. -/
theorem foldlM_keeps {P : β → Prop} {f : β → α → Except ε β}
    (hf : ∀ b x b', P b → f b x = .ok b' → P b') {xs : List α} {b b' : β}
    (h : xs.foldlM f b = .ok b') (hb : P b) : P b' := by
  induction xs generalizing b with
  | nil =>
    cases h
    exact hb
  | cons x xs ih =>
    obtain ⟨b₁, hb₁, h⟩ := bind_eq_ok.1 h
    exact ih h (hf b x b₁ hb hb₁)

/-- Computations come to the same if both fail, or both succeed with results that agree. -/
theorem toOption_map_congr {γ : Type} {x : Except ε α} {x' : Except ε' β} {f : α → γ} {f' : β → γ}
    (hsucceeds : (∃ b, x' = .ok b) ↔ ∃ a, x = .ok a)
    (hresults : ∀ a b, x = .ok a → x' = .ok b → f' b = f a) :
    x'.toOption.map f' = x.toOption.map f := by
  cases x with
  | ok a =>
    obtain ⟨b, rfl⟩ := hsucceeds.2 ⟨a, rfl⟩
    exact congrArg some (hresults a b rfl rfl)
  | error e =>
    cases x' with
    | ok b =>
      obtain ⟨a, ha⟩ := hsucceeds.1 ⟨b, rfl⟩
      cases ha
    | error e' => rfl

theorem mapM_eq_ok_iff {f : α → Except ε β} {xs : List α} {ys : List β} :
    xs.mapM f = .ok ys ↔ List.Forall₂ (fun x y => f x = .ok y) xs ys := by
  induction xs generalizing ys with
  | nil =>
    rw [List.mapM_nil, List.forall₂_nil_left_iff]
    constructor
    · intro h
      cases h
      rfl
    · rintro rfl
      rfl
  | cons x xs ih =>
    rw [List.mapM_cons, bind_eq_ok, List.forall₂_cons_left_iff]
    constructor
    · rintro ⟨y, hy, h⟩
      obtain ⟨rest, hrest, h⟩ := bind_eq_ok.1 h
      cases h
      exact ⟨y, rest, hy, ih.1 hrest, rfl⟩
    · rintro ⟨y, rest, hy, hrest, rfl⟩
      exact ⟨y, hy, bind_eq_ok.2 ⟨rest, ih.2 hrest, rfl⟩⟩

theorem length_of_mapM_eq_ok {f : α → Except ε β} {xs : List α} {ys : List β}
    (h : xs.mapM f = .ok ys) : ys.length = xs.length :=
  (mapM_eq_ok_iff.1 h).length_eq.symm

/-- What the steps of a traversal keep of their items is kept of all of them. -/
theorem map_of_mapM_eq_ok {γ : Type} {f : α → Except ε β} {g : α → γ} {g' : β → γ} {xs : List α}
    {ys : List β} (h : xs.mapM f = .ok ys) (hf : ∀ x y, f x = .ok y → g' y = g x) :
    ys.map g' = xs.map g := by
  rw [mapM_eq_ok_iff] at h
  induction h with
  | nil => rfl
  | cons hxy _ ih => rw [List.map_cons, List.map_cons, hf _ _ hxy, ih]

theorem getElem?_of_mapM_eq_ok {f : α → Except ε β} {xs : List α} {ys : List β}
    (h : xs.mapM f = .ok ys) {i : Nat} {x : α} (hx : xs[i]? = some x) :
    ∃ y, ys[i]? = some y ∧ f x = .ok y := by
  obtain ⟨hlength, hget⟩ := List.forall₂_iff_get.1 (mapM_eq_ok_iff.1 h)
  obtain ⟨hi, rfl⟩ := List.getElem?_eq_some_iff.1 hx
  exact ⟨_, List.getElem?_eq_getElem (hlength ▸ hi), hget i hi _⟩

theorem exists_of_getElem?_mapM {f : α → Except ε β} {xs : List α} {ys : List β}
    (h : xs.mapM f = .ok ys) {i : Nat} {y : β} (hy : ys[i]? = some y) :
    ∃ x, xs[i]? = some x ∧ f x = .ok y := by
  obtain ⟨hlength, hget⟩ := List.forall₂_iff_get.1 (mapM_eq_ok_iff.1 h)
  obtain ⟨hi, rfl⟩ := List.getElem?_eq_some_iff.1 hy
  exact ⟨_, List.getElem?_eq_getElem (hlength ▸ hi), hget i _ hi⟩

theorem exists_of_mapM_eq_ok {f : α → Except ε β} {xs : List α} {ys : List β}
    (h : xs.mapM f = .ok ys) {x : α} (hx : x ∈ xs) : ∃ y ∈ ys, f x = .ok y := by
  obtain ⟨i, hi⟩ := List.mem_iff_getElem?.1 hx
  obtain ⟨y, hy, hfx⟩ := getElem?_of_mapM_eq_ok h hi
  exact ⟨y, List.mem_of_getElem? hy, hfx⟩

theorem exists_of_mem_mapM {f : α → Except ε β} {xs : List α} {ys : List β}
    (h : xs.mapM f = .ok ys) {y : β} (hy : y ∈ ys) : ∃ x ∈ xs, f x = .ok y := by
  obtain ⟨i, hi⟩ := List.mem_iff_getElem?.1 hy
  obtain ⟨x, hx, hfx⟩ := exists_of_getElem?_mapM h hi
  exact ⟨x, List.mem_of_getElem? hx, hfx⟩

/-- A traversal whose steps succeed under a condition each, with known results. -/
theorem mapM_eq_ok_iff_map {f : α → Except ε β} {P : α → Prop} {g : α → β} {xs : List α}
    (h : ∀ x ∈ xs, ∀ y, f x = .ok y ↔ P x ∧ y = g x) {ys : List β} :
    xs.mapM f = .ok ys ↔ (∀ x ∈ xs, P x) ∧ ys = xs.map g := by
  induction xs generalizing ys with
  | nil => simp [pure, Except.pure, eq_comm]
  | cons x xs ih =>
    have ih' : ∀ {ys : List β}, List.Forall₂ (fun x y => f x = .ok y) xs ys ↔
        (∀ x' ∈ xs, P x') ∧ ys = xs.map g :=
      mapM_eq_ok_iff.symm.trans (ih fun x' hx' => h x' (List.mem_cons_of_mem x hx'))
    rw [mapM_eq_ok_iff, List.forall₂_cons_left_iff]
    simp only [h x List.mem_cons_self, ih', List.forall_mem_cons, List.map_cons]
    constructor
    · rintro ⟨_, _, ⟨hx, rfl⟩, ⟨hxs, rfl⟩, rfl⟩
      exact ⟨⟨hx, hxs⟩, rfl⟩
    · rintro ⟨⟨hx, hxs⟩, rfl⟩
      exact ⟨_, _, ⟨hx, rfl⟩, ⟨hxs, rfl⟩, rfl⟩

/-- What a traversal that succeeds pairs up are its items and what comes of them. -/
theorem mem_zip_iff_of_mapM {f : α → Except ε β} {xs : List α} {ys : List β}
    (h : xs.mapM f = .ok ys) {x : α} {y : β} : (x, y) ∈ xs.zip ys ↔ x ∈ xs ∧ f x = .ok y := by
  rw [mapM_eq_ok_iff] at h
  induction h with
  | nil => simp
  | cons hxy _ ih =>
    rw [List.zip_cons_cons, List.mem_cons, ih, List.mem_cons, Prod.mk.injEq]
    constructor
    · rintro (⟨rfl, rfl⟩ | ⟨hx, hy⟩)
      · exact ⟨.inl rfl, hxy⟩
      · exact ⟨.inr hx, hy⟩
    · rintro ⟨rfl | hx, hy⟩
      · exact .inl ⟨rfl, Except.ok.inj (hy.symm.trans hxy)⟩
      · exact .inr ⟨hx, hy⟩

/-- A traversal with a state in which every step makes some more facts known. -/
theorem foldlM_gains {σ γ : Type} (Inv : σ → Prop) (Known : σ → γ → Prop) (New : α → γ → Prop)
    {f : σ → α → Except ε σ}
    (hf : ∀ s x s', Inv s → f s x = .ok s' → Inv s' ∧ ∀ c, Known s' c ↔ New x c ∨ Known s c)
    {xs : List α} {s s' : σ} (hs : Inv s) (h : xs.foldlM f s = .ok s') :
    Inv s' ∧ ∀ c, Known s' c ↔ (∃ x ∈ xs, New x c) ∨ Known s c := by
  induction xs generalizing s with
  | nil =>
    cases h
    exact ⟨hs, fun c => by simp⟩
  | cons x xs ih =>
    obtain ⟨s₁, hs₁, h⟩ := bind_eq_ok.1 h
    obtain ⟨hinv, hfirst⟩ := hf s x s₁ hs hs₁
    obtain ⟨hinv', hrest⟩ := ih hinv h
    refine ⟨hinv', fun c => ?_⟩
    rw [hrest, hfirst, List.exists_mem_cons_iff, or_left_comm, or_assoc]

theorem mapM_congr {f g : α → Except ε β} {xs : List α} (h : ∀ x ∈ xs, f x = g x) :
    xs.mapM f = xs.mapM g := by
  induction xs with
  | nil => rfl
  | cons x xs ih =>
    rw [List.mapM_cons, List.mapM_cons, h x List.mem_cons_self,
      ih fun y hy => h y (List.mem_cons_of_mem x hy)]

theorem mapM_flatten {f : α → Except ε β} (xss : List (List α)) :
    xss.flatten.mapM f = (do return (← xss.mapM fun xs => xs.mapM f).flatten) := by
  induction xss with
  | nil => rfl
  | cons xs xss ih => simp [ih]

/-- A traversal fails at the first step that does. -/
theorem exists_first_of_mapM_eq_error {f : α → Except ε β} {xs : List α} {e : ε}
    (h : xs.mapM f = .error e) :
    ∃ before x after, xs = before ++ x :: after ∧ (∀ x' ∈ before, ∃ y, f x' = .ok y) ∧
      f x = .error e := by
  induction xs with
  | nil => cases h
  | cons x xs ih =>
    rw [List.mapM_cons, bind_eq_error] at h
    obtain h | ⟨y, hy, h⟩ := h
    · exact ⟨[], x, xs, rfl, List.forall_mem_nil _, h⟩
    · obtain h | ⟨rest, -, h⟩ := bind_eq_error.1 h
      · obtain ⟨before, x', after, rfl, hbefore, hx'⟩ := ih h
        exact ⟨x :: before, x', after, rfl, List.forall_mem_cons.2 ⟨⟨y, hy⟩, hbefore⟩, hx'⟩
      · cases h

theorem exists_of_mapM_eq_error {f : α → Except ε β} {xs : List α} {e : ε}
    (h : xs.mapM f = .error e) : ∃ x ∈ xs, f x = .error e := by
  obtain ⟨before, x, after, rfl, -, hx⟩ := exists_first_of_mapM_eq_error h
  exact ⟨x, List.mem_append_right before List.mem_cons_self, hx⟩

theorem exists_mapM_eq_ok_iff {f : α → Except ε β} {xs : List α} :
    (∃ ys, xs.mapM f = .ok ys) ↔ ∀ x ∈ xs, ∃ y, f x = .ok y := by
  constructor
  · rintro ⟨ys, h⟩ x hx
    obtain ⟨y, -, hy⟩ := exists_of_mapM_eq_ok h hx
    exact ⟨y, hy⟩
  · intro h
    cases hys : xs.mapM f with
    | ok ys => exact ⟨ys, rfl⟩
    | error e =>
      obtain ⟨x, hx, he⟩ := exists_of_mapM_eq_error hys
      obtain ⟨y, hy⟩ := h x hx
      rw [he] at hy
      cases hy

theorem mapM_eq_error {f : α → Except ε β} {before after : List α} {x : α} {e : ε}
    (hbefore : ∀ x' ∈ before, ∃ y, f x' = .ok y) (hx : f x = .error e) :
    (before ++ x :: after).mapM f = .error e := by
  obtain ⟨ys, hys⟩ := exists_mapM_eq_ok_iff.2 hbefore
  rw [List.mapM_append, hys, List.mapM_cons, hx]
  rfl

/-! ## Results and errors -/

/-- A computation ends as asked for: its result is `Good` if it succeeds, and its error is `Bad` if it
fails. -/
inductive Ends (Good : α → Prop) (Bad : ε → Prop) : Except ε α → Prop where
  | ok {a : α} : Good a → Ends Good Bad (.ok a)
  | error {e : ε} : Bad e → Ends Good Bad (.error e)

section Ends

variable {Good : β → Prop} {Bad : ε → Prop} {P : α → Prop}

theorem Ends.good {b : β} (h : (.ok b : Except ε β).Ends Good Bad) : Good b := by
  cases h
  assumption

theorem Ends.bad {e : ε} (h : (.error e : Except ε β).Ends Good Bad) : Bad e := by
  cases h
  assumption

/-- A check that a condition holds. -/
theorem ends_ite {c : Prop} [Decidable c] {b : β} {e : ε} (hb : c → Good b) (he : Bad e) :
    (if c then .ok b else .error e : Except ε β).Ends Good Bad := by
  split
  · next h => exact .ok (hb h)
  · exact .error he

theorem Ends.bind {x : Except ε α} {f : α → Except ε β} (hx : x.Ends P Bad)
    (hf : ∀ a, P a → (f a).Ends Good Bad) : (x >>= f).Ends Good Bad := by
  cases hx with
  | ok ha => exact hf _ ha
  | error he => exact .error he

theorem Ends.imp {x : Except ε β} {Good' : β → Prop} {Bad' : ε → Prop} (hx : x.Ends Good Bad)
    (h : ∀ b, Good b → Good' b) (h' : ∀ e, Bad e → Bad' e) : x.Ends Good' Bad' := by
  cases hx with
  | ok hb => exact .ok (h _ hb)
  | error he => exact .error (h' _ he)

/-- Whatever is known to end somehow may be asked for its result. -/
theorem Ends.eq_ok {x : Except ε β} (hx : x.Ends Good Bad) : x.Ends (fun b => x = .ok b) Bad := by
  cases hx with
  | ok hb => exact .ok rfl
  | error he => exact .error he

theorem Ends.mapError {x : Except ε' β} {f : ε' → ε} {Bad' : ε' → Prop} (hx : x.Ends Good Bad')
    (h : ∀ e, Bad' e → Bad (f e)) : (x.mapError f).Ends Good Bad := by
  cases hx with
  | ok hb => exact .ok hb
  | error he => exact .error (h _ he)

theorem ends_mapM {f : α → Except ε β} {xs : List α} (h : ∀ x ∈ xs, (f x).Ends Good Bad) :
    (xs.mapM f).Ends (fun ys => ∀ y ∈ ys, Good y) Bad := by
  induction xs with
  | nil => exact .ok (List.forall_mem_nil _)
  | cons x xs ih =>
    rw [List.mapM_cons]
    refine (h x List.mem_cons_self).bind fun y hy => ?_
    refine (ih fun x' hx' => h x' (List.mem_cons_of_mem x hx')).bind fun ys hys => ?_
    exact .ok (List.forall_mem_cons.2 ⟨hy, hys⟩)

theorem ends_mapM_option {f : α → Except ε β} {o : Option α} (h : ∀ a ∈ o, (f a).Ends Good Bad) :
    (o.mapM f).Ends (fun o' => ∀ b ∈ o', Good b) Bad := by
  cases o with
  | none => exact .ok fun b hb => nomatch hb
  | some a =>
    refine (h a rfl).bind fun b hb => .ok fun b' hb' => ?_
    cases hb'
    exact hb

theorem ends_foldlM {f : β → α → Except ε β} {xs : List α}
    (hf : ∀ b x, Good b → (f b x).Ends Good Bad) {b : β} (hb : Good b) :
    (xs.foldlM f b).Ends Good Bad := by
  induction xs generalizing b with
  | nil => exact .ok hb
  | cons x xs ih =>
    rw [List.foldlM_cons]
    exact (hf b x hb).bind fun b' hb' => ih hb'

end Ends

end Except

/-- A traversal by look-ups that all find something. -/
theorem Option.mapM_eq_some_map {α β : Type} {f : α → Option β} {g : α → β} {xs : List α}
    (h : ∀ x ∈ xs, f x = some (g x)) : xs.mapM f = some (xs.map g) := by
  induction xs with
  | nil => rfl
  | cons x xs ih =>
    rw [List.mapM_cons, h x List.mem_cons_self, ih fun y hy => h y (List.mem_cons_of_mem x hy)]
    rfl

/-! ## Gathering -/

/-- Items that are read one by one, each right before its step, might as well be read at once. -/
theorem Option.foldlM_bind {σ ι ι' : Type} (read : ι → Option ι') (step : σ → ι' → Option σ)
    (xs : List ι) (s : σ) :
    xs.foldlM (fun s x => (read x).bind (step s)) s =
      (xs.mapM read).bind fun ys => ys.foldlM step s := by
  induction xs generalizing s with
  | nil => rfl
  | cons x xs ih =>
    rw [List.foldlM_cons, List.mapM_cons]
    cases read x with
    | none => rfl
    | some y =>
      cases hys : xs.mapM read with
      | none =>
        -- the step may succeed, but what is left cannot be read
        have hrest : ∀ s', xs.foldlM (fun s x => (read x).bind (step s)) s' = none := by
          intro s'
          rw [ih, hys]
          rfl
        show (step s y).bind _ = none
        simp only [hrest, Option.bind_fun_none]
      | some ys =>
        show (step s y).bind _ = (step s y).bind _
        refine congrArg _ (funext fun s' => ?_)
        rw [ih, hys]
        rfl

/-- Steps that gather items: as long as the items are allowed together there is a next state, and it
holds the new item behind the others. -/
structure Gathers {σ ι : Type} (step : σ → ι → Option σ) (Holds : σ → List ι → Prop)
    (Allowed : List ι → Prop) : Prop where
  allowed : ∀ {s items}, Holds s items → Allowed items
  of_append : ∀ {items items'}, Allowed (items ++ items') → Allowed items
  exists_iff : ∀ {s items} i, Holds s items → ((∃ s', step s i = some s') ↔ Allowed (items ++ [i]))
  holds : ∀ {s items i s'}, Holds s items → step s i = some s' → Holds s' (items ++ [i])

/-- **Gathering items one after the other** succeeds just if all of them are allowed together. -/
theorem Gathers.foldlM {σ ι : Type} {step : σ → ι → Option σ} {Holds : σ → List ι → Prop}
    {Allowed : List ι → Prop} (h : Gathers step Holds Allowed) {s : σ} {items : List ι}
    (hs : Holds s items) (items' : List ι) :
    ((∃ s', items'.foldlM step s = some s') ↔ Allowed (items ++ items')) ∧
      ∀ s', items'.foldlM step s = some s' → Holds s' (items ++ items') := by
  -- over what is still to come: what was gathered grows at its end with every step
  induction items' generalizing s items with
  | nil =>
    rw [List.append_nil]
    refine ⟨⟨fun _ => h.allowed hs, fun _ => ⟨s, rfl⟩⟩, fun s' hs' => ?_⟩
    cases hs'
    exact hs
  | cons i items' ih =>
    rw [List.append_cons, List.foldlM_cons]
    have hiff := h.exists_iff i hs
    cases hstep : step s i with
    | none =>
      rw [hstep] at hiff
      refine ⟨⟨?_, fun hallowed => ?_⟩, ?_⟩
      · rintro ⟨_, hnone⟩
        cases hnone
      · obtain ⟨_, hnone⟩ := hiff.2 (h.of_append hallowed)
        cases hnone
      · intro _ hnone
        cases hnone
    | some s₁ => exact ih (h.holds hs hstep)

/-! ## Computations with a state -/

namespace ExceptT

variable {ε σ β γ : Type}

@[simp] theorem exec_pure (b : β) (s : σ) :
    exec (pure b : ExceptT ε (StateM σ) β) s = (.ok b, s) := rfl

@[simp] theorem exec_throw (e : ε) (s : σ) :
    exec (throw e : ExceptT ε (StateM σ) β) s = (.error e, s) := rfl

@[simp] theorem exec_get (s : σ) : exec (get : ExceptT ε (StateM σ) σ) s = (.ok s, s) := rfl

@[simp] theorem exec_modify (f : σ → σ) (s : σ) :
    exec (modify f : ExceptT ε (StateM σ) PUnit) s = (.ok ⟨⟩, f s) := rfl

@[simp] theorem exec_ofExcept (x : Except ε β) (s : σ) :
    exec (ofExcept x : ExceptT ε (StateM σ) β) s = (x, s) := by
  cases x <;> rfl

theorem exec_bind (x : ExceptT ε (StateM σ) β) (f : β → ExceptT ε (StateM σ) γ) (s : σ) :
    exec (x >>= f) s =
      match exec x s with
      | (.ok a, s') => exec (f a) s'
      | (.error e, s') => (.error e, s') := by
  rcases h : exec x s with ⟨e | a, s'⟩ <;>
  · simp only [exec] at h
    simp only [exec, ExceptT.run_bind, StateT.run_bind, h]
    rfl

theorem exec_get_bind (f : σ → ExceptT ε (StateM σ) γ) (s : σ) :
    exec (get >>= f) s = exec (f s) s :=
  rfl

theorem exec_map (f : β → γ) (x : ExceptT ε (StateM σ) β) (s : σ) :
    exec (f <$> x) s = ((exec x s).1.map f, (exec x s).2) := by
  rw [map_eq_pure_bind, exec_bind]
  rcases exec x s with ⟨_ | _, _⟩ <;> rfl

theorem exec_forM_cons (f : β → ExceptT ε (StateM σ) PUnit) (b : β) (bs : List β) (s : σ) :
    exec ((b :: bs).forM f) s =
      match exec (f b) s with
      | (.ok _, s') => exec (bs.forM f) s'
      | (.error e, s') => (.error e, s') := by
  rw [List.forM_eq_forM, List.forM_cons, exec_bind]
  rcases exec (f b) s with ⟨_ | _, _⟩ <;> rfl

theorem exec_discard (x : ExceptT ε (StateM σ) β) (s : σ) :
    exec (Functor.discard x) s = ((exec x s).1.map fun _ => ⟨⟩, (exec x s).2) :=
  exec_map (fun _ => PUnit.unit) x s

theorem exec_discard_eq_ok_iff {x : ExceptT ε (StateM σ) β} {s s' : σ} :
    exec (Functor.discard x) s = (.ok ⟨⟩, s') ↔ ∃ b, exec x s = (.ok b, s') := by
  rw [exec_discard]
  rcases exec x s with ⟨_ | _, _⟩ <;> simp [Except.map]

theorem exec_onPart {τ : Type} (part : σ → τ) (put : σ → τ → σ) (x : ExceptT ε (StateM τ) β)
    (s : σ) : exec (onPart part put x) s = ((exec x (part s)).1, put s (exec x (part s)).2) :=
  rfl

theorem exec_onPart_eq_ok_iff {τ : Type} {part : σ → τ} {put : σ → τ → σ}
    {x : ExceptT ε (StateM τ) β} {s s' : σ} {b : β} :
    exec (onPart part put x) s = (.ok b, s') ↔
      ∃ t, exec x (part s) = (.ok b, t) ∧ put s t = s' := by
  rw [exec_onPart]
  rcases exec x (part s) with ⟨_ | _, _⟩ <;> simp

theorem attempt_eq_ok_iff {x : ExceptT ε (StateM σ) β} {s s' : σ} {b : β} :
    attempt x s = .ok (b, s') ↔ exec x s = (.ok b, s') := by
  unfold attempt
  split <;> simp_all

theorem attempt_eq_error_iff {x : ExceptT ε (StateM σ) β} {s : σ} {e : ε} :
    attempt x s = .error e ↔ (exec x s).1 = .error e := by
  unfold attempt
  split <;> simp_all

theorem leave_eq_ok_iff {x : ExceptT ε (StateM σ) PUnit} {s s' : σ} :
    leave x s = .ok s' ↔ exec x s = (.ok ⟨⟩, s') := by
  rw [leave, Except.map_eq_ok]
  constructor
  · rintro ⟨⟨_, _⟩, h, rfl⟩
    exact attempt_eq_ok_iff.1 h
  · exact fun h => ⟨_, attempt_eq_ok_iff.2 h, rfl⟩

/-- A call that changes nothing when it is refused. -/
def Atomic (x : ExceptT ε (StateM σ) β) : Prop :=
  ∀ s e, (exec x s).1 = .error e → (exec x s).2 = s

theorem Atomic.onPart {τ : Type} {part : σ → τ} {put : σ → τ → σ} {x : ExceptT ε (StateM τ) β}
    (h : x.Atomic) (hput : ∀ s, put s (part s) = s) : (onPart part put x).Atomic := by
  intro s e he
  rw [exec_onPart, h (part s) e he, hput]

theorem Atomic.discard {x : ExceptT ε (StateM σ) β} (h : x.Atomic) :
    (Functor.discard x).Atomic := by
  intro s e he
  rw [exec_discard] at he ⊢
  exact h s e (Except.map_eq_error.1 he)

theorem atomic_modify {f : σ → σ} : (modify f : ExceptT ε (StateM σ) PUnit).Atomic := by
  intro s e he
  cases he

/-- A computation ends as asked for: what it gives and the state it leaves are `Good` if it
succeeds, and its error and the state it leaves are `Bad` if it fails. -/
def Ends (x : ExceptT ε (StateM σ) β) (s : σ) (Good : β → σ → Prop) (Bad : ε → σ → Prop) : Prop :=
  match exec x s with
  | (.ok b, s') => Good b s'
  | (.error e, s') => Bad e s'

section Ends

variable {Good : γ → σ → Prop} {Bad : ε → σ → Prop} {s : σ}

theorem ends_bind {x : ExceptT ε (StateM σ) β} {f : β → ExceptT ε (StateM σ) γ}
    (h : Ends x s (fun b s' => Ends (f b) s' Good Bad) Bad) : Ends (x >>= f) s Good Bad := by
  unfold Ends at h ⊢
  rw [exec_bind]
  rcases hx : exec x s with ⟨e | b, s'⟩ <;>
  · rw [hx] at h
    exact h

theorem ends_ofExcept_bind {x : Except ε β} {f : β → ExceptT ε (StateM σ) γ}
    (hok : ∀ b, x = .ok b → Ends (f b) s Good Bad) (herror : ∀ e, x = .error e → Bad e s) :
    Ends (ofExcept x >>= f) s Good Bad := by
  apply ends_bind
  cases x with
  | ok b => exact hok b rfl
  | error e => exact herror e rfl

theorem ends_get_bind {f : σ → ExceptT ε (StateM σ) γ} (h : Ends (f s) s Good Bad) :
    Ends (get >>= f) s Good Bad :=
  ends_bind h

theorem Ends.good {x : ExceptT ε (StateM σ) γ} (h : Ends x s Good Bad) {b : γ} {s' : σ}
    (hx : exec x s = (.ok b, s')) : Good b s' := by
  unfold Ends at h
  rwa [hx] at h

theorem Ends.bad {x : ExceptT ε (StateM σ) γ} (h : Ends x s Good Bad) {e : ε} {s' : σ}
    (hx : exec x s = (.error e, s')) : Bad e s' := by
  unfold Ends at h
  rwa [hx] at h

/-- A run of steps fails as one of its steps does. -/
theorem ends_forM {f : β → ExceptT ε (StateM σ) PUnit} {xs : List β}
    (hf : ∀ x ∈ xs, ∀ s, Ends (f x) s (fun _ _ => True) Bad) (s : σ) :
    Ends (xs.forM f) s (fun _ _ => True) Bad := by
  induction xs generalizing s with
  | nil => exact trivial
  | cons x xs ih =>
    rw [List.forM_eq_forM, List.forM_cons]
    apply ends_bind
    have hx := hf x List.mem_cons_self s
    unfold Ends at hx ⊢
    rcases hres : exec (f x) s with ⟨e | _, s'⟩
    · rwa [hres] at hx
    · exact ih (fun x' hx' => hf x' (List.mem_cons_of_mem x hx')) s'

end Ends

/-- What a computation gives and the state that it leaves, if it succeeds. -/
def exec? (x : ExceptT ε (StateM σ) β) (s : σ) : Option (β × σ) :=
  match exec x s with
  | (.ok b, s') => some (b, s')
  | (.error _, _) => none

theorem exec?_eq_some_iff {x : ExceptT ε (StateM σ) β} {s s' : σ} {b : β} :
    exec? x s = some (b, s') ↔ exec x s = (.ok b, s') := by
  unfold exec?
  split <;> simp_all

theorem exec?_bind (x : ExceptT ε (StateM σ) β) (f : β → ExceptT ε (StateM σ) γ) (s : σ) :
    exec? (x >>= f) s = (exec? x s).bind fun p => exec? (f p.1) p.2 := by
  unfold exec?
  rw [exec_bind]
  rcases exec x s with ⟨_ | _, _⟩ <;> rfl

theorem exec?_get (s : σ) : exec? (get : ExceptT ε (StateM σ) σ) s = some (s, s) := rfl

theorem exec?_set (s s' : σ) :
    exec? (set s' : ExceptT ε (StateM σ) PUnit) s = some (⟨⟩, s') := rfl

theorem exec?_modify (f : σ → σ) (s : σ) :
    exec? (modify f : ExceptT ε (StateM σ) PUnit) s = some (⟨⟩, f s) := rfl

theorem exec?_ofExcept (x : Except ε β) (s : σ) :
    exec? (ofExcept x : ExceptT ε (StateM σ) β) s = x.toOption.map fun b => (b, s) := by
  cases x <;> rfl

/-- A run of steps goes from state to state, as long as they succeed. -/
theorem exec?_forM (f : β → ExceptT ε (StateM σ) PUnit) (xs : List β) (s : σ) :
    exec? (xs.forM f) s =
      (xs.foldlM (fun s x => (exec? (f x) s).map Prod.snd) s).map fun s' => (⟨⟩, s') := by
  induction xs generalizing s with
  | nil => rfl
  | cons x xs ih =>
    rw [List.forM_eq_forM, List.forM_cons, exec?_bind, List.foldlM_cons]
    cases exec? (f x) s with
    | none => rfl
    | some p => exact ih p.2

/-- A run of steps, each of which succeeds under a condition that does not depend on the state. -/
theorem exec?_forM_ite {f : β → ExceptT ε (StateM σ) PUnit} {P : β → Prop} [DecidablePred P]
    {next : σ → β → σ} (hf : ∀ x s, exec? (f x) s = if P x then some (⟨⟩, next s x) else none)
    (xs : List β) (s : σ) :
    exec? (xs.forM f) s = if ∀ x ∈ xs, P x then some (⟨⟩, xs.foldl next s) else none := by
  induction xs generalizing s with
  | nil => rfl
  | cons x xs ih =>
    rw [List.forM_eq_forM, List.forM_cons, exec?_bind, hf]
    simp only [List.forall_mem_cons, List.foldl_cons]
    by_cases hx : P x
    · simpa [hx] using ih (next s x)
    · simp [hx]

end ExceptT
