import SpatialAccess.Proofs.Outcome
import SpatialAccess.Proofs.Text.Digits
import SpatialAccess.Settings.Document

/-!
# Lists in settings

A list of a document becomes one text with commas between the items, and is read back from it.

* `Text.Solid`: characters that are neither commas nor blanks; a text of such is an item.
* `Decimal.isItem_display`: so are the texts of doubles.
* `Toml.Value.IsScalar`: texts, integers, doubles and truth values.
  `Toml.Value.isItem_of_scalarText?`: only texts may be no items.
* **`Settings.Group.items_joined`**: when a list is read back as it was, and that any list is read
  back as it was read once.
-/

namespace SpatialAccess

/-! ## Texts of numbers -/

/-- Characters that are neither commas nor blanks. -/
def Text.Solid (cs : List Char) : Prop :=
  ∀ c ∈ cs, c ≠ ',' ∧ isBlank c = false

namespace Text.Solid

-- by the characters of the list, not by all there are
instance (cs : List Char) : Decidable (Solid cs) :=
  List.decidableBAll (fun c => c ≠ ',' ∧ isBlank c = false) cs

variable {cs ds : List Char}

theorem append (hcs : Solid cs) (hds : Solid ds) : Solid (cs ++ ds) :=
  List.forall_mem_append.2 ⟨hcs, hds⟩

theorem mono (hds : Solid ds) (h : cs ⊆ ds) : Solid cs := fun c hc => hds c (h hc)

theorem of_forall_isDigit (h : ∀ c ∈ cs, c.isDigit = true) : Solid cs := fun c hc =>
  ⟨fun hcomma => by simpa [hcomma] using h c hc, isBlank_of_isDigit (h c hc)⟩

theorem isItem {s : String} (h : Solid s.toList) (hne : s ≠ "") : IsItem s where
  ne_empty := hne
  notMem_comma hcomma := (h _ hcomma).1 rfl
  tight := .of_forall fun c hc => (h c hc).2

theorem toString_nat (n : ℕ) : Solid (toString n).toList := by
  rw [Nat.toString_eq_repr, Nat.toList_repr]
  exact of_forall_isDigit (Digits.toDigits n).isDigit

end Text.Solid

theorem Nat.toString_ne_empty (n : ℕ) : toString n ≠ "" := by
  rw [Nat.toString_eq_repr, ← String.toList_inj.ne, Nat.toList_repr]
  exact (Digits.toDigits n).ne_nil

theorem Text.isItem_toString (n : ℤ) : IsItem (toString n) := by
  cases n with
  | ofNat n => exact Solid.isItem (.toString_nat n) (Nat.toString_ne_empty n)
  | negSucc n =>
    have htext : toString (Int.negSucc n) = "-" ++ toString (n + 1) := rfl
    rw [htext]
    refine Solid.isItem ?_ (by simp)
    rw [String.toList_append]
    exact Solid.append (by decide) (.toString_nat _)

namespace Decimal

open Text

theorem solid_sign (negative : Bool) : Solid (sign negative).toList := by
  cases negative <;> decide

theorem solid_padded (width n : ℕ) : Solid (padded width n).toList := by
  rw [padded, String.toList_ofList]
  refine Solid.append ?_ (.of_forall_isDigit (Digits.toDigits n).isDigit)
  intro c hc
  rw [List.eq_of_mem_replicate hc]
  decide

theorem trimZeros_subset (ds : List Char) : trimZeros ds ⊆ ds := fun _ hc =>
  List.mem_reverse.1 ((List.dropWhile_suffix _).subset (List.mem_reverse.1 hc))

theorem solid_positional (digits : ℕ) (power : ℤ) : Solid (positional digits power).toList := by
  simp only [positional]
  split
  · exact .toString_nat _
  · split
    · exact .toString_nat _
    · have hpoint : Solid ".".toList := by decide
      simp only [String.toList_append, String.toList_ofList]
      exact ((Solid.toString_nat _).append hpoint).append
        ((solid_padded _ _).mono (trimZeros_subset _))

theorem positional_ne_empty (digits : ℕ) (power : ℤ) : positional digits power ≠ "" := by
  simp only [positional]
  split
  · exact Nat.toString_ne_empty _
  · split
    · exact Nat.toString_ne_empty _
    · simp

/-- The text of a double can stand in a list. -/
theorem isItem_display (x : Float) : IsItem (display x) := by
  have hsigned : ∀ (negative : Bool) {s : String}, Solid s.toList → s ≠ "" →
      IsItem (sign negative ++ s) := by
    intro negative s hs hne
    refine Solid.isItem ?_ (by simp [hne])
    rw [String.toList_append]
    exact (solid_sign negative).append hs
  unfold display
  split
  · exact Solid.isItem (by decide) (by decide)
  · exact hsigned _ (by decide) (by decide)
  · split
    · exact hsigned _ (by decide) (by decide)
    · exact hsigned _ (solid_positional _ _) (positional_ne_empty _ _)

end Decimal

/-! ## Scalars -/

namespace Toml.Value

/-- Texts, integers, doubles and truth values. -/
def IsScalar : Value → Prop
  | text _ | integer _ | float _ | boolean _ => True
  | _ => False

theorem exists_scalarText? {v : Value} (h : v.IsScalar) : ∃ t, v.scalarText? = some t := by
  cases v <;> first | exact ⟨_, rfl⟩ | exact h.elim

/-- Of all scalars only texts may be no items of a list. -/
theorem isItem_of_scalarText? {v : Value} {t : String} (h : v.scalarText? = some t) :
    Text.IsItem t ∨ v = .text t := by
  cases v with
  | text s => exact .inr (congrArg text (Option.some.inj h))
  | integer n => exact .inl (Option.some.inj h ▸ Text.isItem_toString n)
  | float x => exact .inl (Option.some.inj h ▸ Decimal.isItem_display x)
  | boolean b =>
    refine .inl (Option.some.inj h ▸ ?_)
    cases b <;> exact Text.Solid.isItem (by decide) (by decide)
  | _ => cases h

end Toml.Value

namespace Settings.Group

theorem items_set (g : Group) (key raw : String) : (g.set key raw).items key = Text.items raw := by
  simp [items, get?, set]

/-- **A list that becomes one text** with commas between its items is read back as it was just if
the texts in it are neither empty nor have commas in them, nor blanks at an end; numbers and truth
values always come back. Whatever text is read as a list, its items are of that kind, and joined with
commas they come back. -/
theorem items_joined (g : Group) (key : String) :
    (∀ values : List Toml.Value, (∀ v ∈ values, v.IsScalar) →
      ∃ texts raw, values.mapM Toml.Value.scalarText? = some texts ∧
        (Toml.Value.array values).listText? = some raw ∧
        ((g.set key raw).items key = texts ↔ ∀ s, .text s ∈ values → Text.IsItem s)) ∧
    (∀ item ∈ g.items key, Text.IsItem item) ∧
    (g.set key (",".intercalate (g.items key))).items key = g.items key := by
  have hitems : ∀ item ∈ g.items key, Text.IsItem item := by
    intro item hitem
    rw [items] at hitem
    split at hitem
    · exact Text.isItem_of_mem_items hitem
    · exact absurd hitem List.not_mem_nil
  refine ⟨fun values hscalars => ?_, hitems, ?_⟩
  · have htexts : ∀ v ∈ values, v.scalarText? = some (v.scalarText?.getD "") := by
      intro v hv
      obtain ⟨t, ht⟩ := Toml.Value.exists_scalarText? (hscalars v hv)
      rw [ht, Option.getD_some]
    have hmapM := Option.mapM_eq_some_map htexts
    refine ⟨_, _, hmapM, by rw [Toml.Value.listText?, hmapM]; rfl, ?_⟩
    rw [items_set, Text.items_intercalate_iff, List.forall_mem_map]
    constructor
    · intro hitems s hs
      exact hitems _ hs
    · intro hitems v hv
      obtain hitem | hv' := Toml.Value.isItem_of_scalarText? (htexts v hv)
      · exact hitem
      · rw [hv'] at hv
        exact hitems _ hv
  · rw [items_set]
    exact Text.items_intercalate hitems

/-- A list of one scalar of each kind is read back as their texts. -/
theorem items_joined_kinds :
    let values : List Toml.Value := [.text "bike", .integer (-12), .float 0.5, .boolean true]
    let g : Group := { name := "accessibility" }
    (∀ v ∈ values, v.IsScalar) ∧ (∀ s, .text s ∈ values → Text.IsItem s) ∧
      (Toml.Value.array values).listText? = some "bike,-12,0.5,true" ∧
      (g.set "modes" "bike,-12,0.5,true").items "modes" = ["bike", "-12", "0.5", "true"] := by
  intro values g
  have hscalars : ∀ v ∈ values, v.IsScalar := by
    simp [values, Toml.Value.IsScalar]
  have hitems : ∀ s, .text s ∈ values → Text.IsItem s := by
    intro s hs
    obtain rfl : s = "bike" := by simpa [values] using hs
    exact Text.Solid.isItem (by decide) (by decide)
  have htext : (Toml.Value.array values).listText? = some "bike,-12,0.5,true" := by
    decide +kernel
  have htexts : values.mapM Toml.Value.scalarText? = some ["bike", "-12", "0.5", "true"] := by
    decide +kernel
  obtain ⟨texts, raw, htexts', hraw, hback⟩ := (items_joined g "modes").1 values hscalars
  rw [htexts] at htexts'
  rw [htext] at hraw
  cases htexts'
  cases hraw
  exact ⟨hscalars, hitems, htext, hback.2 hitems⟩

end Settings.Group

end SpatialAccess
