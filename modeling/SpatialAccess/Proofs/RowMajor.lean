import Mathlib.Algebra.BigOperators.Group.List.Basic
import SpatialAccess.Proofs.Outcome

/-!
# Rows written one after another

A table of rows of one width is kept as one list, where item `row * width + k` is item `k` of its row.

* `mul_add_lt`, `mul_add_inj`: numbers of items.
* `length_flatten_rows`, `getElem?_flatten_rows`, `take_drop_flatten`: the list of a table.
* `getElem?_finRange_flatMap`, `Except.rows_of_mapM`: a table that is made by two loops, one inside
  the other.
-/

namespace SpatialAccess

/-! ## Numbers of items -/

/-- A number in rows of one width is one of the table. -/
theorem mul_add_lt {width rows row k : Nat} (hrow : row < rows) (hk : k < width) :
    row * width + k < rows * width :=
  calc row * width + k < row * width + width := Nat.add_lt_add_left hk _
    _ = (row + 1) * width := (Nat.succ_mul row width).symm
    _ ≤ rows * width := Nat.mul_le_mul_right _ hrow

theorem mul_add_div {width row k : Nat} (hk : k < width) : (row * width + k) / width = row := by
  rw [Nat.mul_comm, Nat.mul_add_div (Nat.zero_lt_of_lt hk), Nat.div_eq_of_lt hk, Nat.add_zero]

theorem mul_add_mod {width row k : Nat} (hk : k < width) : (row * width + k) % width = k := by
  rw [Nat.mul_comm, Nat.mul_add_mod, Nat.mod_eq_of_lt hk]

/-- A number in rows of one width tells its row and its place there. -/
theorem mul_add_inj {width row row' k k' : Nat} (hk : k < width) (hk' : k' < width)
    (h : row * width + k = row' * width + k') : row = row' ∧ k = k' := by
  have hdiv := congrArg (· / width) h
  have hmod := congrArg (· % width) h
  simp only [mul_add_div hk, mul_add_div hk', mul_add_mod hk, mul_add_mod hk'] at hdiv hmod
  exact ⟨hdiv, hmod⟩

/-! ## Items of a table -/

section Table

variable {β : Type} {rows : List (List β)} {width : Nat} (hrows : ∀ row ∈ rows, row.length = width)

include hrows

theorem length_flatten_rows : rows.flatten.length = rows.length * width := by
  rw [List.length_flatten, List.map_congr_left hrows, List.map_const', List.sum_replicate_nat]

theorem take_drop_flatten {i : Nat} {row : List β} (h : rows[i]? = some row) :
    (rows.flatten.drop (i * width)).take width = row := by
  induction rows generalizing i with
  | nil => simp at h
  | cons first rows ih =>
    have hfirst : first.length = width := hrows first List.mem_cons_self
    cases i with
    | zero =>
      obtain rfl : first = row := by simpa using h
      rw [Nat.zero_mul, List.drop_zero, List.flatten_cons, ← hfirst, List.take_left]
    | succ i =>
      rw [List.flatten_cons, Nat.succ_mul, Nat.add_comm, ← List.drop_drop, ← hfirst,
        List.drop_left, hfirst]
      exact ih (fun row h => hrows row (List.mem_cons_of_mem _ h)) (by simpa using h)

/-- **An item of a table is the item of its row.** -/
theorem getElem?_flatten_rows {i k : Nat} {row : List β} (h : rows[i]? = some row) (hk : k < width) :
    rows.flatten[i * width + k]? = row[k]? := by
  rw [← take_drop_flatten hrows h, List.getElem?_take_of_lt hk, List.getElem?_drop]

end Table

/-! ## Two loops, one inside the other -/

theorem getElem?_finRange_flatMap {β : Type} {rows width : Nat} (f : Fin rows → Fin width → β)
    (row : Fin rows) (k : Fin width) :
    ((List.finRange rows).flatMap fun row => (List.finRange width).map (f row))[row * width + k]? =
      some (f row k) := by
  have hwidth : ∀ items ∈ (List.finRange rows).map fun row => (List.finRange width).map (f row),
      items.length = width := by
    intro items hitems
    obtain ⟨row, -, rfl⟩ := List.mem_map.1 hitems
    rw [List.length_map, List.length_finRange]
  have hrow : ((List.finRange rows).map fun row => (List.finRange width).map (f row))[row.val]? =
      some ((List.finRange width).map (f row)) := by simp
  rw [List.flatMap_def, getElem?_flatten_rows hwidth hrow k.isLt]
  simp

/-- A table whose items may fail. -/
theorem Except.rows_of_mapM {ε β : Type} {rows columns : Nat} {f : Nat → Nat → Except ε β}
    {table : List (List β)}
    (h : (List.range rows).mapM (fun row => (List.range columns).mapM (f row)) = .ok table) :
    table.flatten.length = rows * columns ∧
      ∀ k (hk : k < table.flatten.length), f (k / columns) (k % columns) = .ok table.flatten[k] := by
  have hrows : table.length = rows := by
    rw [Except.length_of_mapM_eq_ok h, List.length_range]
  have hwidth : ∀ items ∈ table, items.length = columns := by
    intro items hitems
    obtain ⟨row, -, hrow⟩ := Except.exists_of_mem_mapM h hitems
    rw [Except.length_of_mapM_eq_ok hrow, List.length_range]
  have hlength : table.flatten.length = rows * columns := by
    rw [length_flatten_rows hwidth, hrows]
  refine ⟨hlength, fun k hk => ?_⟩
  have hlt : k < columns * rows := by rwa [hlength, Nat.mul_comm] at hk
  have hcolumn : k % columns < columns :=
    Nat.mod_lt k (Nat.pos_of_mul_pos_right (Nat.zero_lt_of_lt hlt))
  obtain ⟨items, hitems, hloop⟩ :=
    Except.getElem?_of_mapM_eq_ok h (List.getElem?_range (Nat.div_lt_of_lt_mul hlt))
  obtain ⟨x, hx, hf⟩ := Except.getElem?_of_mapM_eq_ok hloop (List.getElem?_range hcolumn)
  have hget := getElem?_flatten_rows hwidth hitems hcolumn
  rw [Nat.div_add_mod', hx, List.getElem?_eq_getElem hk] at hget
  rw [hf, Option.some.inj hget]

end SpatialAccess
