import Mathlib.Data.List.DropRight
import SpatialAccess.Text.Blank

/-!
# Lists with commas between their items

Items are joined with commas, and taken apart again at the commas. Blanks around an item and empty
items are lost on the way.

* `Text.pieces_eq_splitOn`: taking apart at a separator. `Text.notMem_of_mem_pieces`: no piece has a
  separator in it. `Text.pieces_of_notMem`, `Text.pieces_append_cons`: the pieces one by one.
* `Text.Tight`: characters without a blank at either end. `Text.tight_trimList`,
  `Text.Tight.trimList_eq_self`: trimming makes them so, and changes nothing else.
* `Text.IsItem`: a text that comes back from a list as it is.
* **`Text.isItem_of_mem_items`**: every list has such items only.
* **`Text.items_intercalate_iff`**: texts that are joined come back just if all of them are such items.
-/

namespace SpatialAccess.Text

/-! ## Pieces -/

theorem pieces_ne_nil (separator : Char) (cs : List Char) : pieces separator cs ≠ [] := by
  cases cs with
  | nil => exact List.cons_ne_nil _ _
  | cons c cs =>
    rw [pieces]
    split
    · exact List.cons_ne_nil _ _
    · split <;> exact List.cons_ne_nil _ _

theorem pieces_eq_splitOn (separator : Char) (cs : List Char) :
    pieces separator cs = cs.splitOn separator := by
  induction cs with
  | nil => rfl
  | cons c cs ih =>
    rw [pieces, List.splitOn_cons_eq_if_modifyHead, ← ih]
    by_cases hc : c = separator
    · rw [if_pos hc, if_pos (beq_iff_eq.2 hc)]
    · rw [if_neg hc, if_neg fun h => hc (beq_iff_eq.1 h)]
      cases hpieces : pieces separator cs with
      | nil => exact absurd hpieces (pieces_ne_nil separator cs)
      | cons p ps => rfl

theorem notMem_of_mem_pieces {separator : Char} {cs p : List Char}
    (h : p ∈ pieces separator cs) : separator ∉ p := by
  induction cs generalizing p with
  | nil =>
    rw [List.mem_singleton.1 h]
    exact List.not_mem_nil
  | cons c cs ih =>
    rw [pieces] at h
    split at h
    · obtain rfl | h := List.mem_cons.1 h
      · exact List.not_mem_nil
      · exact ih h
    · next hc =>
      cases hpieces : pieces separator cs with
      | nil => exact absurd hpieces (pieces_ne_nil separator cs)
      | cons q qs =>
        rw [hpieces] at h ih
        obtain rfl | h := List.mem_cons.1 h
        · exact List.not_mem_cons_of_ne_of_not_mem (Ne.symm hc) (ih List.mem_cons_self)
        · exact ih (List.mem_cons_of_mem q h)

variable {separator : Char} {cs : List Char}

theorem pieces_of_notMem (h : separator ∉ cs) : pieces separator cs = [cs] := by
  induction cs with
  | nil => rfl
  | cons c cs ih =>
    rw [List.mem_cons, not_or] at h
    rw [pieces, if_neg (Ne.symm h.1), ih h.2]

/-- The first piece ends where the first separator is. -/
theorem pieces_append_cons (h : separator ∉ cs) (rest : List Char) :
    pieces separator (cs ++ separator :: rest) = cs :: pieces separator rest := by
  induction cs with
  | nil => rw [List.nil_append, pieces, if_pos rfl]
  | cons c cs ih =>
    rw [List.mem_cons, not_or] at h
    rw [List.cons_append, pieces, if_neg (Ne.symm h.1), ih h.2]

/-! ## Trimming -/

/-- Characters with no blank at either end. -/
structure Tight (cs : List Char) : Prop where
  head : ∀ c ∈ cs.head?, isBlank c = false
  last : ∀ c ∈ cs.getLast?, isBlank c = false

theorem Tight.of_forall (h : ∀ c ∈ cs, isBlank c = false) : Tight cs where
  head c hc := h c (List.mem_of_head? hc)
  last c hc := h c (List.mem_of_getLast? hc)

/-- Trimming drops characters at the end of what is left without the blanks in front. -/
theorem exists_trimList_append (cs : List Char) :
    ∃ rest, trimList cs ++ rest = cs.dropWhile isBlank :=
  List.rdropWhile_prefix isBlank _

theorem trimList_subset (cs : List Char) : trimList cs ⊆ cs := by
  obtain ⟨rest, hrest⟩ := exists_trimList_append cs
  intro c hc
  refine (List.dropWhile_suffix isBlank).subset ?_
  rw [← hrest]
  exact List.mem_append_left rest hc

/-- Nothing but blanks are dropped in front of the first character that stays. -/
theorem isBlank_head?_dropWhile (cs : List Char) {c : Char}
    (h : c ∈ (cs.dropWhile isBlank).head?) : isBlank c = false := by
  have hfirst := List.head?_dropWhile_not isBlank cs
  rwa [Option.mem_def.1 h] at hfirst

theorem tight_trimList (cs : List Char) : Tight (trimList cs) where
  head c hc := by
    obtain ⟨rest, hrest⟩ := exists_trimList_append cs
    refine isBlank_head?_dropWhile cs ?_
    rw [← hrest, List.head?_append, Option.mem_def.1 hc]
    rfl
  last c hc := by
    rw [trimList, List.getLast?_reverse] at hc
    exact isBlank_head?_dropWhile _ hc

theorem Tight.trimList_eq_self (h : Tight cs) : trimList cs = cs := by
  have hdrop : ∀ {cs : List Char}, (∀ c ∈ cs.head?, isBlank c = false) →
      cs.dropWhile isBlank = cs := by
    intro cs h
    cases cs with
    | nil => rfl
    | cons c cs => exact List.dropWhile_cons_of_neg (by simp [h c rfl])
  have hlast : ∀ c ∈ cs.reverse.head?, isBlank c = false := by
    rw [List.head?_reverse]
    exact h.last
  rw [trimList, hdrop h.head, hdrop hlast, List.reverse_reverse]

/-- A text with no blank in it is its own trimmed text. -/
theorem trim_eq_self {s : String} (h : ∀ c ∈ s.toList, isBlank c = false) : trim s = s := by
  rw [trim, (Tight.of_forall h).trimList_eq_self, String.ofList_toList]

/-! ## Items -/

/-- A text that comes back from a list as it is: it is not empty, it has no comma in it, and no
blank at either end. -/
structure IsItem (s : String) : Prop where
  ne_empty : s ≠ ""
  notMem_comma : ',' ∉ s.toList
  tight : Tight s.toList

theorem IsItem.trim_eq_self {s : String} (h : IsItem s) : trim s = s := by
  rw [trim, h.tight.trimList_eq_self, String.ofList_toList]

/-- **Every list has such items only**, whatever text it is read from. -/
theorem isItem_of_mem_items {raw item : String} (h : item ∈ items raw) : IsItem item := by
  rw [items, split, List.map_map, List.mem_filter, List.mem_map] at h
  obtain ⟨⟨p, hp, rfl⟩, hnonempty⟩ := h
  have hitem : (trim (String.ofList p)).toList = trimList p := by
    rw [trim, String.toList_ofList, String.toList_ofList]
  refine ⟨by simpa using hnonempty, ?_, ?_⟩
  · rw [Function.comp_apply, hitem]
    exact fun hcomma => notMem_of_mem_pieces hp (trimList_subset p hcomma)
  · rw [Function.comp_apply, hitem]
    exact tight_trimList p

/-- Items that are joined come back. -/
theorem items_intercalate {ts : List String} (h : ∀ t ∈ ts, IsItem t) :
    items (",".intercalate ts) = ts := by
  obtain rfl | hne := eq_or_ne ts []
  · rfl
  have hcomma : ∀ cs ∈ ts.map String.toList, ',' ∉ cs :=
    List.forall_mem_map.2 fun t ht => (h t ht).notMem_comma
  have hpieces : pieces ',' (",".intercalate ts).toList = ts.map String.toList := by
    rw [pieces_eq_splitOn, String.toList_intercalate]
    exact List.splitOn_intercalate ',' hcomma (by simpa using hne)
  have htexts : split ',' (",".intercalate ts) = ts := by
    rw [split, hpieces, List.map_map]
    exact (List.map_congr_left fun t _ => String.ofList_toList).trans (List.map_id ts)
  rw [items, htexts, (List.map_congr_left fun t ht => (h t ht).trim_eq_self).trans (List.map_id' ts)]
  exact List.filter_eq_self.2 fun t ht => by simpa using (h t ht).ne_empty

/-- **Joined texts come back** just if each of them is one that does. -/
theorem items_intercalate_iff {ts : List String} :
    items (",".intercalate ts) = ts ↔ ∀ t ∈ ts, IsItem t :=
  ⟨fun h _ ht => isItem_of_mem_items (h.symm ▸ ht), items_intercalate⟩

end SpatialAccess.Text
