import Mathlib.Data.List.Induction
import Mathlib.Data.List.Nodup
import Mathlib.Order.Nat
import SpatialAccess.Network.Document

/-!
# What the tags of a network document say

* `NetworkTag`: a tag that matters. `NetworkTag.written?`: the node or link that it writes down,
  unless something is missing or is not a number.
* `NetworkEntry.Allowed`: nodes and links that a network can be made of. Labels are different, links
  join nodes in front of them, and no link is at a standstill.
* `Indexes`: a map tells the places of labels in a list. `Indexes.insert`: it is kept up by putting
  in a new label with the next place. `indexes_foldl`: a map that is filled in one go.
-/

namespace SpatialAccess

/-! ## Tags -/

/-- A start tag of an element that matters, with what is under each of its keys. -/
structure NetworkTag where
  element : NetworkElement
  findings : NetworkReader.Findings

/-- A link as it is written down: its ends are labels of nodes. -/
structure WrittenLink (α : Type) where
  label : String
  source : String
  target : String
  length : α
  speed : α
  deriving DecidableEq

/-- What one tag writes down. -/
inductive NetworkEntry (α : Type) where
  | node (node : Node α)
  | link (link : WrittenLink α)
  deriving DecidableEq

namespace NetworkTag

/-- The text under a key. -/
def text? (tag : NetworkTag) (key : String) : Option String :=
  match tag.findings key with
  | .value text => some text
  | .missing | .malformed => none

variable {α : Type} [Number α]

/-- The number under a key. -/
def number? (tag : NetworkTag) (key : String) : Option α :=
  (tag.text? key).bind fun raw => Number.read? (Text.trim raw)

/-- The node or link that a tag writes down, if all that it needs is there. -/
def written? (tag : NetworkTag) : Option (NetworkEntry α) :=
  match tag.element with
  | .node => do
    return .node { label := ← tag.text? "id", coord := ⟨← tag.number? "x", ← tag.number? "y"⟩ }
  | .link => do
    return .link {
      label := ← tag.text? "id"
      source := ← tag.text? "from"
      target := ← tag.text? "to"
      length := ← tag.number? "length"
      speed := ← tag.number? "freespeed" }

/-- The tag of a token, if it is one that matters. -/
def ofToken? : Markup.Token → Option NetworkTag
  | .start name attributes | .empty name attributes =>
    (NetworkElement.ofName? name).map fun element => ⟨element, Markup.find attributes⟩
  | .finish _ => none

/-- The tags of a document that matter, in order. -/
def ofDocument (bytes : Markup.Bytes) : List NetworkTag :=
  (Markup.tokens bytes).1.filterMap ofToken?

end NetworkTag

/-! ## Allowed entries -/

namespace NetworkEntry

variable {α : Type}

def nodes (es : List (NetworkEntry α)) : List (Node α) :=
  es.filterMap fun
    | node n => some n
    | link _ => none

def links (es : List (NetworkEntry α)) : List (WrittenLink α) :=
  es.filterMap fun
    | node _ => none
    | link l => some l

def nodeLabels (es : List (NetworkEntry α)) : List String :=
  (nodes es).map Node.label

def linkLabels (es : List (NetworkEntry α)) : List String :=
  (links es).map WrittenLink.label

/-- A network can be made of entries. -/
structure Allowed [Number α] (es : List (NetworkEntry α)) : Prop where
  nodup_nodes : (nodeLabels es).Nodup
  nodup_links : (linkLabels es).Nodup
  joins : ∀ i l, es[i]? = some (link l) →
    l.source ∈ nodeLabels (es.take i) ∧ l.target ∈ nodeLabels (es.take i)
  speed : ∀ l ∈ links es, ¬l.speed ≤ ((0 : ℕ) : α)

theorem nodes_append (es es' : List (NetworkEntry α)) : nodes (es ++ es') = nodes es ++ nodes es' :=
  List.filterMap_append

theorem links_append (es es' : List (NetworkEntry α)) : links (es ++ es') = links es ++ links es' :=
  List.filterMap_append

theorem nodeLabels_append (es es' : List (NetworkEntry α)) :
    nodeLabels (es ++ es') = nodeLabels es ++ nodeLabels es' := by
  rw [nodeLabels, nodes_append, List.map_append, nodeLabels, nodeLabels]

theorem linkLabels_append (es es' : List (NetworkEntry α)) :
    linkLabels (es ++ es') = linkLabels es ++ linkLabels es' := by
  rw [linkLabels, links_append, List.map_append, linkLabels, linkLabels]

variable [Number α]

theorem allowed_nil : Allowed ([] : List (NetworkEntry α)) where
  nodup_nodes := List.nodup_nil
  nodup_links := List.nodup_nil
  joins i l h := by simp at h
  speed := List.forall_mem_nil _

theorem Allowed.of_append {es es' : List (NetworkEntry α)} (h : Allowed (es ++ es')) :
    Allowed es where
  nodup_nodes := List.Nodup.of_append_left (nodeLabels_append es es' ▸ h.nodup_nodes)
  nodup_links := List.Nodup.of_append_left (linkLabels_append es es' ▸ h.nodup_links)
  joins i l hl := by
    obtain ⟨hi, -⟩ := List.getElem?_eq_some_iff.1 hl
    have hjoins := h.joins i l (by rw [List.getElem?_append_left hi, hl])
    rwa [List.take_append_of_le_length hi.le] at hjoins
  speed l hl := h.speed l (links_append es es' ▸ List.mem_append_left _ hl)

/-- A node can follow if its label is new. -/
theorem allowed_concat_node_iff {es : List (NetworkEntry α)} (h : Allowed es) {n : Node α} :
    Allowed (es ++ [.node n]) ↔ n.label ∉ nodeLabels es := by
  have hnodes : nodeLabels (es ++ [.node n]) = nodeLabels es ++ [n.label] := nodeLabels_append ..
  have hlinks : links (es ++ [.node n]) = links es ++ [] := links_append ..
  constructor
  · intro h' hmem
    exact List.disjoint_of_nodup_append (hnodes ▸ h'.nodup_nodes) hmem (List.mem_singleton_self _)
  · intro hnew
    refine ⟨?_, ?_, fun i l hl => ?_, ?_⟩
    · rw [hnodes, ← List.concat_eq_append]
      exact h.nodup_nodes.concat hnew
    · rw [linkLabels, hlinks, List.append_nil]
      exact h.nodup_links
    · obtain hi | hi := lt_or_ge i es.length
      · rw [List.getElem?_append_left hi] at hl
        rw [List.take_append_of_le_length hi.le]
        exact h.joins i l hl
      · rw [List.getElem?_append_right hi, List.getElem?_singleton] at hl
        split at hl <;> cases hl
    · rw [hlinks, List.append_nil]
      exact h.speed

/-- A link can follow if its label is new, its ends are there, and it is not at a standstill. -/
theorem allowed_concat_link_iff {es : List (NetworkEntry α)} (h : Allowed es) {l : WrittenLink α} :
    Allowed (es ++ [.link l]) ↔
      l.label ∉ linkLabels es ∧ l.source ∈ nodeLabels es ∧ l.target ∈ nodeLabels es ∧
        ¬l.speed ≤ ((0 : ℕ) : α) := by
  have hnodes : nodes (es ++ [.link l]) = nodes es ++ [] := nodes_append ..
  have hlinks : links (es ++ [.link l]) = links es ++ [l] := links_append ..
  have hlabels : linkLabels (es ++ [.link l]) = linkLabels es ++ [l.label] := linkLabels_append ..
  constructor
  · intro h'
    have hjoins := h'.joins es.length l (by simp)
    rw [List.take_left] at hjoins
    refine ⟨fun hmem => ?_, hjoins.1, hjoins.2, h'.speed l (by simp [hlinks])⟩
    exact List.disjoint_of_nodup_append (hlabels ▸ h'.nodup_links) hmem (List.mem_singleton_self _)
  · rintro ⟨hnew, hsource, htarget, hspeed⟩
    refine ⟨?_, ?_, fun i l' hl' => ?_, fun l' hl' => ?_⟩
    · rw [nodeLabels, hnodes, List.append_nil]
      exact h.nodup_nodes
    · rw [hlabels, ← List.concat_eq_append]
      exact h.nodup_links.concat hnew
    · obtain hi | hi := lt_or_ge i es.length
      · rw [List.getElem?_append_left hi] at hl'
        rw [List.take_append_of_le_length hi.le]
        exact h.joins i l' hl'
      · -- the new link is the last entry, with all others in front of it
        rw [List.getElem?_append_right hi, List.getElem?_singleton] at hl'
        split at hl'
        · next hzero =>
          cases hl'
          rw [show i = es.length by omega, List.take_left]
          exact ⟨hsource, htarget⟩
        · cases hl'
    · rw [hlinks, List.mem_append, List.mem_singleton] at hl'
      obtain hl' | rfl := hl'
      · exact h.speed l' hl'
      · exact hspeed

end NetworkEntry

/-! ## Maps from labels to places -/

variable {e : Entity}

/-- A map tells the places of the labels in a list, and knows no others. -/
def Indexes (map : Std.HashMap String (Id e)) (labels : List String) : Prop :=
  ∀ (label : String) (id : Id e), map[label]? = some id ↔ labels[id.index]? = some label

namespace Indexes

variable {map : Std.HashMap String (Id e)} {labels : List String} {label : String}

theorem empty : Indexes ({} : Std.HashMap String (Id e)) [] := by
  intro label id
  simp

theorem exists_iff (h : Indexes map labels) : (∃ id, map[label]? = some id) ↔ label ∈ labels := by
  rw [List.mem_iff_getElem?]
  constructor
  · rintro ⟨id, hid⟩
    exact ⟨id.index, (h label id).1 hid⟩
  · rintro ⟨i, hi⟩
    exact ⟨⟨i⟩, (h label ⟨i⟩).2 hi⟩

theorem isSome_iff (h : Indexes map labels) : map[label]?.isSome ↔ label ∈ labels := by
  rw [Option.isSome_iff_exists, h.exists_iff]

/-- A new label gets the next place. -/
theorem insert (h : Indexes map labels) (hnew : label ∉ labels) :
    Indexes (map.insert label ⟨labels.length⟩) (labels ++ [label]) := by
  intro label' id
  rw [Std.HashMap.getElem?_insert]
  -- in front of the new place, at it, and behind it
  obtain hlt | heq | hgt := lt_trichotomy id.index labels.length
  · rw [List.getElem?_append_left hlt, ← h]
    split
    · next hlabel =>
      cases beq_iff_eq.1 hlabel
      refine ⟨fun hid => ?_, fun hid => absurd (h.exists_iff.1 ⟨id, hid⟩) hnew⟩
      cases hid
      exact absurd hlt (lt_irrefl _)
    · rfl
  · rw [heq, List.getElem?_concat_length, Option.some.injEq]
    split
    · next hlabel =>
      exact ⟨fun _ => beq_iff_eq.1 hlabel, fun _ => congrArg some (Id.ext_index heq.symm)⟩
    · next hlabel =>
      refine ⟨fun hid => ?_, fun hlabel' => absurd (beq_iff_eq.2 hlabel') hlabel⟩
      have hget := (h label' id).1 hid
      rw [heq, List.getElem?_eq_none le_rfl] at hget
      cases hget
  · have hnone : (labels ++ [label])[id.index]? = none :=
      List.getElem?_eq_none (by rw [List.length_append, List.length_singleton]; omega)
    rw [hnone]
    refine ⟨fun hid => ?_, nofun⟩
    split at hid
    · cases hid
      exact absurd hgt (lt_irrefl _)
    · rw [← (h label' id).1 hid, List.getElem?_eq_none hgt.le]

end Indexes

/-- Labels that are all different, put into a map one after the other with their places. -/
theorem indexes_foldl {β : Type} (labelOf : β → String) {xs : List β}
    (hnodup : (xs.map labelOf).Nodup) :
    Indexes ((((List.range xs.length).map fun i => (⟨i⟩ : Id e)).zip xs).foldl
      (fun map (id, x) => map.insert (labelOf x) id) {}) (xs.map labelOf) := by
  induction xs using List.reverseRecOn with
  | nil => exact Indexes.empty
  | append_singleton xs x ih =>
    rw [List.map_append, List.map_singleton] at hnodup ⊢
    have hnew : labelOf x ∉ xs.map labelOf := fun hmem =>
      List.disjoint_of_nodup_append hnodup hmem (List.mem_singleton_self _)
    have hlast := (ih hnodup.of_append_left).insert hnew
    rw [List.length_map] at hlast
    rw [List.length_append, List.length_singleton, List.range_succ, List.map_append,
      List.zip_append (by simp), List.foldl_append]
    exact hlast

end SpatialAccess
