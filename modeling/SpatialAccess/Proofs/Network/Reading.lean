import SpatialAccess.Proofs.Network.Adjacency
import SpatialAccess.Proofs.Network.Written
import SpatialAccess.Proofs.Outcome

/-!
# Network documents are read just if what they say is allowed

* `NetworkReader.add?`: a reader with an entry more. `NetworkReader.toOption_startTag`: that is how
  a tag is read.
* `NetworkReader.Holds`: a reader holds entries. `NetworkReader.gathers_add`: it gathers them one by
  one.
* `Network.Lists`: a network has the nodes and links of entries, in their order, and finds them by
  their labels. `NetworkReader.Holds.lists`: so does one that a reader builds.
* `Network.ofTags`: the network of the tags of a document. `Network.ofDocument_eq_ok_iff`: that of a
  document.
* **`Network.ofTags_lists`**: tags can be read just if they all can and what they say together is
  allowed, and then the network has what they say.
-/

namespace SpatialAccess

variable {α : Type}

open NetworkEntry (nodes links nodeLabels Allowed)

/-- A link is the written one: its ends have the labels that are written down. -/
structure WrittenLink.Joins (labels : List String) (w : WrittenLink α) (l : Link α) : Prop where
  label : l.label = w.label
  length : l.length = w.length
  speed : l.speed = w.speed
  source : labels[l.source.index]? = some w.source
  target : labels[l.target.index]? = some w.target

theorem WrittenLink.Joins.append {labels : List String} {w : WrittenLink α} {l : Link α}
    (h : w.Joins labels l) (labels' : List String) : w.Joins (labels ++ labels') l := by
  have hget : ∀ (i : ℕ) label, labels[i]? = some label → (labels ++ labels')[i]? = some label := by
    intro i label hi
    rw [List.getElem?_append_left (List.getElem?_eq_some_iff.1 hi).1, hi]
  exact { h with source := hget _ _ h.source, target := hget _ _ h.target }

/-! ## Reading one tag -/

namespace NetworkTag

theorem toOption_require (tag : NetworkTag) (element : NetworkElement) (key : String) :
    (NetworkReader.require (α := α) element tag.findings key).toOption = tag.text? key := by
  unfold NetworkReader.require text?
  cases tag.findings key <;> rfl

variable [Number α]

theorem toOption_requireNumber (tag : NetworkTag) (element : NetworkElement) (key : String) :
    (NetworkReader.requireNumber (α := α) element tag.findings key).toOption = tag.number? key := by
  rw [NetworkReader.requireNumber, Except.toOption_bind, toOption_require, number?]
  congr 1
  funext raw
  cases (Number.read? (Text.trim raw) : Option α) <;> rfl

end NetworkTag

namespace NetworkReader

theorem toOption_requireNode (r : NetworkReader α) (tag : NetworkTag) (link key : String) :
    (r.requireNode tag.findings link key).toOption =
      (tag.text? key).bind r.builder.lookupNode? := by
  rw [requireNode, Except.toOption_bind, NetworkTag.toOption_require]
  congr 1
  funext label
  cases r.builder.lookupNode? label <;> rfl

variable [Number α]

/-- The reader with a node or link more, if it can be added. -/
def add? (r : NetworkReader α) : NetworkEntry α → Option (NetworkReader α)
  | .node n =>
    if (r.builder.lookupNode? n.label).isSome then none
    else some { r with builder := (r.builder.addNode n.label n.coord).2 }
  | .link w =>
    if r.linkLabels.contains w.label then none
    else
      (r.builder.lookupNode? w.source).bind fun source =>
        (r.builder.lookupNode? w.target).bind fun target =>
          if w.speed ≤ ((0 : ℕ) : α) then none
          else some {
            builder := (r.builder.addLink
              { label := w.label, source, target, length := w.length, speed := w.speed }).2
            linkLabels := r.linkLabels.insert w.label }

theorem add?_node_eq_some_iff {r r' : NetworkReader α} {n : Node α} :
    r.add? (.node n) = some r' ↔ ¬(r.builder.lookupNode? n.label).isSome ∧
      { r with builder := (r.builder.addNode n.label n.coord).2 } = r' := by
  rw [add?, Option.ite_none_left_eq_some, Option.some.injEq]

theorem add?_link_eq_some_iff {r r' : NetworkReader α} {w : WrittenLink α} :
    r.add? (.link w) = some r' ↔ ¬r.linkLabels.contains w.label ∧
      ∃ source, r.builder.lookupNode? w.source = some source ∧
        ∃ target, r.builder.lookupNode? w.target = some target ∧ ¬w.speed ≤ ((0 : ℕ) : α) ∧
          ⟨(r.builder.addLink ⟨w.label, source, target, w.length, w.speed⟩).2,
            r.linkLabels.insert w.label⟩ = r' := by
  simp only [add?, Option.ite_none_left_eq_some, Option.bind_eq_some_iff, Option.some.injEq]

theorem toOption_addNode (r : NetworkReader α) (findings : Findings) :
    (r.addNode findings).toOption = (NetworkTag.mk .node findings).written?.bind r.add? := by
  have hrequire : ∀ key, (require (α := α) .node findings key).toOption = _ :=
    NetworkTag.toOption_require ⟨.node, findings⟩ .node
  have hnumber : ∀ key, (requireNumber (α := α) .node findings key).toOption = _ :=
    NetworkTag.toOption_requireNumber ⟨.node, findings⟩ .node
  simp only [addNode, Except.toOption_bind, apply_ite Except.toOption, hrequire, hnumber,
    NetworkTag.written?]
  -- a label that is taken is refused before the rest is read, which gives nothing either way
  cases (NetworkTag.mk .node findings).text? "id" with
  | none => rfl
  | some label =>
    cases ((NetworkTag.mk .node findings).number? "x" : Option α) with
    | none => exact ite_self _
    | some x =>
      cases ((NetworkTag.mk .node findings).number? "y" : Option α) with
      | none => exact ite_self _
      | some y => rfl

theorem toOption_addLink (r : NetworkReader α) (findings : Findings) :
    (r.addLink findings).toOption = (NetworkTag.mk .link findings).written?.bind r.add? := by
  have hrequire : ∀ key, (require (α := α) .link findings key).toOption = _ :=
    NetworkTag.toOption_require ⟨.link, findings⟩ .link
  have hnode : ∀ link key, (r.requireNode findings link key).toOption = _ :=
    r.toOption_requireNode ⟨.link, findings⟩
  have hnumber : ∀ key, (requireNumber (α := α) .link findings key).toOption = _ :=
    NetworkTag.toOption_requireNumber ⟨.link, findings⟩ .link
  simp only [addLink, Except.toOption_bind, apply_ite Except.toOption, hrequire, hnode, hnumber,
    NetworkTag.written?]
  cases (NetworkTag.mk .link findings).text? "id" with
  | none => rfl
  | some label =>
    cases (NetworkTag.mk .link findings).text? "from" with
    | none => exact ite_self _
    | some source =>
      cases (NetworkTag.mk .link findings).text? "to" with
      | none => simp
      | some target =>
        cases ((NetworkTag.mk .link findings).number? "length" : Option α) with
        | none => simp
        | some length =>
          cases ((NetworkTag.mk .link findings).number? "freespeed" : Option α) with
          | none => simp
          | some speed => rfl

def readTag (r : NetworkReader α) (tag : NetworkTag) :
    Except (NetworkError α) (NetworkReader α) :=
  r.startTag tag.element tag.findings

/-- **A tag is read as what it writes down.** -/
theorem toOption_readTag (r : NetworkReader α) (tag : NetworkTag) :
    (r.readTag tag).toOption = tag.written?.bind r.add? := by
  obtain ⟨element, findings⟩ := tag
  cases element with
  | node => exact r.toOption_addNode findings
  | link => exact r.toOption_addLink findings

/-! ## Reading tag after tag -/

/-- A reader holds entries: it has their nodes and links, knows their labels, and has found them
allowed. -/
structure Holds (r : NetworkReader α) (es : List (NetworkEntry α)) : Prop where
  nodes_eq : r.builder.nodes.toList = nodes es
  nodeByLabel : Indexes r.builder.nodeByLabel (nodeLabels es)
  joins : List.Forall₂ (WrittenLink.Joins (nodeLabels es)) (links es) r.builder.links.toList
  linkLabels : ∀ label, r.linkLabels.contains label = true ↔ label ∈ NetworkEntry.linkLabels es
  allowed : Allowed es

theorem holds_empty : ({} : NetworkReader α).Holds [] where
  nodes_eq := rfl
  nodeByLabel := Indexes.empty
  joins := .nil
  linkLabels := by simp [NetworkEntry.linkLabels, links]
  allowed := NetworkEntry.allowed_nil

variable {r r' : NetworkReader α} {es : List (NetworkEntry α)}

theorem Holds.size_nodes (h : r.Holds es) : r.builder.nodes.size = (nodeLabels es).length := by
  rw [← Array.length_toList, h.nodes_eq, nodeLabels, List.length_map]

theorem Holds.addNode (h : r.Holds es) {n : Node α} (hallowed : Allowed (es ++ [.node n])) :
    Holds { r with builder := (r.builder.addNode n.label n.coord).2 } (es ++ [.node n]) where
  nodes_eq := by
    rw [NetworkBuilder.addNode, Array.toList_push, h.nodes_eq, NetworkEntry.nodes_append]
    rfl
  nodeByLabel := by
    have hnew := (NetworkEntry.allowed_concat_node_iff h.allowed).1 hallowed
    rw [NetworkBuilder.addNode, h.size_nodes, NetworkEntry.nodeLabels_append]
    exact h.nodeByLabel.insert hnew
  joins := by
    rw [NetworkEntry.links_append, NetworkEntry.nodeLabels_append]
    exact (List.append_nil (links es)).symm ▸ h.joins.imp fun w l hl => hl.append _
  linkLabels label := by
    rw [h.linkLabels, NetworkEntry.linkLabels_append]
    exact iff_of_eq (congrArg _ (List.append_nil _).symm)
  allowed := hallowed

theorem Holds.addLink (h : r.Holds es) {w : WrittenLink α} {l : Link α}
    (hl : w.Joins (nodeLabels es) l) (hallowed : Allowed (es ++ [.link w])) :
    Holds ⟨(r.builder.addLink l).2, r.linkLabels.insert w.label⟩ (es ++ [.link w]) := by
  have hlabels : nodeLabels (es ++ [.link w]) = nodeLabels es :=
    (NetworkEntry.nodeLabels_append es _).trans (List.append_nil _)
  refine ⟨?_, ?_, ?_, fun label => ?_, hallowed⟩
  · exact h.nodes_eq.trans ((NetworkEntry.nodes_append es _).trans (List.append_nil _)).symm
  · rw [hlabels]
    exact h.nodeByLabel
  · rw [NetworkBuilder.addLink, Array.toList_push, NetworkEntry.links_append, hlabels]
    exact List.rel_append h.joins (.cons hl .nil)
  · rw [Std.HashSet.contains_insert, Bool.or_eq_true, h.linkLabels, NetworkEntry.linkLabels_append,
      List.mem_append, beq_iff_eq, or_comm, eq_comm]
    exact or_congr_right List.mem_singleton.symm

theorem Holds.exists_add?_iff (h : r.Holds es) (e : NetworkEntry α) :
    (∃ r', r.add? e = some r') ↔ Allowed (es ++ [e]) := by
  cases e with
  | node n =>
    rw [NetworkEntry.allowed_concat_node_iff h.allowed, ← h.nodeByLabel.isSome_iff]
    simp only [add?_node_eq_some_iff]
    exact ⟨fun ⟨_, hnew, _⟩ => hnew, fun hnew => ⟨_, hnew, rfl⟩⟩
  | link w =>
    rw [NetworkEntry.allowed_concat_link_iff h.allowed, ← h.linkLabels,
      ← h.nodeByLabel.exists_iff, ← h.nodeByLabel.exists_iff]
    simp only [add?_link_eq_some_iff]
    constructor
    · rintro ⟨_, hnew, source, hsource, target, htarget, hspeed, -⟩
      exact ⟨hnew, ⟨source, hsource⟩, ⟨target, htarget⟩, hspeed⟩
    · rintro ⟨hnew, ⟨source, hsource⟩, ⟨target, htarget⟩, hspeed⟩
      exact ⟨_, hnew, source, hsource, target, htarget, hspeed, rfl⟩

theorem Holds.add? (h : r.Holds es) {e : NetworkEntry α} (hadd : r.add? e = some r') :
    r'.Holds (es ++ [e]) := by
  have hallowed : Allowed (es ++ [e]) := (h.exists_add?_iff e).1 ⟨r', hadd⟩
  cases e with
  | node n =>
    obtain ⟨-, rfl⟩ := add?_node_eq_some_iff.1 hadd
    exact h.addNode hallowed
  | link w =>
    obtain ⟨-, source, hsource, target, htarget, -, rfl⟩ := add?_link_eq_some_iff.1 hadd
    refine h.addLink ⟨rfl, rfl, rfl, ?_, ?_⟩ hallowed
    · exact (h.nodeByLabel _ _).1 hsource
    · exact (h.nodeByLabel _ _).1 htarget

theorem gathers_add : Gathers (NetworkReader.add? (α := α)) Holds Allowed where
  allowed h := h.allowed
  of_append h := h.of_append
  exists_iff e h := h.exists_add?_iff e
  holds h hadd := h.add? hadd

theorem foldlM_add?_spec (es : List (NetworkEntry α)) :
    ((∃ r : NetworkReader α, es.foldlM NetworkReader.add? {} = some r) ↔ Allowed es) ∧
      ∀ r : NetworkReader α, es.foldlM NetworkReader.add? {} = some r → r.Holds es :=
  gathers_add.foldlM holds_empty es

/-- Tags are read as what all of them write down. -/
theorem toOption_foldlM_readTag (tags : List NetworkTag) (r : NetworkReader α) :
    (tags.foldlM readTag r).toOption =
      (tags.mapM NetworkTag.written?).bind fun es => es.foldlM NetworkReader.add? r := by
  rw [Except.toOption_foldlM]
  simp only [toOption_readTag]
  exact Option.foldlM_bind NetworkTag.written? NetworkReader.add? tags r

theorem readToken_eq (r : NetworkReader α) (token : Markup.Token) :
    r.readToken token = match NetworkTag.ofToken? token with
      | some tag => r.readTag tag
      | none => .ok r := by
  cases token with
  | start name attributes | empty name attributes =>
    rw [readToken, NetworkTag.ofToken?]
    cases NetworkElement.ofName? name <;> rfl
  | finish name => rfl

/-- Tokens of other elements are passed over. -/
theorem foldlM_readToken (tokens : List Markup.Token) (r : NetworkReader α) :
    tokens.foldlM readToken r = (tokens.filterMap NetworkTag.ofToken?).foldlM readTag r := by
  induction tokens generalizing r with
  | nil => rfl
  | cons token tokens ih =>
    rw [List.foldlM_cons, readToken_eq]
    cases h : NetworkTag.ofToken? token with
    | none =>
      rw [List.filterMap_cons_none h]
      exact ih r
    | some tag =>
      rw [List.filterMap_cons_some h, List.foldlM_cons]
      exact bind_congr ih

end NetworkReader

/-! ## Networks that were read -/

/-- A network has the nodes and links of entries, in their order, and finds them by their labels. -/
structure Network.Lists (n : Network α) (es : List (NetworkEntry α)) : Prop where
  nodes_eq : n.nodes.toList = NetworkEntry.nodes es
  joins : List.Forall₂ (WrittenLink.Joins (nodeLabels es)) (NetworkEntry.links es) n.links.toList
  lookupNode?_iff : ∀ label id, n.lookupNode? label = some id ↔ n.nodeLabel? id = some label
  lookupLink?_iff : ∀ label id, n.lookupLink? label = some id ↔ n.linkLabel? id = some label
  ends_lt : ∀ l ∈ n.links, l.source.index < n.nodes.size ∧ l.target.index < n.nodes.size

theorem WrittenLink.map_label_eq {labels : List String} {ws : List (WrittenLink α)}
    {ls : List (Link α)} (h : List.Forall₂ (Joins labels) ws ls) :
    ls.map Link.label = ws.map WrittenLink.label := by
  induction h with
  | nil => rfl
  | cons hjoins _ ih => rw [List.map_cons, List.map_cons, hjoins.label, ih]

theorem WrittenLink.exists_joins {labels : List String} {ws : List (WrittenLink α)}
    {ls : List (Link α)} (h : List.Forall₂ (Joins labels) ws ls) {l : Link α} (hl : l ∈ ls) :
    ∃ w ∈ ws, w.Joins labels l := by
  induction h with
  | nil => cases hl
  | @cons w l' ws ls hjoins _ ih =>
    obtain rfl | hl := List.mem_cons.1 hl
    · exact ⟨w, List.mem_cons_self, hjoins⟩
    · obtain ⟨w', hw', hjoins'⟩ := ih hl
      exact ⟨w', List.mem_cons_of_mem w hw', hjoins'⟩

theorem WrittenLink.Joins.ends_lt {labels : List String} {w : WrittenLink α} {l : Link α}
    (h : w.Joins labels l) : l.source.index < labels.length ∧ l.target.index < labels.length :=
  ⟨(List.getElem?_eq_some_iff.1 h.source).1, (List.getElem?_eq_some_iff.1 h.target).1⟩

variable [Number α]

theorem NetworkReader.Holds.lists {r : NetworkReader α} {es : List (NetworkEntry α)}
    (h : r.Holds es) : r.builder.build.Lists es where
  nodes_eq := h.nodes_eq
  joins := h.joins
  lookupNode?_iff label id := by
    have hlabel : r.builder.build.nodeLabel? id = (nodeLabels es)[id.index]? := by
      rw [nodeLabels, ← h.nodes_eq, List.getElem?_map, Array.getElem?_toList]
      rfl
    rw [hlabel]
    exact h.nodeByLabel label id
  lookupLink?_iff label id := by
    have hlabels := WrittenLink.map_label_eq h.joins
    have hlabel : r.builder.build.linkLabel? id =
        (r.builder.links.toList.map Link.label)[id.index]? := by
      rw [List.getElem?_map, Array.getElem?_toList]
      rfl
    rw [hlabel]
    exact indexes_foldl Link.label (hlabels ▸ h.allowed.nodup_links) label id
  ends_lt l hl := by
    have hsize : r.builder.build.nodes.size = (nodeLabels es).length := h.size_nodes
    obtain ⟨w, -, hjoins⟩ := WrittenLink.exists_joins h.joins (Array.mem_toList_iff.2 hl)
    rw [hsize]
    exact hjoins.ends_lt

namespace Network

def ofTags (tags : List NetworkTag) : Except (NetworkError α) (Network α) := do
  let reader ← tags.foldlM NetworkReader.readTag {}
  return reader.builder.build

theorem ofTags_eq_ok_iff {tags : List NetworkTag} {n : Network α} :
    ofTags tags = .ok n ↔ ∃ es, tags.mapM NetworkTag.written? = some es ∧
      ∃ r, es.foldlM NetworkReader.add? {} = some r ∧ r.builder.build = n := by
  have hread : ∀ r : NetworkReader α, tags.foldlM NetworkReader.readTag {} = .ok r ↔
      ∃ es, tags.mapM NetworkTag.written? = some es ∧ es.foldlM NetworkReader.add? {} = some r := by
    intro r
    rw [← Except.toOption_eq_some_iff, NetworkReader.toOption_foldlM_readTag,
      Option.bind_eq_some_iff]
  rw [ofTags, Except.bind_eq_ok]
  constructor
  · rintro ⟨r, hr, hn⟩
    obtain ⟨es, hes, hadd⟩ := (hread r).1 hr
    cases hn
    exact ⟨es, hes, r, hadd, rfl⟩
  · rintro ⟨es, hes, r, hadd, rfl⟩
    exact ⟨r, (hread r).2 ⟨es, hes, hadd⟩, rfl⟩

theorem exists_ofTags_iff {tags : List NetworkTag} :
    (∃ n : Network α, ofTags tags = .ok n) ↔
      ∃ es : List (NetworkEntry α), tags.mapM NetworkTag.written? = some es ∧ Allowed es := by
  simp only [ofTags_eq_ok_iff]
  constructor
  · rintro ⟨n, es, hes, r, hadd, -⟩
    exact ⟨es, hes, (NetworkReader.foldlM_add?_spec es).1.1 ⟨r, hadd⟩⟩
  · rintro ⟨es, hes, hallowed⟩
    obtain ⟨r, hadd⟩ := (NetworkReader.foldlM_add?_spec es).1.2 hallowed
    exact ⟨_, es, hes, r, hadd, rfl⟩

/-- A network that was read was built by a reader that holds what its tags say. -/
theorem exists_holds_of_ofTags {tags : List NetworkTag} {n : Network α} (h : ofTags tags = .ok n) :
    ∃ es, tags.mapM NetworkTag.written? = some es ∧
      ∃ r : NetworkReader α, r.Holds es ∧ r.builder.build = n := by
  obtain ⟨es, hes, r, hadd, hn⟩ := ofTags_eq_ok_iff.1 h
  exact ⟨es, hes, r, (NetworkReader.foldlM_add?_spec es).2 r hadd, hn⟩

/-- A document is read as its tags, unless its markup breaks off. -/
theorem ofDocument_eq_ok_iff {bytes : Markup.Bytes} {n : Network α} :
    ofDocument bytes = .ok n ↔
      (Markup.tokens bytes).2 = .complete ∧ ofTags (NetworkTag.ofDocument bytes) = .ok n := by
  rw [ofDocument, ofTags, NetworkTag.ofDocument, ← NetworkReader.foldlM_readToken]
  obtain ⟨tokens, ending⟩ := Markup.tokens bytes
  cases ending with
  | complete => exact (and_iff_right rfl).symm
  | malformed => simp only [Except.bind_eq_ok, reduceCtorEq, and_false, false_and, exists_false]

/-- **Tags can be read just if all of them can and what they say together is allowed, and then the
network has what they say.** So it is with a document whose markup does not break off. -/
theorem ofTags_lists (tags : List NetworkTag) :
    ((∃ n : Network α, ofTags tags = .ok n) ↔
      ∃ es : List (NetworkEntry α), tags.mapM NetworkTag.written? = some es ∧ Allowed es) ∧
    (∀ (n : Network α) es, ofTags tags = .ok n → tags.mapM NetworkTag.written? = some es →
      n.Lists es) ∧
    ∀ bytes, NetworkTag.ofDocument bytes = tags → ∀ n : Network α,
      ofDocument bytes = .ok n ↔ (Markup.tokens bytes).2 = .complete ∧ ofTags tags = .ok n := by
  refine ⟨exists_ofTags_iff, fun n es hn hes => ?_, ?_⟩
  · obtain ⟨es', hes', r, hr, rfl⟩ := exists_holds_of_ofTags hn
    cases hes.symm.trans hes'
    exact hr.lists
  · rintro bytes rfl n
    exact ofDocument_eq_ok_iff

end Network

end SpatialAccess
