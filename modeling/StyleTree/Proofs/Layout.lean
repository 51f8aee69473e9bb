import StyleTree.Document.Nested
import StyleTree.Proofs.Unfolding

/-!
# Laying out documents

Laying out adds nested trees to an arena: it keeps the nodes that are there, takes the next ids,
each for one node, and says with the new nodes what the document says (`Adds`). Two additions in a
row are one, whichever of them comes first in the list of children (`Adds.append`,
`Adds.append_before`), and a node pushed on top of an addition makes one tree of it (`Adds.push`).
So every document is laid out as its nested tree (`Document.layOut_lays`), by induction on the
document.
-/

namespace StyleTree

namespace Rose

variable {α β : Type} {f g : α → β}

mutual

/-- A tree whose labels two functions agree on is mapped to the same. -/
theorem map_congr : (r : Rose α) → (∀ n ∈ r.preorder, f n = g n) → r.map f = r.map g
  | .node n rs, agree => by
    obtain ⟨top, below⟩ := List.forall_mem_cons.mp agree
    rw [map, map, top, mapAll_congr rs below]

/-- Trees are relabelled the same by maps that agree on their labels. -/
theorem mapAll_congr :
    (rs : List (Rose α)) → (∀ n ∈ preorderAll rs, f n = g n) → mapAll f rs = mapAll g rs
  | [], _ => rfl
  | r :: rs, agree => by
    obtain ⟨head, tail⟩ := List.forall_mem_append.mp agree
    rw [mapAll, mapAll, map_congr r head, mapAll_congr rs tail]

end

/-- Relabelling trees before others is relabelling both. -/
lemma mapAll_append (rs ss : List (Rose α)) :
    mapAll f (rs ++ ss) = mapAll f rs ++ mapAll f ss := by
  simp only [mapAll_eq_map, List.map_append]

end Rose

namespace Arena

/--
The arena `b` has the nodes of `a` and those of the nested trees `rs`, which use the ids after those
of `a` once each and say what `ls` says.
-/
structure Adds (a b : Arena) (rs : List (Rose NodeId)) (ls : List (Rose Label)) : Prop where
  grows : a.Extends b
  perm : (Rose.preorderAll rs).Perm (List.range' a.size (b.size - a.size))
  follows : Rose.FollowAll b rs
  labels : Rose.mapAll b.label? rs = Rose.mapAll some ls

namespace Adds

variable {a b c : Arena} {rs ss : List (Rose NodeId)} {ls ms : List (Rose Label)}

/-- Nothing is added to an arena by adding no trees. -/
lemma nil (a : Arena) : a.Adds a [] [] where
  grows := .refl a
  perm := by simp [Rose.preorderAll]
  follows := trivial
  labels := rfl

/-- The ids of what was added are those between the sizes. -/
lemma mem_iff {n : NodeId} (h : a.Adds b rs ls) :
    n ∈ Rose.preorderAll rs ↔ a.size ≤ n ∧ n < b.size := by
  rw [h.perm.mem_iff, List.mem_range'_1, Nat.add_sub_cancel' h.grows.size_le]

/-- The ids of trees that were added are ids of the arena. -/
lemma lt (h : a.Adds b rs ls) : ∀ n ∈ Rose.preorderAll rs, n < b.size :=
  fun _ mem => (h.mem_iff.mp mem).2

/-- What was added says the same when more nodes follow. -/
lemma labels_mono (h : a.Adds b rs ls) (grows : b.Extends c) :
    Rose.mapAll c.label? rs = Rose.mapAll some ls := by
  rw [← h.labels]
  refine Rose.mapAll_congr rs fun n mem => ?_
  rw [label?, label?, grows.node?_eq n (h.lt n mem)]

/-- One addition after another. -/
lemma append (h : a.Adds b rs ls) (k : b.Adds c ss ms) : a.Adds c (rs ++ ss) (ls ++ ms) where
  grows := h.grows.trans k.grows
  perm := by
    have le := h.grows.size_le
    have le' := k.grows.size_le
    have ranges : List.range' a.size (c.size - a.size) =
        List.range' a.size (b.size - a.size) ++ List.range' b.size (c.size - b.size) := by
      rw [show c.size - a.size = (b.size - a.size) + (c.size - b.size) by omega,
        ← List.range'_append_1, Nat.add_sub_cancel' le]
    rw [Rose.preorderAll_append, ranges]
    exact h.perm.append k.perm
  follows := Rose.followAll_append.mpr ⟨h.follows.mono k.grows h.lt, k.follows⟩
  labels := by rw [Rose.mapAll_append, Rose.mapAll_append, h.labels_mono k.grows, k.labels]

/-- One addition after another, the later one first among the children. -/
lemma append_before (h : a.Adds b rs ls) (k : b.Adds c ss ms) :
    a.Adds c (ss ++ rs) (ms ++ ls) where
  grows := h.grows.trans k.grows
  perm := by
    have both := (h.append k).perm
    rw [Rose.preorderAll_append] at both ⊢
    exact List.perm_append_comm.trans both
  follows := Rose.followAll_append.mpr ⟨k.follows, h.follows.mono k.grows h.lt⟩
  labels := by rw [Rose.mapAll_append, Rose.mapAll_append, h.labels_mono k.grows, k.labels]

/-- A node on top of all that was added. -/
lemma push {x : Node} (h : a.Adds b rs ls) (children : x.children = rs.map Rose.label) :
    a.Adds (b.push x).1 [.node b.size rs] [.node x.label ls] where
  grows := h.grows.trans (b.extends_push x)
  perm := by
    have le := h.grows.size_le
    have ranges : List.range' a.size ((b.push x).1.size - a.size) =
        List.range' a.size (b.size - a.size) ++ [b.size] := by
      rw [size_push, Nat.succ_sub le, List.range'_1_concat, Nat.add_sub_cancel' le]
    rw [ranges]
    simp only [Rose.preorderAll, Rose.preorder, List.append_nil]
    exact (h.perm.cons b.size).trans (List.perm_append_singleton _ _).symm
  follows := by
    have top : (b.push x).1.children b.size = x.children := by
      simp [Arena.children, node?_push]
    exact ⟨⟨top.trans children, h.follows.mono (b.extends_push x) h.lt⟩, trivial⟩
  labels := by
    have top : (b.push x).1.label? b.size = some x.label := by
      simp [label?, node?_push]
    simp only [Rose.mapAll, Rose.map, top, h.labels_mono (b.extends_push x)]

end Adds

/-- From `a` to `b` the nested trees `ls` are added, with their tops at `ids`. -/
def Lays (a b : Arena) (ids : List NodeId) (ls : List (Rose Label)) : Prop :=
  ∃ rs, rs.map Rose.label = ids ∧ a.Adds b rs ls

namespace Lays

variable {a b c : Arena} {ids js : List NodeId} {ls ms : List (Rose Label)}

/-- Nothing is laid out for no trees. -/
lemma nil (a : Arena) : a.Lays a [] [] :=
  ⟨[], rfl, .nil a⟩

/-- What is laid out later has its trees after those that were there. -/
lemma append (h : a.Lays b ids ls) (k : b.Lays c js ms) : a.Lays c (ids ++ js) (ls ++ ms) := by
  obtain ⟨rs, rfl, adds⟩ := h
  obtain ⟨ss, rfl, adds'⟩ := k
  exact ⟨rs ++ ss, List.map_append, adds.append adds'⟩

/-- What is laid out later may have its trees before those that were there. -/
lemma append_before (h : a.Lays b ids ls) (k : b.Lays c js ms) :
    a.Lays c (js ++ ids) (ms ++ ls) := by
  obtain ⟨rs, rfl, adds⟩ := h
  obtain ⟨ss, rfl, adds'⟩ := k
  exact ⟨ss ++ rs, List.map_append, adds.append_before adds'⟩

/-- A node over what was laid out makes one tree of it. -/
lemma push {x : Node} (h : a.Lays b x.children ls) :
    a.Lays (b.push x).1 [(b.push x).2] [.node x.label ls] := by
  obtain ⟨rs, children, adds⟩ := h
  exact ⟨[.node b.size rs], rfl, adds.push children.symm⟩

/-- One tree, laid into an empty arena, is all that the arena holds. -/
lemma of_empty {n : NodeId} {l : Rose Label} (h : empty.Lays b [n] [l]) :
    b.ReadsAs n l ∧ ∃ ids, b.Unfolds n ids ∧ b.Covers ids := by
  obtain ⟨rs, tops, adds⟩ := h
  obtain ⟨r, rfl, rfl⟩ := List.map_eq_singleton_iff.mp tops
  have unfolds : b.Unfolds r.label r := ⟨rfl, adds.follows.1⟩
  have labels : r.map b.label? = l.map some := by
    injection adds.labels
  have perm := adds.perm
  refine ⟨⟨r, unfolds, labels⟩, r, unfolds, ?_⟩
  simpa [Covers, Rose.preorderAll, empty, size, List.range_eq_range'] using perm

end Lays

end Arena

namespace Document

/-- The nested tree of an at-rule has its parsed parameters before its nodes. -/
lemma nested_atRule (name : String) (params : Option (Content Document)) (raws : Raws)
    (nodes : List Document) :
    nested (.atRule name params raws nodes) =
      .node (.atRule name (Content.textOrEmpty params) (SourceText.writtenOption raws.params))
        (nestedContent params ++ nestedAll nodes) := by
  rcases params with _ | _ | params <;> rfl

mutual

/-- A document is laid out as its nested tree, on top of whatever the arena holds. -/
theorem layOut_lays (a : Arena) :
    (d : Document) → a.Lays (layOut a d).1 [(layOut a d).2] [nested d]
  | .root nodes => (layOutAll_lays a nodes).push
  | .declaration prop value raws => by
    simp only [layOut, nested, SourceText.bind_raw?]
    exact (layOutContent_lays a value).push
  | .atRule name params raws nodes => by
    simp only [layOut, nested_atRule, SourceText.bind_raw?]
    exact ((layOutContent_lays a params).append (layOutAll_lays _ nodes)).push
  | .rule selector raws nodes => by
    simp only [layOut, nested, Raws.selectorText_eq]
    exact (layOutAll_lays a nodes).push
  | .valueRoot group => (layOutOption_lays a group).push
  | .valueValue group => (layOutOption_lays a group).push
  | .commaGroup groups => (layOutAll_lays a groups).push
  | .parenGroup opening closing groups => by
    simp only [layOut, nested, SourceText.bind_raw?]
    exact (layOutAll_lays a groups).push
  | .function name group groups =>
    -- the other groups are added before the group that comes first among the children
    ((layOutAll_lays a groups).append_before (layOutOption_lays _ group)).push
  | .word value raws => (Arena.Lays.nil a).push
  | .operator value => (Arena.Lays.nil a).push
  | .colon => (Arena.Lays.nil a).push
  | .other name => (Arena.Lays.nil a).push

/-- Documents are laid out as their nested trees, in order. -/
theorem layOutAll_lays (a : Arena) :
    (ds : List Document) → a.Lays (layOutAll a ds).1 (layOutAll a ds).2 (nestedAll ds)
  | [] => .nil a
  | d :: ds => (layOut_lays a d).append (layOutAll_lays _ ds)

/-- A document that may be missing is laid out as its nested tree. -/
theorem layOutOption_lays (a : Arena) :
    (d : Option Document) →
      a.Lays (layOutOption a d).1 (layOutOption a d).2.toList (nestedOption d)
  | none => .nil a
  | some d => layOut_lays a d

/-- Of a value, the parsed part is laid out as its nested tree. -/
theorem layOutContent_lays (a : Arena) :
    (v : Option (Content Document)) →
      a.Lays (layOutContent a v).1 (layOutContent a v).2.toList (nestedContent v)
  | none => .nil a
  | some (.text _) => .nil a
  | some (.parsed d) => layOut_lays a d

end

end Document

end StyleTree
