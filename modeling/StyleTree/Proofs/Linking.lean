import Mathlib.Data.List.Nodup
import StyleTree.Tree.Rooted

/-!
# Linking children to their parents

The parent links are filled edge by edge. One edge can be linked exactly when its child exists and
has no parent yet (`link_eq_ok`); a list of edges can be linked exactly when this holds of every
child and no child is repeated (`exists_foldlM_link`). What the links say afterwards is what they
said before and what the edges add (`parent_of_foldlM_link`). For the edges of an arena this makes
links and lists of children two forms of one relation (`parentLinks_eq_some`).
-/

namespace StyleTree

namespace ParentLinks

/-- An edge is linked exactly when its child exists and has no parent yet. -/
lemma link_eq_ok {links links' : ParentLinks} {e : NodeId × NodeId} :
    links.link e = .ok links' ↔
      links[e.2]? = some none ∧ links' = links.setIfInBounds e.2 (some e.1) := by
  unfold link
  rcases links[e.2]? with _ | _ | parent
  · simp
  · simp [eq_comm]
  · simp

/-- One link adds one parent. -/
lemma parent_of_link {links links' : ParentLinks} {e : NodeId × NodeId} {c p : NodeId}
    (h : links.link e = .ok links') :
    links'[c]? = some (some p) ↔ links[c]? = some (some p) ∨ (p, c) = e := by
  obtain ⟨free, rfl⟩ := link_eq_ok.mp h
  obtain ⟨lt, no_parent⟩ := Array.getElem?_eq_some_iff.mp free
  rw [Array.getElem?_setIfInBounds]
  by_cases same : e.2 = c
  · subst same
    simp [lt, no_parent, Prod.ext_iff, eq_comm]
  · simp [same, Prod.ext_iff, eq_comm]

/-- One link takes one node from those without a parent. -/
lemma free_of_link {links links' : ParentLinks} {e : NodeId × NodeId} {c : NodeId}
    (h : links.link e = .ok links') :
    links'[c]? = some none ↔ links[c]? = some none ∧ c ≠ e.2 := by
  obtain ⟨free, rfl⟩ := link_eq_ok.mp h
  obtain ⟨lt, _⟩ := Array.getElem?_eq_some_iff.mp free
  rw [Array.getElem?_setIfInBounds]
  by_cases same : e.2 = c
  · simp [same]
  · simp [same, Ne.symm same]

/-- Several edges are linked one after the other. -/
lemma foldlM_link_cons {links links' : ParentLinks} {e : NodeId × NodeId}
    {es : List (NodeId × NodeId)} :
    (e :: es).foldlM link links = .ok links' ↔
      ∃ next, links.link e = .ok next ∧ es.foldlM link next = .ok links' := by
  rw [List.foldlM_cons]
  rcases links.link e with _ | next <;> simp [bind, Except.bind]

/-- Several edges are linked exactly when their children are free, and all different. -/
lemma exists_foldlM_link {es : List (NodeId × NodeId)} {links : ParentLinks} :
    (∃ links', es.foldlM link links = .ok links') ↔
      (∀ c ∈ es.map (·.2), links[c]? = some none) ∧ (es.map (·.2)).Nodup := by
  induction es generalizing links with
  | nil => simp [pure, Except.pure]
  | cons e es ih =>
    rw [List.map_cons, List.nodup_cons, List.forall_mem_cons]
    refine ⟨?_, ?_⟩
    · intro h
      obtain ⟨links', h⟩ := h
      obtain ⟨next, first, rest⟩ := foldlM_link_cons.mp h
      obtain ⟨free, distinct⟩ := ih.mp ⟨links', rest⟩
      refine ⟨⟨(link_eq_ok.mp first).1, ?_⟩, ?_, distinct⟩
      · intro c mem
        exact ((free_of_link first).mp (free c mem)).1
      · -- once linked, the first child is not free for any later edge
        intro mem
        exact ((free_of_link first).mp (free e.2 mem)).2 rfl
    · intro h
      obtain ⟨⟨free, others⟩, fresh, distinct⟩ := h
      have first : links.link e = .ok (links.setIfInBounds e.2 (some e.1)) :=
        link_eq_ok.mpr ⟨free, rfl⟩
      have still_free : ∀ c ∈ es.map (·.2),
          (links.setIfInBounds e.2 (some e.1))[c]? = some none := by
        intro c mem
        apply (free_of_link first).mpr
        exact ⟨others c mem, fun same => fresh (same ▸ mem)⟩
      obtain ⟨links', rest⟩ := ih.mpr ⟨still_free, distinct⟩
      exact ⟨links', foldlM_link_cons.mpr ⟨_, first, rest⟩⟩

/-- From no links at all, edges are linked exactly when they lead to different nodes. -/
lemma exists_foldlM_link_replicate {es : List (NodeId × NodeId)} {size : Nat} :
    (∃ links, es.foldlM link (Array.replicate size none) = .ok links) ↔
      (∀ c ∈ es.map (·.2), c < size) ∧ (es.map (·.2)).Nodup := by
  rw [exists_foldlM_link]
  simp [Array.getElem?_replicate]

/-- After several edges a node has the parent that it had or that one of the edges gives it. -/
lemma parent_of_foldlM_link {es : List (NodeId × NodeId)} {links links' : ParentLinks}
    {c p : NodeId} (h : es.foldlM link links = .ok links') :
    links'[c]? = some (some p) ↔ links[c]? = some (some p) ∨ (p, c) ∈ es := by
  induction es generalizing links with
  | nil =>
    cases h
    simp
  | cons e es ih =>
    obtain ⟨next, first, rest⟩ := foldlM_link_cons.mp h
    rw [ih rest, parent_of_link first, List.mem_cons, or_assoc]

/-- Linking edges changes nothing in the number of links. -/
lemma size_of_foldlM_link {es : List (NodeId × NodeId)} {links links' : ParentLinks}
    (h : es.foldlM link links = .ok links') : links'.size = links.size := by
  induction es generalizing links with
  | nil =>
    cases h
    rfl
  | cons e es ih =>
    obtain ⟨next, first, rest⟩ := foldlM_link_cons.mp h
    obtain ⟨_, rfl⟩ := link_eq_ok.mp first
    rw [ih rest, Array.size_setIfInBounds]

end ParentLinks

namespace Arena

variable {a : Arena} {links : ParentLinks} {p c : NodeId}

/-- An arena can be linked exactly when its references lead to nodes and repeat none. -/
lemma exists_parentLinks :
    (∃ links, a.parentLinks = .ok links) ↔
      (∀ c ∈ a.references, c < a.size) ∧ a.references.Nodup := by
  unfold parentLinks
  rw [ParentLinks.exists_foldlM_link_replicate, map_snd_edges]

/-- There are as many links as there are nodes. -/
lemma size_parentLinks (h : a.parentLinks = .ok links) : links.size = a.size := by
  rw [ParentLinks.size_of_foldlM_link h, Array.size_replicate]

/-- A node is linked to the nodes that name it as their child. -/
lemma parentLinks_eq_some (h : a.parentLinks = .ok links) :
    links[c]? = some (some p) ↔ c ∈ a.children p := by
  rw [ParentLinks.parent_of_foldlM_link h, mem_edges]
  simp [Array.getElem?_replicate]

/-- A node is linked to none exactly when nothing refers to it. -/
lemma parentLinks_eq_none (h : a.parentLinks = .ok links) :
    links[c]? = some none ↔ c < a.size ∧ c ∉ a.references := by
  rw [mem_references]
  refine ⟨?_, ?_⟩
  · intro free
    obtain ⟨lt, _⟩ := Array.getElem?_eq_some_iff.mp free
    refine ⟨size_parentLinks h ▸ lt, ?_⟩
    intro named
    obtain ⟨p, child⟩ := named
    rw [(parentLinks_eq_some h).mpr child] at free
    cases free
  · intro h'
    obtain ⟨lt, unnamed⟩ := h'
    rw [← size_parentLinks h] at lt
    cases linked : links[c]? with
    | none => exact absurd linked (by simp [lt])
    | some parent =>
      cases parent with
      | none => rfl
      | some p => exact absurd ⟨p, (parentLinks_eq_some h).mp linked⟩ unnamed

end Arena

end StyleTree
