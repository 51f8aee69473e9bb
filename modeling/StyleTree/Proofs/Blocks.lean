import StyleTree.Proofs.Literals
import StyleTree.Proofs.Walking

/-!
# The ids of a document that is laid out

Laying out a document adds as many nodes as it stands for, and they are what is below its top
(`Arena.Holds.block`). Wherever it stands in a larger document, it is laid out in one go: what is
added afterwards keeps the nodes that are there, so its ids stay a block. The parts are laid out one
after the other, so their blocks stand side by side (`Arena.Holds.below`), in the order of the parts
but for the group of a function. Going down from the root, the same is found at every node of a
loaded tree (`Tree.exists_part`), by induction on the places on the way.
-/

namespace StyleTree

namespace Rose

variable {α β : Type} {f : α → β}

mutual

/-- Relabelling a tree relabels its pre-order. -/
theorem preorder_map : (r : Rose α) → (r.map f).preorder = r.preorder.map f
  | .node n rs => by rw [map, preorder, preorder, List.map_cons, preorderAll_mapAll rs]

/-- Relabelling several trees relabels their pre-order. -/
theorem preorderAll_mapAll :
    (rs : List (Rose α)) → preorderAll (mapAll f rs) = (preorderAll rs).map f
  | [] => rfl
  | r :: rs => by
    rw [mapAll, preorderAll, preorderAll, List.map_append, preorder_map r, preorderAll_mapAll rs]

end

end Rose

namespace Arena

variable {a b c : Arena} {low mid high n m : NodeId} {ns ms : List NodeId}

/-- As many nodes are added as the nested trees have. -/
lemma Adds.size_eq {rs : List (Rose NodeId)} {ls : List (Rose Label)} (h : a.Adds b rs ls) :
    b.size = a.size + (Rose.preorderAll ls).length := by
  have ids : (Rose.preorderAll rs).length = b.size - a.size := by
    rw [h.perm.length_eq, List.length_range']
  have labels : (Rose.preorderAll rs).length = (Rose.preorderAll ls).length := by
    have same := congrArg (fun rs => (Rose.preorderAll rs).length) h.labels
    simpa only [Rose.preorderAll_mapAll, List.length_map] using same
  have le := h.grows.size_le
  omega

/-- The children of a node that was pushed. -/
lemma Extends.children_push {x : Node} (grows : (b.push x).1.Extends c) :
    c.children (b.push x).2 = x.children := by
  have lt : b.size < (b.push x).1.size := by simp
  rw [snd_push, grows.children_eq lt]
  simp [children, node?_push]

namespace Tiles

/-- Blocks that go on where others end go on from where these begin. -/
lemma append (first : a.Tiles low ns mid) (second : a.Tiles mid ms high) :
    a.Tiles low (ns ++ ms) high := by
  induction first with
  | nil => exact second
  | cons block _ ih => exact .cons block (ih second)

/-- A range that blocks tile ends no lower than it begins. -/
lemma le (tiles : a.Tiles low ns high) : low ≤ high := by
  induction tiles with
  | nil => exact Nat.le_refl _
  | cons block _ ih => exact Nat.le_trans block.low_le (Nat.le_of_succ_le ih)

/-- The tops of the blocks are inside of the range. -/
lemma lt (tiles : a.Tiles low ns high) : ∀ n ∈ ns, n < high := by
  induction tiles with
  | nil => simp
  | cons _ rest ih => exact List.forall_mem_cons.mpr ⟨rest.le, ih⟩

end Tiles

/-- The document was laid out from the id `low` on, with its top at `n`, and is still there. -/
def Holds (c : Arena) (low n : NodeId) (d : Document) : Prop :=
  ∃ a : Arena, a.size = low ∧ (d.layOut a).1.Extends c ∧ (d.layOut a).2 = n

/-- These documents are held with their tops at these nodes, and their blocks side by side. -/
structure HoldsAll (c : Arena) (low : NodeId) (ns : List NodeId) (ds : List Document)
    (high : NodeId) : Prop where
  each : List.Forall₂ (fun n d => ∃ low, c.Holds low n d) ns ds
  tiles : c.Tiles low ns high

end Arena

namespace Document

variable {a c : Arena}

/-- The top is the last node that is added. -/
lemma snd_layOut (a : Arena) (d : Document) : (d.layOut a).2 + 1 = (d.layOut a).1.size := by
  cases d <;> simp [layOut]

/-- Laying out a document adds as many nodes as the document stands for. -/
lemma size_layOut (a : Arena) (d : Document) :
    (d.layOut a).1.size = a.size + d.nodeCount := by
  obtain ⟨rs, _, adds⟩ := layOut_lays a d
  simpa [Rose.preorderAll, nodeCount] using adds.size_eq

/-- Laying out a document leaves the nodes alone that are there. -/
lemma extends_layOut (a : Arena) (d : Document) : a.Extends (d.layOut a).1 := by
  obtain ⟨rs, _, adds⟩ := layOut_lays a d
  exact adds.grows

/-- Laying out several documents leaves the nodes alone that are there. -/
lemma extends_layOutAll (a : Arena) (ds : List Document) : a.Extends (layOutAll a ds).1 := by
  obtain ⟨rs, _, adds⟩ := layOutAll_lays a ds
  exact adds.grows

end Document

namespace Arena

variable {a c : Arena} {low high n : NodeId} {ns : List NodeId} {d : Document}
  {ds : List Document}

namespace Holds

/-- The ids of a document are a block, with as many ids as the document has nodes. -/
lemma block (holds : c.Holds low n d) : c.Block low n ∧ low + d.nodeCount = n + 1 := by
  obtain ⟨a, rfl, grows, rfl⟩ := holds
  have count : a.size + d.nodeCount = (d.layOut a).2 + 1 := by
    rw [← d.size_layOut a, d.snd_layOut a]
  obtain ⟨rs, tops, adds⟩ := d.layOut_lays a
  obtain ⟨r, rfl, top⟩ := List.map_eq_singleton_iff.mp tops
  have one : Rose.preorderAll [r] = r.preorder := List.append_nil _
  have follows : r.Follows c := adds.follows.1.mono grows (one ▸ adds.lt)
  have reaches (m : NodeId) : c.Reaches (d.layOut a).2 m ↔ a.size ≤ m ∧ m ≤ (d.layOut a).2 := by
    rw [← top, ← follows.mem_preorder, ← one, adds.mem_iff, top, ← d.snd_layOut a,
      Nat.lt_succ_iff]
  exact ⟨⟨((reaches _).mp .start).1, reaches⟩, count⟩

end Holds

namespace HoldsAll

/-- No documents take up no ids. -/
lemma nil (c : Arena) (low : NodeId) : c.HoldsAll low [] [] low where
  each := .nil
  tiles := .nil low

/-- A document and those after it take up ids one after the other. -/
lemma cons (holds : c.Holds low n d) (rest : c.HoldsAll (n + 1) ns ds high) :
    c.HoldsAll low (n :: ns) (d :: ds) high where
  each := .cons ⟨low, holds⟩ rest.each
  tiles := .cons holds.block.1 rest.tiles

end HoldsAll

/-- Documents that are laid out one after the other are held side by side. -/
lemma holdsAll_layOutAll (ds : List Document) (grows : (Document.layOutAll a ds).1.Extends c) :
    c.HoldsAll a.size (Document.layOutAll a ds).2 ds (Document.layOutAll a ds).1.size := by
  induction ds generalizing a with
  | nil => exact .nil c a.size
  | cons d ds ih =>
    have first : c.Holds a.size (d.layOut a).2 d :=
      ⟨a, rfl, (Document.extends_layOutAll _ ds).trans grows, rfl⟩
    have rest := ih grows
    rw [← Document.snd_layOut] at rest
    exact .cons first rest

/-- A document that may be missing takes up the ids that it is laid out into. -/
lemma holdsAll_layOutOption (d : Option Document)
    (grows : (Document.layOutOption a d).1.Extends c) :
    c.HoldsAll a.size (Document.layOutOption a d).2.toList d.toList
      (Document.layOutOption a d).1.size := by
  cases d with
  | none => exact .nil c a.size
  | some d => exact holdsAll_layOutAll [d] grows

/-- What was laid out before a node was pushed, and in the order of its children, is below it. -/
lemma HoldsAll.below {b : Arena} {x : Node} (all : c.HoldsAll low x.children ds b.size)
    (grows : (b.push x).1.Extends c) :
    List.Forall₂ (fun m e => ∃ low, c.Holds low m e) (c.children (b.push x).2) ds ∧
      c.Tiles low (c.children (b.push x).2) (b.push x).2 := by
  rw [grows.children_push]
  exact ⟨all.each, all.tiles⟩

/--
The children of a document's top hold its parts, and their blocks make up all of the document's
block but the top.
-/
lemma Holds.below (holds : c.Holds low n d) :
    List.Forall₂ (fun m e => ∃ low, c.Holds low m e) (c.children n) d.parts ∧
      c.Tiles low (d.inLayingOrder (c.children n)) n := by
  obtain ⟨a, rfl, grows, rfl⟩ := holds
  have before {b : Arena} {x : Node} (grows : (b.push x).1.Extends c) : b.Extends c :=
    (b.extends_push x).trans grows
  cases d with
  | root nodes => exact (holdsAll_layOutAll nodes (before grows)).below grows
  | declaration prop value raws =>
    rcases value with _ | text | value
    · exact (HoldsAll.nil c a.size).below grows
    · exact (HoldsAll.nil c a.size).below grows
    · exact (holdsAll_layOutOption (some value) (before grows)).below grows
  | atRule name params raws nodes =>
    rcases params with _ | text | params
    · exact (holdsAll_layOutAll nodes (before grows)).below grows
    · exact (holdsAll_layOutAll nodes (before grows)).below grows
    · exact (holdsAll_layOutAll (params :: nodes) (before grows)).below grows
  | rule selector raws nodes => exact (holdsAll_layOutAll nodes (before grows)).below grows
  | valueRoot group | valueValue group =>
    exact (holdsAll_layOutOption group (before grows)).below grows
  | commaGroup groups | parenGroup _ _ groups =>
    exact (holdsAll_layOutAll groups (before grows)).below grows
  | function name group groups =>
    cases group with
    | none => exact (holdsAll_layOutAll groups (before grows)).below grows
    | some group =>
      -- the other groups were laid out before the group that is the first child
      have later : c.HoldsAll (Document.layOutAll a groups).1.size
          [(group.layOut (Document.layOutAll a groups).1).2] [group]
          (group.layOut (Document.layOutAll a groups).1).1.size :=
        holdsAll_layOutAll [group] (before grows)
      have earlier : c.HoldsAll a.size (Document.layOutAll a groups).2 groups
          (Document.layOutAll a groups).1.size :=
        holdsAll_layOutAll groups ((Document.extends_layOut _ group).trans (before grows))
      have children : c.children (Document.layOut a (.function name (some group) groups)).2 =
          (group.layOut (Document.layOutAll a groups).1).2 :: (Document.layOutAll a groups).2 :=
        grows.children_push
      rw [children]
      exact ⟨List.rel_append later.each earlier.each, earlier.tiles.append later.tiles⟩
  | word | operator | colon | other => exact (HoldsAll.nil c a.size).below grows

end Arena

namespace Tree

variable {t : Tree} {low n m : NodeId} {d : Document}

/-- A loaded tree holds the document in its text, and nothing more. -/
lemma exists_holds_of_load {text : String} (loaded : load text = .ok t) :
    ∃ d, Document.ofText text = .ok d ∧ t.Shows t.root d ∧ t.arena.Holds 0 t.root d ∧
      t.root + 1 = t.size := by
  cases read : Document.ofText text with
  | error e => simp [load, read] at loaded
  | ok d =>
    obtain ⟨t', built, shows, _⟩ := d.exists_toTree
    obtain rfl : t' = t := Except.ok.inj ((Document.load_of_ofText read built).symm.trans loaded)
    obtain ⟨arena, root⟩ := Arena.eq_of_finish built
    rw [size, arena, root]
    exact ⟨d, rfl, root ▸ shows, ⟨.empty, rfl, .refl _, rfl⟩, d.snd_layOut .empty⟩

/-- What is held by a node that is reached down some places is the part at these places. -/
lemma exists_part {places : List Nat} (holds : t.arena.Holds low n d)
    (along : t.childAlong? n places = some m) :
    ∃ e low, d.partAlong? places = some e ∧ t.arena.Holds low m e := by
  induction places generalizing low n d with
  | nil =>
    obtain rfl := Option.some.inj along
    exact ⟨d, low, rfl, holds⟩
  | cons i places ih =>
    obtain ⟨c, child, rest⟩ := childAlong?_cons.mp along
    obtain ⟨e, part, low', below⟩ : ∃ e, d.parts[i]? = some e ∧ ∃ low, t.arena.Holds low c e := by
      have rel := rel_getElem? holds.below.1 i
      rw [show (t.arena.children n)[i]? = some c from child] at rel
      generalize d.parts[i]? = part at rel ⊢
      cases rel with
      | some below => exact ⟨_, rfl, below⟩
    obtain ⟨f, low, path, held⟩ := ih below rest
    exact ⟨f, low, Document.partAlong?_cons.mpr ⟨e, part, path⟩, held⟩

/-- Every node is reached down some places. -/
lemma exists_childAlong? (lt : n < t.size) : ∃ places, t.childAlong? t.root places = some n := by
  have path := t.isRooted.reaches n lt
  induction path with
  | start => exact ⟨[], rfl⟩
  | @child p c _ child ih =>
    obtain ⟨places, along⟩ := ih (Arena.lt_of_mem_children child)
    obtain ⟨i, found⟩ := List.mem_iff_getElem?.mp child
    refine ⟨places ++ [i], ?_⟩
    rw [childAlong?_append along, childAlong?_cons]
    exact ⟨c, found, rfl⟩

end Tree

/--
Laying out a document keeps the nodes that are there and adds as many as the document stands for.
The last of them is its top, and they are the top and all that is below it. So in a loaded tree the
root has the last id, and children have smaller ids than their parents. Every node is at some
places below the root, and what the document has at these places is what the node shows: the ids of
its subtree are a block as long as that part has nodes, and up to the node itself the block is made
of the blocks of its children, one right after the other. They stand in the order of the children,
but if the part is a function with a group, then the group, which is the first child, has the last
of these blocks.
-/
theorem Document.layOut_in_blocks :
    (∀ (a : Arena) (d : Document),
        a.Extends (d.layOut a).1 ∧ (d.layOut a).1.size = a.size + d.nodeCount ∧
          (d.layOut a).2 + 1 = a.size + d.nodeCount ∧
          ∀ n, (d.layOut a).1.Reaches (d.layOut a).2 n ↔
            a.size ≤ n ∧ n < a.size + d.nodeCount) ∧
      ∀ text t, load text = .ok t →
        ∃ d, ofText text = .ok d ∧ t.size = d.nodeCount ∧ t.root + 1 = t.size ∧
          (∀ p c, c ∈ t.children p → c < p) ∧
          (∀ n, t.has n → ∃ places, t.childAlong? t.root places = some n) ∧
          ∀ places n, t.childAlong? t.root places = some n →
            ∃ e low, d.partAlong? places = some e ∧ t.Shows n e ∧ low + e.nodeCount = n + 1 ∧
              t.arena.Block low n ∧ t.arena.Tiles low (e.inLayingOrder (t.children n)) n := by
  refine ⟨?_, ?_⟩
  · intro a d
    have holds : (d.layOut a).1.Holds a.size (d.layOut a).2 d := ⟨a, rfl, .refl _, rfl⟩
    obtain ⟨block, count⟩ := holds.block
    refine ⟨extends_layOut a d, size_layOut a d, count.symm, ?_⟩
    intro n
    rw [block.reaches_iff, count, Nat.lt_succ_iff]
  · intro text t loaded
    obtain ⟨d, read, shows, holds, last⟩ := Tree.exists_holds_of_load loaded
    have part {places : List Nat} {n : NodeId} (along : t.childAlong? t.root places = some n) :
        ∃ e low, d.partAlong? places = some e ∧ t.arena.Holds low n e :=
      Tree.exists_part holds along
    refine ⟨d, read, ?_, last, ?_, ?_, ?_⟩
    · rw [← last, ← holds.block.2, Nat.zero_add]
    · intro p c child
      obtain ⟨places, along⟩ := Tree.exists_childAlong? (Arena.lt_of_mem_children child)
      obtain ⟨e, low, _, held⟩ := part along
      exact held.below.2.lt c (mem_inLayingOrder.mpr child)
    · intro n has
      exact Tree.exists_childAlong? (Tree.has_iff.mp has)
    · intro places n along
      obtain ⟨e, low, found, held⟩ := part along
      obtain ⟨m, along', shown, _⟩ := shows.exists_childAlong? found
      obtain rfl : n = m := Option.some.inj (along.symm.trans along')
      exact ⟨e, low, found, shown, held.block.2, held.block.1, held.below.2⟩

/-- A function with a group of two nodes, which come after those of the other groups. -/
def Document.lateGroup : Document :=
  .function "f" (some (.commaGroup [.colon])) [.colon, .operator "+"]

/-- In `lateGroup` as a value, the group is the first child and its block is the last. -/
theorem Document.layOut_in_blocks_function :
    ∃ t, load "[5,[8,\"f\",[6,[[11]]],[[11],[10,\"+\"]]]]" = .ok t ∧ t.root + 1 = t.size ∧
      t.children 4 = [3, 0, 1] ∧ t.Shows 4 lateGroup ∧ t.arena.Block 0 4 ∧
      t.arena.Tiles 0 [0, 1, 3] 4 := by
  have read : ofText "[5,[8,\"f\",[6,[[11]]],[[11],[10,\"+\"]]]]" =
      .ok (.valueValue (some lateGroup)) := by
    cbv
  obtain ⟨t, built, _⟩ := (Document.valueValue (some lateGroup)).exists_toTree
  obtain ⟨arena, root⟩ := Arena.eq_of_finish built
  have loaded := load_of_ofText read built
  obtain ⟨d, read', _, last, _, _, at_places⟩ := layOut_in_blocks.2 _ t loaded
  obtain rfl := Except.ok.inj (read.symm.trans read')
  have children : t.children 4 = [3, 0, 1] := by
    rw [Tree.children, arena]
    decide
  have top : t.child? t.root 0 = some 4 := by
    rw [Tree.child?, Tree.children, arena, root]
    decide
  have along : t.childAlong? t.root [0] = some 4 := Tree.childAlong?_cons.mpr ⟨4, top, rfl⟩
  obtain ⟨e, low, part, shown, count, block, tiles⟩ := at_places [0] 4 along
  obtain rfl : lateGroup = e := Option.some.inj part
  obtain rfl : low = 0 := Nat.add_right_cancel (show low + 5 = 0 + 5 from count)
  rw [children] at tiles
  exact ⟨t, loaded, last, children, shown, block, tiles⟩

end StyleTree
