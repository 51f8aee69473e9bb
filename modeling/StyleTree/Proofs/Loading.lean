import Mathlib
import StyleTree.Load
import StyleTree.Proofs.Finish
import StyleTree.Proofs.Layout

/-!
# Loading documents

A document that was read is never refused afterwards. Laid out into an empty arena it covers the
arena with its nested tree, and an arena that is covered passes all checks
(`Document.exists_toTree`). So a text is loaded exactly when it is read, and the tree that is
loaded, followed down from its root, is the nested tree of the document.
-/

namespace StyleTree

namespace Document

/-- Every document becomes a tree, and that tree reads as the document's nested tree. -/
lemma exists_toTree (d : Document) :
    ∃ t, d.toTree = .ok t ∧ t.arena.ReadsAs t.root d.nested ∧
      ∃ ids, t.arena.Unfolds t.root ids ∧ t.arena.Covers ids := by
  obtain ⟨reads, ids, unfolds, covers⟩ := (layOut_lays .empty d).of_empty
  obtain ⟨t, finished⟩ := (covers.isRooted unfolds).exists_finish
  obtain ⟨arena, root⟩ := Arena.eq_of_finish finished
  refine ⟨t, finished, ?_⟩
  rw [arena, root]
  exact ⟨reads, ids, unfolds, covers⟩

/-- A text that holds a document is loaded as the tree of the document. -/
lemma load_of_ofText {text : String} {d : Document} {t : Tree} (read : ofText text = .ok d)
    (h : d.toTree = .ok t) : load text = .ok t := by
  simp only [load, read, h]
  rfl

/-- A text holds a document when it is well formed, nothing follows, and its value is a node. -/
lemma ofText_eq_ok {text : String} {d : Document} :
    ofText text = .ok d ↔
      ∃ source, Json.parse text = .ok source ∧ source.trailing = false ∧
        ofJson? source.document = some d := by
  rw [ofText]
  cases Json.parse text with
  | error fault => simp
  | ok source =>
    cases found : ofJson? source.document with
    | none => simp [found]
    | some d' => cases trailing : source.trailing <;> simp [found, trailing]

/--
Every document becomes a tree. Followed down from its root the tree reads as the nested tree of the
document and as nothing else, and every node is met once on the way. Any text that holds the
document is loaded as this tree.
-/
theorem toTree_reads_nested (d : Document) :
    ∃ t, d.toTree = .ok t ∧
      (∀ r, t.arena.ReadsAs t.root r ↔ r = d.nested) ∧
      (∃ ids, t.arena.Unfolds t.root ids ∧ t.arena.Covers ids) ∧
      ∀ text, ofText text = .ok d → load text = .ok t := by
  obtain ⟨t, h, reads, covered⟩ := d.exists_toTree
  refine ⟨t, h, ?_, covered, fun text read => load_of_ofText read h⟩
  intro r
  refine ⟨?_, ?_⟩
  · intro reads'
    exact reads'.unique reads
  · intro same
    rw [same]
    exact reads

/-- A function written as an array: its group comes first. -/
theorem toTree_reads_nested_function :
    ∃ t, load "[\"value-func\", \"f\", [\"x\"], [[\"value-colon\"]]]" = .ok t ∧
      t.arena.ReadsAs t.root
        (.node (.function "f") [.node (.other "x") [], .node .colon []]) := by
  obtain ⟨t, _, reads, _, loads⟩ :=
    toTree_reads_nested (.function "f" (some (.other "x")) [.colon])
  exact ⟨t, loads _ (by cbv), (reads _).mpr rfl⟩

end Document

/--
No document is refused by the checks on its tree. A text is loaded, or the error is about the text;
and it is loaded exactly when it is one well-formed value, with nothing after it, that is a node.
-/
theorem load_fails_on_text_only :
    (∀ d : Document, ∃ t, d.toTree = .ok t) ∧
      ∀ text,
        ((∃ t, load text = .ok t) ∨ ∃ e, load text = .error (.document e)) ∧
        ((∃ t, load text = .ok t) ↔
          ∃ source, Json.parse text = .ok source ∧ source.trailing = false ∧
            ∃ d, Document.ofJson? source.document = some d) := by
  have loads {text d} (read : Document.ofText text = .ok d) : ∃ t, load text = .ok t := by
    obtain ⟨t, h, _⟩ := d.exists_toTree
    exact ⟨t, Document.load_of_ofText read h⟩
  refine ⟨fun d => ?_, fun text => ⟨?_, ?_⟩⟩
  · obtain ⟨t, h, _⟩ := d.exists_toTree
    exact ⟨t, h⟩
  · cases read : Document.ofText text with
    | ok d => exact .inl (loads read)
    | error e => exact .inr ⟨e, by simp only [load, read]⟩
  · refine ⟨?_, ?_⟩
    · intro h
      obtain ⟨t, h⟩ := h
      cases read : Document.ofText text with
      | ok d =>
        obtain ⟨source, parsed, alone, node⟩ := Document.ofText_eq_ok.mp read
        exact ⟨source, parsed, alone, d, node⟩
      | error e =>
        simp only [load, read] at h
        cases h
    · intro h
      obtain ⟨source, parsed, alone, d, node⟩ := h
      exact loads (Document.ofText_eq_ok.mpr ⟨source, parsed, alone, node⟩)

end StyleTree
