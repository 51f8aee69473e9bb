import StyleTree.Dialect
import StyleTree.Proofs.AsciiCase

/-!
# Choosing a dialect by the path

The extension of a path is what follows its last full stop (`extension_eq_iff`), and all of a path
that has none (`extension_of_not_mem`). It is lower-cased and looked up among the known extensions.
None of them has a letter that a character beyond ASCII is lower-cased to, so the look-up finds what
a comparison of the letters of ASCII would find (`lookup_lowercase_iff`). In this way a dialect is
found by its name, too (`ofName_eq_ok_iff`), and the extensions are the names and two more
(`mem_extensions_iff`).
-/

namespace StyleTree.Dialect

open Text

variable {path p e : List Char} {d d' : Dialect} {s w : String}

/-- As an extension the text means the dialect: it is its name, or for CSS one of PostCSS. -/
def Means (s : String) (d : Dialect) : Prop :=
  ofName s = .ok d ∨ d = .css ∧ (sameFold "pcss" s = true ∨ sameFold "postcss" s = true)

/-- A text without a full stop has no character that is one. -/
lemma ne_stop (bare : '.' ∉ e) : ∀ c ∈ e, (c != '.') = true := by
  intro c mem
  rw [bne_iff_ne]
  rintro rfl
  exact bare mem

/-- The extension is the longest end of a path without a full stop. -/
lemma extension_eq_rtakeWhile (path : List Char) :
    extension path = path.rtakeWhile (· != '.') := rfl

/-- A path without a full stop is taken for its own extension. -/
lemma extension_of_not_mem (bare : '.' ∉ path) : extension path = path := by
  rw [extension_eq_rtakeWhile, List.rtakeWhile_eq_self_iff]
  exact ne_stop bare

/-- The extension of a path is what follows its last full stop. -/
lemma extension_append (bare : '.' ∉ e) : extension (p ++ '.' :: e) = e := by
  have kept : ∀ c ∈ e.reverse, (c != '.') = true := ne_stop (mt List.mem_reverse.mp bare)
  have stop : ('.' :: p.reverse).takeWhile (· != '.') = [] := rfl
  rw [extension, List.reverse_append, List.reverse_cons, List.append_assoc,
    List.takeWhile_append_of_pos kept, List.singleton_append, stop, List.append_nil,
    List.reverse_reverse]

/-- The extension of a path with a full stop is the one text that follows the last of these. -/
lemma extension_eq_iff (dotted : '.' ∈ path) :
    extension path = e ↔ ∃ p, path = p ++ '.' :: e ∧ '.' ∉ e := by
  refine ⟨?_, ?_⟩
  · rintro rfl
    obtain ⟨after, before, split, bare⟩ := List.eq_append_cons_of_mem (List.mem_reverse.mpr dotted)
    have split' : path = before.reverse ++ '.' :: after.reverse := by
      rw [← List.reverse_reverse path, split]
      simp
    have bare' : '.' ∉ after.reverse := mt List.mem_reverse.mp bare
    rw [split', extension_append bare']
    exact ⟨before.reverse, rfl, bare'⟩
  · intro h
    obtain ⟨p, rfl, bare⟩ := h
    exact extension_append bare

/-- No two dialects have names that fold to the same. -/
lemma eq_of_foldAscii_name (same : foldAscii d.name = foldAscii d'.name) : d = d' := by
  revert same
  cases d <;> cases d' <;> decide

/-- A name in any letter case gives the dialect that has it. -/
lemma ofName_eq_ok_iff : ofName s = .ok d ↔ sameFold d.name s = true := by
  rw [ofName]
  cases found : all.find? fun d => sameFold d.name s with
  | none =>
    have mem : d ∈ all := by cases d <;> decide
    have other := List.find?_eq_none.mp found d mem
    exact iff_of_false nofun other
  | some d' =>
    obtain ⟨same, _⟩ := List.find?_eq_some_iff_append.mp found
    refine ⟨?_, ?_⟩
    · intro own
      cases own
      exact same
    · intro own
      rw [sameFold_iff] at same own
      rw [eq_of_foldAscii_name (same.trans own.symm)]

/-- Every extension that is known is written in small letters of ASCII. -/
lemma isSmall_extensions :
    (extensions.all fun entry => entry.1.toList.all fun c => decide (IsSmall c)) = true := by
  decide +kernel

/-- The extensions of a dialect are its name, and two more for plain CSS. -/
lemma mem_extensions_iff :
    (w, d) ∈ extensions ↔ w = d.name ∨ d = .css ∧ (w = "pcss" ∨ w = "postcss") := by
  cases d <;> simp [extensions, name]

/-- No text has two entries among the extensions, so each is found. -/
lemma lookup_extensions_iff : extensions.lookup w = some d ↔ (w, d) ∈ extensions := by
  refine ⟨?_, ?_⟩
  · intro found
    obtain ⟨before, after, split, _⟩ := List.lookup_eq_some_iff.mp found
    rw [split]
    exact List.mem_append_right before List.mem_cons_self
  · intro mem
    rw [mem_extensions_iff] at mem
    rcases mem with rfl | ⟨rfl, rfl | rfl⟩
    · cases d <;> rfl
    · rfl
    · rfl

/-- Lower-cased, a text is found when it is one of the extensions up to letters of ASCII. -/
lemma lookup_lowercase_iff :
    extensions.lookup (lowercase s) = some d ↔ ∃ w, (w, d) ∈ extensions ∧ sameFold w s = true := by
  have small : ∀ w d, (w, d) ∈ extensions → ∀ c ∈ w.toList, IsSmall c := by
    simpa using isSmall_extensions
  rw [lookup_extensions_iff]
  refine ⟨?_, ?_⟩
  · intro mem
    -- the word that was found is the text in lower case
    exact ⟨_, mem, (sameFold_small (small _ _ mem)).mpr rfl⟩
  · intro h
    obtain ⟨w, mem, same⟩ := h
    rw [(sameFold_small (small _ _ mem)).mp same]
    exact mem

/-- A text means a dialect when it is one of its extensions in some letter case. -/
lemma means_iff : Means s d ↔ ∃ w, (w, d) ∈ extensions ∧ sameFold w s = true := by
  simp only [Means, ofName_eq_ok_iff, mem_extensions_iff]
  refine ⟨?_, ?_⟩
  · intro h
    rcases h with same | ⟨rfl, same | same⟩
    · exact ⟨_, .inl rfl, same⟩
    · exact ⟨_, .inr ⟨rfl, .inl rfl⟩, same⟩
    · exact ⟨_, .inr ⟨rfl, .inr rfl⟩, same⟩
  · intro h
    obtain ⟨_, rfl | ⟨css, rfl | rfl⟩, same⟩ := h
    · exact .inl same
    · exact .inr ⟨css, .inl same⟩
    · exact .inr ⟨css, .inr same⟩

/-- The dialect of a path is the one that its extension means. -/
lemma ofPath?_eq_some_iff_means :
    ofPath? s = some d ↔ Means (String.ofList (extension s.toList)) d := by
  rw [ofPath?, lookup_lowercase_iff, means_iff]

/--
A path with a full stop is of a dialect exactly when what follows the last one means this dialect,
and it is of no other. A path without a full stop is of the dialect that all of it means.
-/
theorem path_by_extension (path : String) (d : Dialect) :
    ('.' ∈ path.toList →
        (ofPath? path = some d ↔
          ∃ p e, path = p ++ "." ++ e ∧ '.' ∉ e.toList ∧ Means e d)) ∧
      ('.' ∉ path.toList → (ofPath? path = some d ↔ Means path d)) := by
  rw [ofPath?_eq_some_iff_means]
  refine ⟨?_, ?_⟩
  · intro dotted
    refine ⟨?_, ?_⟩
    · intro means
      generalize ext : extension path.toList = e at means
      obtain ⟨p, split, bare⟩ := (extension_eq_iff dotted).mp ext
      refine ⟨String.ofList p, String.ofList e, ?_, ?_, means⟩
      · rw [← String.toList_inj, split]
        simp
      · rwa [String.toList_ofList]
    · intro h
      obtain ⟨p, e, split, bare, means⟩ := h
      have ext : extension path.toList = e.toList :=
        (extension_eq_iff dotted).mpr ⟨p.toList, by simp [split], bare⟩
      rwa [ext, String.ofList_toList]
  · intro bare
    rw [extension_of_not_mem bare, String.ofList_toList]

/-- Of two full stops the last one counts, and a path without one is looked up as it is. -/
theorem path_by_extension_stops :
    '.' ∈ "theme.d/_vars.SCSS".toList ∧ ofPath? "theme.d/_vars.SCSS" = some .scss ∧
      '.' ∉ "PostCSS".toList ∧ ofPath? "PostCSS" = some .css := by
  have dotted : '.' ∈ "theme.d/_vars.SCSS".toList := by decide
  have bare : '.' ∉ "PostCSS".toList := by decide
  obtain ⟨by_extension, _⟩ := path_by_extension "theme.d/_vars.SCSS" .scss
  obtain ⟨_, by_all⟩ := path_by_extension "PostCSS" .css
  refine ⟨dotted, (by_extension dotted).mpr ?_, bare, (by_all bare).mpr ?_⟩
  · exact ⟨"theme.d/_vars", "SCSS", by decide, by decide, .inl rfl⟩
  · exact .inr ⟨rfl, .inr (by decide)⟩

/-- Not every path of a dialect has an extension: `css` has none. -/
theorem not_every_dialect_has_extension :
    ¬ ∀ (path : String) (d : Dialect),
      ofPath? path = some d ↔ ∃ p e, path = p ++ "." ++ e ∧ '.' ∉ e.toList ∧ Means e d := by
  intro every
  have found : ofPath? "css" = some .css := ofPath?_eq_some_iff_means.mpr (.inl rfl)
  obtain ⟨p, e, split, _⟩ := (every "css" .css).mp found
  have dotted : '.' ∈ (p ++ "." ++ e).toList := by simp
  rw [← split] at dotted
  exact absurd dotted (by decide)

end StyleTree.Dialect
