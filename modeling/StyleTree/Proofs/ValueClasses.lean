import Mathlib.Data.List.Nodup
import Mathlib.Data.List.Pairwise
import Mathlib.Tactic.Lemma
import StyleTree.Proofs.Ancestry
import StyleTree.Value.Class

/-!
# Classes of values do not conflict

The test of each class finds its members (`admits_iff`), so the classes of a node are known from the
rules of membership. Two rules apply to the same node only when it is a word or a group in
parentheses. No word is listed twice (`nodup_words`), hence a word is in one class at most, and so
is every other node but the group that holds keys and values (`Belongs.eq_or_container`).
-/

namespace StyleTree

namespace ValueClass

variable {c d : ValueClass} {value : String}

/-- Every class is in the list of all. -/
lemma mem_all (c : ValueClass) : c ∈ all := by
  cases c <;> decide

/-- The list of all classes repeats none. -/
lemma nodup_all : all.Nodup := by
  decide

/-- No word is listed twice, neither in one class nor in two. -/
lemma nodup_words : (all.flatMap words).Nodup := by
  decide

/-- No word is one of two classes. -/
lemma eq_of_mem_words (mem : value ∈ c.words) (mem' : value ∈ d.words) : c = d := by
  by_contra ne
  obtain ⟨_, apart⟩ := List.nodup_flatMap.mp nodup_words
  have symm : Std.Symm (Function.onFun List.Disjoint words) := ⟨fun _ _ h => List.disjoint_symm h⟩
  exact apart.forall (mem_all c) (mem_all d) ne mem mem'

end ValueClass

namespace Tree

variable {t : Tree} {n : NodeId} {x : Node} {c d : ValueClass}

/-- A node is found to be of its own kind. -/
lemma isKind_iff {kind : Kind} (found : t.node? n = some x) :
    t.isKind n kind = true ↔ x.kind = kind := by
  rw [isKind, kind?, found, Option.map_some, beq_iff_eq, Option.some_inj]

/-- A colon is found where there is one. -/
lemma isKind_colon_iff : t.isKind n .colon = true ↔ t.node? n = some .colon := by
  refine ⟨?_, ?_⟩
  · intro isKind
    obtain ⟨x, found, kind⟩ := exists_of_isKind isKind
    cases x with
    | colon => exact found
    | _ => cases kind
  · intro found
    exact (isKind_iff found).mpr rfl

/-- A key and a value are found by the second child of a comma group. -/
lemma isKeyValuePair_eq (found : t.node? n = some x) :
    t.isKeyValuePair n = (t.isKind n .commaGroup && x.children[1]?.any (t.isKind · .colon)) := by
  rw [isKeyValuePair, child?, children_eq found]

/-- Keys and values in parentheses are found by the first child of the group. -/
lemma isKeyValueContainer_eq (found : t.node? n = some x) :
    t.isKeyValueContainer n = (t.isKind n .parenGroup && x.children[0]?.any t.isKeyValuePair) := by
  rw [isKeyValueContainer, isParenGroup, child?, children_eq found]

/-- A class of words is tested by its words. -/
lemma admits_of_words (words : c.words ≠ []) :
    c.admits t n = t.holds (Node.isWordIn c.words) n := by
  cases c with
  | forKeyword | logicalKeyword | eachKeyword | equalityOperator | relationalOperator => rfl
  | _ => exact absurd rfl words

/-- A member of a class passes the test of the class. -/
lemma Belongs.admits (belongs : t.Belongs x c) (found : t.node? n = some x) :
    c.admits t n = true := by
  -- a container is one by the pair that it begins with, hence the induction
  induction belongs generalizing n with
  | word mem =>
    rw [admits_of_words (List.ne_nil_of_mem mem), holds_eq found]
    exact List.contains_iff_mem.mpr mem
  | operator mem => exact (holds_eq found).trans (List.contains_iff_mem.mpr mem)
  | parens => exact (isKind_iff found).mpr rfl
  | url fold => exact (holds_eq found).trans fold
  | pair colon =>
    refine (isKeyValuePair_eq found).trans ?_
    rw [Bool.and_eq_true, isKind_iff found]
    exact ⟨rfl, isKind_colon_iff.mpr colon⟩
  | container entry _ ih =>
    refine (isKeyValueContainer_eq found).trans ?_
    rw [Bool.and_eq_true, isKind_iff found]
    exact ⟨rfl, ih entry⟩

/-- What is found to be a key and a value is a member of that class. -/
lemma belongs_of_isKeyValuePair (found : t.node? n = some x) (pair : t.isKeyValuePair n) :
    t.Belongs x .keyValuePair := by
  rw [isKeyValuePair_eq found, Bool.and_eq_true, isKind_iff found] at pair
  obtain ⟨kind, second⟩ := pair
  cases x with
  | commaGroup groups =>
    match groups, second with
    | key :: sep :: rest, colon => exact .pair (isKind_colon_iff.mp colon)
  | _ => cases kind

/-- What is found to hold keys and values is a member of that class. -/
lemma belongs_of_isKeyValueContainer (found : t.node? n = some x)
    (container : t.isKeyValueContainer n) : t.Belongs x .keyValueContainer := by
  rw [isKeyValueContainer_eq found, Bool.and_eq_true, isKind_iff found] at container
  obtain ⟨kind, entry⟩ := container
  cases x with
  | parenGroup opening closing groups =>
    match groups, entry with
    | first :: rest, pair =>
      obtain ⟨comma, _⟩ := Bool.and_eq_true_iff.mp pair
      obtain ⟨y, found', _⟩ := exists_of_isKind comma
      exact .container found' (belongs_of_isKeyValuePair found' pair)
  | _ => cases kind

/-- What passes the test of a class is a member of it. -/
lemma belongs_of_admits (found : t.node? n = some x) (admits : c.admits t n = true) :
    t.Belongs x c := by
  -- the classes of words are alike, each of the others has a test of its own
  by_cases words : c.words = []
  · cases c with
    | arithmeticOperator =>
      have listed := (holds_eq found).symm.trans admits
      cases x with
      | operator value => exact .operator (List.contains_iff_mem.mp listed)
      | _ => cases listed
    | urlFunction =>
      have named := (holds_eq found).symm.trans admits
      cases x with
      | function name args => exact .url named
      | _ => cases named
    | parenGroup =>
      have kind := (isKind_iff found).mp admits
      cases x with
      | parenGroup opening closing groups => exact .parens
      | _ => cases kind
    | keyValuePair => exact belongs_of_isKeyValuePair found admits
    | keyValueContainer => exact belongs_of_isKeyValueContainer found admits
    | _ => cases words
  · rw [admits_of_words words, holds_eq found] at admits
    cases x with
    | word value before => exact .word (List.contains_iff_mem.mp admits)
    | _ => cases admits

/-- The test of a class finds the members of the class. -/
lemma admits_iff (found : t.node? n = some x) : c.admits t n = true ↔ t.Belongs x c :=
  ⟨belongs_of_admits found, fun belongs => belongs.admits found⟩

/-- The classes that are collected are those of which the node is a member. -/
lemma mem_valueClasses_iff (found : t.node? n = some x) : c ∈ t.valueClasses n ↔ t.Belongs x c := by
  rw [valueClasses, List.mem_filter, admits_iff found]
  exact and_iff_right c.mem_all

/-- Of two classes of a node one is that of keys and values in parentheses, or they are one. -/
lemma Belongs.eq_or_container (belongs : t.Belongs x c) (belongs' : t.Belongs x d) :
    c = d ∨ t.Belongs x .keyValueContainer := by
  -- a node of two classes is of one form in both, and only parentheses make up two classes
  cases belongs with
  | word mem =>
    cases belongs' with
    | word mem' => exact .inl (ValueClass.eq_of_mem_words mem mem')
  | operator =>
    cases belongs' with
    | operator => exact .inl rfl
  | url =>
    cases belongs' with
    | url => exact .inl rfl
  | pair =>
    cases belongs' with
    | pair => exact .inl rfl
  | parens =>
    cases belongs' with
    | parens => exact .inl rfl
    | container entry pair => exact .inr (.container entry pair)
  | container entry pair => exact .inr (.container entry pair)

/-- The classes of a node outside of parentheses are one class, or none. -/
lemma length_valueClasses_le (found : t.node? n = some x)
    (plain : ¬ t.Belongs x .keyValueContainer) : (t.valueClasses n).length ≤ 1 := by
  have nodup : (t.valueClasses n).Nodup := ValueClass.nodup_all.filter _
  have same : ∀ c ∈ t.valueClasses n, ∀ d ∈ t.valueClasses n, c = d := by
    intro c mem d mem'
    rw [mem_valueClasses_iff found] at mem mem'
    exact (mem.eq_or_container mem').resolve_right plain
  cases classes : t.valueClasses n with
  | nil => exact Nat.zero_le 1
  | cons c rest =>
    cases rest with
    | nil => exact Nat.le_refl 1
    | cons d rest =>
      rw [classes] at nodup same
      have eq := same c List.mem_cons_self d (List.mem_cons_of_mem c List.mem_cons_self)
      obtain ⟨fresh, _⟩ := List.nodup_cons.mp nodup
      exact absurd (eq ▸ List.mem_cons_self) fresh

/-- The classes of a node are collected by any test that tells its members. -/
lemma valueClasses_eq_filter (test : ValueClass → Bool) (found : t.node? n = some x)
    (same : ∀ c, t.Belongs x c ↔ test c = true) :
    t.valueClasses n = ValueClass.all.filter test := by
  apply List.filter_congr
  intro c _
  rw [Bool.eq_iff_iff, admits_iff found, same]

/-- Keys and values in parentheses are in two classes, and what is in both is such a group. -/
lemma valueClasses_eq_container_iff (found : t.node? n = some x) :
    t.valueClasses n = [.parenGroup, .keyValueContainer] ↔ t.Belongs x .keyValueContainer := by
  refine ⟨?_, ?_⟩
  · intro classes
    rw [← mem_valueClasses_iff found, classes]
    decide
  · intro container
    cases container with
    | container entry pair =>
      apply valueClasses_eq_filter (fun c => c == .parenGroup || c == .keyValueContainer) found
      intro c
      rw [Bool.or_eq_true, beq_iff_eq, beq_iff_eq]
      refine ⟨?_, ?_⟩
      · intro belongs
        cases belongs with
        | parens => exact .inl rfl
        | container => exact .inr rfl
      · rintro (rfl | rfl)
        · exact .parens
        · exact .container entry pair
    | word mem => cases mem

/-- Members of classes are of five kinds. -/
lemma Belongs.kind (belongs : t.Belongs x c) :
    x.kind ∈ [.word, .operator, .function, .commaGroup, .parenGroup] := by
  cases belongs <;> simp [Node.kind]

end Tree

/--
The classes of a node are those that it belongs to. Keys and values in parentheses, and no other
nodes, are in the two classes of groups in parentheses and of containers. Every other node is in one
class at most, so words, operators, functions and comma groups are, and nodes of the kinds that are
not among these are in none.
-/
theorem Tree.valueClasses_exclusive (t : Tree) {n : NodeId} {x : Node}
    (found : t.node? n = some x) :
    (∀ c, c ∈ t.valueClasses n ↔ t.Belongs x c) ∧
      (t.valueClasses n = [.parenGroup, .keyValueContainer] ↔ t.Belongs x .keyValueContainer) ∧
      (¬ t.Belongs x .keyValueContainer → (t.valueClasses n).length ≤ 1) ∧
      (x.kind ∈ [.word, .operator, .function, .commaGroup] → (t.valueClasses n).length ≤ 1) ∧
      (x.kind ∉ [.word, .operator, .function, .commaGroup, .parenGroup] →
        t.valueClasses n = []) := by
  refine ⟨fun c => mem_valueClasses_iff found, valueClasses_eq_container_iff found,
    length_valueClasses_le found, ?_, ?_⟩
  · intro kind
    apply length_valueClasses_le found
    intro container
    cases container with
    | container => simp [Node.kind] at kind
    | word mem => cases mem
  · intro kind
    rw [List.eq_nil_iff_forall_not_mem]
    intro c mem
    exact kind ((mem_valueClasses_iff found).mp mem).kind

/-- The nodes of the map `(from: 1)`, whose key is a word of another class. -/
def Arena.oneEntry : Arena :=
  ⟨#[.word "from" "", .colon, .word "1" " ", .commaGroup [0, 1, 2], .parens [3], .root [4]]⟩

/-- In `(from: 1)` the parentheses are in two classes, the key is in one and the root in none. -/
theorem Tree.valueClasses_exclusive_map :
    ∃ t, Arena.oneEntry.finish 5 = .ok t ∧ t.node? 4 = some (.parens [3]) ∧
      t.valueClasses 4 = [.parenGroup, .keyValueContainer] ∧
      t.node? 0 = some (.word "from" "") ∧ .forKeyword ∈ t.valueClasses 0 ∧
      (t.valueClasses 0).length ≤ 1 ∧ t.node? 5 = some (.root [4]) ∧ t.valueClasses 5 = [] := by
  obtain ⟨t, h⟩ : ∃ t, Arena.oneEntry.finish 5 = .ok t := ⟨_, rfl⟩
  have node (n : NodeId) : t.node? n = Arena.oneEntry.node? n := node?_of_finish h n
  obtain ⟨_, two, _⟩ := t.valueClasses_exclusive (node 4)
  obtain ⟨each, _, _, one, _⟩ := t.valueClasses_exclusive (node 0)
  obtain ⟨_, _, _, _, none⟩ := t.valueClasses_exclusive (node 5)
  refine ⟨t, h, node 4, two.mpr ?_, node 0, (each _).mpr (.word (by decide)), one (by decide),
    node 5, none (by decide)⟩
  exact .container (node 3) (.pair (node 1))

end StyleTree
