import TopDown.Proofs.DerivationTree
import TopDown.Proofs.Language
/-!
A table without conflicts leaves one derivation tree to each word. Two trees on one symbol are compared from the
left, each with what is read behind it: the next character shows which alternative both stand on, by its FIRST
set or by what follows. The tree of a parse is a derivation tree without the places of its alternatives.
-/

set_option autoImplicit false

namespace TopDown

namespace Grammar

-- The form reads the word, which is not empty, so that a character is at hand wherever the form is come to.
def Closes (grammar : Grammar) (form : Form) (word : List Char) : Prop :=
  word ≠ [] ∧ ∃ steps, grammar.Unfolds steps form word

variable (grammar : Grammar)

theorem closes_behind (front form : Form) (forest : DerivationForest) (word : List Char)
    (stands : grammar.HasForest front forest) (closes : grammar.Closes form word) :
    grammar.Closes (front ++ form) (forest.word ++ word) := by
  obtain ⟨some, after, unfolds⟩ := closes
  obtain ⟨before, first⟩ := grammar.unfolds_of_forest front forest stands
  exact ⟨List.append_ne_nil_of_right_ne_nil _ some,
    grammar.unfolds_append front form forest.word word before after first unfolds⟩

theorem begins_of_closes (form : Form) (char : Char) (word : List Char) (closes : grammar.Closes form (char :: word)) :
    grammar.Begins form char := by
  obtain ⟨_, steps, unfolds⟩ := closes
  exact grammar.begins_of_leads steps form char word [] (grammar.leads_of_unfolds steps form _ unfolds)

theorem rooted_of_cons (symbol : Symbol) (form : Form) (rooted : grammar.Rooted (symbol :: form)) :
    grammar.Rooted form := by
  obtain ⟨root, front, known, derives⟩ := rooted
  exact ⟨root, front ++ [symbol], known, by rwa [List.append_assoc]⟩

theorem rooted_of_choice (choice : Choice) (known : grammar.Holds choice) (form : Form)
    (rooted : grammar.Rooted (.nonTerminal choice.left :: form)) : grammar.Rooted (choice.alternative ++ form) := by
  have member := grammar.alternative_of_choice choice ((grammar.mem_choices choice).mpr known)
  refine grammar.rooted_of_derives _ _ ?_ rooted
  exact grammar.derives_append [.nonTerminal choice.left] form _ form
    (grammar.derives_alternative choice.left choice.alternative member) (grammar.derives_refl form)

-- A character shows which alternative leads to it, and where in the grammar that stands.
theorem choice_of_begins (free : grammar.analyze.table.isConflictFree = true) (one other : Choice)
    (known : grammar.Holds one) (further : grammar.Holds other) (row : one.left = other.left) (form : Form) (char : Char)
    (rooted : grammar.Rooted (.nonTerminal one.left :: form))
    (begins : grammar.Begins (one.alternative ++ form) char)
    (again : grammar.Begins (other.alternative ++ form) char) : one = other := by
  have claims := grammar.directing_of_begins one.left one.alternative form char rooted begins
  rw [row] at rooted
  have claimsToo := grammar.directing_of_begins other.left other.alternative form char rooted again
  refine (Table.conflict_free_iff _ _ grammar).mp (List.isEmpty_iff.mp free) one.left char one ?_ other ?_
  · exact (Table.mem_claimants _ _ _ _ char one).mpr ⟨(grammar.mem_choices one).mpr known, rfl, claims⟩
  · exact (Table.mem_claimants _ _ _ _ char other).mpr ⟨(grammar.mem_choices other).mpr further, row.symm, claimsToo⟩

-- Rows of trees that read the same with what is behind them stand on one alternative.
theorem choice_of_words (free : grammar.analyze.table.isConflictFree = true) (one other : Choice)
    (known : grammar.Holds one) (further : grammar.Holds other) (row : one.left = other.left) (form : Form)
    (rooted : grammar.Rooted (.nonTerminal one.left :: form)) (first second : DerivationForest)
    (below : grammar.HasForest one.alternative first) (beneath : grammar.HasForest other.alternative second)
    (behind beyond : List Char) (closes : grammar.Closes form behind) (closesToo : grammar.Closes form beyond)
    (same : first.word ++ behind = second.word ++ beyond) : one = other := by
  have reads := grammar.closes_behind one.alternative form first behind below closes
  have readsToo := grammar.closes_behind other.alternative form second beyond beneath closesToo
  obtain ⟨char, word, here⟩ := List.exists_cons_of_ne_nil reads.1
  rw [here] at reads
  rw [← same, here] at readsToo
  exact grammar.choice_of_begins free one other known further row form char rooted
    (grammar.begins_of_closes _ char word reads) (grammar.begins_of_closes _ char word readsToo)

-- By induction over the first tree. A form with a word for what is behind goes along, so that a character is at
-- hand where a tree reads nothing as well; the two words need not be known to be the same.
mutual
theorem tree_unique (free : grammar.analyze.table.isConflictFree = true) (symbol : Symbol) (one other : DerivationTree)
    (first : grammar.HasTree symbol one) (second : grammar.HasTree symbol other) (form : Form)
    (rooted : grammar.Rooted (symbol :: form)) (behind beyond : List Char) (closes : grammar.Closes form behind)
    (closesToo : grammar.Closes form beyond) (same : one.word ++ behind = other.word ++ beyond) : one = other := by
  cases first with
  | leaf _ childless =>
      cases second with
      | leaf _ _ => rfl
      | node left choice children known row below => exact absurd rfl (childless left)
  | node left choice children known row below =>
      cases second with
      | leaf _ childless => exact absurd rfl (childless left)
      | node _ choiceToo childrenToo knownToo rowToo beneath =>
          subst row
          rw [DerivationTree.word, DerivationTree.word] at same
          have chosen := grammar.choice_of_words free choice choiceToo known knownToo rowToo.symm form rooted children
            childrenToo below beneath behind beyond closes closesToo same
          subst chosen
          have inner := grammar.rooted_of_choice choice known form rooted
          rw [forest_unique free choice.alternative children childrenToo below beneath form inner behind beyond closes
            closesToo same]
theorem forest_unique (free : grammar.analyze.table.isConflictFree = true) (front : Form) (one other : DerivationForest)
    (first : grammar.HasForest front one) (second : grammar.HasForest front other) (form : Form)
    (rooted : grammar.Rooted (front ++ form)) (behind beyond : List Char) (closes : grammar.Closes form behind)
    (closesToo : grammar.Closes form beyond) (same : one.word ++ behind = other.word ++ beyond) : one = other := by
  cases first with
  | nil =>
      cases second
      rfl
  | cons symbol front tree rest top others =>
      cases second with
      | cons _ _ treeToo restToo topToo othersToo =>
          rw [DerivationForest.word, DerivationForest.word, List.append_assoc, List.append_assoc] at same
          have equal := tree_unique free symbol tree treeToo top topToo (front ++ form) rooted _ _
            (grammar.closes_behind front form rest behind others closes)
            (grammar.closes_behind front form restToo beyond othersToo closesToo) same
          subst equal
          have later := grammar.rooted_of_cons symbol (front ++ form) rooted
          rw [forest_unique free front rest restToo others othersToo form later behind beyond closes closesToo
            (List.append_cancel_left same)]
end

theorem tree_unique_at_start (free : grammar.analyze.table.isConflictFree = true) (start : Char)
    (begins : grammar.start? = some start) (one other : DerivationTree)
    (first : grammar.HasTree (.nonTerminal start) one) (second : grammar.HasTree (.nonTerminal start) other)
    (same : one.word = other.word) : one = other := by
  have closes : grammar.Closes [.endOfInput] [endMark] := ⟨by simp, 1, grammar.unfolds_leaf .endOfInput (by simp)⟩
  have rooted : grammar.Rooted [.nonTerminal start, .endOfInput] :=
    ⟨_, [], .start start begins, grammar.derives_refl _⟩
  refine tree_unique grammar free (.nonTerminal start) one other first second [.endOfInput] rooted [endMark]
    [endMark] closes closes ?_
  rw [same]

-- A parse puts no node for the written form of the empty word; a derivation tree has one.
theorem forest_of_child_form (alternative : Form) (forest : DerivationForest)
    (stands : grammar.HasForest (State.childForm alternative) forest) :
    ∃ children, grammar.HasForest alternative children ∧ children.word = forest.word ∧
      (if alternative = .empty then [] else children.shapes) = forest.shapes := by
  rw [State.childForm] at stands
  by_cases empty : alternative = .empty
  · rw [if_pos empty] at stands
    cases stands
    rw [empty]
    exact ⟨.cons (.leaf .epsilon) .nil, .cons .epsilon [] _ .nil (.leaf .epsilon (by simp)) .nil, rfl, if_pos rfl⟩
  · rw [if_neg empty] at stands
    exact ⟨forest, stands, rfl, if_neg empty⟩

end Grammar

namespace Tree

-- The part of a tree that hangs from a node is a derivation tree.
structure Shows (tree : Tree) (grammar : Grammar) (id : Nat) (derivation : DerivationTree) : Prop where
  stands : grammar.HasTree (tree.symbol id) derivation
  shape : tree.subtree id = derivation.shape
  word : derivation.word = tree.reading (tree.frontier id)

theorem forest_of_shows (tree : Tree) (grammar : Grammar) (ids : List Nat)
    (each : ∀ id ∈ ids, ∃ derivation, tree.Shows grammar id derivation) :
    ∃ forest, grammar.HasForest (ids.map tree.symbol) forest ∧ ids.map tree.subtree = forest.shapes ∧
      forest.word = tree.reading (ids.flatMap tree.frontier) := by
  induction ids with
  | nil => exact ⟨.nil, .nil, rfl, rfl⟩
  | cons id ids ih =>
      obtain ⟨derivation, stands, shape, word⟩ := each id (by simp)
      obtain ⟨forest, others, shapes, words⟩ := ih fun other member => each other (by simp [member])
      refine ⟨.cons derivation forest, .cons _ _ derivation forest stands others, ?_, ?_⟩
      · rw [List.map_cons, shape, shapes, DerivationForest.shapes]
      · rw [List.flatMap_cons, reading_append, ← word, ← words, DerivationForest.word]

-- A non-terminal reads what its children read, if it has any.
theorem reading_of_children (tree : Tree) (id : Nat) (left : Char) (named : tree.symbol id = .nonTerminal left) :
    tree.reading (tree.frontier id) = tree.reading ((tree.children id).flatMap tree.frontier) := by
  by_cases childless : tree.children id = []
  · rw [frontier_of_childless tree id childless, childless, reading_singleton, named]
    rfl
  · rw [frontier_of_children tree id childless]

theorem shows_of_finished (tree : Tree) (grammar : Grammar) (table : Table) (input : List Char)
    (finished : ∀ id, id < tree.size → tree.Finished grammar table input id) (id : Nat) (inside : id < tree.size) :
    ∃ derivation, tree.Shows grammar id derivation := by
  induction id using tree.children_induction with
  | step id ih =>
      by_cases named : ∃ left, tree.symbol id = .nonTerminal left
      · obtain ⟨left, named⟩ := named
        obtain ⟨_, _, alternative, _, _, _, member, symbols⟩ := (finished id inside).expanded left named
        obtain ⟨choice, known, row, rfl⟩ := grammar.choice_of_alternative left alternative member
        rw [grammar.mem_choices] at known
        obtain ⟨forest, stands, shapes, word⟩ := tree.forest_of_shows grammar (tree.children id)
          fun child below => ih child below (tree.child_bounds id child below).2
        rw [symbols] at stands
        obtain ⟨children, grown, words, same⟩ := grammar.forest_of_child_form choice.alternative forest stands
        refine ⟨.node choice children, ?_, ?_, ?_⟩
        · rw [named]
          exact .node left choice children known row grown
        · rw [subtree_eq, shapes, named, DerivationTree.shape, same, row]
        · rw [reading_of_children tree id left named, DerivationTree.word, words, word]
      · have other : ∀ left, tree.symbol id ≠ .nonTerminal left := fun left same => named ⟨left, same⟩
        have childless := (finished id inside).childless other
        refine ⟨.leaf (tree.symbol id), .leaf _ other, ?_, ?_⟩
        · rw [subtree_eq, childless, DerivationTree.shape]
          rfl
        · rw [frontier_of_childless tree id childless, reading_singleton, DerivationTree.word]

end Tree

namespace Grammar

-- On a table without conflicts every word has one derivation tree, and the parse returns it.
theorem derivation_tree_unique (grammar : Grammar) (free : grammar.analyze.table.isConflictFree = true)
    (input : List Char) (generates : grammar.Generates input) :
    ∃ start derivation tree, grammar.start? = some start ∧ grammar.HasTree (.nonTerminal start) derivation ∧
      derivation.word = input ∧
      (∀ other, grammar.HasTree (.nonTerminal start) other → other.word = input → other = derivation) ∧
      (grammar.analyze.table.parse input).tree? = some tree ∧ tree.nested = derivation.shape := by
  have accepted := accepted_of_generates grammar free input generates
  obtain ⟨start, final, done, begins, coherent, stack, rest, result⟩ :=
    Table.coherent_of_accepted grammar _ _ input accepted
  have finished := State.finished_of_final grammar _ start input final done coherent stack
  obtain ⟨derivation, stands, shape, word⟩ :=
    final.tree.shows_of_finished grammar _ input finished 0 coherent.layout.rooted
  rw [coherent.drawn.1] at stands
  rw [State.reading_of_final grammar _ start input final done coherent stack rest] at word
  refine ⟨start, derivation, final.tree, begins, stands, word, fun other standsToo wordToo => ?_, result, shape⟩
  exact tree_unique_at_start grammar free start begins other derivation standsToo stands (wordToo.trans word.symm)

-- S -> a S b, and S -> ε inside.
def nestedOnce : DerivationTree :=
  .node ⟨0, 0, 'S', [.terminal 'a', .nonTerminal 'S', .terminal 'b']⟩
    (.cons (.leaf (.terminal 'a'))
      (.cons (.node ⟨0, 1, 'S', .empty⟩ (.cons (.leaf .epsilon) .nil))
        (.cons (.leaf (.terminal 'b')) .nil)))

theorem nested_has_once : nested.HasTree (.nonTerminal 'S') nestedOnce := by
  have inner : nested.HasTree (.nonTerminal 'S') (.node ⟨0, 1, 'S', .empty⟩ (.cons (.leaf .epsilon) .nil)) :=
    .node 'S' ⟨0, 1, 'S', .empty⟩ _ ⟨_, rfl, rfl, rfl⟩ rfl (.cons .epsilon [] _ .nil (.leaf .epsilon (by simp)) .nil)
  refine .node 'S' ⟨0, 0, 'S', [.terminal 'a', .nonTerminal 'S', .terminal 'b']⟩ _ ⟨_, rfl, rfl, rfl⟩ rfl ?_
  refine .cons _ _ _ _ (.leaf (.terminal 'a') (by simp)) ?_
  refine .cons _ _ _ _ inner ?_
  exact .cons _ _ _ _ (.leaf (.terminal 'b') (by simp)) .nil

theorem derivation_tree_unique_nested :
    nested.analyze.table.isConflictFree = true ∧ nested.Generates ['a', 'b'] ∧
      (∀ other, nested.HasTree (.nonTerminal 'S') other → other.word = ['a', 'b'] → other = nestedOnce) ∧
      (nested.analyze.table.parse ['a', 'b']).tree?.map Tree.nested = some nestedOnce.shape := by
  have free : nested.analyze.table.isConflictFree = true := by decide +kernel
  have generates : nested.Generates ['a', 'b'] :=
    (nested.generates_iff_tree _).mpr ⟨'S', nestedOnce, rfl, nested_has_once, rfl⟩
  obtain ⟨start, derivation, tree, begins, _, _, unique, result, shape⟩ :=
    derivation_tree_unique nested free ['a', 'b'] generates
  cases begins
  have same : nestedOnce = derivation := unique nestedOnce nested_has_once rfl
  refine ⟨free, generates, fun other stands word => same ▸ unique other stands word, ?_⟩
  rw [result, same, ← shape]
  rfl

end Grammar

end TopDown
