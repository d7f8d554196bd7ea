import TopDown.Proofs.Outline
/-!
The plain text of an accepted input. Its first line is the verdict, one line for each step follows, and the listing of
the tree comes last: no text within it breaks a line, so the listing is found by its place and read back as the tree.
-/

set_option autoImplicit false

namespace TopDown

open RuleText

theorem unbroken_append (front back : String) (before : '\n' ∉ front.toList) (behind : '\n' ∉ back.toList) :
    '\n' ∉ (front ++ back).toList := by
  rw [String.toList_append]
  exact List.not_mem_append before behind

theorem inline_of_plain (chars : List Char) (plain : ∀ char ∈ chars, Plain char) :
    Inline (String.ofList chars).toList := by
  rw [String.toList_ofList]
  exact fun char member => Or.inr (plain char member)

namespace TraceStep

theorem unbroken_text (step : TraceStep) (stack : ∀ symbol ∈ step.stack, Plain symbol.char)
    (input : ∀ char ∈ step.input, Plain char) (action : Inline step.action.text.toList) : '\n' ∉ step.text.toList := by
  have symbols : '\n' ∉ (" ".intercalate (step.stack.map Symbol.text)).toList := by
    apply Text.absent_joined _ _ _ (by decide)
    refine List.forall_mem_map.mpr fun symbol member => ?_
    exact unbroken_of_inline _ (inline_singleton symbol.char (stack symbol member))
  have rest := unbroken_of_inline _ (inline_of_plain step.input input)
  unfold text
  apply unbroken_append _ _ _ (unbroken_of_inline _ action)
  apply unbroken_append _ _ _ (by decide)
  apply unbroken_append _ _ _ rest
  apply unbroken_append _ _ _ (by decide)
  exact unbroken_append _ _ (by decide) symbols

end TraceStep

namespace State

section Read

variable (text : String) (grammar : Grammar) (read : Grammar.ofText text = .ok grammar) (table : Table) (start : Char)
  (begins : grammar.start? = some start) (input : List Char)

include read begins

theorem told_of_coherent (state : State) (done : List Nat) (coherent : Coherent grammar table start input state done)
    (id : Nat) (inside : id < state.tree.size) :
    Plain (state.tree.symbol id).char ∧ Symbol.ofChar (state.tree.symbol id).char = state.tree.symbol id := by
  by_cases root : id = 0
  · rw [root, coherent.drawn.1]
    obtain ⟨rule, first, rfl⟩ := Option.map_eq_some_iff.mp begins
    have upper := (Grammar.legible_of_text text grammar read rule (List.mem_of_mem_head? first)).upper
    exact ⟨plain_upper rule.left upper, of_char_upper rule.left upper⟩
  · have drawn := coherent.drawn.2 id (Nat.pos_of_ne_zero root) inside
    exact ⟨Grammar.plain_symbol text grammar read _ drawn, Grammar.symbol_of_char text grammar read _ drawn⟩

theorem plain_entry (state : State) (done : List Nat) (coherent : Coherent grammar table start input state done)
    (entry : Entry) (member : entry ∈ state.stack) : Plain (state.tree.entrySymbol entry).char := by
  cases entry with
  | bottom => exact plain_end_mark
  | node id =>
      have stacked : id ∈ state.stacked := List.mem_filterMap.mpr ⟨.node id, member, rfl⟩
      have inside := inside_of_stacked input state done coherent.layout id stacked
      exact (told_of_coherent text grammar read table start begins input state done coherent id inside).1

theorem inline_action (chooses : table.Chooses grammar) (state next : State) (done : List Nat)
    (coherent : Coherent grammar table start input state done) (action : Action)
    (moves : Moves table state action next) : Inline action.text.toList := by
  have plain := plain_entry text grammar read table start begins input state done coherent
  cases moves with
  | read entry below char rest stack left reads =>
      rw [Action.text, inline_append_text]
      exact ⟨by decide, inline_singleton _ (plain entry (by simp [stack]))⟩
  | skip id below char rest stack left symbol => decide
  | expand id below char rest head alternative stack left symbol found =>
      have top := plain (.node id) (by simp [stack])
      rw [Tree.entrySymbol, symbol] at top
      have chosen := chooses head char alternative found
      have legible := Grammar.legible_alternative text grammar read head alternative chosen
      rw [Action.text, inline_append_text, inline_append_text]
      exact ⟨⟨inline_singleton head top, by decide⟩, inline_text alternative legible⟩

theorem unbroken_of_goes (chooses : table.Chooses grammar) (plain : ∀ char ∈ input, Plain char) (state final : State)
    (trace : List TraceStep) (goes : Goes (step table) state trace final) (done : List Nat)
    (coherent : Coherent grammar table start input state done) : ∀ step ∈ trace, '\n' ∉ step.text.toList := by
  induction goes generalizing done with
  | stay state => exact fun _ member => nomatch member
  | step state next final action trace moved _ ih =>
      have moves := moves_of_step table state action next moved
      obtain ⟨more, further⟩ := coherent_moves grammar table chooses start input state next action done coherent moves
      refine List.forall_mem_cons.mpr ⟨?_, ih more further⟩
      apply TraceStep.unbroken_text
      · intro symbol member
        obtain ⟨entry, known, rfl⟩ := List.mem_map.mp (List.mem_reverse.mp member)
        exact plain_entry text grammar read table start begins input state done coherent entry known
      · intro char member
        have left : char ∈ input ++ [endMark] := by
          have inside : char ∈ state.rest := member
          rw [coherent.layout.rest] at inside
          exact List.mem_of_mem_drop inside
        rcases List.mem_append.mp left with own | mark
        · exact plain char own
        · rw [List.mem_singleton.mp mark]
          exact plain_end_mark
      · exact inline_action text grammar read table start begins input chooses state next done coherent action moves

end Read

end State

namespace Tree

/-- The lines list the nodes of the tree, and they are read back as the tree and as the input. -/
structure Listed (tree : Tree) (input : List Char) (lines : List (List Char)) : Prop where
  once : (tree.preorder 0).Nodup
  all : ∀ id, id ∈ tree.preorder 0 ↔ id < tree.size
  shown : lines = (tree.preorder 0).map fun id =>
    List.replicate (2 * (tree.ancestors id).length) ' ' ++ [(tree.symbol id).char]
  rebuilt : Outline.rebuild lines 0 = tree.nested
  spelled : lines.filterMap (fun line => (Outline.label line).terminal?) = input

end Tree

namespace Table

-- The run of an accepted input, with all that is known about the state it comes to.
theorem run_of_accepted (grammar : Grammar) (first : FirstSets) (follow : FollowSets) (input : List Char)
    (accepted : ((build grammar first follow).parse input).isAccepted = true) :
    ∃ start final done, grammar.start? = some start ∧
      ((build grammar first follow).parse input).verdict = .accepted final.tree ∧
      State.Goes (State.step (build grammar first follow)) (State.initial start input)
        ((build grammar first follow).parse input).trace final ∧
      State.Coherent grammar (build grammar first follow) start input final done ∧ final.tree.Hung ∧
      final.stack = [] ∧ final.rest = [] := by
  obtain ⟨tree, verdict, _⟩ := Parse.verdict_of_accepted _ accepted
  cases begins : grammar.start? with
  | none =>
      rw [parse_of_no_start _ input ((start_build grammar first follow).trans begins)] at verdict
      cases verdict
  | some start =>
      have run := parse_of_start _ start input ((start_build grammar first follow).trans begins)
      rw [run] at verdict
      obtain ⟨final, goes, stack, rest, rfl⟩ := State.goes_of_accepted _ _ tree verdict
      obtain ⟨done, coherent⟩ := State.coherent_reaches grammar _ (chooses_build grammar first follow) start input final
        (State.reaches_of_goes _ _ final _ goes)
      obtain ⟨work, works, _⟩ := State.works_of_goes _ _ _ final [] _ .rest goes
      rw [← run] at verdict goes
      exact ⟨start, final, done, rfl, verdict, goes, coherent,
        Tree.hung_of_threaded _ (State.threaded_of_works _ start input _ final works), stack, rest⟩

end Table

namespace ParseReport

-- The lines of an accepted input, where none of its texts breaks a line.
theorem lines_of_accepted (report : ParseReport) (tree : SyntaxTree) (success : report.success = true)
    (sound : report.error = none) (shown : report.tree = some tree) (input : '\n' ∉ report.input.toList)
    (steps : ∀ step ∈ report.trace, '\n' ∉ step.toList) (nodes : ∀ line ∈ tree.plainLines 0, '\n' ∉ line.toList) :
    report.plain.toList.splitOn '\n' = (("Parsing successful: " ++ report.input) :: report.trace).map String.toList ++
      (tree.plainLines 0).map String.toList := by
  have filled : ("Parsing successful: " ++ report.input) :: report.trace ++ tree.plainLines 0 ≠ [] := by simp
  have whole : ∀ line ∈ ("Parsing successful: " ++ report.input) :: report.trace ++ tree.plainLines 0,
      '\n' ∉ line.toList := by
    intro line member
    rcases List.mem_append.mp member with upper | listed
    · rcases List.mem_cons.mp upper with rfl | step
      · exact unbroken_append _ _ (by decide) input
      · exact steps line step
    · exact nodes line listed
  have shape : report.plain =
      "\n".intercalate (("Parsing successful: " ++ report.input) :: report.trace ++ tree.plainLines 0) := by
    unfold plain
    rw [success, if_pos rfl, sound, shown, Option.toList_none, List.append_nil]
    rfl
  rw [shape, Text.lines_of_joined _ filled whole, List.map_append]

end ParseReport

namespace Symbol

theorem char_of_terminal (symbol : Symbol) (char : Char) (terminal : symbol.terminal? = some char) :
    symbol.char = char := by
  cases symbol with
  | terminal other => exact Option.some.inj terminal
  | _ => cases terminal

end Symbol

namespace Tree

theorem unbroken_line (tree : Tree) (id : Nat) (plain : Plain (tree.symbol id).char) :
    '\n' ∉ (tree.line id).toList := by
  have inline : Inline (tree.line id).toList := by
    rw [line_chars, inline_append]
    exact ⟨inline_blanks _, fun char member => Or.inr (List.mem_singleton.mp member ▸ plain)⟩
  exact unbroken_of_inline _ inline

end Tree

namespace Parse

theorem ends_of_verdict (parse : Parse) (tree : Tree) (verdict : parse.verdict = .accepted tree) :
    parse.tree? = some tree ∧ parse.failure? = none := by
  constructor
  · rw [tree?, verdict]
  · rw [failure?, verdict]

end Parse

namespace Table

/-- The plain text of an accepted input ends with a listing of the tree, from which the tree is read back. -/
theorem listing_reads_back (text : String) (grammar : Grammar) (read : Grammar.ofText text = .ok grammar)
    (first : FirstSets) (follow : FollowSets) (input : String)
    (accepted : ((build grammar first follow).parse input.toList).isAccepted = true) :
    ∃ tree front lines, ((build grammar first follow).parse input.toList).tree? = some tree ∧
      (((build grammar first follow).parse input.toList).report input).plain.toList.splitOn '\n' = front ++ lines ∧
      front.length = 1 + ((build grammar first follow).parse input.toList).trace.length ∧ lines.length = tree.size ∧
      tree.Listed input.toList lines := by
  obtain ⟨start, final, done, begins, verdict, goes, coherent, threaded, stack, rest⟩ :=
    run_of_accepted grammar first follow input.toList accepted
  obtain ⟨result, sound⟩ := Parse.ends_of_verdict _ final.tree verdict
  have known := State.told_of_coherent text grammar read _ start begins _ final done coherent
  have listed (id : Nat) (member : id ∈ final.tree.preorder 0) : Plain (final.tree.symbol id).char :=
    (known id ((Tree.mem_preorder_root final.tree threaded id).mp member)).1
  have told : final.tree.Told := fun id inside =>
    ⟨fun space => absurd (space ▸ (known id inside).1) (by decide), (known id inside).2⟩
  have leaves := State.leaves_of_final grammar _ start _ final done coherent stack rest
    (fun marked => Grammar.unmarked_of_text text grammar read _ marked rfl)
  have plain : ∀ char ∈ input.toList, Plain char := by
    intro char member
    rw [← leaves, Tree.leaves_preorder] at member
    obtain ⟨id, inside, terminal⟩ := List.mem_filterMap.mp member
    exact Symbol.char_of_terminal _ char terminal ▸ listed id inside
  have steps := State.unbroken_of_goes text grammar read _ start begins _ (chooses_build grammar first follow) plain _
    final _ goes [] (State.coherent_initial grammar _ start _)
  have nested := Tree.plain_lines_nested final.tree threaded
  have nodes : ∀ line ∈ final.tree.nested.plainLines 0, '\n' ∉ line.toList := by
    rw [nested]
    exact List.forall_mem_map.mpr fun id member => final.tree.unbroken_line id (listed id member)
  have lines := ParseReport.lines_of_accepted (((build grammar first follow).parse input.toList).report input)
    final.tree.nested accepted (congrArg (Option.map Failure.text) sound) (congrArg (Option.map Tree.nested) result)
    (fun breaks => absurd (plain _ breaks) (by decide)) (List.forall_mem_map.mpr steps) nodes
  rw [nested, List.map_map] at lines
  refine ⟨final.tree, _, final.tree.listing, result, lines, ?_, ?_, ?_⟩
  · rw [List.length_map, List.length_cons, Parse.report, List.length_map, Nat.add_comm]
  · rw [Tree.listing, List.length_map, Tree.length_preorder_root final.tree threaded]
  · refine ⟨Tree.nodup_preorder final.tree threaded 0, Tree.mem_preorder_root final.tree threaded, ?_,
      Tree.rebuild_root final.tree threaded told, ?_⟩
    · exact List.map_congr_left fun id _ => final.tree.line_chars id
    · rw [Tree.leaves_listing final.tree threaded told, leaves]

theorem listing_reads_back_nested : Grammar.ofText "S -> aSb | !" = .ok .nested ∧
    ((build .nested (FirstSets.compute .nested).1 (FollowSets.compute .nested (FirstSets.compute .nested).1).1).parse
      "ab".toList).isAccepted = true ∧
    ∃ (tree : Tree) (lines : List (List Char)), tree.Listed "ab".toList lines := by
  have read : Grammar.ofText "S -> aSb | !" = .ok .nested := by decide
  have accepted : ((build .nested (FirstSets.compute .nested).1
      (FollowSets.compute .nested (FirstSets.compute .nested).1).1).parse "ab".toList).isAccepted = true := by
    decide +kernel
  obtain ⟨tree, _, lines, _, _, _, _, listed⟩ := listing_reads_back _ .nested read _ _ "ab" accepted
  exact ⟨read, accepted, tree, lines, listed⟩

end Table

end TopDown
