import Mathlib.Data.List.Forall2
import TopDown.Proofs.Legibility
import TopDown.Report.Productions
/-!
Rules that are printed and read again. A rule is printed on lines of its own, in one line or with each further
alternative on a line that goes on with it. Read again these lines tell the rule, unless the symbols of an alternative
spell an arrow; a line with that alternative is then at fault.
-/

set_option autoImplicit false

namespace TopDown

namespace RuleText

theorem contents_across (above below : String) :
    contents (above ++ "\n" ++ below) = contents above ++ contents below := by
  have ends : "\n".toList = ['\n'] := rfl
  rw [contents, String.toList_append, String.toList_append, ends, List.append_assoc, List.singleton_append,
    List.splitOn_append_cons_self, List.map_append, ← contents, ← contents]

theorem contents_lines (texts : List String) (filled : texts ≠ []) :
    contents ("\n".intercalate texts) = texts.flatMap contents := by
  induction texts with
  | nil => exact absurd rfl filled
  | cons text rest ih =>
      cases rest with
      | nil => rw [String.intercalate_singleton, List.flatMap_singleton]
      | cons next more =>
          have further := ih (List.cons_ne_nil next more)
          rw [String.intercalate_cons_of_ne_nil (List.cons_ne_nil next more), contents_across, further]
          rfl

-- A line that trimming leaves as it is.
structure Lone (content : List Char) : Prop where
  whole : '\n' ∉ content
  ends : ∀ char, content.head? = some char ∨ content.getLast? = some char → Text.isWhiteSpace char = false

theorem contents_of_lone (text : String) (count : Nat) (content : List Char) (lone : Lone content)
    (chars : text.toList = List.replicate count ' ' ++ content) : contents text = [content] := by
  have whole : '\n' ∉ text.toList := by
    rw [chars, List.mem_append, not_or]
    exact ⟨fun member => absurd (List.eq_of_mem_replicate member) (by decide), lone.whole⟩
  have trimmed : Text.Trimmed text.toList content :=
    ⟨List.replicate count ' ', [], by rw [chars, List.append_nil], blank_spaces count, blank_spaces 0, lone.ends⟩
  rw [contents, List.splitOn_eq_singleton whole, List.map_singleton, Text.trim_of_trimmed _ _ trimmed]

theorem last_solid (front : List Char) (first : Form) (rest : List Form)
    (legible : ∀ form ∈ first :: rest, Legible form) (char : Char)
    (last : (front ++ spelled first ++ barred rest).getLast? = some char) : Text.isWhiteSpace char = false := by
  induction rest generalizing front first with
  | nil =>
      have own := legible first List.mem_cons_self
      rw [barred, List.flatMap_nil, List.append_nil,
        List.getLast?_append_of_ne_nil _ (spelled_ne_nil first own)] at last
      exact own.solid char (List.mem_of_getLast? last)
  | cons next more ih =>
      have moved : front ++ spelled first ++ barred (next :: more) =
          (front ++ spelled first ++ [' ', separator, ' ']) ++ spelled next ++ barred more := by simp [barred]
      rw [moved] at last
      exact ih _ next (fun form member => legible form (List.mem_cons_of_mem first member)) last

theorem whole_spelled (form : Form) (legible : Legible form) : '\n' ∉ spelled form :=
  fun member => absurd (legible.solid _ member) (by decide)

theorem lone_said (left : Char) (first : Form) (rest : List Form) (upper : 'A' ≤ left ∧ left ≤ 'Z')
    (legible : ∀ form ∈ first :: rest, Legible form) : Lone (saidRule left first rest) := by
  have solid := solid_upper left upper
  refine ⟨?_, ?_⟩
  · have other : '\n' ≠ left := fun same => absurd (same ▸ solid) (by decide)
    exact absent_said left first rest _ other (by decide) fun form member => whole_spelled form (legible form member)
  · rintro char (head | last)
    · cases head
      exact solid
    · have shape : saidRule left first rest = ([left, ' '] ++ arrow ++ [' ']) ++ spelled first ++ barred rest := by
        simp [saidRule]
      rw [shape] at last
      exact last_solid _ first rest legible char last

theorem lone_further (form : Form) (legible : Legible form) : Lone (saidFurther form) := by
  refine ⟨?_, ?_⟩
  · simp only [saidFurther, List.mem_cons, not_or]
    exact ⟨by decide, by decide, whole_spelled form legible⟩
  · rintro char (head | last)
    · cases head
      decide
    · have only : ∀ other ∈ [form], Legible other := by simpa using legible
      refine last_solid [separator, ' '] form [] only char ?_
      rw [barred, List.flatMap_nil, List.append_nil]
      exact last

theorem spelled_texts (form : Form) : (form.map Symbol.text).flatMap String.toList = spelled form := by
  rw [List.flatMap_map, spelled, List.map_eq_flatMap]
  exact congrArg (List.flatMap · form) (funext fun symbol => String.toList_singleton symbol.char)

theorem head_text (width : Nat) (left : Char) (first : Form) :
    (Text.padFront width (.singleton left) ++ " -> " ++ .join (first.map Symbol.text)).toList =
      List.replicate (width - 1) ' ' ++ saidRule left first [] := by
  have middle : " -> ".toList = ' ' :: arrow ++ [' '] := by decide
  simp [String.toList_append, Text.padFront, List.leftpad, spelled_texts, middle, saidRule, barred]

theorem rest_text_one_line (width : Nat) (form : Form) :
    (ProductionReport.plainRest width false (form.map Symbol.text)).toList = [' ', separator, ' '] ++ spelled form := by
  have bar : " | ".toList = [' ', separator, ' '] := by decide
  simp [ProductionReport.plainRest, String.toList_append, spelled_texts, bar]

theorem rest_text_many_lines (width : Nat) (form : Form) :
    (ProductionReport.plainRest width true (form.map Symbol.text)).toList =
      List.replicate (width + 2) ' ' ++ saidFurther form := by
  have bar : "  | ".toList = List.replicate 2 ' ' ++ [separator, ' '] := by decide
  simp [ProductionReport.plainRest, String.toList_append, Text.padFront, List.leftpad, spelled_texts, bar, saidFurther,
    List.replicate_add]

theorem plain_of_rule (width : Nat) (multiline : Bool) (left : Char) (first : Form) (rest : List Form) :
    (ProductionReport.ofRule ⟨left, first :: rest⟩).plain width multiline =
      (if multiline then "\n" else "").intercalate
        ((Text.padFront width (.singleton left) ++ " -> " ++ .join (first.map Symbol.text)) ::
          rest.map fun form => ProductionReport.plainRest width multiline (form.map Symbol.text)) := by
  simp only [ProductionReport.plain, ProductionReport.ofRule, List.map_cons, List.map_map]
  rfl

theorem intercalate_nothing (texts : List String) : "".intercalate texts = .join texts := by
  induction texts with
  | nil => rfl
  | cons text rest ih =>
      cases rest with
      | nil => rw [String.intercalate_singleton, String.join_cons, String.join_nil, String.append_empty]
      | cons next more => rw [String.intercalate_cons_cons, String.append_empty, ih, ← String.join_cons]

def Spoilt (lines : List (List Char)) : Prop := ∃ content ∈ lines, content ≠ [] ∧ ∃ fault, Refused content fault

-- Lines that tell one rule. If the symbols of the rule spell an arrow, one of them is at fault instead.
structure Retells (rule : Rule) (lines : List (List Char)) : Prop where
  told : (∀ form ∈ rule.alternatives, ¬ Arrowed form) → ∃ block, block.rule = rule ∧ Tells lines [block]
  spoilt : (∃ form ∈ rule.alternatives, Arrowed form) → Spoilt lines

theorem tells_of_reads (lines : List (List Char)) (blocks : List Block)
    (reads : List.Forall₂ Reads lines (blocks.flatMap Block.lines)) : Tells lines blocks := by
  rw [Tells]
  generalize blocks.flatMap Block.lines = told at reads ⊢
  induction reads with
  | nil => exact .nil
  | cons here _ ih =>
      rw [written, List.filter_cons_of_pos (by simp [filled_of_reads _ _ here]), ← written]
      exact .cons here ih

section Layouts

variable (width : Nat) (left : Char) (first : Form) (rest : List Form) (legible : LegibleRule ⟨left, first :: rest⟩)

include legible

theorem contents_one_line :
    contents ((ProductionReport.ofRule ⟨left, first :: rest⟩).plain width false) = [saidRule left first rest] := by
  refine contents_of_lone _ (width - 1) _ (lone_said left first rest legible.upper legible.forms) ?_
  have further : (rest.map fun form => ProductionReport.plainRest width false (form.map Symbol.text)).flatMap
      String.toList = barred rest := by
    rw [List.flatMap_map, barred]
    exact congrArg (List.flatMap · rest) (funext (rest_text_one_line width))
  rw [plain_of_rule, if_neg Bool.false_ne_true, intercalate_nothing, String.toList_join, List.flatMap_cons, head_text,
    further, List.append_assoc]
  simp [saidRule, barred]

theorem contents_many_lines :
    contents ((ProductionReport.ofRule ⟨left, first :: rest⟩).plain width true) =
      saidRule left first [] :: rest.map saidFurther := by
  have own : ∀ form ∈ [first], Legible form := by simpa using legible.forms first List.mem_cons_self
  have head := contents_of_lone _ (width - 1) _ (lone_said left first [] legible.upper own) (head_text width left first)
  have further : ∀ form ∈ rest, contents (ProductionReport.plainRest width true (form.map Symbol.text)) =
      [saidFurther form] := fun form member =>
    contents_of_lone _ (width + 2) _ (lone_further form (legible.forms form (List.mem_cons_of_mem first member)))
      (rest_text_many_lines width form)
  rw [plain_of_rule, if_pos rfl, contents_lines _ (List.cons_ne_nil _ _), List.flatMap_cons, head, List.flatMap_map,
    List.singleton_append, List.map_eq_flatMap]
  exact congrArg _ (List.flatMap_congr further)

theorem retells_one_line : Retells ⟨left, first :: rest⟩ [saidRule left first rest] where
  told free := by
    refine ⟨⟨left, first :: rest, []⟩, by rw [Block.rule, List.flatten_nil, List.append_nil], ?_⟩
    exact tells_of_reads _ _ (.cons (reads_said left first rest legible.upper legible.forms free) .nil)
  spoilt arrowed :=
    ⟨_, List.mem_singleton_self _, by simp [saidRule], _,
      refused_said left first rest legible.upper legible.forms arrowed⟩

theorem retells_many_lines : Retells ⟨left, first :: rest⟩ (saidRule left first [] :: rest.map saidFurther) := by
  have own : ∀ form ∈ [first], Legible form := by simpa using legible.forms first List.mem_cons_self
  have others : ∀ form ∈ rest, Legible form := fun form member => legible.forms form (List.mem_cons_of_mem first member)
  refine ⟨fun free => ⟨⟨left, [first], rest.map fun form => [form]⟩, ?_, ?_⟩, ?_⟩
  · rw [Block.rule, ← List.flatMap_def, List.flatMap_singleton', List.singleton_append]
  · have alone : ∀ form ∈ [first], ¬ Arrowed form := by simpa using free first List.mem_cons_self
    have further : List.Forall₂ Reads (rest.map saidFurther)
        ((rest.map fun form => [form]).map RuleLine.continuation) := by
      rw [List.forall₂_map_left_iff, List.map_map, List.forall₂_map_right_iff, List.forall₂_same]
      exact fun form member => reads_further form (others form member) (free form (List.mem_cons_of_mem first member))
    refine tells_of_reads _ _ ?_
    rw [List.flatMap_singleton, Block.lines]
    exact .cons (reads_said left first [] legible.upper own alone) further
  · rintro ⟨form, member, arrowed⟩
    rcases List.mem_cons.mp member with rfl | further
    · have refused := refused_said left form [] legible.upper own ⟨form, List.mem_cons_self, arrowed⟩
      exact ⟨_, List.mem_cons_self, by simp [saidRule], _, refused⟩
    · obtain ⟨fault, refused⟩ := refused_further form (others form further) arrowed
      exact ⟨_, List.mem_cons_of_mem _ (List.mem_map_of_mem further), by simp [saidFurther], fault, refused⟩

end Layouts

theorem retells_printed (width : Nat) (multiline : Bool) (rule : Rule) (legible : LegibleRule rule) :
    Retells rule (contents ((ProductionReport.ofRule rule).plain width multiline)) := by
  rcases rule with ⟨left, _ | ⟨first, rest⟩⟩
  · exact absurd rfl legible.filled
  · cases multiline with
    | true =>
        rw [contents_many_lines width left first rest legible]
        exact retells_many_lines left first rest legible
    | false =>
        rw [contents_one_line width left first rest legible]
        exact retells_one_line left first rest legible

theorem tells_append (above below : List (List Char)) (front back : List Block) (upper : Tells above front)
    (lower : Tells below back) : Tells (above ++ below) (front ++ back) := by
  rw [Tells, written_append, List.flatMap_append]
  exact List.rel_append upper lower

theorem tells_of_retold (rules : List Rule) (lines : Rule → List (List Char))
    (retold : ∀ rule ∈ rules, ∃ block, block.rule = rule ∧ Tells (lines rule) [block]) :
    ∃ blocks, blocks.map Block.rule = rules ∧ Tells (rules.flatMap lines) blocks := by
  induction rules with
  | nil => exact ⟨[], rfl, .nil⟩
  | cons rule rest ih =>
      obtain ⟨block, same, own⟩ := retold rule List.mem_cons_self
      obtain ⟨blocks, others, further⟩ := ih fun other member => retold other (List.mem_cons_of_mem rule member)
      exact ⟨block :: blocks, by rw [List.map_cons, same, others], tells_append _ _ [block] blocks own further⟩

theorem not_formed_of_spoilt (lines : List (List Char)) (spoilt : Spoilt lines) : ¬ Formed lines := by
  intro formed
  obtain ⟨content, member, filled, fault, refused⟩ := spoilt
  obtain ⟨above, below, rfl⟩ := List.append_of_mem member
  have unread (line : RuleLine) : ¬ Reads content line := by
    intro reads
    have read := read_of_reads content line reads
    rw [read_of_refused content fault refused] at read
    cases read
  rcases formed above content below rfl filled with ⟨left, forms, reads⟩ | ⟨⟨forms, reads⟩, _⟩
  · exact unread _ reads
  · exact unread _ reads

-- The text of rules in either layout.
def printed (width : Nat) (multiline : Bool) (rules : List Rule) : String :=
  "\n".intercalate (rules.map fun rule => (ProductionReport.ofRule rule).plain width multiline)

section Printed

variable (width : Nat) (multiline : Bool) (rules : List Rule)

theorem contents_printed (filled : rules ≠ []) : contents (printed width multiline rules) =
    rules.flatMap fun rule => contents ((ProductionReport.ofRule rule).plain width multiline) := by
  rw [printed, contents_lines _ (by simpa using filled), List.flatMap_map]

variable (legible : ∀ rule ∈ rules, LegibleRule rule)

include legible

theorem read_of_printed (free : ∀ rule ∈ rules, ∀ form ∈ rule.alternatives, ¬ Arrowed form) :
    Grammar.ofText (printed width multiline rules) = .ok ⟨rules⟩ := by
  by_cases empty : rules = []
  · rw [empty]
    rfl
  · obtain ⟨blocks, same, tells⟩ := tells_of_retold rules _ fun rule member =>
      (retells_printed width multiline rule (legible rule member)).told (free rule member)
    rw [← contents_printed width multiline rules empty] at tells
    rw [text_of_tells _ blocks tells, same]

theorem not_read_of_printed (arrowed : ∃ rule ∈ rules, ∃ form ∈ rule.alternatives, Arrowed form) :
    ∃ error, Grammar.ofText (printed width multiline rules) = .error error := by
  obtain ⟨rule, member, spelt⟩ := arrowed
  have retells := retells_printed width multiline rule (legible rule member)
  obtain ⟨content, inside, refused⟩ := retells.spoilt spelt
  cases read : Grammar.ofText (printed width multiline rules) with
  | error error => exact ⟨error, rfl⟩
  | ok grammar =>
      have formed := Grammar.formed_of_text _ grammar read
      rw [contents_printed width multiline rules (List.ne_nil_of_mem member)] at formed
      exact absurd formed (not_formed_of_spoilt _ ⟨content, List.mem_flatMap.mpr ⟨rule, member, inside⟩, refused⟩)

end Printed

end RuleText

namespace Grammar

open RuleText

-- A grammar in one line for each rule.
def ruleLines (grammar : Grammar) : String :=
  "\n".intercalate (grammar.report.productions.map (·.plain 1 false))

theorem legible_of_text (text : String) (grammar : Grammar) (read : ofText text = .ok grammar) :
    ∀ rule ∈ grammar.rules, LegibleRule rule := by
  obtain ⟨blocks, tells, told⟩ := told_of_formed text (formed_of_text text grammar read)
  rw [read] at told
  cases told
  intro rule member
  obtain ⟨block, known, rfl⟩ := List.mem_map.mp member
  exact legible_of_tells _ blocks tells block known

-- A grammar that was read is read again from its own text, in either layout, unless an alternative of it spells an
-- arrow. It is the same grammar then, in its rules and with them in its start symbol, non-terminals and terminals.
theorem printed_reads_back (text : String) (grammar : Grammar) (read : ofText text = .ok grammar) :
    ((∀ rule ∈ grammar.rules, ∀ form ∈ rule.alternatives, ¬ [.terminal '-', .terminal '>'] <:+: form) →
      ofText grammar.report.plain = .ok grammar ∧ ofText grammar.ruleLines = .ok grammar) ∧
    ((∃ rule ∈ grammar.rules, ∃ form ∈ rule.alternatives, [.terminal '-', .terminal '>'] <:+: form) →
      (∃ error, ofText grammar.report.plain = .error error) ∧ ∃ error, ofText grammar.ruleLines = .error error) := by
  have legible := legible_of_text text grammar read
  have plain : grammar.report.plain =
      printed (Text.columnWidth (grammar.report.productions.map (·.left))) true grammar.rules := by
    rw [GrammarReport.plain, report, List.map_map]
    rfl
  have lines : grammar.ruleLines = printed 1 false grammar.rules := by
    rw [ruleLines, report, List.map_map]
    rfl
  rw [plain, lines]
  constructor
  · intro free
    exact ⟨read_of_printed _ true grammar.rules legible free, read_of_printed 1 false grammar.rules legible free⟩
  · intro arrowed
    exact ⟨not_read_of_printed _ true grammar.rules legible arrowed,
      not_read_of_printed 1 false grammar.rules legible arrowed⟩

theorem printed_reads_back_parted :
    (∃ grammar, ofText "S -> ( a!-b >\n | -" = .ok grammar ∧
      ofText grammar.report.plain = .ok grammar ∧ ofText grammar.ruleLines = .ok grammar) ∧
    ∃ grammar, ofText "S -> a | - >" = .ok grammar ∧
      (∃ error, ofText grammar.report.plain = .error error) ∧ ∃ error, ofText grammar.ruleLines = .error error := by
  have apart : ofText "S -> ( a!-b >\n | -" = .ok ⟨[⟨'S', [[.terminal '(', .terminal 'a', .terminal '-',
      .terminal 'b', .terminal '>'], [.terminal '-']]⟩]⟩ := by decide
  have joined : ofText "S -> a | - >" =
      .ok ⟨[⟨'S', [[.terminal 'a'], [.terminal '-', .terminal '>']]⟩]⟩ := by decide
  exact ⟨⟨_, apart, (printed_reads_back _ _ apart).1 (by decide)⟩,
    ⟨_, joined, (printed_reads_back _ _ joined).2 (by decide)⟩⟩

end Grammar

end TopDown
