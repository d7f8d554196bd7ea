import Mathlib.Data.List.Forall2
import Mathlib.Data.List.Induction
import TopDown.Proofs.RuleLines
/-!
The format of grammar text. Its lines, blank ones apart, come in blocks: a rule line and the lines that go on with it.
A text is read exactly if each of its lines keeps to the format below those above it, it becomes one rule for each
block, and otherwise it is refused for the first line at fault.
-/

set_option autoImplicit false

namespace TopDown

namespace RuleText

-- A rule line and the lines that go on with it.
structure Block where
  left : Char
  first : List Form
  further : List (List Form)

namespace Block

def lines (block : Block) : List RuleLine := .rule block.left block.first :: block.further.map .continuation

def rule (block : Block) : Rule := ⟨block.left, block.first ++ block.further.flatten⟩

-- The block with one more line.
def extend (block : Block) (forms : List Form) : Block := { block with further := block.further ++ [forms] }

end Block

-- The lines of a text without the white space around them, blank lines included.
def contents (text : String) : List (List Char) := (text.toList.splitOn '\n').map Text.trim

def written (lines : List (List Char)) : List (List Char) := lines.filter (· ≠ [])

-- The lines that are not blank are those of the blocks.
def Tells (lines : List (List Char)) (blocks : List Block) : Prop :=
  List.Forall₂ Reads (written lines) (blocks.flatMap Block.lines)

def NamesRule (lines : List (List Char)) : Prop :=
  ∃ content ∈ lines, ∃ left forms, Reads content (.rule left forms)

-- A line keeps to the format below the lines above it.
def Fits (above : List (List Char)) (content : List Char) : Prop :=
  (∃ left forms, Reads content (.rule left forms)) ∨
    ((∃ forms, Reads content (.continuation forms)) ∧ NamesRule above)

def Formed (lines : List (List Char)) : Prop :=
  ∀ above content below, lines = above ++ content :: below → content ≠ [] → Fits above content

-- A line is at fault below the lines above it.
def Faulty (above : List (List Char)) (content : List Char) (fault : RuleFault) : Prop :=
  Refused content fault ∨
    (fault = .noPreviousLeft ∧ (∃ forms, Reads content (.continuation forms)) ∧ ¬ NamesRule above)

-- The first line at fault, blank lines counted. What stands below it does not matter.
def FirstFault (lines : List (List Char)) (error : RuleError) : Prop :=
  ∃ above content below, lines = above ++ content :: below ∧ Formed above ∧ content ≠ [] ∧
    error.line = above.length + 1 ∧ Faulty above content error.fault

theorem filled_of_reads (content : List Char) (line : RuleLine) (reads : Reads content line) : content ≠ [] := by
  cases reads <;> simp [arrow]

theorem mem_written (content : List Char) (lines : List (List Char)) :
    content ∈ written lines ↔ content ∈ lines ∧ content ≠ [] := by
  simp [written]

theorem written_append (above below : List (List Char)) : written (above ++ below) = written above ++ written below :=
  List.filter_append above below

theorem tells_further (above : List (List Char)) (content : List Char) (line : RuleLine) (blocks longer : List Block)
    (tells : Tells above blocks) (reads : Reads content line)
    (grown : longer.flatMap Block.lines = blocks.flatMap Block.lines ++ [line]) : Tells (above ++ [content]) longer := by
  have kept : written [content] = [content] := by simp [written, filled_of_reads content line reads]
  rw [Tells, written_append, kept, grown]
  exact List.rel_append tells (.cons reads .nil)

theorem tells_rule (above : List (List Char)) (content : List Char) (left : Char) (forms : List Form)
    (blocks : List Block) (tells : Tells above blocks) (reads : Reads content (.rule left forms)) :
    Tells (above ++ [content]) (blocks ++ [⟨left, forms, []⟩]) :=
  tells_further above content _ blocks _ tells reads (by simp [Block.lines])

theorem tells_continuation (above : List (List Char)) (content : List Char) (forms : List Form) (older : List Block)
    (last : Block) (tells : Tells above (older ++ [last])) (reads : Reads content (.continuation forms)) :
    Tells (above ++ [content]) (older ++ [last.extend forms]) :=
  tells_further above content _ (older ++ [last]) _ tells reads (by simp [Block.lines, Block.extend])

theorem names_rule_iff (lines : List (List Char)) (blocks : List Block) (tells : Tells lines blocks) :
    NamesRule lines ↔ blocks ≠ [] := by
  constructor
  · rintro ⟨content, member, left, forms, reads⟩ unblocked
    rw [unblocked, Tells, List.flatMap_nil, List.forall₂_nil_right_iff] at tells
    have inside := (mem_written content lines).mpr ⟨member, filled_of_reads content _ reads⟩
    rw [tells] at inside
    cases inside
  · intro blocked
    obtain ⟨block, further, rfl⟩ := List.exists_cons_of_ne_nil blocked
    rw [Tells, List.flatMap_cons, Block.lines, List.cons_append, List.forall₂_cons_right_iff] at tells
    obtain ⟨content, rest, reads, _, same⟩ := tells
    have inside : content ∈ written lines := by simp [same]
    exact ⟨content, ((mem_written content lines).mp inside).1, block.left, block.first, reads⟩

theorem formed_above (above below : List (List Char)) (formed : Formed (above ++ below)) : Formed above :=
  fun front content back same => formed front content (back ++ below) (by simp [same])

theorem formed_further (above : List (List Char)) (content : List Char) (formed : Formed above)
    (fits : content ≠ [] → Fits above content) : Formed (above ++ [content]) := by
  intro front line back same filled
  rcases List.eq_nil_or_concat back with rfl | ⟨init, last, rfl⟩
  · obtain ⟨rfl, last⟩ := List.append_inj' same rfl
    cases last
    exact fits filled
  · have split : above ++ [content] = (front ++ line :: init) ++ [last] := by simpa using same
    exact formed front line init (List.append_inj' split rfl).1 filled

theorem tells_of_formed (lines : List (List Char)) (formed : Formed lines) : ∃ blocks, Tells lines blocks := by
  induction lines using List.reverseRecOn with
  | nil => exact ⟨[], .nil⟩
  | append_singleton above content ih =>
      obtain ⟨blocks, tells⟩ := ih (formed_above above [content] formed)
      by_cases blank : content = []
      · refine ⟨blocks, ?_⟩
        rw [Tells, written_append, blank]
        simpa [written, Tells] using tells
      · rcases formed above content [] rfl blank with ⟨left, forms, reads⟩ | ⟨⟨forms, reads⟩, named⟩
        · exact ⟨_, tells_rule above content left forms blocks tells reads⟩
        · rcases List.eq_nil_or_concat blocks with unblocked | ⟨older, last, rfl⟩
          · exact absurd unblocked ((names_rule_iff above blocks tells).mp named)
          · rw [List.concat_eq_append] at tells
            exact ⟨_, tells_continuation above content forms older last tells reads⟩

theorem fits_or_faulty (above : List (List Char)) (content : List Char) :
    Fits above content ∨ ∃ fault, Faulty above content fault := by
  rcases reads_or_refused content with ⟨line, reads⟩ | ⟨fault, refused⟩
  · cases line with
    | rule left forms => exact Or.inl (Or.inl ⟨left, forms, reads⟩)
    | continuation forms =>
        by_cases named : NamesRule above
        · exact Or.inl (Or.inr ⟨⟨forms, reads⟩, named⟩)
        · exact Or.inr ⟨.noPreviousLeft, Or.inr ⟨rfl, ⟨forms, reads⟩, named⟩⟩
  · exact Or.inr ⟨fault, Or.inl refused⟩

theorem formed_or_first_fault (lines : List (List Char)) : Formed lines ∨ ∃ error, FirstFault lines error := by
  induction lines using List.reverseRecOn with
  | nil => exact Or.inl fun front content back same => by simp at same
  | append_singleton above content ih =>
      rcases ih with formed | ⟨error, front, line, back, rfl, formed, filled, count, faulty⟩
      · by_cases blank : content = []
        · exact Or.inl (formed_further above content formed fun filled => absurd blank filled)
        · rcases fits_or_faulty above content with fits | ⟨fault, faulty⟩
          · exact Or.inl (formed_further above content formed fun _ => fits)
          · exact Or.inr ⟨⟨above.length + 1, fault⟩, above, content, [], rfl, formed, blank, rfl, faulty⟩
      · exact Or.inr ⟨error, front, line, back ++ [content], by simp, formed, filled, count, faulty⟩

theorem add_further (left : Char) (forms : List Form) (further : List (List Form)) (rules : List Rule) :
    (further.map RuleLine.continuation).foldlM addLine (⟨left, forms⟩ :: rules) =
      .ok (⟨left, forms ++ further.flatten⟩ :: rules) := by
  induction further generalizing forms with
  | nil =>
      rw [List.flatten_nil, List.append_nil]
      rfl
  | cons next rest ih =>
      rw [List.flatten_cons, ← List.append_assoc]
      exact ih (forms ++ next)

theorem add_blocks (blocks : List Block) (rules : List Rule) :
    (blocks.flatMap Block.lines).foldlM addLine rules = .ok ((blocks.map Block.rule).reverse ++ rules) := by
  induction blocks generalizing rules with
  | nil => rfl
  | cons block rest ih =>
      have opened : block.lines.foldlM addLine rules = .ok (block.rule :: rules) :=
        add_further block.left block.first block.further rules
      rw [List.flatMap_cons, List.foldlM_append, opened]
      simpa [bind, Except.bind] using ih (block.rule :: rules)

theorem read_through (number : Nat) (rules longer : List Rule) (front back : List (List Char)) (told : List RuleLine)
    (reads : List.Forall₂ Reads (written (front.map Text.trim)) told) (added : told.foldlM addLine rules = .ok longer) :
    readLines number rules (front ++ back) = readLines (number + front.length) longer back := by
  induction front generalizing number rules told with
  | nil =>
      cases reads
      cases added
      rfl
  | cons line rest ih =>
      have count : number + (line :: rest).length = number + 1 + rest.length := by
        rw [List.length_cons]
        omega
      rw [List.cons_append, readLines, count]
      by_cases blank : Text.trim line = []
      · have skipped : written ((line :: rest).map Text.trim) = written (rest.map Text.trim) := by
          simp [written, blank]
        rw [skipped] at reads
        rw [if_pos (by simp [blank])]
        exact ih (number + 1) rules told reads added
      · have kept : written ((line :: rest).map Text.trim) = Text.trim line :: written (rest.map Text.trim) := by
          simp [written, blank]
        rw [kept] at reads
        rw [if_neg (by simpa using blank)]
        cases reads with
        | cons here below =>
            rename_i said more
            rw [List.foldlM_cons] at added
            rw [read_of_reads _ _ here]
            cases next : addLine rules said with
            | error fault =>
                rw [next] at added
                cases added
            | ok grown =>
                rw [next] at added
                simp only [bind, Except.bind, next]
                exact ih (number + 1) grown more below added

-- The rules of the blocks, the latest first, are what the reader carries below them.
theorem read_blocks (front back : List (List Char)) (blocks : List Block) (tells : Tells (front.map Text.trim) blocks) :
    readLines 1 [] (front ++ back) = readLines (1 + front.length) (blocks.map Block.rule).reverse back := by
  refine read_through 1 [] _ front back _ tells ?_
  rw [add_blocks, List.append_nil]

theorem text_of_tells (text : String) (blocks : List Block) (tells : Tells (contents text) blocks) :
    Grammar.ofText text = .ok ⟨blocks.map Block.rule⟩ := by
  have done := read_blocks (text.toList.splitOn '\n') [] blocks tells
  rw [List.append_nil, readLines, List.reverse_reverse] at done
  rw [Grammar.ofText, done]
  rfl

theorem add_of_faulty (above : List (List Char)) (content : List Char) (fault : RuleFault) (blocks : List Block)
    (tells : Tells above blocks) (faulty : Faulty above content fault) :
    readLine content >>= addLine (blocks.map Block.rule).reverse = .error fault := by
  rcases faulty with refused | ⟨rfl, ⟨forms, reads⟩, unnamed⟩
  · rw [read_of_refused content fault refused]
    rfl
  · have unblocked : blocks = [] := by
      by_contra blocked
      exact unnamed ((names_rule_iff above blocks tells).mpr blocked)
    rw [read_of_reads content _ reads, unblocked]
    rfl

theorem text_of_first_fault (text : String) (error : RuleError) (first : FirstFault (contents text) error) :
    Grammar.ofText text = .error error := by
  obtain ⟨above, content, below, same, formed, filled, count, faulty⟩ := first
  obtain ⟨front, rest, lines, rfl, restSame⟩ := List.map_eq_append_iff.mp same
  obtain ⟨line, back, rfl, rfl, _⟩ := List.map_eq_cons_iff.mp restSame
  obtain ⟨blocks, tells⟩ := tells_of_formed _ formed
  have here := read_blocks front (line :: back) blocks tells
  rw [readLines, if_neg (by simpa using filled), add_of_faulty _ _ _ blocks tells faulty] at here
  rw [Grammar.ofText, lines, here]
  have place : error = ⟨1 + front.length, error.fault⟩ := by
    rw [Nat.add_comm, ← List.length_map Text.trim, ← count]
  rw [place]
  rfl

end RuleText

namespace Grammar

open RuleText

theorem formed_of_text (text : String) (grammar : Grammar) (read : ofText text = .ok grammar) :
    Formed (contents text) := by
  rcases formed_or_first_fault (contents text) with formed | ⟨error, first⟩
  · exact formed
  · rw [text_of_first_fault text error first] at read
    cases read

theorem told_of_formed (text : String) (formed : Formed (contents text)) :
    ∃ blocks, Tells (contents text) blocks ∧ ofText text = .ok ⟨blocks.map Block.rule⟩ := by
  obtain ⟨blocks, tells⟩ := tells_of_formed (contents text) formed
  exact ⟨blocks, tells, text_of_tells text blocks tells⟩

theorem first_fault_of_text (text : String) (error : RuleError) (read : ofText text = .error error) :
    FirstFault (contents text) error := by
  rcases formed_or_first_fault (contents text) with formed | ⟨other, first⟩
  · obtain ⟨blocks, _, told⟩ := told_of_formed text formed
    rw [told] at read
    cases read
  · rw [text_of_first_fault text other first] at read
    cases read
    exact first

-- A text is a grammar exactly if its lines keep to the format, and it has the rules that they tell. The error of
-- any other text is that of its first line at fault.
theorem text_read_exactly (text : String) :
    ((∃ grammar, ofText text = .ok grammar) ↔ Formed (contents text)) ∧
      (∀ grammar, ofText text = .ok grammar ↔
        ∃ blocks, Tells (contents text) blocks ∧ grammar = ⟨blocks.map Block.rule⟩) ∧
      ∀ error, ofText text = .error error ↔ FirstFault (contents text) error := by
  refine ⟨⟨?_, ?_⟩, fun grammar => ⟨fun read => ?_, ?_⟩, fun error => ⟨?_, ?_⟩⟩
  · rintro ⟨grammar, read⟩
    exact formed_of_text text grammar read
  · intro formed
    obtain ⟨blocks, _, read⟩ := told_of_formed text formed
    exact ⟨⟨blocks.map Block.rule⟩, read⟩
  · obtain ⟨blocks, tells, told⟩ := told_of_formed text (formed_of_text text grammar read)
    rw [read] at told
    cases told
    exact ⟨blocks, tells, rfl⟩
  · rintro ⟨blocks, tells, rfl⟩
    exact text_of_tells text blocks tells
  · exact first_fault_of_text text error
  · exact text_of_first_fault text error

example : ofText "S -> a |\r\n\n | B !\nB -> b" =
    .ok ⟨[⟨'S', [[.terminal 'a'], [.epsilon], [.nonTerminal 'B']]⟩, ⟨'B', [[.terminal 'b']]⟩]⟩ := by decide

example : ofText "S -> a\n\ns --> $\n-> ->" = .error ⟨3, .reservedEndMark⟩ := by decide

end Grammar

end TopDown
