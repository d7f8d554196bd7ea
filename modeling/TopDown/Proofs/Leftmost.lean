import TopDown.Proofs.Derivation
/-!
Leftmost derivations in the order in which a stack machine carries them out: the first symbol of a
form is read, struck out or replaced, and the number of such steps is counted. A form derives a form
that reads a word exactly when it can be taken apart from the left on that word, and one that only
begins with the word when it can be taken apart so far.
-/

set_option autoImplicit false

namespace TopDown.Grammar

/-- The form is taken apart from the left in the given number of steps, reading the word. -/
inductive Unfolds (grammar : Grammar) : Nat → Form → List Char → Prop where
  | nothing : Unfolds grammar 0 [] []
  | read (steps : Nat) (symbol : Symbol) (char : Char) (form : Form) (word : List Char)
      (reads : symbol.read? = some char) (rest : Unfolds grammar steps form word) :
      Unfolds grammar (steps + 1) (symbol :: form) (char :: word)
  | skip (steps : Nat) (form : Form) (word : List Char) (rest : Unfolds grammar steps form word) :
      Unfolds grammar (steps + 1) (.epsilon :: form) word
  | replace (steps : Nat) (left : Char) (alternative form : Form) (word : List Char)
      (member : alternative ∈ grammar.alternativesOf left)
      (rest : Unfolds grammar steps (alternative ++ form) word) :
      Unfolds grammar (steps + 1) (.nonTerminal left :: form) word

/-- The form is taken apart from the left until the word is read, and another form is what remains. -/
inductive Leads (grammar : Grammar) : Nat → Form → List Char → Form → Prop where
  | nothing (form : Form) : Leads grammar 0 form [] form
  | read (steps : Nat) (symbol : Symbol) (char : Char) (form : Form) (word : List Char) (remains : Form)
      (reads : symbol.read? = some char) (rest : Leads grammar steps form word remains) :
      Leads grammar (steps + 1) (symbol :: form) (char :: word) remains
  | skip (steps : Nat) (form : Form) (word : List Char) (remains : Form)
      (rest : Leads grammar steps form word remains) : Leads grammar (steps + 1) (.epsilon :: form) word remains
  | replace (steps : Nat) (left : Char) (alternative form : Form) (word : List Char) (remains : Form)
      (member : alternative ∈ grammar.alternativesOf left)
      (rest : Leads grammar steps (alternative ++ form) word remains) :
      Leads grammar (steps + 1) (.nonTerminal left :: form) word remains

variable (grammar : Grammar)

theorem leads_of_unfolds (steps : Nat) (form : Form) (word : List Char) (unfolds : grammar.Unfolds steps form word) :
    grammar.Leads steps form word [] := by
  induction unfolds with
  | nothing => exact .nothing []
  | read steps symbol char form word reads _ ih => exact .read steps symbol char form word [] reads ih
  | skip steps form word _ ih => exact .skip steps form word [] ih
  | replace steps left alternative form word member _ ih =>
      exact .replace steps left alternative form word [] member ih

theorem unfolds_of_leads (steps : Nat) (form : Form) (word : List Char) (leads : grammar.Leads steps form word []) :
    grammar.Unfolds steps form word := by
  generalize none : ([] : Form) = remains at leads
  induction leads with
  | nothing form => exact none ▸ .nothing
  | read steps symbol char form word remains reads _ ih => exact .read steps symbol char form word reads (ih none)
  | skip steps form word remains _ ih => exact .skip steps form word (ih none)
  | replace steps left alternative form word remains member _ ih =>
      exact .replace steps left alternative form word member (ih none)

theorem leads_of_reads (front remains : Form) (word : List Char) (reads : front.Reads word) :
    grammar.Leads front.length (front ++ remains) word remains := by
  induction front generalizing word with
  | nil =>
      rw [(Form.reads_nil word).mp reads]
      exact .nothing remains
  | cons symbol rest ih =>
      obtain ⟨char, others, rfl, read, tail⟩ := (Form.reads_cons symbol rest word).mp reads
      exact .read _ symbol char _ others remains read (ih others tail)

theorem unfolds_of_reads (form : Form) (word : List Char) (reads : form.Reads word) :
    grammar.Unfolds form.length form word := by
  have leads := grammar.leads_of_reads form [] word reads
  rw [List.append_nil] at leads
  exact grammar.unfolds_of_leads _ form word leads

theorem unfolds_append (front back : Form) (first second : List Char) (before after : Nat)
    (left : grammar.Unfolds before front first) (right : grammar.Unfolds after back second) :
    ∃ steps, grammar.Unfolds steps (front ++ back) (first ++ second) := by
  induction left with
  | nothing => exact ⟨after, right⟩
  | read steps symbol char form word reads _ ih =>
      obtain ⟨total, rest⟩ := ih
      exact ⟨total + 1, .read total symbol char _ _ reads rest⟩
  | skip steps form word _ ih =>
      obtain ⟨total, rest⟩ := ih
      exact ⟨total + 1, .skip total _ _ rest⟩
  | replace steps left alternative form word member _ ih =>
      obtain ⟨total, rest⟩ := ih
      rw [List.append_assoc] at rest
      exact ⟨total + 1, .replace total left alternative _ _ member rest⟩

theorem unfolds_split (steps : Nat) (front back : Form) (word : List Char)
    (unfolds : grammar.Unfolds steps (front ++ back) word) :
    ∃ before after first second, word = first ++ second ∧ grammar.Unfolds before front first ∧
      grammar.Unfolds after back second := by
  generalize whole : front ++ back = form at unfolds
  induction unfolds generalizing front with
  | nothing =>
      obtain ⟨rfl, rfl⟩ := List.append_eq_nil_iff.mp whole
      exact ⟨0, 0, [], [], rfl, .nothing, .nothing⟩
  | read steps symbol char form word reads rest ih =>
      cases front with
      | nil =>
          cases (List.nil_append back).symm.trans whole
          exact ⟨0, _, [], _, rfl, .nothing, .read steps symbol char form word reads rest⟩
      | cons other front =>
          obtain ⟨rfl, tail⟩ := List.cons.inj whole
          obtain ⟨before, after, first, second, rfl, left, right⟩ := ih front tail
          exact ⟨_, _, char :: first, second, rfl, .read before other char front first reads left, right⟩
  | skip steps form word rest ih =>
      cases front with
      | nil =>
          cases (List.nil_append back).symm.trans whole
          exact ⟨0, _, [], _, rfl, .nothing, .skip steps form word rest⟩
      | cons other front =>
          obtain ⟨rfl, tail⟩ := List.cons.inj whole
          obtain ⟨before, after, first, second, rfl, left, right⟩ := ih front tail
          exact ⟨_, _, first, second, rfl, .skip before front first left, right⟩
  | replace steps left alternative form word member rest ih =>
      cases front with
      | nil =>
          cases (List.nil_append back).symm.trans whole
          exact ⟨0, _, [], _, rfl, .nothing, .replace steps left alternative form word member rest⟩
      | cons other front =>
          obtain ⟨rfl, tail⟩ := List.cons.inj whole
          obtain ⟨before, after, first, second, rfl, inner, right⟩ :=
            ih (alternative ++ front) (by rw [List.append_assoc]; exact congrArg _ tail)
          exact ⟨_, _, first, second, rfl, .replace before left alternative front first member inner, right⟩

theorem unfolds_of_rewrites (form target : Form) (word : List Char) (steps : Nat)
    (rewrites : grammar.Rewrites form target) (unfolds : grammar.Unfolds steps target word) :
    ∃ more, grammar.Unfolds more form word := by
  cases rewrites with
  | replace front back left alternative member =>
      rw [List.append_assoc] at unfolds
      obtain ⟨before, after, first, second, rfl, outer, inner⟩ := grammar.unfolds_split steps _ _ word unfolds
      exact grammar.unfolds_append front _ first second before _ outer
        (.replace after left alternative back second member inner)
  | erase front back =>
      obtain ⟨before, after, first, second, rfl, outer, inner⟩ := grammar.unfolds_split steps _ _ word unfolds
      exact grammar.unfolds_append front _ first second before _ outer (.skip after back second inner)

theorem unfolds_of_derives (form target : Form) (word : List Char) (derives : grammar.Derives form target)
    (reads : target.Reads word) : ∃ steps, grammar.Unfolds steps form word := by
  induction derives using Relation.ReflTransGen.head_induction_on with
  | refl => exact ⟨_, grammar.unfolds_of_reads target word reads⟩
  | head rewrites _ ih =>
      obtain ⟨steps, unfolds⟩ := ih
      exact grammar.unfolds_of_rewrites _ _ word steps rewrites unfolds

theorem derives_of_leads (steps : Nat) (form : Form) (word : List Char) (remains : Form)
    (leads : grammar.Leads steps form word remains) :
    ∃ front : Form, front.Reads word ∧ grammar.Derives form (front ++ remains) := by
  induction leads with
  | nothing form => exact ⟨[], rfl, grammar.derives_refl form⟩
  | read steps symbol char form word remains reads _ ih =>
      obtain ⟨front, read, derives⟩ := ih
      exact ⟨symbol :: front, (Form.reads_cons symbol front _).mpr ⟨char, word, rfl, reads, read⟩,
        grammar.derives_append [symbol] form [symbol] _ (grammar.derives_refl _) derives⟩
  | skip steps form word remains _ ih =>
      obtain ⟨front, read, derives⟩ := ih
      exact ⟨front, read, grammar.derives_append [.epsilon] form [] _ grammar.derives_mark derives⟩
  | replace steps left alternative form word remains member _ ih =>
      obtain ⟨front, read, derives⟩ := ih
      have inside := grammar.derives_append [.nonTerminal left] form _ _
        (grammar.derives_alternative left alternative member) (grammar.derives_refl form)
      exact ⟨front, read, grammar.derives_trans inside derives⟩

theorem derives_of_unfolds (steps : Nat) (form : Form) (word : List Char)
    (unfolds : grammar.Unfolds steps form word) : ∃ target, grammar.Derives form target ∧ target.Reads word := by
  obtain ⟨front, reads, derives⟩ :=
    grammar.derives_of_leads steps form word [] (grammar.leads_of_unfolds steps form word unfolds)
  rw [List.append_nil] at derives
  exact ⟨front, derives, reads⟩

theorem generates_iff_unfolds (word : List Char) :
    grammar.Generates word ↔
      ∃ start steps, grammar.start? = some start ∧ grammar.Unfolds steps [.nonTerminal start] word := by
  constructor
  · intro ⟨start, target, first, derives, reads⟩
    obtain ⟨steps, unfolds⟩ := grammar.unfolds_of_derives _ target word derives reads
    exact ⟨start, steps, first, unfolds⟩
  · intro ⟨start, steps, first, unfolds⟩
    obtain ⟨target, derives, reads⟩ := grammar.derives_of_unfolds steps _ word unfolds
    exact ⟨start, target, first, derives, reads⟩

-- Behind the end of the input nothing can be missing: some character is read there.
theorem unfolds_end (steps : Nat) (form : Form) (word : List Char)
    (unfolds : grammar.Unfolds steps (form ++ [.endOfInput]) word) :
    ∃ before rest, word = rest ++ [endMark] ∧ grammar.Unfolds before form rest := by
  obtain ⟨before, after, first, second, rfl, front, back⟩ := grammar.unfolds_split steps form _ word unfolds
  cases back with
  | read steps symbol char form word reads rest =>
      cases rest
      cases reads
      exact ⟨before, first, rfl, front⟩

-- A form that can be put in the place of another one can so behind any front. What remains begins as before:
-- with what remains of the two forms, or with the front where they are not come to.
theorem leads_behind (source target : Form)
    (under : ∀ steps word remains, grammar.Leads steps target word remains →
      ∃ more others, others.head? = remains.head? ∧ grammar.Leads more source word others)
    (steps : Nat) (front : Form) (word : List Char) (remains : Form)
    (leads : grammar.Leads steps (front ++ target) word remains) :
    ∃ more others, others.head? = remains.head? ∧ grammar.Leads more (front ++ source) word others := by
  induction steps generalizing front word with
  | zero =>
      cases front with
      | nil => exact under 0 word remains leads
      | cons symbol front =>
          cases leads
          exact ⟨0, symbol :: front ++ source, rfl, .nothing _⟩
  | succ steps ih =>
      cases front with
      | nil => exact under (steps + 1) word remains leads
      | cons symbol front =>
          cases leads with
          | read _ _ char _ word _ reads rest =>
              obtain ⟨more, others, same, further⟩ := ih front word rest
              exact ⟨more + 1, others, same, .read more symbol char _ word others reads further⟩
          | skip _ _ _ _ rest =>
              obtain ⟨more, others, same, further⟩ := ih front word rest
              exact ⟨more + 1, others, same, .skip more _ word others further⟩
          | replace _ left alternative _ _ _ member rest =>
              have whole : grammar.Leads steps ((alternative ++ front) ++ target) word remains := by
                rw [List.append_assoc]
                exact rest
              obtain ⟨more, others, same, further⟩ := ih (alternative ++ front) word whole
              rw [List.append_assoc] at further
              exact ⟨more + 1, others, same, .replace more left alternative _ word others member further⟩

theorem leads_of_rewrites (form target : Form) (word : List Char) (steps : Nat) (remains : Form)
    (rewrites : grammar.Rewrites form target) (leads : grammar.Leads steps target word remains) :
    ∃ more others, others.head? = remains.head? ∧ grammar.Leads more form word others := by
  cases rewrites with
  | replace front back left alternative member =>
      rw [List.append_assoc] at leads
      refine grammar.leads_behind _ _ (fun steps word remains inner => ?_) steps front word remains leads
      exact ⟨_, remains, rfl, .replace steps left alternative back word remains member inner⟩
  | erase front back =>
      refine grammar.leads_behind _ _ (fun steps word remains inner => ?_) steps front word remains leads
      exact ⟨_, remains, rfl, .skip steps back word remains inner⟩

theorem leads_of_derives (form front back : Form) (word : List Char) (derives : grammar.Derives form (front ++ back))
    (reads : front.Reads word) :
    ∃ steps remains, remains.head? = back.head? ∧ grammar.Leads steps form word remains := by
  induction derives using Relation.ReflTransGen.head_induction_on with
  | refl => exact ⟨_, back, rfl, grammar.leads_of_reads front back word reads⟩
  | head rewrites _ ih =>
      obtain ⟨steps, remains, same, leads⟩ := ih
      obtain ⟨more, others, again, further⟩ := grammar.leads_of_rewrites _ _ word steps remains rewrites leads
      exact ⟨more, others, again.trans same, further⟩

theorem begins_of_leads (steps : Nat) (form : Form) (char : Char) (word : List Char) (remains : Form)
    (leads : grammar.Leads steps form (char :: word) remains) : grammar.Begins form char := by
  obtain ⟨front, reads, derives⟩ := grammar.derives_of_leads steps form _ remains leads
  cases front with
  | nil => cases (Form.reads_nil _).mp reads
  | cons symbol rest =>
      obtain ⟨_, _, same, read, _⟩ := (Form.reads_cons symbol rest _).mp reads
      cases same
      exact ⟨_, derives, symbol, _, rfl, read⟩

end TopDown.Grammar
