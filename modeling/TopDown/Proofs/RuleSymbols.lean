import TopDown.RuleText
/-!
The symbols of a grammar that is read from text. Each is written with a character of the line it
comes from, and a line with the end mark is refused, so no symbol is written like the end mark.
-/

set_option autoImplicit false

namespace TopDown

namespace RuleLine

def forms : RuleLine → List Form
  | rule _ alternatives => alternatives
  | continuation alternatives => alternatives

end RuleLine

namespace RuleText

theorem mem_of_mem_modify_head (pieces : List (List Char)) (first : Char) (piece : List Char)
    (known : piece ∈ pieces.modifyHead (first :: ·)) :
    piece ∈ pieces ∨ ∃ old ∈ pieces, piece = first :: old := by
  cases pieces with
  | nil => cases known
  | cons head rest =>
      rcases List.mem_cons.mp known with same | further
      · exact Or.inr ⟨head, List.mem_cons_self, same⟩
      · exact Or.inl (List.mem_cons_of_mem head further)

theorem mem_of_mem_head (pieces : List (List Char)) (first : Char) (chars piece : List Char) (char : Char)
    (inside : ∀ old ∈ pieces, char ∈ old → char ∈ chars) (known : piece ∈ pieces.modifyHead (first :: ·))
    (member : char ∈ piece) : char ∈ first :: chars := by
  rcases mem_of_mem_modify_head pieces first piece known with old | ⟨old, oldKnown, rfl⟩
  · exact List.mem_cons_of_mem first (inside piece old member)
  · rcases List.mem_cons.mp member with rfl | further
    · exact List.mem_cons_self
    · exact List.mem_cons_of_mem first (inside old oldKnown further)

theorem mem_of_mem_split (separator : Char) (chars piece : List Char) (char : Char)
    (known : piece ∈ chars.splitOn separator) (member : char ∈ piece) : char ∈ chars := by
  induction chars generalizing piece with
  | nil =>
      have same : piece = [] := by simpa [List.splitOn_nil] using known
      rw [same] at member
      cases member
  | cons first rest ih =>
      rw [List.splitOn, List.splitOnP_cons_eq_if_modifyHead] at known
      split at known
      · rcases List.mem_cons.mp known with rfl | further
        · cases member
        · exact List.mem_cons_of_mem first (ih piece further member)
      · exact mem_of_mem_head _ first rest piece char (fun old oldKnown => ih old oldKnown) known member

theorem mem_of_mem_arrows (chars piece : List Char) (char : Char) (known : piece ∈ splitArrows chars)
    (member : char ∈ piece) : char ∈ chars := by
  induction chars using splitArrows.induct generalizing piece with
  | case1 rest ih =>
      rw [splitArrows] at known
      rcases List.mem_cons.mp known with rfl | further
      · cases member
      · exact List.mem_cons_of_mem _ (List.mem_cons_of_mem _ (ih piece further member))
  | case2 first rest noArrow ih =>
      rw [splitArrows.eq_2 first rest noArrow] at known
      exact mem_of_mem_head _ first rest piece char (fun old oldKnown => ih old oldKnown) known member
  | case3 =>
      rw [splitArrows] at known
      rw [List.mem_singleton.mp known] at member
      cases member

theorem char_of_mem_alternative (chars : List Char) (symbol : Symbol) (member : symbol ∈ readAlternative chars) :
    symbol = .epsilon ∨ symbol.char ∈ chars := by
  rw [readAlternative] at member
  split at member
  · exact Or.inl (List.mem_singleton.mp member)
  · rename_i form _
    obtain ⟨known, _⟩ := List.mem_filter.mp member
    obtain ⟨char, kept, rfl⟩ := List.mem_map.mp known
    rw [Symbol.char_of_char]
    exact Or.inr (List.mem_filter.mp kept).1

-- No symbol is written like the end mark.
def Unmarked (form : Form) : Prop := ∀ symbol ∈ form, symbol.char ≠ endMark

theorem unmarked_alternatives (chars : List Char) (absent : endMark ∉ chars) :
    ∀ form ∈ readAlternatives chars, Unmarked form := by
  intro form member symbol inside same
  obtain ⟨piece, known, rfl⟩ := List.mem_map.mp member
  rcases char_of_mem_alternative piece symbol inside with rfl | written
  · exact absurd same (by decide)
  · exact absent (mem_of_mem_split separator chars piece endMark known (same ▸ written))

theorem unmarked_line (chars : List Char) (line : RuleLine) (read : readLine chars = .ok line) :
    ∀ form ∈ line.forms, Unmarked form := by
  rw [readLine] at read
  by_cases marked : endMark ∈ chars
  · rw [if_pos marked] at read
    cases read
  · rw [if_neg marked] at read
    have absent : ∀ piece ∈ splitArrows chars, endMark ∉ piece := fun piece known member =>
      marked (mem_of_mem_arrows chars piece endMark known member)
    split at read
    · rename_i left rights pieces
      cases head : readLeft (Text.trim left) with
      | error fault =>
          rw [head] at read
          cases read
      | ok char =>
          rw [head] at read
          cases read
          exact unmarked_alternatives rights (absent rights (by simp [pieces]))
    · rename_i whole pieces
      split at read
      · rename_i rights
        cases read
        refine unmarked_alternatives rights fun member => ?_
        exact absent ('|' :: rights) (by simp [pieces]) (List.mem_cons_of_mem '|' member)
      · cases read
    · cases read

def UnmarkedRules (rules : List Rule) : Prop := ∀ rule ∈ rules, ∀ form ∈ rule.alternatives, Unmarked form

theorem unmarked_rules_add (rules longer : List Rule) (line : RuleLine) (unmarked : UnmarkedRules rules)
    (forms : ∀ form ∈ line.forms, Unmarked form) (added : addLine rules line = .ok longer) :
    UnmarkedRules longer := by
  cases line with
  | rule left alternatives =>
      cases added
      intro rule member
      rcases List.mem_cons.mp member with rfl | old
      · exact forms
      · exact unmarked rule old
  | continuation alternatives =>
      cases rules with
      | nil => cases added
      | cons previous older =>
          cases added
          intro rule member
          rcases List.mem_cons.mp member with rfl | old
          · intro form inside
            rcases List.mem_append.mp inside with before | behind
            · exact unmarked previous (by simp) form before
            · exact forms form behind
          · exact unmarked rule (by simp [old])

theorem unmarked_rules_read (number : Nat) (rules final : List Rule) (lines : List (List Char))
    (unmarked : UnmarkedRules rules) (read : readLines number rules lines = .ok final) : UnmarkedRules final := by
  induction lines generalizing number rules with
  | nil =>
      cases read
      exact fun rule member => unmarked rule (List.mem_reverse.mp member)
  | cons line rest ih =>
      rw [readLines] at read
      by_cases blank : (Text.trim line).isEmpty
      · rw [if_pos blank] at read
        exact ih (number + 1) rules unmarked read
      · rw [if_neg blank] at read
        cases parsed : readLine (Text.trim line) with
        | error fault =>
            rw [parsed] at read
            cases read
        | ok content =>
            cases added : addLine rules content with
            | error fault => simp [parsed, bind, Except.bind, added] at read
            | ok longer =>
                simp only [parsed, bind, Except.bind, added] at read
                exact ih (number + 1) longer
                  (unmarked_rules_add rules longer content unmarked (unmarked_line _ content parsed) added) read

end RuleText

namespace Grammar

theorem unmarked_of_text (text : String) (grammar : Grammar) (read : ofText text = .ok grammar) :
    ∀ symbol ∈ grammar.symbols, symbol.char ≠ endMark := by
  rw [ofText] at read
  cases parsed : RuleText.readLines 1 [] (text.toList.splitOn '\n') with
  | error fault =>
      rw [parsed] at read
      cases read
  | ok rules =>
      rw [parsed] at read
      cases read
      have unmarked := RuleText.unmarked_rules_read 1 [] rules _ (fun _ member => nomatch member) parsed
      intro symbol member
      obtain ⟨rule, known, inside⟩ := List.mem_flatMap.mp member
      obtain ⟨form, formKnown, present⟩ := List.mem_flatten.mp inside
      exact unmarked rule known form formKnown symbol present

end Grammar

end TopDown
