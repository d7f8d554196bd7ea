import TopDown.Proofs.Display
import TopDown.Proofs.Printing
/-!
How the symbols of a grammar that was read from text are written. Their characters are neither white space nor bars,
and each character stands for one symbol only: what is shown of rules, cells and conflicts can be told apart again.
-/

set_option autoImplicit false

namespace TopDown

namespace Text

theorem absent_joined (joint : String) (texts : List String) (char : Char) (apart : char ∉ joint.toList)
    (absent : ∀ text ∈ texts, char ∉ text.toList) : char ∉ (joint.intercalate texts).toList := by
  induction texts with
  | nil => exact List.not_mem_nil
  | cons text rest ih =>
      have own := absent text List.mem_cons_self
      cases rest with
      | nil => rwa [String.intercalate_singleton]
      | cons next more =>
          have further := ih fun other member => absent other (List.mem_cons_of_mem text member)
          simp only [String.intercalate_cons_cons, String.toList_append, List.mem_append, not_or]
          exact ⟨⟨own, apart⟩, further⟩

-- Texts within one line each are the lines of the text that they make.
theorem lines_of_joined (texts : List String) (filled : texts ≠ []) (whole : ∀ text ∈ texts, '\n' ∉ text.toList) :
    ("\n".intercalate texts).toList.splitOn '\n' = texts.map String.toList := by
  have unbroken : ∀ chars ∈ texts.map String.toList, '\n' ∉ chars := by
    intro chars member
    obtain ⟨text, inside, rfl⟩ := List.mem_map.mp member
    exact whole text inside
  rw [String.toList_intercalate]
  exact List.splitOn_intercalate '\n' unbroken (List.map_eq_nil_iff.not.mpr filled)

end Text

namespace RuleText

def Plain (char : Char) : Prop := Text.isWhiteSpace char = false ∧ char ≠ separator

instance (char : Char) : Decidable (Plain char) := inferInstanceAs (Decidable (_ ∧ _))

-- What stands in a line or in a cell: plain characters, with spaces among them.
def Inline (chars : List Char) : Prop := ∀ char ∈ chars, char = ' ' ∨ Plain char

instance (chars : List Char) : Decidable (Inline chars) :=
  decidable_of_iff (chars.all fun char => decide (char = ' ' ∨ Plain char)) (by simp [Inline])

theorem inline_append (front back : List Char) : Inline (front ++ back) ↔ Inline front ∧ Inline back :=
  List.forall_mem_append

theorem inline_append_text (front back : String) :
    Inline (front ++ back).toList ↔ Inline front.toList ∧ Inline back.toList := by
  rw [String.toList_append, inline_append]

theorem inline_singleton (char : Char) (plain : Plain char) : Inline (String.singleton char).toList := by
  intro other member
  rw [String.toList_singleton, List.mem_singleton] at member
  exact Or.inr (member ▸ plain)

theorem inline_blanks (count : Nat) : Inline (List.replicate count ' ') :=
  fun _ member => Or.inl (List.eq_of_mem_replicate member)

theorem absent_of_inline (chars : List Char) (inline : Inline chars) (char : Char) (other : char ≠ ' ')
    (unfit : ¬ Plain char) : char ∉ chars :=
  fun member => (inline char member).elim other unfit

theorem unbroken_of_inline (text : String) (inline : Inline text.toList) : '\n' ∉ text.toList :=
  absent_of_inline _ inline '\n' (by decide) (by decide)

theorem plain_of_spelled (form : Form) (legible : Legible form) (char : Char) (member : char ∈ spelled form) :
    Plain char :=
  ⟨legible.solid char member, fun same => legible.unbarred (same ▸ member)⟩

theorem plain_upper (char : Char) (upper : 'A' ≤ char ∧ char ≤ 'Z') : Plain char := by
  refine ⟨solid_upper char upper, ?_⟩
  intro same
  exact apart_upper char upper (by simp [same])

theorem plain_end_mark : Plain endMark := by decide

theorem of_char_upper (char : Char) (upper : 'A' ≤ char ∧ char ≤ 'Z') : Symbol.ofChar char = .nonTerminal char := by
  have unempty : char ≠ emptyMark := by
    rintro rfl
    exact absurd upper (by decide)
  have unended : char ≠ endMark := by
    rintro rfl
    exact absurd upper (by decide)
  rw [Symbol.ofChar, if_neg unempty, if_neg unended, if_pos ((upper_iff char).mpr upper)]

theorem inline_text (form : Form) (legible : Legible form) : Inline form.text.toList := by
  rw [Form.text, String.toList_ofList]
  exact fun char member => Or.inr (plain_of_spelled form legible char member)

-- A legible form is told by its characters, the form of the empty word included.
theorem chars_of_spelled (form : Form) (legible : Legible form) : (spelled form).map Symbol.ofChar = form := by
  have reread := legible.reread
  rcases form_of_kept (spelled form) with same | ⟨kept, _, same, _⟩
  · rw [← reread, same]
    rfl
  · rw [reread] at same
    rw [same, spelled_of_chars]

end RuleText

namespace Grammar

open RuleText

section Read

variable (text : String) (grammar : Grammar) (read : ofText text = .ok grammar)

include read

theorem legible_alternative (left : Char) (form : Form) (member : form ∈ grammar.alternativesOf left) :
    Legible form := by
  obtain ⟨rule, known, inside⟩ := List.mem_flatMap.mp member
  exact (legible_of_text text grammar read rule (List.mem_filter.mp known).1).forms form inside

theorem legible_of_symbol (symbol : Symbol) (member : symbol ∈ grammar.symbols) :
    ∃ form, Legible form ∧ symbol ∈ form := by
  obtain ⟨left, form, known, inside⟩ := (grammar.mem_symbols symbol).mp member
  exact ⟨form, legible_alternative text grammar read left form ((grammar.mem_alternatives left form).mp known), inside⟩

theorem plain_symbol (symbol : Symbol) (member : symbol ∈ grammar.symbols) : Plain symbol.char := by
  obtain ⟨form, legible, inside⟩ := legible_of_symbol text grammar read symbol member
  exact plain_of_spelled form legible _ (List.mem_map_of_mem inside)

theorem symbol_of_char (symbol : Symbol) (member : symbol ∈ grammar.symbols) :
    Symbol.ofChar symbol.char = symbol := by
  obtain ⟨form, legible, inside⟩ := legible_of_symbol text grammar read symbol member
  have told := chars_of_spelled form legible
  rw [spelled, List.map_map] at told
  have all := List.map_inj_left.mp (told.trans (List.map_id form).symm)
  exact all symbol inside

theorem plain_non_terminal (char : Char) (member : char ∈ grammar.nonTerminals) : Plain char := by
  rcases (grammar.mem_non_terminals char).mp member with ⟨rule, known, rfl⟩ | inside
  · exact plain_upper rule.left (legible_of_text text grammar read rule known).upper
  · exact plain_symbol text grammar read _ inside

theorem plain_terminal (char : Char) (member : char ∈ grammar.terminals) : Plain char := by
  rcases (grammar.mem_terminals char).mp member with inside | rfl
  · exact plain_symbol text grammar read _ inside
  · exact plain_end_mark

end Read

end Grammar

end TopDown
