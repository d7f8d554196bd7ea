import Mathlib.Logic.Relation
import TopDown.Grammar
/-!
Derivations of a grammar, apart from every table and every set computed for it. A rewrite puts an
alternative in the place of a non-terminal or strikes out an empty mark; a derivation is any number
of rewrites. The words of a grammar are what the forms derived from its start symbol read.
-/

set_option autoImplicit false

namespace TopDown

namespace Symbol

-- The character that a matched symbol stands for in a word.
def read? : Symbol → Option Char
  | terminal char => some char
  | endOfInput => some endMark
  | nonTerminal _ | epsilon => none

end Symbol

namespace Form

-- Every symbol stands for one character of the word.
def Reads (form : Form) (word : List Char) : Prop := form.map Symbol.read? = word.map some

def BeginsWith (form : Form) (char : Char) : Prop :=
  ∃ symbol rest, form = symbol :: rest ∧ symbol.read? = some char

theorem reads_nil (word : List Char) : Reads [] word ↔ word = [] := by
  cases word <;> simp [Reads]

theorem reads_cons (symbol : Symbol) (form : Form) (word : List Char) :
    Reads (symbol :: form) word ↔
      ∃ char rest, word = char :: rest ∧ symbol.read? = some char ∧ form.Reads rest := by
  cases word with
  | nil => simp [Reads]
  | cons char rest =>
      simp only [Reads, List.map_cons, List.cons.injEq]
      constructor
      · intro ⟨read, others⟩
        exact ⟨char, rest, ⟨rfl, rfl⟩, read, others⟩
      · rintro ⟨_, _, ⟨rfl, rfl⟩, read, others⟩
        exact ⟨read, others⟩

theorem reads_append (front back : Form) (first second : List Char)
    (frontReads : front.Reads first) (backReads : back.Reads second) :
    Reads (front ++ back) (first ++ second) := by
  rw [Reads, List.map_append, List.map_append, frontReads, backReads]

end Form

-- Where one symbol of two lists in a row stands: in the first list or in the second one.
theorem split_at_symbol {item : Type} (front back left right : List item) (symbol : item)
    (same : left ++ right = front ++ symbol :: back) :
    (∃ middle, left = front ++ symbol :: middle ∧ back = middle ++ right) ∨
      ∃ middle, right = middle ++ symbol :: back ∧ front = left ++ middle := by
  rcases List.append_eq_append_iff.mp same with ⟨middle, frontEq, rightEq⟩ | ⟨middle, leftEq, tailEq⟩
  · exact Or.inr ⟨middle, rightEq, frontEq⟩
  · cases middle with
    | nil => exact Or.inr ⟨[], by simpa using tailEq.symm, by simpa using leftEq.symm⟩
    | cons other middle =>
        obtain ⟨rfl, backEq⟩ := List.cons.inj tailEq
        exact Or.inl ⟨middle, leftEq, backEq⟩

namespace Grammar

/-- One non-terminal gives way to one of its alternatives, or one empty mark is struck out. -/
inductive Rewrites (grammar : Grammar) : Form → Form → Prop where
  | replace (front back : Form) (left : Char) (alternative : Form)
      (member : alternative ∈ grammar.alternativesOf left) :
      Rewrites grammar (front ++ .nonTerminal left :: back) (front ++ alternative ++ back)
  | erase (front back : Form) : Rewrites grammar (front ++ .epsilon :: back) (front ++ back)

def Derives (grammar : Grammar) : Form → Form → Prop := Relation.ReflTransGen grammar.Rewrites

-- The words of a grammar. A grammar without rules has none.
def Generates (grammar : Grammar) (word : List Char) : Prop :=
  ∃ start form, grammar.start? = some start ∧ grammar.Derives [.nonTerminal start] form ∧ form.Reads word

-- Some derived form begins with a symbol that reads the character.
def Begins (grammar : Grammar) (form : Form) (char : Char) : Prop :=
  ∃ target, grammar.Derives form target ∧ target.BeginsWith char

def Vanishes (grammar : Grammar) (form : Form) : Prop := grammar.Derives form []

variable (grammar : Grammar)

theorem derives_refl (form : Form) : grammar.Derives form form := .refl

theorem derives_trans {form middle target : Form} (first : grammar.Derives form middle)
    (second : grammar.Derives middle target) : grammar.Derives form target := first.trans second

theorem rewrites_in_context (front back form target : Form) (rewrites : grammar.Rewrites form target) :
    grammar.Rewrites (front ++ form ++ back) (front ++ target ++ back) := by
  cases rewrites with
  | replace inner outer left alternative member =>
      have moved := Rewrites.replace (front ++ inner) (outer ++ back) left alternative member
      simpa only [List.append_assoc, List.cons_append] using moved
  | erase inner outer =>
      have moved : grammar.Rewrites _ _ := .erase (front ++ inner) (outer ++ back)
      simpa only [List.append_assoc, List.cons_append] using moved

theorem derives_in_context (front back form target : Form) (derives : grammar.Derives form target) :
    grammar.Derives (front ++ form ++ back) (front ++ target ++ back) := by
  induction derives with
  | refl => exact grammar.derives_refl _
  | tail _ rewrites ih => exact ih.tail (grammar.rewrites_in_context front back _ _ rewrites)

theorem derives_append (front back frontTarget backTarget : Form)
    (first : grammar.Derives front frontTarget) (second : grammar.Derives back backTarget) :
    grammar.Derives (front ++ back) (frontTarget ++ backTarget) := by
  have left := grammar.derives_in_context [] back front frontTarget first
  have right := grammar.derives_in_context frontTarget [] back backTarget second
  rw [List.append_nil, List.append_nil] at right
  exact grammar.derives_trans left right

theorem derives_alternative (left : Char) (alternative : Form)
    (member : alternative ∈ grammar.alternativesOf left) :
    grammar.Derives [.nonTerminal left] alternative := by
  have rewrites := Rewrites.replace [] [] left alternative member
  rw [List.nil_append, List.append_nil] at rewrites
  exact .single rewrites

-- A non-terminal alone has one way to be rewritten.
theorem alternative_of_rewrites (left : Char) (target : Form) (rewrites : grammar.Rewrites [.nonTerminal left] target) :
    target ∈ grammar.alternativesOf left := by
  generalize alone : [Symbol.nonTerminal left] = form at rewrites
  cases rewrites with
  | erase front back => cases front <;> simp at alone
  | replace front back head alternative member =>
      cases front with
      | cons symbol front => simp at alone
      | nil =>
          obtain ⟨same, rfl⟩ := List.cons.inj alone
          cases same
          simpa using member

theorem derives_mark : grammar.Derives [.epsilon] [] := .single (.erase [] [])

theorem vanishes_append (front back : Form) (first : grammar.Vanishes front)
    (second : grammar.Vanishes back) : grammar.Vanishes (front ++ back) :=
  grammar.derives_append front back [] [] first second

theorem begins_of_derives (form target : Form) (char : Char) (derives : grammar.Derives form target)
    (begins : grammar.Begins target char) : grammar.Begins form char := by
  obtain ⟨final, further, starts⟩ := begins
  exact ⟨final, grammar.derives_trans derives further, starts⟩

theorem begins_of_read (symbol : Symbol) (rest : Form) (char : Char) (read : symbol.read? = some char) :
    grammar.Begins (symbol :: rest) char := ⟨_, grammar.derives_refl _, symbol, rest, rfl, read⟩

theorem begins_append_left (front back : Form) (char : Char) (begins : grammar.Begins front char) :
    grammar.Begins (front ++ back) char := by
  obtain ⟨_, derives, symbol, rest, rfl, read⟩ := begins
  exact ⟨_, grammar.derives_append front back _ back derives (grammar.derives_refl back), symbol,
    rest ++ back, rfl, read⟩

theorem begins_append_right (front back : Form) (char : Char) (vanishes : grammar.Vanishes front)
    (begins : grammar.Begins back char) : grammar.Begins (front ++ back) char :=
  grammar.begins_of_derives _ back char
    (grammar.derives_append front back [] back vanishes (grammar.derives_refl back)) begins

end Grammar

end TopDown
