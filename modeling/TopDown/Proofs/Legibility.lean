import TopDown.Proofs.RuleFormat
import TopDown.Proofs.RuleSymbols
/-!
Lines that say a rule again. A form that was read has no white space, bar or end mark in it, so its characters between
bars stand for it. What they can have in them is an arrow: white space or an empty mark parts the two characters of an
arrow in a text, and neither is kept.
-/

set_option autoImplicit false

namespace TopDown

namespace RuleText

def spelled (form : Form) : List Char := form.map Symbol.char

-- A form that its own characters stand for, wherever they are put between bars.
structure Legible (form : Form) : Prop where
  reread : formOf (spelled form) = form
  solid : ∀ char ∈ spelled form, Text.isWhiteSpace char = false
  unbarred : separator ∉ spelled form
  unmarked : endMark ∉ spelled form

-- The symbols spell an arrow.
def Arrowed (form : Form) : Prop := [.terminal '-', .terminal '>'] <:+: form

structure LegibleRule (rule : Rule) : Prop where
  upper : 'A' ≤ rule.left ∧ rule.left ≤ 'Z'
  filled : rule.alternatives ≠ []
  forms : ∀ form ∈ rule.alternatives, Legible form

-- The alternatives behind the first of a line, each behind a bar.
def barred (forms : List Form) : List Char := forms.flatMap fun form => [' ', separator, ' '] ++ spelled form

def saidRule (left : Char) (first : Form) (rest : List Form) : List Char :=
  [left, ' '] ++ arrow ++ (' ' :: spelled first ++ barred rest)

def saidFurther (form : Form) : List Char := separator :: ' ' :: spelled form

theorem form_of_kept (piece : List Char) :
    formOf piece = .empty ∨ ∃ kept, kept ≠ [] ∧ formOf piece = kept.map Symbol.ofChar ∧
      (∀ char ∈ kept, char ∈ piece ∧ Text.isWhiteSpace char = false ∧ char ≠ emptyMark) := by
  rw [formOf]
  split
  · exact Or.inl rfl
  · rename_i kept filled
    refine Or.inr ⟨_, fun none => filled none, rfl, fun char member => ?_⟩
    simpa using member

theorem form_of_solid (kept : List Char) (filled : kept ≠ [])
    (solid : ∀ char ∈ kept, Text.isWhiteSpace char = false ∧ char ≠ emptyMark) :
    formOf kept = kept.map Symbol.ofChar := by
  have all : kept.filter (fun char => !Text.isWhiteSpace char && char ≠ emptyMark) = kept :=
    List.filter_eq_self.mpr fun char member => by simp [solid char member]
  rw [formOf, all]
  cases kept with
  | nil => exact absurd rfl filled
  | cons first rest => rfl

theorem spelled_of_chars (chars : List Char) : spelled (chars.map Symbol.ofChar) = chars := by
  rw [spelled, List.map_map]
  exact (List.map_congr_left fun char _ => Symbol.char_of_char char).trans (List.map_id chars)

theorem legible_of_piece (piece : List Char) (unbarred : separator ∉ piece) (unmarked : endMark ∉ piece) :
    Legible (formOf piece) := by
  rcases form_of_kept piece with same | ⟨kept, filled, same, known⟩
  · rw [same]
    exact ⟨by decide, List.forall_mem_singleton.mpr (by decide), by decide, by decide⟩
  · have reread := form_of_solid kept filled fun char member => (known char member).2
    rw [same]
    refine ⟨?_, ?_, ?_, ?_⟩ <;> rw [spelled_of_chars]
    · exact reread
    · exact fun char member => (known char member).2.1
    · exact fun member => unbarred (known _ member).1
    · exact fun member => unmarked (known _ member).1

theorem spelled_ne_nil (form : Form) (legible : Legible form) : spelled form ≠ [] := by
  intro none
  have same := legible.reread
  rw [none] at same
  rw [← same] at none
  exact absurd none (by decide)

theorem arrow_spelled (form : Form) (legible : Legible form) : arrow <:+: spelled form ↔ Arrowed form := by
  constructor
  · intro inside
    rcases form_of_kept (spelled form) with same | ⟨kept, _, same, _⟩
    · rw [legible.reread] at same
      rw [same] at inside
      exact absurd inside (by decide)
    · rw [legible.reread] at same
      rw [same, spelled_of_chars] at inside
      rw [Arrowed, same]
      exact inside.map Symbol.ofChar
  · exact fun inside => inside.map Symbol.char

theorem not_mem_of_mem_split (separator : Char) (chars piece : List Char) (known : piece ∈ chars.splitOn separator) :
    separator ∉ piece := by
  induction chars generalizing piece with
  | nil =>
      rw [List.splitOn_nil, List.mem_singleton] at known
      simp [known]
  | cons first rest ih =>
      rw [List.splitOn_cons_eq_if_modifyHead] at known
      split at known
      · rcases List.mem_cons.mp known with rfl | further
        · exact List.not_mem_nil
        · exact ih piece further
      · rename_i other
        rcases mem_of_mem_modify_head _ first piece known with old | ⟨old, oldKnown, rfl⟩
        · exact ih piece old
        · rw [List.mem_cons, not_or]
          exact ⟨fun same => other (by simp [same]), ih old oldKnown⟩

theorem legible_forms (chars : List Char) (unmarked : endMark ∉ chars) : ∀ form ∈ formsOf chars, Legible form := by
  intro form member
  obtain ⟨piece, known, rfl⟩ := List.mem_map.mp member
  exact legible_of_piece piece (not_mem_of_mem_split separator chars piece known)
    fun marked => unmarked (mem_of_mem_split separator chars piece endMark known marked)

theorem legible_of_reads (content : List Char) (line : RuleLine) (reads : Reads content line) :
    ∀ form ∈ line.forms, Legible form := by
  cases reads with
  | rule before after left unmarked single named upper =>
      exact legible_forms after fun marked => unmarked (by simp [marked])
  | continuation after unmarked free =>
      exact legible_forms after fun marked => unmarked (by simp [marked])

theorem forms_ne_nil (chars : List Char) : formsOf chars ≠ [] := by
  simp [formsOf]

theorem read_of_told (contents : List (List Char)) (told : List RuleLine) (reads : List.Forall₂ Reads contents told) :
    ∀ line ∈ told, ∃ content, Reads content line := by
  induction reads with
  | nil => exact fun line member => absurd member List.not_mem_nil
  | cons here _ ih =>
      intro line member
      rcases List.mem_cons.mp member with rfl | further
      · exact ⟨_, here⟩
      · exact ih line further

theorem legible_of_tells (lines : List (List Char)) (blocks : List Block) (tells : Tells lines blocks) :
    ∀ block ∈ blocks, LegibleRule block.rule := by
  intro block member
  have read : ∀ line ∈ block.lines, ∃ content, Reads content line := fun line inside =>
    read_of_told _ _ tells line (List.mem_flatMap.mpr ⟨block, member, inside⟩)
  obtain ⟨content, named⟩ := read _ List.mem_cons_self
  have first := legible_of_reads content _ named
  have further : ∀ forms ∈ block.further, ∀ form ∈ forms, Legible form := by
    intro forms known
    obtain ⟨line, reads⟩ := read (.continuation forms) (List.mem_cons_of_mem _ (List.mem_map_of_mem known))
    exact legible_of_reads line _ reads
  refine ⟨?_, ?_, ?_⟩
  · rcases block with ⟨left, forms, more⟩
    cases named with
    | rule before after left unmarked single named upper => exact upper
  · refine List.append_ne_nil_of_left_ne_nil ?_ _
    rcases block with ⟨left, forms, more⟩
    cases named with
    | rule before after left unmarked single named upper => exact forms_ne_nil after
  · intro form inside
    rcases List.mem_append.mp inside with front | back
    · exact first form front
    · obtain ⟨forms, known, inForms⟩ := List.mem_flatten.mp back
      exact further forms known form inForms

theorem blank_spaces (count : Nat) : Text.Blank (List.replicate count ' ') := by
  intro char member
  rw [List.eq_of_mem_replicate member]
  decide

theorem form_of_blanks (front piece back : List Char) (frontBlank : Text.Blank front) (backBlank : Text.Blank back) :
    formOf (front ++ piece ++ back) = formOf piece := by
  have gone (chars : List Char) (blank : Text.Blank chars) :
      chars.filter (fun char => !Text.isWhiteSpace char && char ≠ emptyMark) = [] :=
    List.filter_eq_nil_iff.mpr fun char member => by simp [blank char member]
  rw [formOf, formOf, List.filter_append, List.filter_append, gone front frontBlank, gone back backBlank,
    List.nil_append, List.append_nil]

theorem form_of_spelled (form : Form) (legible : Legible form) : formOf (' ' :: spelled form) = form := by
  have blanks := form_of_blanks [' '] (spelled form) [] (blank_spaces 1) (blank_spaces 0)
  rw [List.append_nil] at blanks
  exact blanks.trans legible.reread

theorem unbarred_spelled (form : Form) (legible : Legible form) : separator ∉ ' ' :: spelled form := by
  rw [List.mem_cons, not_or]
  exact ⟨by decide, legible.unbarred⟩

theorem forms_of_unbarred (piece : List Char) (unbarred : separator ∉ piece) : formsOf piece = [formOf piece] := by
  rw [formsOf, List.splitOn_eq_singleton unbarred, List.map_singleton]

theorem forms_across (front back : List Char) :
    formsOf (front ++ separator :: back) = formsOf front ++ formsOf back := by
  rw [formsOf, List.splitOn_append_cons_self, List.map_append, ← formsOf, ← formsOf]

theorem forms_of_barred (front : List Char) (forms : List Form) (unbarred : separator ∉ front)
    (legible : ∀ form ∈ forms, Legible form) : formsOf (front ++ barred forms) = formOf front :: forms := by
  induction forms generalizing front with
  | nil =>
      rw [barred, List.flatMap_nil, List.append_nil]
      exact forms_of_unbarred front unbarred
  | cons form rest ih =>
      have known := legible form List.mem_cons_self
      have apart : front ++ barred (form :: rest) =
          (front ++ [' ']) ++ separator :: (' ' :: spelled form ++ barred rest) := by simp [barred]
      have spaced : separator ∉ front ++ [' '] := by
        rw [List.mem_append, not_or]
        exact ⟨unbarred, by decide⟩
      have blanks := form_of_blanks [] front [' '] (blank_spaces 0) (blank_spaces 1)
      have further := ih _ (unbarred_spelled form known) fun other member =>
        legible other (List.mem_cons_of_mem form member)
      rw [apart, forms_across, forms_of_unbarred _ spaced, further, form_of_spelled form known]
      exact congrArg (· :: form :: rest) blanks

-- An arrow has no room for another character.
theorem arrow_across (front back : List Char) (gap : Char) (other : gap ∉ arrow) :
    arrow <:+: front ++ gap :: back ↔ arrow <:+: front ∨ arrow <:+: back := by
  constructor
  · intro inside
    rcases List.infix_append_iff.mp inside with before | behind | ⟨first, second, same, suffix, start⟩
    · exact Or.inl before
    · rcases List.infix_cons_iff.mp behind with ⟨after, same⟩ | further
      · injection same with dash
        exact absurd (dash ▸ List.mem_cons_self) other
      · exact Or.inr further
    · cases second with
      | nil =>
          rw [List.append_nil] at same
          exact Or.inl (same ▸ suffix.isInfix)
      | cons char rest =>
          obtain ⟨after, tail⟩ := start
          injection tail with met
          exact absurd (same ▸ List.mem_append_right first (met ▸ List.mem_cons_self)) other
  · rintro (⟨before, after, rfl⟩ | ⟨before, after, rfl⟩)
    · exact ⟨before, after ++ gap :: back, by simp⟩
    · exact ⟨front ++ gap :: before, after, by simp⟩

theorem arrow_behind (back : List Char) (gap : Char) (other : gap ∉ arrow) :
    arrow <:+: gap :: back ↔ arrow <:+: back :=
  (arrow_across [] back gap other).trans (or_iff_right arrow_free_nil)

theorem arrow_barred (front : List Char) (forms : List Form) :
    arrow <:+: front ++ barred forms ↔ arrow <:+: front ∨ ∃ form ∈ forms, arrow <:+: spelled form := by
  induction forms generalizing front with
  | nil => simp [barred]
  | cons form rest ih =>
      have apart : front ++ barred (form :: rest) =
          front ++ ' ' :: separator :: ' ' :: (spelled form ++ barred rest) := by simp [barred]
      rw [apart, arrow_across front _ ' ' (by decide), arrow_behind _ separator (by decide),
        arrow_behind _ ' ' (by decide), ih, List.exists_mem_cons_iff]

theorem arrow_said (first : Form) (rest : List Form) (legible : ∀ form ∈ first :: rest, Legible form) :
    arrow <:+: ' ' :: spelled first ++ barred rest ↔ ∃ form ∈ first :: rest, Arrowed form := by
  rw [arrow_barred, arrow_behind _ ' ' (by decide), ← List.exists_mem_cons_iff (arrow <:+: spelled ·)]
  exact exists_congr fun form => and_congr_right fun member => arrow_spelled form (legible form member)

theorem solid_upper (left : Char) (upper : 'A' ≤ left ∧ left ≤ 'Z') : Text.isWhiteSpace left = false := by
  have low : 65 ≤ left.toNat := upper.1
  have high : left.toNat ≤ 90 := upper.2
  rw [Text.isWhiteSpace, List.any_eq_false]
  intro range member
  simp only [Text.whiteSpaceRanges, List.mem_cons, List.not_mem_nil, or_false] at member
  rcases member with rfl | rfl | rfl | rfl | rfl | rfl | rfl | rfl | rfl | rfl <;> simp <;> omega

theorem apart_upper (left : Char) (upper : 'A' ≤ left ∧ left ≤ 'Z') : left ∉ separator :: endMark :: arrow := by
  intro member
  simp only [arrow, List.mem_cons, List.not_mem_nil, or_false] at member
  rcases member with rfl | rfl | rfl | rfl <;> exact absurd upper (by decide)

-- What a rule line is made of.
theorem absent_said (left : Char) (first : Form) (rest : List Form) (char : Char) (other : char ≠ left)
    (foreign : char ∉ ' ' :: separator :: arrow) (absent : ∀ form ∈ first :: rest, char ∉ spelled form) :
    char ∉ saidRule left first rest := by
  have own := absent first List.mem_cons_self
  simp only [List.mem_cons, not_or] at foreign
  have further : char ∉ barred rest := by
    intro member
    obtain ⟨form, known, inside⟩ := List.mem_flatMap.mp member
    rcases List.mem_append.mp inside with bar | spelt
    · simp [foreign] at bar
    · exact absent form (List.mem_cons_of_mem first known) spelt
  simp [saidRule, other, foreign, own, further]

section Said

variable (left : Char) (first : Form) (rest : List Form) (upper : 'A' ≤ left ∧ left ≤ 'Z')
  (legible : ∀ form ∈ first :: rest, Legible form)

include upper legible

theorem unmarked_said : endMark ∉ saidRule left first rest :=
  absent_said left first rest endMark (fun same => apart_upper left upper (by simp [← same])) (by decide)
    fun form member => (legible form member).unmarked

theorem reads_said (free : ∀ form ∈ first :: rest, ¬ Arrowed form) :
    Reads (saidRule left first rest) (.rule left (first :: rest)) := by
  have own := legible first List.mem_cons_self
  have told := forms_of_barred _ rest (unbarred_spelled first own) fun form member =>
    legible form (List.mem_cons_of_mem first member)
  rw [form_of_spelled first own] at told
  have named : Text.Trimmed [left, ' '] [left] := by
    refine ⟨[], [' '], rfl, blank_spaces 0, blank_spaces 1, ?_⟩
    rintro char (head | last)
    · cases head
      exact solid_upper left upper
    · cases last
      exact solid_upper left upper
  have before : ArrowFree [left, ' '] := by
    have other : left ∉ arrow := fun member => apart_upper left upper (by simp [member])
    rw [ArrowFree, arrow_behind _ left other, arrow_behind _ ' ' (by decide)]
    exact arrow_free_nil
  rw [← told]
  refine .rule [left, ' '] _ left (unmarked_said left first rest upper legible) ⟨before, ?_⟩ named upper
  rw [ArrowFree, arrow_said first rest legible]
  rintro ⟨form, member, arrowed⟩
  exact free form member arrowed

theorem refused_said (arrowed : ∃ form ∈ first :: rest, Arrowed form) :
    Refused (saidRule left first rest) .tooManyArrows := by
  obtain ⟨between, after, same⟩ := (arrow_said first rest legible).mpr arrowed
  have unmarked := unmarked_said left first rest upper legible
  have line : saidRule left first rest = [left, ' '] ++ arrow ++ between ++ arrow ++ after := by
    rw [saidRule, ← same]
    simp
  rw [line] at unmarked ⊢
  exact .arrows _ _ _ unmarked

end Said

section Further

variable (form : Form) (legible : Legible form)

include legible

theorem unmarked_further : endMark ∉ saidFurther form := by
  simp only [saidFurther, List.mem_cons, not_or]
  exact ⟨by decide, by decide, legible.unmarked⟩

theorem arrow_further : arrow <:+: saidFurther form ↔ Arrowed form := by
  rw [saidFurther, arrow_behind _ separator (by decide), arrow_behind _ ' ' (by decide)]
  exact arrow_spelled form legible

theorem reads_further (free : ¬ Arrowed form) :
    Reads (saidFurther form) (.continuation [form]) := by
  have told := forms_of_unbarred _ (unbarred_spelled form legible)
  rw [form_of_spelled form legible] at told
  rw [← told]
  exact .continuation _ (unmarked_further form legible) fun inside => free ((arrow_further form legible).mp inside)

-- A line that goes on and has an arrow is no rule line either: a bar stands before the arrow.
theorem refused_further (arrowed : Arrowed form) :
    ∃ fault, Refused (saidFurther form) fault := by
  have inside := (arrow_further form legible).mpr arrowed
  rcases reads_or_refused (saidFurther form) with ⟨line, reads⟩ | refused
  · exfalso
    generalize same : saidFurther form = content at reads inside
    cases reads with
    | rule before after left unmarked single named upper =>
        obtain ⟨front, back, rfl, blank, _, _⟩ := named
        cases front with
        | nil =>
            injection same with bar
            exact apart_upper left upper (bar ▸ List.mem_cons_self)
        | cons char further =>
            injection same with bar
            exact absurd (blank char List.mem_cons_self) (bar ▸ by decide)
    | continuation after unmarked free => exact free inside
  · exact refused

end Further

end RuleText

end TopDown
