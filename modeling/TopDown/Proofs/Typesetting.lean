import Mathlib.Algebra.Ring.Parity
import TopDown.Report.Cells
import TopDown.Report.Sets
/-!
What LaTeX makes of a rendering. It is read into tokens, where a backslash takes the next character with it. Whatever
the symbols of a grammar are, the text they are escaped to opens nothing that it does not close, separates no columns
and breaks no row: rows have the columns they are joined from, and a rendering breaks where its rows are joined.
-/

set_option autoImplicit false

namespace TopDown

namespace Latex

/-- A character by itself, or one with a backslash before it. -/
inductive Token where
  | bare (char : Char)
  | command (char : Char)
deriving DecidableEq, Repr

-- A backslash at the end has no character to take with it.
def tokens : List Char → List Token
  | [] => []
  | [char] => [.bare char]
  | char :: next :: rest => if char = '\\' then .command next :: tokens rest else .bare char :: tokens (next :: rest)

def rowBreak : Token := .command '\\'

-- How many braces are open behind a token, if it does not close one that is not open.
def Token.level (depth : Nat) (token : Token) : Option Nat :=
  if token = .bare '\x7b' then some (depth + 1)
  else if token = .bare '\x7d' then if depth = 0 then none else some (depth - 1)
  else some depth

def level (depth : Nat) (row : List Token) : Option Nat := row.foldlM Token.level depth

/-- Tokens that keep within their row: they separate so many columns and leave nothing open. -/
structure Intact (columns : Nat) (row : List Token) : Prop where
  parted : row.count (.bare '&') = columns
  braces : level 0 row = some 0
  formulas : Even (row.count (.bare '$'))
  uncommented : .bare '%' ∉ row
  unbroken : rowBreak ∉ row
  whole : .bare '\\' ∉ row

instance (columns : Nat) (row : List Token) : Decidable (Intact columns row) :=
  decidable_of_iff
    (row.count (.bare '&') = columns ∧ level 0 row = some 0 ∧ Even (row.count (.bare '$')) ∧ .bare '%' ∉ row ∧
      rowBreak ∉ row ∧ .bare '\\' ∉ row)
    ⟨fun ⟨parted, braces, formulas, uncommented, unbroken, whole⟩ =>
      ⟨parted, braces, formulas, uncommented, unbroken, whole⟩,
    fun ⟨parted, braces, formulas, uncommented, unbroken, whole⟩ =>
      ⟨parted, braces, formulas, uncommented, unbroken, whole⟩⟩

/-- A text whose tokens keep within their row. -/
def Fits (columns : Nat) (text : String) : Prop := Intact columns (tokens text.toList)

instance (columns : Nat) (text : String) : Decidable (Fits columns text) :=
  inferInstanceAs (Decidable (Intact columns _))

-- Texts are read one after the other, unless the first leaves a backslash for the second.
theorem tokens_append (front back : List Char) (whole : .bare '\\' ∉ tokens front) :
    tokens (front ++ back) = tokens front ++ tokens back := by
  induction front using tokens.induct with
  | case1 => rfl
  | case2 char =>
      have other : char ≠ '\\' := fun same => whole (by simp [tokens, same])
      cases back with
      | nil => rfl
      | cons next rest => simp [tokens, other]
  | case3 next rest ih =>
      rw [tokens, if_pos rfl] at whole
      have further := ih fun member => whole (List.mem_cons_of_mem _ member)
      simp [tokens, further]
  | case4 char next rest other ih =>
      rw [tokens, if_neg other] at whole
      have further := ih fun member => whole (List.mem_cons_of_mem _ member)
      rw [List.cons_append] at further
      simp only [List.cons_append, tokens, if_neg other]
      rw [further]

theorem level_append (depth : Nat) (front back : List Token) :
    level depth (front ++ back) = (level depth front).bind (level · back) := List.foldlM_append

theorem level_cons (depth : Nat) (token : Token) (rest : List Token) :
    level depth (token :: rest) = (token.level depth).bind (level · rest) := List.foldlM_cons

theorem token_deeper (depth inner extra : Nat) (token : Token) (reached : token.level depth = some inner) :
    token.level (depth + extra) = some (inner + extra) := by
  unfold Token.level at reached ⊢
  by_cases opens : token = .bare '\x7b'
  · rw [if_pos opens] at reached ⊢
    cases reached
    rw [Nat.add_right_comm]
  · by_cases closes : token = .bare '\x7d'
    · rw [if_neg opens, if_pos closes] at reached ⊢
      by_cases none : depth = 0
      · rw [if_pos none] at reached
        cases reached
      · rw [if_neg none] at reached
        cases reached
        rw [if_neg (by omega), Nat.sub_add_comm (Nat.pos_of_ne_zero none)]
    · rw [if_neg opens, if_neg closes] at reached ⊢
      cases reached
      rfl

theorem level_deeper (depth inner extra : Nat) (row : List Token) (reached : level depth row = some inner) :
    level (depth + extra) row = some (inner + extra) := by
  induction row generalizing depth with
  | nil => exact congrArg (some <| · + extra) (Option.some.inj reached)
  | cons token rest ih =>
      rw [level_cons] at reached
      obtain ⟨next, step, further⟩ := Option.bind_eq_some_iff.mp reached
      rw [level_cons, token_deeper depth next extra token step, Option.bind_some]
      exact ih next further

theorem intact_append (one other : Nat) (front back : List Token) (before : Intact one front)
    (behind : Intact other back) : Intact (one + other) (front ++ back) where
  parted := by rw [List.count_append, before.parted, behind.parted]
  braces := by rw [level_append, before.braces, Option.bind_some, behind.braces]
  formulas := by
    rw [List.count_append]
    exact before.formulas.add behind.formulas
  uncommented := List.not_mem_append before.uncommented behind.uncommented
  unbroken := List.not_mem_append before.unbroken behind.unbroken
  whole := List.not_mem_append before.whole behind.whole

theorem intact_braced (columns : Nat) (row : List Token) (inside : Intact columns row) :
    Intact columns (.bare '\x7b' :: row ++ [.bare '\x7d']) where
  parted := by simp [List.count_append, inside.parted]
  braces := by
    have deeper := level_deeper 0 0 1 row inside.braces
    have opened : (Token.bare '\x7b').level 0 = some 1 := rfl
    rw [List.cons_append, level_cons, opened, Option.bind_some, level_append, deeper]
    rfl
  formulas := by
    have same : (Token.bare '\x7b' :: row ++ [Token.bare '\x7d']).count (Token.bare '$') =
        row.count (Token.bare '$') := by
      simp [List.count_append]
    rw [same]
    exact inside.formulas
  uncommented := by simp [inside.uncommented]
  unbroken := by
    have kept := inside.unbroken
    rw [rowBreak] at kept ⊢
    simp [kept]
  whole := by simp [inside.whole]

theorem fits_append (one other : Nat) (front back : String) (before : Fits one front) (behind : Fits other back) :
    Fits (one + other) (front ++ back) := by
  rw [Fits, String.toList_append, tokens_append _ _ before.whole]
  exact intact_append one other _ _ before behind

theorem fits_braced (columns : Nat) (text : String) (inside : Fits columns text) :
    Fits columns ("\x7b" ++ text ++ "\x7d") := by
  have opening : .bare '\\' ∉ tokens "\x7b".toList := by decide
  have shape : tokens ("\x7b" ++ text ++ "\x7d").toList = .bare '\x7b' :: tokens text.toList ++ [.bare '\x7d'] := by
    have further : tokens (text.toList ++ "\x7d".toList) = tokens text.toList ++ [.bare '\x7d'] :=
      tokens_append _ _ inside.whole
    rw [String.toList_append, String.toList_append, List.append_assoc, tokens_append _ _ opening, further]
    rfl
  rw [Fits, shape]
  exact intact_braced columns _ inside

theorem fits_nothing : Fits 0 "" := by decide

-- Texts that separate no columns themselves, with a joint between them.
theorem fits_joined (columns : Nat) (joint : String) (parts : Fits columns joint) (texts : List String)
    (fits : ∀ text ∈ texts, Fits 0 text) : Fits ((texts.length - 1) * columns) (joint.intercalate texts) := by
  induction texts with
  | nil =>
      rw [List.length_nil, Nat.zero_sub, Nat.zero_mul]
      exact fits_nothing
  | cons text rest ih =>
      have own := fits text List.mem_cons_self
      cases rest with
      | nil =>
          rw [String.intercalate_singleton, List.length_singleton, Nat.sub_self, Nat.zero_mul]
          exact own
      | cons next more =>
          have further := ih fun other member => fits other (List.mem_cons_of_mem text member)
          have both := fits_append _ _ _ _ (fits_append 0 columns text joint own parts) further
          have counted : 0 + columns + ((next :: more).length - 1) * columns =
              ((text :: next :: more).length - 1) * columns := by
            simp only [List.length_cons, Nat.add_sub_cancel, Nat.zero_add, Nat.succ_mul]
            exact Nat.add_comm _ _
          rw [counted] at both
          rw [String.intercalate_cons_cons]
          exact both

theorem fits_row (texts : List String) (fits : ∀ text ∈ texts, Fits 0 text) :
    Fits (texts.length - 1) (" & ".intercalate texts) := by
  have joined := fits_joined 1 " & " (by decide) texts fits
  rwa [Nat.mul_one] at joined

theorem fits_apart (joint : String) (parts : Fits 0 joint) (texts : List String) (fits : ∀ text ∈ texts, Fits 0 text) :
    Fits 0 (joint.intercalate texts) := fits_joined 0 joint parts texts fits

theorem fits_join (texts : List String) (fits : ∀ text ∈ texts, Fits 0 text) : Fits 0 (.join texts) := by
  induction texts with
  | nil => exact fits_nothing
  | cons text rest ih =>
      rw [String.join_cons]
      exact fits_append 0 0 _ _ (fits text List.mem_cons_self) (ih fun other member =>
        fits other (List.mem_cons_of_mem text member))

theorem fits_plain (char : Char)
    (plain : char ≠ '&' ∧ char ≠ '\x7b' ∧ char ≠ '\x7d' ∧ char ≠ '$' ∧ char ≠ '%' ∧ char ≠ '\\') :
    Fits 0 (.singleton char) := by
  obtain ⟨ampersand, opening, closing, dollar, percent, backslash⟩ := plain
  rw [Fits, String.toList_singleton, tokens]
  refine ⟨?_, ?_, ?_, ?_, ?_, ?_⟩
  · simp [ampersand]
  · simp [level, Token.level, opening, closing]
  · simp [dollar]
  · simp [Ne.symm percent]
  · simp [rowBreak]
  · simp [Ne.symm backslash]

theorem fits_escaped_char (char : Char) : Fits 0 (escapeChar char) := by
  unfold escapeChar
  split
  all_goals try decide
  exact fits_plain char (by tauto)

theorem fits_escape (text : String) : Fits 0 (escape text) := by
  rw [escape]
  induction text.toList with
  | nil => exact fits_nothing
  | cons char rest ih =>
      rw [escapeChars]
      refine fits_append 0 0 _ _ ?_ ih
      by_cases hyphens : char = '-' ∧ rest.head? = some '-'
      · rw [if_pos hyphens]
        decide
      · rw [if_neg hyphens]
        exact fits_escaped_char char

theorem fits_text (content : String) : Fits 0 (text content) := by
  have braced := fits_braced 0 (escape content) (fits_escape content)
  have whole := fits_append 0 0 "\\text" _ (by decide) braced
  have shape : text content = "\\text" ++ ("\x7b" ++ escape content ++ "\x7d") := by
    simp only [text, ← String.append_assoc]
    rfl
  rwa [shape]

-- Nothing in the text parts rows, not even with what comes behind it.
structure Within (text : String) : Prop where
  unbroken : rowBreak ∉ tokens text.toList
  whole : .bare '\\' ∉ tokens text.toList

instance (text : String) : Decidable (Within text) :=
  decidable_of_iff (rowBreak ∉ tokens text.toList ∧ .bare '\\' ∉ tokens text.toList)
    ⟨fun ⟨unbroken, whole⟩ => ⟨unbroken, whole⟩, fun ⟨unbroken, whole⟩ => ⟨unbroken, whole⟩⟩

theorem within_of_fits (columns : Nat) (text : String) (fits : Fits columns text) : Within text :=
  ⟨fits.unbroken, fits.whole⟩

theorem whole_append (front back : String) (before : .bare '\\' ∉ tokens front.toList)
    (behind : .bare '\\' ∉ tokens back.toList) : .bare '\\' ∉ tokens (front ++ back).toList := by
  rw [String.toList_append, tokens_append _ _ before]
  exact List.not_mem_append before behind

theorem whole_joined (joint : String) (texts : List String) (between : .bare '\\' ∉ tokens joint.toList)
    (whole : ∀ text ∈ texts, .bare '\\' ∉ tokens text.toList) :
    .bare '\\' ∉ tokens (joint.intercalate texts).toList := by
  induction texts with
  | nil => exact List.not_mem_nil
  | cons text rest ih =>
      have own := whole text List.mem_cons_self
      cases rest with
      | nil =>
          rw [String.intercalate_singleton]
          exact own
      | cons next more =>
          have further := ih fun other member => whole other (List.mem_cons_of_mem text member)
          rw [String.intercalate_cons_cons]
          exact whole_append _ _ (whole_append _ _ own between) further

theorem within_append (front back : String) (before : Within front) (behind : Within back) :
    Within (front ++ back) where
  unbroken := by
    rw [String.toList_append, tokens_append _ _ before.whole]
    exact List.not_mem_append before.unbroken behind.unbroken
  whole := whole_append front back before.whole behind.whole

/-- The rows of a rendering, parted at its row breaks. -/
def rowsOf (text : String) : List (List Token) := (tokens text.toList).splitOn rowBreak

theorem rows_of_within (text : String) (within : Within text) : rowsOf text = [tokens text.toList] :=
  List.splitOn_eq_singleton within.unbroken

theorem rows_across (above below : String) (whole : .bare '\\' ∉ tokens above.toList) :
    rowsOf (above ++ "\\\\" ++ below) = rowsOf above ++ rowsOf below := by
  have broken : tokens ("\\\\".toList ++ below.toList) = rowBreak :: tokens below.toList := by
    rw [tokens_append _ _ (by decide)]
    rfl
  rw [rowsOf, String.toList_append, String.toList_append, List.append_assoc, tokens_append _ _ whole, broken,
    List.splitOn_append_cons_self]
  rfl

-- What rows are put between: something before the first, something else before each further one, and an end.
def lined (opening gap closing : String) : List String → List String
  | [] => [opening ++ closing]
  | [row] => [opening ++ row ++ closing]
  | row :: next :: more => (opening ++ row) :: lined gap gap closing (next :: more)

theorem rows_of_lined (opening gap closing : String) (rows : List String) (before : Within opening)
    (between : Within gap) (behind : Within closing) (inside : ∀ row ∈ rows, Within row) :
    rowsOf (opening ++ ("\\\\" ++ gap).intercalate rows ++ closing) =
      (lined opening gap closing rows).map fun row => tokens row.toList := by
  induction rows generalizing opening with
  | nil =>
      have single := within_append opening closing before behind
      rw [String.intercalate_nil, String.append_empty, rows_of_within _ single]
      rfl
  | cons row rest ih =>
      have begun := within_append opening row before (inside row List.mem_cons_self)
      cases rest with
      | nil =>
          rw [String.intercalate_singleton, rows_of_within _ (within_append _ closing begun behind)]
          rfl
      | cons next more =>
          have further := ih gap between fun other member => inside other (List.mem_cons_of_mem row member)
          have shape : opening ++ ("\\\\" ++ gap).intercalate (row :: next :: more) ++ closing =
              (opening ++ row) ++ "\\\\" ++ (gap ++ ("\\\\" ++ gap).intercalate (next :: more) ++ closing) := by
            simp only [String.intercalate_cons_cons, String.append_assoc]
          rw [shape, rows_across _ _ begun.whole, further, rows_of_within _ begun]
          rfl

end Latex

namespace ProductionReport

open Latex

theorem fits_symbol (terminals : List String) (symbol : String) : Fits 0 (latexSymbol terminals symbol) := by
  unfold latexSymbol
  by_cases empty : symbol.toList.head? = some emptyMark
  · rw [if_pos empty]
    decide
  · rw [if_neg empty]
    by_cases upright : symbol ∈ terminals
    · rw [if_pos upright]
      exact fits_text symbol
    · rw [if_neg upright]
      exact fits_escape symbol

theorem fits_rights (terminals : List String) (rights : List (List String)) :
    Fits 0 (" \\mid ".intercalate
      (rights.map fun right => " \\ ".intercalate (right.map (latexSymbol terminals)))) := by
  apply fits_apart " \\mid " (by decide)
  refine List.forall_mem_map.mpr fun right _ => ?_
  apply fits_apart " \\ " (by decide)
  exact List.forall_mem_map.mpr fun symbol _ => fits_symbol terminals symbol

theorem fits_latex (report : ProductionReport) (aligned : Bool) (terminals : List String) :
    Fits (if report.rights = [] ∨ aligned = false then 0 else 2) (report.latex aligned terminals) := by
  have left := fits_escape report.left
  have rights := fits_rights terminals report.rights
  unfold latex
  by_cases none : report.rights = []
  · rw [if_pos (Or.inl none), if_pos (List.isEmpty_iff.mpr none)]
    exact fits_nothing
  · rw [if_neg fun empty => none (List.isEmpty_iff.mp empty)]
    cases aligned with
    | true =>
        rw [if_neg (by simp [none]), if_pos rfl]
        exact fits_append 2 0 _ _ (fits_append 0 2 _ _ left (by decide)) rights
    | false =>
        rw [if_pos (Or.inr rfl), if_neg Bool.false_ne_true]
        exact fits_append 0 0 _ _ (fits_append 0 0 _ _ left (by decide)) rights

end ProductionReport

namespace GrammarReport

open Latex

-- The rows of the array, with what stands before and behind them.
def latexRows (report : GrammarReport) : List String :=
  lined "" "\n" "" ("\\[\\begin\x7barray\x7d\x7bcll\x7d" :: report.productions.map (·.latex true report.terminals) ++
    ["\\end\x7barray\x7d\\]"])

theorem rows_of_latex (report : GrammarReport) :
    rowsOf report.latex = report.latexRows.map fun row => tokens row.toList := by
  have lines := rows_of_lined "" "\n" "" ("\\[\\begin\x7barray\x7d\x7bcll\x7d" ::
    report.productions.map (·.latex true report.terminals) ++ ["\\end\x7barray\x7d\\]"])
    (by decide) (by decide) (by decide)
  rw [String.empty_append, String.append_empty] at lines
  apply lines
  intro row member
  rcases List.mem_append.mp member with upper | last
  · rcases List.mem_cons.mp upper with rfl | listed
    · decide
    · obtain ⟨production, _, rfl⟩ := List.mem_map.mp listed
      exact within_of_fits _ _ (production.fits_latex true report.terminals)
  · rw [List.mem_singleton.mp last]
    decide

end GrammarReport

namespace SetRow

open Latex

theorem fits_member (member : String) : Fits 0 (latexMember member) := by
  unfold latexMember
  by_cases empty : member.toList.head? = some emptyMark
  · rw [if_pos empty]
    decide
  · rw [if_neg empty]
    exact fits_escape member

theorem fits_latex (row : SetRow) : Fits 3 row.latex := by
  have members (set : List String) : Fits 0 ("\\ ".intercalate (set.map latexMember)) :=
    fits_apart "\\ " (by decide) _ (List.forall_mem_map.mpr fun member _ => fits_member member)
  have nullable : Fits 0 (toString row.nullable) := by cases row.nullable <;> decide
  apply fits_row [escape row.name, toString row.nullable, "\\ ".intercalate (row.first.map latexMember),
    "\\ ".intercalate (row.follow.map latexMember)]
  simp only [List.forall_mem_cons, List.not_mem_nil, false_implies, implies_true, and_true]
  exact ⟨fits_escape row.name, nullable, members row.first, members row.follow⟩

end SetRow

namespace SetReport

open Latex

def latexHeader : String := "\\begin\x7btabular\x7d\x7bc|c|c|c\x7d\nSymbol & Nullable & First & Follow"

theorem fits_header : Fits 3 latexHeader := by decide

-- The rows of the tabular, with what stands before and behind them.
def latexRows (report : SetReport) : List String :=
  latexHeader :: lined "\\hline\n" "\n " "" (report.rows.map SetRow.latex) ++ ["\n\\end\x7btabular\x7d"]

theorem latex_parts (report : SetReport) : report.latex = latexHeader ++ "\\\\" ++
    ("\\hline\n" ++ ("\\\\" ++ "\n ").intercalate (report.rows.map SetRow.latex) ++ "\\\\" ++
      "\n\\end\x7btabular\x7d") := by
  have head : "\\begin\x7btabular\x7d\x7bc|c|c|c\x7d\nSymbol & Nullable & First & Follow\\\\\\hline\n" =
      latexHeader ++ "\\\\" ++ "\\hline\n" := rfl
  have tail : "\\\\\n\\end\x7btabular\x7d" = "\\\\" ++ "\n\\end\x7btabular\x7d" := rfl
  have joint : "\\\\\n " = "\\\\" ++ "\n " := rfl
  unfold latex
  rw [head, tail, joint]
  simp only [String.append_assoc]

theorem rows_of_latex (report : SetReport) :
    rowsOf report.latex = report.latexRows.map fun row => tokens row.toList := by
  have within : ∀ row ∈ report.rows.map SetRow.latex, Within row :=
    List.forall_mem_map.mpr fun row _ => within_of_fits 3 _ row.fits_latex
  have body := rows_of_lined "\\hline\n" "\n " "" _ (by decide) (by decide) (by decide) within
  rw [String.append_empty] at body
  have whole : .bare '\\' ∉
      tokens ("\\hline\n" ++ ("\\\\" ++ "\n ").intercalate (report.rows.map SetRow.latex)).toList := by
    apply whole_append _ _ (by decide)
    exact whole_joined _ _ (by decide) fun row member => (within row member).whole
  rw [latex_parts, rows_across _ _ (by decide), rows_across _ _ whole, body, rows_of_within latexHeader (by decide),
    rows_of_within "\n\\end\x7btabular\x7d" (by decide), latexRows, List.map_append, List.map_cons]
  rfl

end SetReport

namespace RowReport

open Latex

theorem fits_cell (row : RowReport) (terminals : List String) (cell : Option CellReport) :
    Fits 0 (row.latexCell terminals cell) := by
  cases cell with
  | none => exact fits_nothing
  | some cell =>
      have production := ProductionReport.fits_latex ⟨row.name, [cell.content.toList.map .singleton]⟩ false terminals
      rw [if_pos (Or.inr rfl)] at production
      have opening : "\x7b\\color\x7bred\x7d" = "\x7b" ++ "\\color\x7bred\x7d" := rfl
      have coloured := fits_braced 0 _ (fits_append 0 0 "\\color\x7bred\x7d" _ (by decide) production)
      rw [← String.append_assoc, ← opening] at coloured
      dsimp only [latexCell]
      by_cases conflicted : cell.conflicted
      · rw [if_pos conflicted]
        exact coloured
      · rw [if_neg conflicted]
        exact production

theorem fits_latex (row : RowReport) (terminals : List String) : Fits row.cells.length (row.latex terminals) := by
  have cells := fits_row (escape row.name :: row.cells.map (row.latexCell terminals)) (by
    simp only [List.forall_mem_cons, List.forall_mem_map]
    exact ⟨fits_escape row.name, fun cell _ => row.fits_cell terminals cell⟩)
  rwa [List.length_cons, List.length_map, Nat.add_sub_cancel] at cells

end RowReport

namespace TableReport

open Latex

theorem fits_header (report : TableReport) : Fits report.terminals.length report.latexHeader := by
  have columns : Fits 0 (.join (report.terminals.map fun _ => "|l")) := by
    apply fits_join
    exact List.forall_mem_map.mpr fun _ _ => by decide
  have braced := fits_braced 0 _ (fits_append 0 0 "c" _ (by decide) columns)
  have opening := fits_append 0 0 _ "\n" (fits_append 0 0 "\\[\\begin\x7barray\x7d" _ (by decide) braced) (by decide)
  have front : "\\[\\begin\x7barray\x7d\x7bc" = "\\[\\begin\x7barray\x7d" ++ "\x7b" ++ "c" := rfl
  have back : "\x7d\n" = "\x7d" ++ "\n" := rfl
  have header := fits_row (("\\[\\begin\x7barray\x7d\x7bc" ++ .join (report.terminals.map fun _ => "|l") ++ "\x7d\n") ::
    report.terminals.map Latex.text) (by
      refine List.forall_mem_cons.mpr ⟨?_, List.forall_mem_map.mpr fun terminal _ => fits_text terminal⟩
      rw [front, back]
      simp only [String.append_assoc] at opening ⊢
      exact opening)
  rwa [List.length_cons, List.length_map, Nat.add_sub_cancel] at header

-- The rows of the array, with what stands before and behind them.
def latexRows (report : TableReport) : List String :=
  report.latexHeader :: lined "\\hline\n" "\n" "\n\\end\x7barray\x7d\\]" (report.rows.map (·.latex report.terminals))

theorem rows_of_latex (report : TableReport) :
    rowsOf report.latex = report.latexRows.map fun row => tokens row.toList := by
  have header := within_of_fits _ _ report.fits_header
  have within : ∀ row ∈ report.rows.map (·.latex report.terminals), Within row :=
    List.forall_mem_map.mpr fun row _ => within_of_fits _ _ (row.fits_latex report.terminals)
  have body := rows_of_lined "\\hline\n" "\n" "\n\\end\x7barray\x7d\\]" _ (by decide) (by decide) (by decide) within
  have shape : report.latex = report.latexHeader ++ "\\\\" ++ ("\\hline\n" ++
      ("\\\\" ++ "\n").intercalate (report.rows.map (·.latex report.terminals)) ++ "\n\\end\x7barray\x7d\\]") := by
    have below : "\\\\\\hline\n" = "\\\\" ++ "\\hline\n" := rfl
    have joint : "\\\\\n" = "\\\\" ++ "\n" := rfl
    unfold latex
    rw [below, joint]
    simp only [String.append_assoc]
  rw [shape, rows_across _ _ header.whole, body, rows_of_within _ header]
  rfl

end TableReport

/-- Whatever symbols a grammar has, its productions, sets and table keep their rows and columns in LaTeX. -/
theorem renderings_keep_rows (grammar : Grammar) :
    (Latex.rowsOf grammar.report.latex = grammar.report.latexRows.map (fun row => Latex.tokens row.toList) ∧
      ∀ rule ∈ grammar.rules, Latex.Fits (if rule.alternatives = [] then 0 else 2)
        ((ProductionReport.ofRule rule).latex true grammar.report.terminals)) ∧
    (Latex.Fits 3 SetReport.latexHeader ∧ ∀ first follow,
      Latex.rowsOf (grammar.setReport first follow).latex =
        (grammar.setReport first follow).latexRows.map (fun row => Latex.tokens row.toList) ∧
      ∀ row ∈ (grammar.setReport first follow).rows, Latex.Fits 3 row.latex) ∧
    ∀ table : Table,
      Latex.rowsOf table.report.latex = table.report.latexRows.map (fun row => Latex.tokens row.toList) ∧
      Latex.Fits table.terminals.size table.report.latexHeader ∧
      ∀ row ∈ table.report.rows, Latex.Fits table.terminals.size (row.latex table.report.terminals) := by
  refine ⟨⟨grammar.report.rows_of_latex, ?_⟩, ⟨SetReport.fits_header, fun first follow =>
    ⟨SetReport.rows_of_latex _, ?_⟩⟩, fun table => ⟨table.report.rows_of_latex, ?_, ?_⟩⟩
  · intro rule _
    have fits := (ProductionReport.ofRule rule).fits_latex true grammar.report.terminals
    simpa [ProductionReport.ofRule] using fits
  · exact fun row _ => row.fits_latex
  · have header := table.report.fits_header
    rwa [Table.report, List.length_map] at header
  · intro row member
    obtain ⟨nonTerminal, _, rfl⟩ := List.mem_map.mp member
    have fits := RowReport.fits_latex
      ⟨.singleton nonTerminal, table.terminals.toList.map (table.cellReport nonTerminal)⟩ table.report.terminals
    rwa [List.length_map] at fits

end TopDown
