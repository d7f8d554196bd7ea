import TopDown.Text.Json
/-!
A reader of JSON texts, as the standard has them, and what it makes of the compact text of a value. The reader takes a
text character by character. It keeps the lists and records that are open around its place, the innermost first, so a
text may nest as deep as it likes; white space may stand between any two tokens, and numbers are left as written.
-/

set_option autoImplicit false

namespace TopDown.Json

-- What a text says.
inductive Datum where
  | null
  | bool (value : Bool)
  | number (literal : List Char)
  | text (content : String)
  | list (items : List Datum)
  | record (members : List (String × Datum))

-- How far a number has come.
inductive Digits where
  | sign
  | zero
  | whole
  | point
  | fraction
  | mark
  | markSign
  | exponent

-- How far an escape in a text has come. A code unit may be the high half of a pair, and then the low half is due.
inductive Escape where
  | none
  | start (high : Option Nat)
  | digits (high : Option Nat) (left unit : Nat)
  | pair (high : Nat)

inductive Place where
  | value (first : Bool)
  | name (first : Bool)
  | colon
  | word (rest : List Char) (datum : Datum)
  | number (digits : Digits) (literal : List Char)
  | text (content : List Char) (escape : Escape)
  | ended (datum : Datum)

-- A list or record that is open. While a name is due or read, its record has no name yet.
inductive Frame where
  | list (items : List Datum)
  | record (members : List (String × Datum))
  | member (members : List (String × Datum)) (name : String)

structure Reader where
  frames : List Frame
  place : Place

def isBlank (char : Char) : Bool := char = ' ' || char = '\t' || char = '\n' || char = '\r'

def isDigit (char : Char) : Bool := '0' ≤ char && char ≤ '9'

def hexDigit? (char : Char) : Option Nat :=
  if '0' ≤ char ∧ char ≤ '9' then some (char.toNat - 48)
  else if 'a' ≤ char ∧ char ≤ 'f' then some (char.toNat - 87)
  else if 'A' ≤ char ∧ char ≤ 'F' then some (char.toNat - 55)
  else none

def escaped? : Char → Option Char
  | '"' => some '"'
  | '\\' => some '\\'
  | '/' => some '/'
  | 'b' => some '\x08'
  | 'f' => some '\x0c'
  | 'n' => some '\n'
  | 'r' => some '\r'
  | 't' => some '\t'
  | _ => none

namespace Digits

def next? : Digits → Char → Option Digits
  | sign, char => if char = '0' then some zero else if isDigit char then some whole else none
  | zero, char => if char = '.' then some point else if char = 'e' ∨ char = 'E' then some mark else none
  | whole, char =>
      if isDigit char then some whole
      else if char = '.' then some point
      else if char = 'e' ∨ char = 'E' then some mark
      else none
  | point, char => if isDigit char then some fraction else none
  | fraction, char =>
      if isDigit char then some fraction else if char = 'e' ∨ char = 'E' then some mark else none
  | mark, char =>
      if isDigit char then some exponent else if char = '+' ∨ char = '-' then some markSign else none
  | markSign, char => if isDigit char then some exponent else none
  | exponent, char => if isDigit char then some exponent else none

def isWhole : Digits → Bool
  | zero | whole | fraction | exponent => true
  | sign | point | mark | markSign => false

end Digits

namespace Reader

def atValue (frames : List Frame) (first : Bool) (char : Char) : Option Reader :=
  match char with
  | '"' => some ⟨frames, .text [] .none⟩
  | '[' => some ⟨.list [] :: frames, .value true⟩
  | '\x7b' => some ⟨.record [] :: frames, .name true⟩
  | 'n' => some ⟨frames, .word ['u', 'l', 'l'] .null⟩
  | 't' => some ⟨frames, .word ['r', 'u', 'e'] (.bool true)⟩
  | 'f' => some ⟨frames, .word ['a', 'l', 's', 'e'] (.bool false)⟩
  | '-' => some ⟨frames, .number .sign ['-']⟩
  | ']' =>
      match frames, first with
      | .list _ :: outer, true => some ⟨outer, .ended (.list [])⟩
      | _, _ => none
  | _ =>
      if isBlank char then some ⟨frames, .value first⟩
      else (Digits.sign.next? char).map fun digits => ⟨frames, .number digits [char]⟩

def atName (frames : List Frame) (first : Bool) (char : Char) : Option Reader :=
  match char with
  | '"' => some ⟨frames, .text [] .none⟩
  | '\x7d' =>
      match frames, first with
      | .record _ :: outer, true => some ⟨outer, .ended (.record [])⟩
      | _, _ => none
  | _ => if isBlank char then some ⟨frames, .name first⟩ else none

def atEnd (frames : List Frame) (datum : Datum) (char : Char) : Option Reader :=
  match char, frames with
  | ',', .list items :: outer => some ⟨.list (items ++ [datum]) :: outer, .value false⟩
  | ',', .member members name :: outer => some ⟨.record (members ++ [(name, datum)]) :: outer, .name false⟩
  | ']', .list items :: outer => some ⟨outer, .ended (.list (items ++ [datum]))⟩
  | '\x7d', .member members name :: outer => some ⟨outer, .ended (.record (members ++ [(name, datum)]))⟩
  | _, _ => if isBlank char then some ⟨frames, .ended datum⟩ else none

-- A text is a name where a name is due, and a value elsewhere.
def closeText (frames : List Frame) (content : List Char) : Reader :=
  match frames with
  | .record members :: outer => ⟨.member members (.ofList content) :: outer, .colon⟩
  | _ => ⟨frames, .ended (.text (.ofList content))⟩

-- A code unit beyond the halves of pairs is a character. A high half and a low half behind it are one.
def closeUnit (frames : List Frame) (content : List Char) (high : Option Nat) (unit : Nat) : Option Reader :=
  match high with
  | none =>
      if 0xD800 ≤ unit ∧ unit < 0xDC00 then some ⟨frames, .text content (.pair unit)⟩
      else if 0xDC00 ≤ unit ∧ unit < 0xE000 then none
      else some ⟨frames, .text (content ++ [.ofNat unit]) .none⟩
  | some high =>
      if 0xDC00 ≤ unit ∧ unit < 0xE000 then
        some ⟨frames, .text (content ++ [.ofNat (0x10000 + (high - 0xD800) * 0x400 + (unit - 0xDC00))]) .none⟩
      else none

def atText (frames : List Frame) (content : List Char) (escape : Escape) (char : Char) : Option Reader :=
  match escape with
  | .none =>
      if char = '"' then some (closeText frames content)
      else if char = '\\' then some ⟨frames, .text content (.start none)⟩
      else if char.toNat < 0x20 then none
      else some ⟨frames, .text (content ++ [char]) .none⟩
  | .start high =>
      if char = 'u' then some ⟨frames, .text content (.digits high 3 0)⟩
      else if high.isSome then none
      else (escaped? char).map fun plain => ⟨frames, .text (content ++ [plain]) .none⟩
  | .digits high left unit =>
      (hexDigit? char).bind fun digit =>
        match left with
        | 0 => closeUnit frames content high (unit * 16 + digit)
        | left + 1 => some ⟨frames, .text content (.digits high left (unit * 16 + digit))⟩
  | .pair high => if char = '\\' then some ⟨frames, .text content (.start (some high))⟩ else none

def step (reader : Reader) (char : Char) : Option Reader :=
  match reader.place with
  | .value first => atValue reader.frames first char
  | .name first => atName reader.frames first char
  | .colon =>
      if char = ':' then some ⟨reader.frames, .value false⟩
      else if isBlank char then some reader
      else none
  | .word [] _ => none
  | .word (next :: rest) datum =>
      if char = next then some ⟨reader.frames, if rest.isEmpty then .ended datum else .word rest datum⟩ else none
  | .number digits literal =>
      match digits.next? char with
      | some further => some ⟨reader.frames, .number further (literal ++ [char])⟩
      | none => if digits.isWhole then atEnd reader.frames (.number literal) char else none
  | .text content escape => atText reader.frames content escape char
  | .ended datum => atEnd reader.frames datum char

-- What is read if the text ends here.
def result? (reader : Reader) : Option Datum :=
  match reader.frames, reader.place with
  | [], .ended datum => some datum
  | [], .number digits literal => if digits.isWhole then some (.number literal) else none
  | _, _ => none

end Reader

def read (text : String) : Option Datum :=
  (text.toList.foldlM Reader.step ⟨[], .value false⟩).bind Reader.result?

-- What a value says.
mutual
def Value.datum : Value → Datum
  | .null => .null
  | .bool value => .bool value
  | .text content => .text content
  | .list items => .list (data items)
  | .record members => .record (memberData members)
def data : List Value → List Datum
  | [] => []
  | item :: others => item.datum :: data others
def memberData : List (String × Value) → List (String × Datum)
  | [] => []
  | (name, value) :: others => (name, value.datum) :: memberData others
end

theorem data_map {α : Type} (items : List α) (value : α → Value) :
    data (items.map value) = items.map fun item => (value item).datum := by
  induction items with
  | nil => rfl
  | cons item others ih => rw [List.map_cons, data, ih, List.map_cons]

theorem hex_digit_of_nibble (nibble : Nat) (small : nibble < 16) : hexDigit? (Nat.digitChar nibble) = some nibble := by
  have all : ∀ nibble < 16, hexDigit? (Nat.digitChar nibble) = some nibble := by decide
  exact all nibble small

-- A character is written with a letter of its own, as a code unit or as it is.
inductive Escaped (char : Char) : List Char → Prop where
  | letter (letter : Char) (visible : 0x20 ≤ letter.toNat) (other : letter ≠ 'u')
      (known : escaped? letter = some char) : Escaped char ['\\', letter]
  | unit (low : char.toNat < 0x20) : Escaped char
      ['\\', 'u', '0', '0', Nat.digitChar (char.toNat / 16), Nat.digitChar (char.toNat % 16)]
  | plain (unquoted : char ≠ '"') (unslashed : char ≠ '\\') (high : ¬ char.toNat < 0x20) : Escaped char [char]

theorem escaped_char (char : Char) : Escaped char (escapeChar char) := by
  by_cases short : char ∈ ['"', '\\', '\x08', '\x0c', '\n', '\r', '\t']
  · simp only [List.mem_cons, List.not_mem_nil, or_false] at short
    rcases short with rfl | rfl | rfl | rfl | rfl | rfl | rfl <;>
      exact .letter _ (by decide) (by decide) rfl
  · simp only [List.mem_cons, List.not_mem_nil, or_false, not_or] at short
    obtain ⟨quote, slash, back, feed, line, carriage, tab⟩ := short
    simp only [escapeChar, quote, slash, back, feed, line, carriage, tab, if_false]
    split
    · rename_i low
      exact .unit low
    · rename_i high
      exact .plain quote slash high

-- What is written for one character is read as that character.
theorem read_escaped (char : Char) (rest content : List Char) (frames : List Frame) :
    (escapeChar char ++ rest).foldlM Reader.step ⟨frames, .text content .none⟩ =
      rest.foldlM Reader.step ⟨frames, .text (content ++ [char]) .none⟩ := by
  have escaped := escaped_char char
  generalize escapeChar char = written at escaped ⊢
  cases escaped with
  | letter letter visible other known =>
      simp [List.foldlM_cons, Reader.step, Reader.atText, other, known]
  | unit low =>
      have front := hex_digit_of_nibble (char.toNat / 16) (by omega)
      have back := hex_digit_of_nibble (char.toNat % 16) (by omega)
      have zero : hexDigit? '0' = some 0 := rfl
      have unit : char.toNat / 16 * 16 + char.toNat % 16 = char.toNat := by omega
      have below : ¬ (0xD800 ≤ char.toNat ∧ char.toNat < 0xDC00) := by omega
      have under : ¬ (0xDC00 ≤ char.toNat ∧ char.toNat < 0xE000) := by omega
      simp [List.foldlM_cons, Reader.step, Reader.atText, front, back, zero, unit, Reader.closeUnit, below, under]
  | plain unquoted unslashed high =>
      simp [List.foldlM_cons, Reader.step, Reader.atText, unquoted, unslashed, high]

theorem read_content (chars rest content : List Char) (frames : List Frame) :
    (chars.foldr (fun char tail => escapeChar char ++ tail) ('"' :: rest)).foldlM Reader.step
        ⟨frames, .text content .none⟩ =
      rest.foldlM Reader.step (Reader.closeText frames (content ++ chars)) := by
  induction chars generalizing content with
  | nil =>
      rw [List.append_nil]
      rfl
  | cons char more ih =>
      rw [List.foldr_cons, read_escaped, ih, List.append_assoc, List.singleton_append]

theorem read_text (content : String) (rest : List Char) (frames : List Frame) (place : Place)
    (opened : Reader.step ⟨frames, place⟩ '"' = some ⟨frames, .text [] .none⟩) :
    (writeText content rest).foldlM Reader.step ⟨frames, place⟩ =
      rest.foldlM Reader.step (Reader.closeText frames content.toList) := by
  rw [writeText, List.foldlM_cons, opened]
  exact read_content content.toList rest [] frames

theorem read_name (name : String) (rest : List Char) (members : List (String × Datum)) (outer : List Frame)
    (first : Bool) :
    (writeText name (':' :: rest)).foldlM Reader.step ⟨.record members :: outer, .name first⟩ =
      rest.foldlM Reader.step ⟨.member members name :: outer, .value false⟩ := by
  rw [read_text name (':' :: rest) _ _ rfl, Reader.closeText, String.ofList_toList]
  rfl

-- A text that is read inside these is no name.
def ValueDue : List Frame → Prop
  | .record _ :: _ => False
  | _ => True

theorem close_value (frames : List Frame) (content : List Char) (due : ValueDue frames) :
    Reader.closeText frames content = ⟨frames, .ended (.text (.ofList content))⟩ := by
  match frames with
  | [] => rfl
  | .list _ :: _ => rfl
  | .member _ _ :: _ => rfl
  | .record _ :: _ => exact due.elim

-- A value is read where it is due, whatever is open around it. The list or record that it opens is closed by then.
mutual
theorem read_write (value : Value) (rest : List Char) (frames : List Frame) (first : Bool) (due : ValueDue frames) :
    (write value rest).foldlM Reader.step ⟨frames, .value first⟩ =
      rest.foldlM Reader.step ⟨frames, .ended value.datum⟩ := by
  cases value with
  | null => rfl
  | bool value => cases value <;> rfl
  | text content =>
      rw [write, read_text content rest frames _ rfl, close_value frames _ due, String.ofList_toList, Value.datum]
  | list items =>
      rw [write, Value.datum]
      cases items with
      | nil => rfl
      | cons item others => exact read_items (item :: others) rest [] frames true (List.cons_ne_nil item others)
  | record members =>
      rw [write, Value.datum]
      cases members with
      | nil => rfl
      | cons member others =>
          exact read_members (member :: others) rest [] frames true (List.cons_ne_nil member others)
theorem read_items (items : List Value) (rest : List Char) (before : List Datum) (frames : List Frame) (first : Bool)
    (filled : items ≠ []) :
    (writeItems items (']' :: rest)).foldlM Reader.step ⟨.list before :: frames, .value first⟩ =
      rest.foldlM Reader.step ⟨frames, .ended (.list (before ++ data items))⟩ := by
  match items with
  | [] => exact absurd rfl filled
  | [item] =>
      rw [writeItems, read_write item _ (.list before :: frames) first trivial]
      rfl
  | item :: next :: more =>
      have further := read_items (next :: more) rest (before ++ [item.datum]) frames false (List.cons_ne_nil next more)
      rw [List.append_assoc] at further
      rw [writeItems.eq_3 _ _ _ (List.cons_ne_nil next more),
        read_write item _ (.list before :: frames) first trivial]
      exact further
theorem read_members (members : List (String × Value)) (rest : List Char) (before : List (String × Datum))
    (frames : List Frame) (first : Bool) (filled : members ≠ []) :
    (writeMembers members ('\x7d' :: rest)).foldlM Reader.step ⟨.record before :: frames, .name first⟩ =
      rest.foldlM Reader.step ⟨frames, .ended (.record (before ++ memberData members))⟩ := by
  match members with
  | [] => exact absurd rfl filled
  | [(name, value)] =>
      rw [writeMembers, read_name, read_write value _ (.member before name :: frames) false trivial]
      rfl
  | (name, value) :: next :: more =>
      have further := read_members (next :: more) rest (before ++ [(name, value.datum)]) frames false
        (List.cons_ne_nil next more)
      rw [List.append_assoc] at further
      rw [writeMembers.eq_3 _ _ _ _ (List.cons_ne_nil next more), read_name,
        read_write value _ (.member before name :: frames) false trivial]
      exact further
end

theorem read_compact (value : Value) : read value.compact = some value.datum := by
  rw [read, Value.compact, String.toList_ofList, read_write value [] [] false trivial]
  rfl

example : read "[ -1.5e+3, \"\\ud83d\\ude00\\/\", \x7b\"a\" : []\x7d ]" =
    some (.list [.number ['-', '1', '.', '5', 'e', '+', '3'], .text "😀/", .record [("a", .list [])]]) := by rfl

example : ["[1,]", "[1 2]", "01", "1.", "[\x7d", "null null", "\"\n\"", "\"\\ud83d\""].all
    (fun text => (read text).isNone) = true := by decide

-- No character is below the space, so a new line is not among them.
def OneLine (chars : List Char) : Prop := ∀ char ∈ chars, 0x20 ≤ char.toNat

instance (chars : List Char) : Decidable (OneLine chars) := List.decidableBAll _ chars

theorem one_line_append (front rest : List Char) (visible : OneLine front) (after : OneLine rest) :
    OneLine (front ++ rest) :=
  List.forall_mem_append.mpr ⟨visible, after⟩

theorem one_line_escaped (char : Char) : OneLine (escapeChar char) := by
  have escaped := escaped_char char
  generalize escapeChar char = written at escaped ⊢
  cases escaped with
  | letter letter visible other known =>
      exact one_line_append ['\\'] [letter] (by decide) (by simpa [OneLine] using visible)
  | unit low =>
      have digits : ∀ nibble < 16, 0x20 ≤ (Nat.digitChar nibble).toNat := by decide
      have front := digits (char.toNat / 16) (by omega)
      have back := digits (char.toNat % 16) (by omega)
      exact one_line_append ['\\', 'u', '0', '0'] _ (by decide) (by simpa [OneLine] using ⟨front, back⟩)
  | plain unquoted unslashed high => simpa [OneLine] using high

theorem one_line_text (content : String) (rest : List Char) (after : OneLine rest) :
    OneLine (writeText content rest) := by
  refine one_line_append ['"'] _ (by decide) ?_
  induction content.toList with
  | nil => exact one_line_append ['"'] rest (by decide) after
  | cons char more ih => exact one_line_append _ _ (one_line_escaped char) ih

mutual
theorem one_line_write (value : Value) (rest : List Char) (after : OneLine rest) : OneLine (write value rest) := by
  cases value with
  | null => exact one_line_append ['n', 'u', 'l', 'l'] rest (by decide) after
  | bool value =>
      cases value with
      | true => exact one_line_append ['t', 'r', 'u', 'e'] rest (by decide) after
      | false => exact one_line_append ['f', 'a', 'l', 's', 'e'] rest (by decide) after
  | text content => exact one_line_text content rest after
  | list items =>
      have closed := one_line_append [']'] rest (by decide) after
      exact one_line_append ['['] _ (by decide) (one_line_items items _ closed)
  | record members =>
      have closed := one_line_append ['\x7d'] rest (by decide) after
      exact one_line_append ['\x7b'] _ (by decide) (one_line_members members _ closed)
theorem one_line_items (items : List Value) (rest : List Char) (after : OneLine rest) :
    OneLine (writeItems items rest) := by
  match items with
  | [] => exact after
  | [item] => exact one_line_write item rest after
  | item :: next :: more =>
      have further := one_line_append [','] _ (by decide) (one_line_items (next :: more) rest after)
      exact one_line_write item _ further
theorem one_line_members (members : List (String × Value)) (rest : List Char) (after : OneLine rest) :
    OneLine (writeMembers members rest) := by
  match members with
  | [] => exact after
  | [(name, value)] =>
      have written := one_line_append [':'] _ (by decide) (one_line_write value rest after)
      exact one_line_text name _ written
  | (name, value) :: next :: more =>
      have further := one_line_append [','] _ (by decide) (one_line_members (next :: more) rest after)
      have written := one_line_append [':'] _ (by decide) (one_line_write value _ further)
      exact one_line_text name _ written
end

theorem one_line_compact (value : Value) : OneLine value.compact.toList := by
  rw [Value.compact, String.toList_ofList]
  exact one_line_write value [] nofun

end TopDown.Json
