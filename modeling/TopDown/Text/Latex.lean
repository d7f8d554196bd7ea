/-!
Escaping for LaTeX. A character that LaTeX would read as a command or a ligature becomes the text
that prints it; of two hyphens in a row the first one is closed off, so that they do not join.
-/

set_option autoImplicit false

namespace TopDown.Latex

def escapeChar : Char → String
  | '&' => "\\&"
  | '%' => "\\%"
  | '$' => "\\$"
  | '#' => "\\#"
  | '_' => "\\_"
  | '\x7b' => "\\\x7b"
  | '\x7d' => "\\\x7d"
  | '[' => "\x7b[\x7d"
  | ']' => "\x7b]\x7d"
  | '~' => "\\textasciitilde\x7b\x7d"
  | '^' => "\\textasciicircum\x7b\x7d"
  | '<' => "\\textless\x7b\x7d"
  | '>' => "\\textgreater\x7b\x7d"
  | '!' => "!\x7b\x7d"
  | '\\' => "\\textbackslash\x7b\x7d"
  | char => .singleton char

def escapeChars : List Char → String
  | [] => ""
  | char :: rest =>
      (if char = '-' ∧ rest.head? = some '-' then "-\x7b\x7d" else escapeChar char) ++ escapeChars rest

def escape (text : String) : String := escapeChars text.toList

def text (content : String) : String := "\\text\x7b" ++ escape content ++ "\x7d"

end TopDown.Latex
