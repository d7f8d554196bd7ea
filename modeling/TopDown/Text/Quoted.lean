import TopDown.Text.Printable
/-!
Quoted text for log messages: quotes and backslashes are escaped, the common control characters have
short escapes, and a character that is not shown as it is appears by its code in hexadecimal.
-/

set_option autoImplicit false

namespace TopDown.Text

def quoteChar (char : Char) : List Char :=
  if char = '"' then ['\\', '"']
  else if char = '\\' then ['\\', '\\']
  else if char = '\t' then ['\\', 't']
  else if char = '\n' then ['\\', 'n']
  else if char = '\r' then ['\\', 'r']
  else if char = '\x00' then ['\\', '0']
  else if isPrintable char then [char]
  else ['\\', 'u', '\x7b'] ++ Nat.toDigits 16 char.toNat ++ ['\x7d']

def quote (text : List Char) : String := .ofList ('"' :: text.flatMap quoteChar ++ ['"'])

end TopDown.Text
