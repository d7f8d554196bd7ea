/-!
JSON values and their compact text. A record keeps its members in the order they are given. The
writer puts the text of a value in front of the text that follows it.
-/

set_option autoImplicit false

namespace TopDown.Json

inductive Value where
  | null
  | bool (value : Bool)
  | text (content : String)
  | list (items : List Value)
  | record (members : List (String × Value))

def ofOption {α : Type} (write : α → Value) : Option α → Value
  | none => .null
  | some value => write value

def texts (contents : List String) : Value := .list (contents.map .text)

-- Quotes, backslashes and control characters below the space are escaped, nothing else.
def escapeChar (char : Char) : List Char :=
  if char = '"' then ['\\', '"']
  else if char = '\\' then ['\\', '\\']
  else if char = '\x08' then ['\\', 'b']
  else if char = '\x0c' then ['\\', 'f']
  else if char = '\n' then ['\\', 'n']
  else if char = '\r' then ['\\', 'r']
  else if char = '\t' then ['\\', 't']
  else if char.toNat < 0x20 then
    ['\\', 'u', '0', '0', Nat.digitChar (char.toNat / 16), Nat.digitChar (char.toNat % 16)]
  else [char]

def writeText (content : String) (rest : List Char) : List Char :=
  '"' :: content.toList.foldr (fun char tail => escapeChar char ++ tail) ('"' :: rest)

mutual
def write : Value → List Char → List Char
  | .null, rest => 'n' :: 'u' :: 'l' :: 'l' :: rest
  | .bool true, rest => 't' :: 'r' :: 'u' :: 'e' :: rest
  | .bool false, rest => 'f' :: 'a' :: 'l' :: 's' :: 'e' :: rest
  | .text content, rest => writeText content rest
  | .list items, rest => '[' :: writeItems items (']' :: rest)
  | .record members, rest => '\x7b' :: writeMembers members ('\x7d' :: rest)
def writeItems : List Value → List Char → List Char
  | [], rest => rest
  | [item], rest => write item rest
  | item :: others, rest => write item (',' :: writeItems others rest)
def writeMembers : List (String × Value) → List Char → List Char
  | [], rest => rest
  | [(name, value)], rest => writeText name (':' :: write value rest)
  | (name, value) :: others, rest =>
      writeText name (':' :: write value (',' :: writeMembers others rest))
end

def Value.compact (value : Value) : String := .ofList (write value [])

end TopDown.Json
