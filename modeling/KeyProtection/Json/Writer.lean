import KeyProtection.Json

/-!
The text of a document: its tokens one after the other, with no blanks between them.
-/

namespace KeyProtection.Json

/-- How a character is written inside a text. -/
def escape (char : Char) : List Char :=
  if char = '"' then ['\\', '"']
  else if char = '\\' then ['\\', '\\']
  else if char = '\x08' then ['\\', 'b']
  else if char = '\x0c' then ['\\', 'f']
  else if char = '\n' then ['\\', 'n']
  else if char = '\r' then ['\\', 'r']
  else if char = '\t' then ['\\', 't']
  else if char.toNat < 32 then
    ['\\', 'u', '0', '0', Nat.digitChar (char.toNat / 16), Nat.digitChar (char.toNat % 16)]
  else [char]

def quoted (content : String) : List Char := '"' :: (content.toList.flatMap escape ++ ['"'])

end Json

namespace Atom

def chars : Atom → List Char
  | null => ['n', 'u', 'l', 'l']
  | bool true => ['t', 'r', 'u', 'e']
  | bool false => ['f', 'a', 'l', 's', 'e']
  | int number => integerText number
  | decimal number => number.text
  | infinite false => ['I', 'n', 'f', 'i', 'n', 'i', 't', 'y']
  | infinite true => ['-', 'I', 'n', 'f', 'i', 'n', 'i', 't', 'y']
  | nan => ['N', 'a', 'N']
  | text content => Json.quoted content

end Atom

namespace Json

def Token.chars : Token → List Char
  | atom leaf => leaf.chars
  | comma => [',']
  | colon => [':']
  | leftBracket => ['[']
  | rightBracket => [']']
  | leftBrace => ['\x7b']
  | rightBrace => ['\x7d']

def chars (json : Json) : List Char := json.tokens.flatMap Token.chars

def render (json : Json) : String := String.ofList json.chars

end KeyProtection.Json
