import KeyProtection.Text.Printable

/-!
Texts in quotes. Apostrophes surround a text, unless it has an apostrophe and no double quote;
what is not shown is written by its code in two, four or eight hexadecimal digits.
-/

namespace KeyProtection.Text

def hexadecimal (width number : Nat) : List Char :=
  let found := Nat.toDigits 16 number
  List.replicate (width - found.length) '0' ++ found

def quotedChar (quote char : Char) : List Char :=
  if char = quote ∨ char = '\\' then ['\\', char]
  else if char = '\n' then ['\\', 'n']
  else if char = '\r' then ['\\', 'r']
  else if char = '\t' then ['\\', 't']
  else if isPrintable char then [char]
  else if char.toNat < 0x100 then '\\' :: 'x' :: hexadecimal 2 char.toNat
  else if char.toNat < 0x10000 then '\\' :: 'u' :: hexadecimal 4 char.toNat
  else '\\' :: 'U' :: hexadecimal 8 char.toNat

def quoted (content : List Char) : List Char :=
  let quote := if '\'' ∈ content ∧ '"' ∉ content then '"' else '\''
  quote :: (content.flatMap (quotedChar quote) ++ [quote])

end KeyProtection.Text
