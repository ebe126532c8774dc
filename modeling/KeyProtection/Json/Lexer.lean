import KeyProtection.Json
import KeyProtection.Numeral

/-!
From characters to tokens. The scanner takes one character at a time and knows what it stands in:
between tokens, in a word, or in a text and its escapes.
-/

namespace KeyProtection

namespace Atom

/-- The atom that a bare word stands for: one of the fixed words or a numeral. -/
def ofWord? (word : List Char) : Option Atom :=
  if word = ['n', 'u', 'l', 'l'] then some null
  else if word = ['t', 'r', 'u', 'e'] then some (bool true)
  else if word = ['f', 'a', 'l', 's', 'e'] then some (bool false)
  else if word = ['N', 'a', 'N'] then some nan
  else if word = ['I', 'n', 'f', 'i', 'n', 'i', 't', 'y'] then some (infinite false)
  else if word = ['-', 'I', 'n', 'f', 'i', 'n', 'i', 't', 'y'] then some (infinite true)
  else (Numeral.ofText? word).map fun numeral =>
    match numeral.integer? with
    | some number => int number
    | none => decimal numeral.decimal

end Atom

namespace Json

/-- Where the scanner stands; characters already read are kept in reverse. -/
inductive Scan where
  | between
  | word (seen : List Char)
  | text (seen : List Char)
  | escape (seen : List Char)
  | unicode (seen : List Char) (high : Option Nat) (code left : Nat)
  | pair (seen : List Char) (high : Nat)
  | pairEscape (seen : List Char) (high : Nat)

def isBlank (char : Char) : Bool := char == ' ' || char == '\t' || char == '\n' || char == '\r'

def punctuation? (char : Char) : Option Token :=
  if char = ',' then some .comma
  else if char = ':' then some .colon
  else if char = '[' then some .leftBracket
  else if char = ']' then some .rightBracket
  else if char = '\x7b' then some .leftBrace
  else if char = '\x7d' then some .rightBrace
  else none

def hexDigit? (char : Char) : Option Nat :=
  if '0' ≤ char ∧ char ≤ '9' then some (char.toNat - '0'.toNat)
  else if 'a' ≤ char ∧ char ≤ 'f' then some (char.toNat - 'a'.toNat + 10)
  else if 'A' ≤ char ∧ char ≤ 'F' then some (char.toNat - 'A'.toNat + 10)
  else none

/-- The character after a backslash that stands for one character by itself. -/
def unescape? (char : Char) : Option Char :=
  if char = '"' then some '"'
  else if char = '\\' then some '\\'
  else if char = '/' then some '/'
  else if char = 'b' then some '\x08'
  else if char = 'f' then some '\x0c'
  else if char = 'n' then some '\n'
  else if char = 'r' then some '\r'
  else if char = 't' then some '\t'
  else none

/-- The place after the last digit of a code: a high surrogate waits for a low one, and a low one
stands only after a high one. -/
def afterCode (seen : List Char) (high : Option Nat) (code : Nat) : Option Scan :=
  match high with
  | none =>
    if 0xd800 ≤ code ∧ code < 0xdc00 then some (.pair seen code)
    else if 0xdc00 ≤ code ∧ code < 0xe000 then none
    else some (.text (Char.ofNat code :: seen))
  | some high =>
    if 0xdc00 ≤ code ∧ code < 0xe000 then
      some (.text (Char.ofNat (0x10000 + (high - 0xd800) * 0x400 + (code - 0xdc00)) :: seen))
    else none

/-- One character: the place after it, and the tokens that it completes. -/
def Scan.step (scan : Scan) (char : Char) : Option (Scan × List Token) :=
  match scan with
  | between =>
    if isBlank char then some (between, [])
    else if char = '"' then some (text [], [])
    else match punctuation? char with
      | some token => some (between, [token])
      | none => some (word [char], [])
  | word seen =>
    if isBlank char then (Atom.ofWord? seen.reverse).map fun leaf => (between, [.atom leaf])
    else if char = '"' then none
    else match punctuation? char with
      | some token => (Atom.ofWord? seen.reverse).map fun leaf => (between, [.atom leaf, token])
      | none => some (word (char :: seen), [])
  | text seen =>
    if char = '"' then some (between, [.atom (.text (String.ofList seen.reverse))])
    else if char = '\\' then some (escape seen, [])
    else if char.toNat < 32 then none
    else some (text (char :: seen), [])
  | escape seen =>
    if char = 'u' then some (unicode seen none 0 4, [])
    else (unescape? char).map fun plain => (text (plain :: seen), [])
  | unicode seen high code left =>
    match hexDigit? char with
    | some digit =>
      if 1 < left then some (unicode seen high (code * 16 + digit) (left - 1), [])
      else (afterCode seen high (code * 16 + digit)).map fun scan => (scan, [])
    | none => none
  | pair seen high => if char = '\\' then some (pairEscape seen high, []) else none
  | pairEscape seen high => if char = 'u' then some (unicode seen (some high) 0 4, []) else none

/-- The tokens that the end of the input completes. -/
def Scan.finish? : Scan → Option (List Token)
  | between => some []
  | word seen => (Atom.ofWord? seen.reverse).map fun leaf => [.atom leaf]
  | _ => none

/-- A scanner's place with the tokens found so far, in reverse. -/
def lexStep (state : Scan × List Token) (char : Char) : Option (Scan × List Token) :=
  (state.1.step char).map fun (scan, found) => (scan, found.reverse ++ state.2)

def lex? (input : List Char) : Option (List Token) :=
  (input.foldlM lexStep (.between, [])).bind fun (scan, found) =>
    scan.finish?.map fun last => found.reverse ++ last

end Json

end KeyProtection
