import KeyProtection.Error
import KeyProtection.Runtime

/-!
Integers in texts. They are read with blanks around, an optional sign, and decimal digits of any script,
with single underscores between them. The runtime bounds the digits, of those that are written too.
-/

namespace KeyProtection.Text

/-- Blanks above ASCII, ranges with their ends. -/
def wideBlanks : List (Nat × Nat) :=
  [(0x85, 0x85), (0xa0, 0xa0), (0x1680, 0x1680), (0x2000, 0x200a), (0x2028, 0x2029),
    (0x202f, 0x202f), (0x205f, 0x205f), (0x3000, 0x3000)]

def isBlank (char : Char) : Bool :=
  char == ' ' || 9 ≤ char.toNat && char.toNat ≤ 13 ||
    wideBlanks.any fun (first, last) => first ≤ char.toNat && char.toNat ≤ last

/-- The zeros of the decimal digits; the other nine of each script follow its zero. -/
def zeros : List Nat :=
  [ 0x30, 0x660, 0x6f0, 0x7c0, 0x966, 0x9e6, 0xa66, 0xae6, 0xb66, 0xbe6, 0xc66, 0xce6, 0xd66, 0xde6,
    0xe50, 0xed0, 0xf20, 0x1040, 0x1090, 0x17e0, 0x1810, 0x1946, 0x19d0, 0x1a80, 0x1a90, 0x1b50,
    0x1bb0, 0x1c40, 0x1c50, 0xa620, 0xa8d0, 0xa900, 0xa9d0, 0xa9f0, 0xaa50, 0xabf0, 0xff10, 0x104a0,
    0x10d30, 0x11066, 0x110f0, 0x11136, 0x111d0, 0x112f0, 0x11450, 0x114d0, 0x11650, 0x116c0,
    0x11730, 0x118e0, 0x11950, 0x11c50, 0x11d50, 0x11da0, 0x16a60, 0x16ac0, 0x16b50, 0x1d7ce,
    0x1d7d8, 0x1d7e2, 0x1d7ec, 0x1d7f6, 0x1e140, 0x1e2f0, 0x1e950, 0x1fbf0 ]

def digit? (char : Char) : Option Nat :=
  (zeros.find? fun start => start ≤ char.toNat && char.toNat < start + 10).map (char.toNat - ·)

/-- The number that goes on after the digits of `number`. -/
def moreDigits (number : Nat) : List Char → Option Nat
  | [] => some number
  | '_' :: char :: rest => (digit? char).bind fun digit => moreDigits (10 * number + digit) rest
  | char :: rest => (digit? char).bind fun digit => moreDigits (10 * number + digit) rest

def natural? : List Char → Option Nat
  | [] => none
  | char :: rest => (digit? char).bind fun digit => moreDigits digit rest

def signed? : List Char → Option Int
  | '-' :: rest => (natural? rest).map fun number => -(number : Int)
  | '+' :: rest => (natural? rest).map fun number => (number : Int)
  | text => (natural? text).map fun number => (number : Int)

def trim (text : List Char) : List Char :=
  ((text.dropWhile isBlank).reverse.dropWhile isBlank).reverse

def integer? (text : List Char) : Option Int := signed? (trim text)

/-- The digits and underscores that follow the blanks and the sign at the start of a text. -/
def digitRun (text : List Char) : List Char :=
  let start := match text.dropWhile isBlank with
    | '-' :: rest => rest
    | '+' :: rest => rest
    | rest => rest
  start.takeWhile fun char => char == '_' || (digit? char).isSome

/-- The bound that the digits exceed with which a text starts as a number, whatever follows, and how many
they are. -/
def excessDigits? [Runtime] (text : List Char) : Option (Nat × Nat) :=
  let run := digitRun text
  let count := run.countP (· != '_')
  if (natural? run).isSome then (Runtime.exceeded? count).map fun limit => (limit, count) else none

variable [Runtime] {number : Int}

/-- The text of an integer, if it has no more digits than are written. -/
def ofInteger (number : Int) : Except Error (List Char) :=
  match Runtime.exceeded? (digits number.natAbs).length with
  | some limit => .error (.integerTooLong limit)
  | none => .ok (integerText number)

/-- An integer with no more digits than are written. -/
def Writable (number : Int) : Prop := Runtime.Allows (digits number.natAbs).length

instance (number : Int) : Decidable (Writable number) :=
  inferInstanceAs (Decidable (Runtime.Allows _))

theorem ofInteger_of_writable (writable : Writable number) :
    ofInteger number = .ok (integerText number) := by
  simp only [ofInteger, show Runtime.exceeded? (digits number.natAbs).length = none from writable]

theorem ofInteger_eq_error_iff {error : Error} :
    ofInteger number = .error error ↔ ∃ limit,
      Runtime.exceeded? (digits number.natAbs).length = some limit ∧ error = .integerTooLong limit := by
  rw [ofInteger]
  cases Runtime.exceeded? (digits number.natAbs).length with
  | none => simp
  | some limit => simp [eq_comm]

theorem ofInteger_eq_ok_iff {text : List Char} :
    ofInteger number = .ok text ↔ Writable number ∧ integerText number = text := by
  rw [ofInteger, Writable, Runtime.Allows]
  cases Runtime.exceeded? (digits number.natAbs).length with
  | none => simp
  | some limit => simp

end KeyProtection.Text
