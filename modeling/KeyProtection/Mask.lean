import KeyProtection.Text.Integer

/-!
Values read as integers and masks: the strict reading that flag sets are made by, the wide one that
also takes numbers and texts, and the one that bitwise operations allow. A flag set is made only if its
name can be written.
-/

namespace KeyProtection

namespace Floating

/-- The integer next to a number in the direction of zero. -/
def truncate : Floating → Except Error Int
  | nan _ => .error .undefinedToInteger
  | infinite _ => .error .infiniteToInteger
  | finite decimal =>
    match decimal.binary? with
    | some binary => .ok (if decimal.negative then -(binary.floor : Int) else binary.floor)
    | none => .error .infiniteToInteger

end Floating

namespace FlagSet

/-- A flag set, if it has a name: the members, and what is left of the mask as an integer. A set without
members has none. -/
def named [Runtime] (flags : FlagSet) : Except Error FlagSet :=
  if flags.members = [] ∨ flags.unknownBits = 0 then .ok flags
  else (Text.ofInteger flags.unknownBits).map fun _ => flags

/-- The flag set that a type makes of an integer. -/
def ofInt [Runtime] (type : FlagType) (number : Int) : Except Error FlagSet :=
  named ⟨type, maskOf type number⟩

/-- The strict reading of a mask: an integer that is no truth value and not negative. -/
def ofValue [Runtime] (type : FlagType) (value : Value) : Except Error FlagSet :=
  match value.mask? with
  | none => .error (.maskNotInteger type value.kind)
  | some bits =>
    if bits < 0 then do
      let shown ← Text.ofInteger bits
      .error (.maskNegative type (String.ofList shown))
    else ofInt type bits

/-- Whether all bits of a value are in a flag set; only a flag set of the same type is compared. -/
def contains (whole : FlagSet) : Value → Except Error Bool
  | .flags part =>
    if part.type = whole.type then .ok (whole.includes part)
    else .error (.notAPart (.flags part.type) (.flags whole.type))
  | value => .error (.notAPart value.kind (.flags whole.type))

end FlagSet

/-- How the flag sets that were made so far hold their masks. A mask of a type is made into a flag set once:
if this was done of a flag set of another type, then it holds its mask as that one, which may in turn
hold it as a third. The parts that the runtime takes such a mask apart into are held as their own type. -/
structure Holdings where
  /-- The types that a flag set's mask is held as, from the outside in, without its own. -/
  inner : FlagSet → List FlagType := fun _ => []

namespace Value

/-- The wide reading: integers, truth values, flag sets, numbers toward zero, and decimal texts. -/
def toInteger [Runtime] : Value → Except Error Int
  | float number => number.truncate
  | text content =>
    match Text.excessDigits? content.toList with
    | some (limit, count) => .error (.tooManyDigits limit count)
    | none =>
      match Text.integer? content.toList with
      | some number => .ok number
      | none => .error (.notDecimal content)
  | value =>
    match value.integer? with
    | some number => .ok number
    | none => .error (.notConvertible value.kind)

/-- The operand of a bitwise test against something of the kind `other`. -/
def operand (value : Value) (other : Kind) : Except Error Int :=
  match value.integer? with
  | some number => .ok number
  | none => .error (.notOperands '&' value.kind other)

/-- The types that an operand's mask goes through, from the outside in: its own and those it is held as. -/
def layers (holdings : Holdings) : Value → List FlagType
  | flags set => set.type :: holdings.inner set
  | _ => []

/-- An integer made into a flag set of each type, from the inside out. -/
def layered [Runtime] : List FlagType → Int → Except Error Value
  | [], number => .ok (int number)
  | type :: inner, number => do
    let held ← layered inner number
    let set ← FlagSet.ofInt type (held.integer?.getD 0)
    return flags set

/-- A bitwise operation. The layers of both operands go around the result, those of the left one outside,
so that a flag set on the left gives it its type, and one on the right if there is none on the left. -/
def bitwise [Runtime] (holdings : Holdings) (sign : Char) (operation : Int → Int → Int) :
    Value → Value → Except Error Value
  | bool left, bool right =>
    .ok (bool (operation (if left then 1 else 0) (if right then 1 else 0) != 0))
  | left, right =>
    match left.integer?, right.integer? with
    | some number, some other =>
      layered (left.layers holdings ++ right.layers holdings) (operation number other)
    | _, _ => .error (.notOperands sign left.kind right.kind)

variable [Runtime] (holdings : Holdings)

def or : Value → Value → Except Error Value := bitwise holdings '|' Bits.or

def and : Value → Value → Except Error Value := bitwise holdings '&' Bits.and

def xor : Value → Value → Except Error Value := bitwise holdings '^' Bits.xor

end Value

end KeyProtection
