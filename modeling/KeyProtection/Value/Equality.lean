import KeyProtection.Value

/-!
Equality of values and a hash that respects it. Numbers of all kinds are compared by their exact
values, times by the rule of `DateTime.equal`, and dictionaries without regard to order.
-/

namespace KeyProtection

/-- An exact number; undefined numbers differ by their occurrence. -/
inductive Number where
  | finite (value : Rat)
  | infinite (negative : Bool)
  | nan (occurrence : Nat)
  deriving DecidableEq

def Floating.number : Floating → Number
  | finite decimal =>
    match decimal.binary? with
    | some binary =>
      let (numerator, denominator) := binary.quotient
      .finite (mkRat (if decimal.negative then -(numerator : Int) else numerator) denominator)
    | none => .infinite decimal.negative
  | infinite negative => .infinite negative
  | nan occurrence => .nan occurrence

namespace Value

def number? : Value → Option Number
  | float number => some number.number
  | value => value.integer?.map fun number => .finite number

mutual

def equal : Value → Value → Bool
  | null, null => true
  | text left, text right => left == right
  | time left, time right => left.equal right
  | context left, context right => equal left right
  | list left, list right => equalItems left right
  | dict left, dict right => equalEntries left right
  | left, right =>
    match left.number?, right.number? with
    | some left, some right => left == right
    | _, _ => false

def equalItems : List Value → List Value → Bool
  | [], [] => true
  | left :: lefts, right :: rights => equal left right && equalItems lefts rights
  | _, _ => false

/-- Each entry on the left uses up the entry of the same key on the right. -/
def equalEntries : List (String × Value) → List (String × Value) → Bool
  | [], rights => rights.isEmpty
  | (key, left) :: lefts, rights =>
    match rights.lookup key with
    | some right => equal left right && equalEntries lefts (rights.eraseP fun entry => entry.1 == key)
    | none => false

end

def mix (seed next : UInt64) : UInt64 := (seed ^^^ next) * 1099511628211 + 14695981039346656037

def textHash (content : String) : UInt64 :=
  content.toList.foldl (fun seed char => mix seed (UInt64.ofNat char.toNat)) 5

def numberHash : Number → UInt64
  | .finite value => mix (UInt64.ofInt value.num) (UInt64.ofNat value.den)
  | .infinite negative => if negative then 17 else 19
  | .nan occurrence => mix 23 (UInt64.ofNat occurrence)

/-- The hash of a value, or the kind that has none. -/
def hash : Value → Except Kind UInt64
  | null => .ok 1
  | text content => .ok (textHash content)
  | time moment => .ok (mix 3 (UInt64.ofInt moment.instant))
  | context label => do return mix 7 (← hash label)
  | list _ => .error .list
  | dict _ => .error .dict
  | bool truth => .ok (numberHash (.finite (if truth then 1 else 0)))
  | int number => .ok (numberHash (.finite number))
  | flags set => .ok (numberHash (.finite set.bits))
  | float number => .ok (numberHash number.number)

end Value

end KeyProtection
