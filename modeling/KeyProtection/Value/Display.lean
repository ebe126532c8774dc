import KeyProtection.Text.Integer

/-!
Values as messages show them. A text by itself is shown bare; everything inside a list or a
dictionary is shown in full, texts in quotes. An integer with too many digits stops it all.
-/

namespace KeyProtection

def joined : List (List Char) → List Char
  | [] => []
  | [part] => part
  | part :: next :: rest => part ++ ',' :: ' ' :: joined (next :: rest)

/-- The type, the members with what is left of the mask, and the mask. -/
def FlagSet.shown [Runtime] (flags : FlagSet) : Except Error (List Char) := do
  let rest ← Text.ofInteger flags.unknownBits
  let mask ← Text.ofInteger flags.bits
  let names := flags.members ++ if flags.unknownBits = 0 then [] else [String.ofList rest]
  let body := if flags.members.isEmpty then [] else '.' :: ("|".intercalate names).toList
  return '<' :: flags.type.name.toList ++ body ++ ':' :: ' ' :: mask ++ ['>']

namespace DateTime

/-- A span of microseconds in days, seconds and microseconds, of which the first may be negative. -/
def spanShown (span : Int) : List Char :=
  let days := span / TimeOfDay.microsecondsPerDay
  let rest := (span % TimeOfDay.microsecondsPerDay).toNat
  let part (name : String) (number : Int) : List (List Char) :=
    if number = 0 then [] else [name.toList ++ '=' :: integerText number]
  "datetime.timedelta(".toList ++
    joined (part "days" days ++ part "seconds" (rest / 1000000 : Nat) ++
      part "microseconds" (rest % 1000000 : Nat)) ++ [')']

def offsetShown (offset : Int) : List Char :=
  if offset = 0 then "datetime.timezone.utc".toList
  else "datetime.timezone(".toList ++ spanShown offset ++ [')']

def shown (time : DateTime) : List Char :=
  let micro := time.time.microsecond
  let second := time.time.second
  let fine : List (List Char) :=
    if micro ≠ 0 then [digits second, digits micro] else if second ≠ 0 then [digits second] else []
  let zone := (time.offset.map fun offset => "tzinfo=".toList ++ offsetShown offset).toList
  "datetime.datetime(".toList ++
    joined ([integerText time.date.year, digits time.date.month, digits time.date.day,
      digits time.time.hour, digits time.time.minute] ++ fine ++ zone) ++ [')']

end DateTime

namespace Value

variable [Runtime]

mutual

/-- A value in full. -/
def shown : Value → Except Error (List Char)
  | .null => .ok ['N', 'o', 'n', 'e']
  | .bool true => .ok ['T', 'r', 'u', 'e']
  | .bool false => .ok ['F', 'a', 'l', 's', 'e']
  | .int number => Text.ofInteger number
  | .float number => .ok number.text
  | .text content => .ok (Text.quoted content.toList)
  | .flags set => set.shown
  | .time moment => .ok moment.shown
  | .context label => (shown label).map fun label =>
    "AuthorizationContext(label=".toList ++ label ++ [')']
  | .list items => (shownItems items).map fun items => '[' :: joined items ++ [']']
  | .dict entries => (shownEntries entries).map fun entries => '\x7b' :: joined entries ++ ['\x7d']

def shownItems : List Value → Except Error (List (List Char))
  | [] => .ok []
  | item :: rest => do
    let first ← shown item
    return first :: (← shownItems rest)

def shownEntries : List (String × Value) → Except Error (List (List Char))
  | [] => .ok []
  | (key, value) :: rest => do
    let first ← shown value
    return (Text.quoted key.toList ++ ':' :: ' ' :: first) :: (← shownEntries rest)

end

/-- A value by itself. -/
def display : Value → Except Error (List Char)
  | .text content => .ok content.toList
  | .flags set => Text.ofInteger set.bits
  | .time moment => .ok moment.text
  | value => value.shown

end Value

end KeyProtection
