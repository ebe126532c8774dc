import KeyProtection.Error

/-!
The timestamp of an optional time: its text in universal time, and none for null.
-/

namespace KeyProtection.Value

def timestamp : Value → Except Error (Option String)
  | .null => .ok none
  | .time moment =>
    match moment.utcText? with
    | some written => .ok (some written)
    | none => .error .dateOutOfRange
  | value => .error (.noAttribute value.kind "tzinfo")

end KeyProtection.Value
