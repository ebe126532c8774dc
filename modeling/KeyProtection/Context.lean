import KeyProtection.Error

/-!
Authorization contexts: handles with a label, of which a builder only asks that there is one.
-/

namespace KeyProtection.Context

/-- A context from keyword arguments. -/
def new : List (String × Value) → Except Error Value
  | arguments =>
    match arguments.find? fun (keyword, _) => keyword != "label" with
    | some (keyword, _) => .error (.keyword .authorizationContext keyword)
    | none => .ok (.context ((arguments.lookup "label").getD .null))

/-- The value given in place of a context, if it is not null. -/
def require : Value → Except Error Value
  | .null => .error .contextMissing
  | value => .ok value

end KeyProtection.Context
