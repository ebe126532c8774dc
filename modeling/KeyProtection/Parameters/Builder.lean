import KeyProtection.Context
import KeyProtection.Parameters

/-!
Builders collect the fields of a set of parameters. Setters store any value; only building checks
the masks and the duration, and it changes nothing in the builder.
-/

namespace KeyProtection

/-- What a setter writes. The encryption setter may be called without a value. -/
inductive Setting where
  | encryptionRequired (value : Option Value)
  | start (value : Value)
  | validityEnd (value : Value)
  | originationEnd (value : Value)
  | consumptionEnd (value : Value)
  | purposes (value : Value)
  | paddings (value : Value)
  | digests (value : Value)
  | blockModes (value : Value)
  | userAuthenticators (value : Value)
  | duration (value : Value)

structure Builder where
  encryption : Bool := false
  start : Value := .null
  originationEnd : Value := .null
  consumptionEnd : Value := .null
  purposes : Value := .flags ⟨.purpose, 0⟩
  paddings : Value := .flags ⟨.padding, 0⟩
  digests : Option Value := none
  blockModes : Value := .flags ⟨.blockMode, 0⟩
  userAuthenticators : Value := .flags ⟨.userAuthenticator, 0⟩
  duration : Value := .int unlimitedValidity

namespace Builder

/-- A builder is made for a context, which it does not keep. -/
def new (context : Value) : Except Error Builder := (Context.require context).map fun _ => {}

def set (builder : Builder) : Setting → Builder
  | .encryptionRequired value =>
    { builder with encryption := (value.map Value.truthy).getD true }
  | .start value => { builder with start := value }
  | .validityEnd value => { builder with originationEnd := value, consumptionEnd := value }
  | .originationEnd value => { builder with originationEnd := value }
  | .consumptionEnd value => { builder with consumptionEnd := value }
  | .purposes value => { builder with purposes := value }
  | .paddings value => { builder with paddings := value }
  | .digests value => { builder with digests := some value }
  | .blockModes value => { builder with blockModes := value }
  | .userAuthenticators value => { builder with userAuthenticators := value }
  | .duration value => { builder with duration := value }

variable [Runtime]

/-- Digests are read as a mask only if they were set. -/
def buildDigests : Option Value → Except Error Value
  | none => .ok .null
  | some value => (FlagSet.ofValue .digest value).map .flags

def build (builder : Builder) : Except Error KeyParameters := do
  let digests ← buildDigests builder.digests
  let purposes ← FlagSet.ofValue .purpose builder.purposes
  let paddings ← FlagSet.ofValue .padding builder.paddings
  let blockModes ← FlagSet.ofValue .blockMode builder.blockModes
  let userAuthenticators ← FlagSet.ofValue .userAuthenticator builder.userAuthenticators
  KeyParameters.checked
    { flags := .int (if builder.encryption then encryptedFlag else 0)
      start := builder.start
      originationEnd := builder.originationEnd
      consumptionEnd := builder.consumptionEnd
      purposes := .flags purposes
      paddings := .flags paddings
      digests := digests
      blockModes := .flags blockModes
      userAuthenticators := .flags userAuthenticators
      duration := builder.duration }

end Builder

end KeyProtection
