import KeyProtection.Bits

/-!
Flag sets. A flag type names its lowest bits; a flag set of that type is a mask of any width,
whose bits above the named ones are kept untouched.
-/

namespace KeyProtection

/-- The restrictions that a key can carry. -/
inductive FlagType where
  | purpose
  | padding
  | digest
  | blockMode
  | userAuthenticator
  deriving DecidableEq, Repr

namespace FlagType

def all : List FlagType := [purpose, padding, digest, blockMode, userAuthenticator]

def name : FlagType → String
  | purpose => "Purpose"
  | padding => "Padding"
  | digest => "Digest"
  | blockMode => "BlockMode"
  | userAuthenticator => "UserAuthenticator"

def ofName? (name : String) : Option FlagType :=
  all.find? fun type => type.name == name

/-- Member names in definition order: the member at position `i` owns bit `i`. -/
def memberNames : FlagType → List String
  | purpose => ["ENCRYPT", "DECRYPT", "SIGN", "VERIFY"]
  | padding => ["NONE", "ZERO", "PKCS7"]
  | digest => ["NONE", "SHA256"]
  | blockMode => ["ECB", "CBC", "CTR"]
  | userAuthenticator => ["LOCK_SCREEN"]

/-- Members with their masks, in definition order. -/
def members (type : FlagType) : List (String × Nat) :=
  type.memberNames.zipIdx.map fun (name, index) => (name, 1 <<< index)

/-- One more than the mask of all members. -/
def range (type : FlagType) : Nat := 1 <<< type.memberNames.length

end FlagType

structure FlagSet where
  type : FlagType
  bits : Nat
  deriving DecidableEq, Repr

namespace FlagSet

/-- The members in the set, in definition order. -/
def members (flags : FlagSet) : List String :=
  (flags.type.memberNames.zipIdx.filter fun (_, index) => flags.bits.testBit index).map Prod.fst

/-- The bits that no member of the type owns. -/
def unknownBits (flags : FlagSet) : Nat :=
  flags.bits >>> flags.type.memberNames.length <<< flags.type.memberNames.length

/-- The mask that a type makes of an integer. A negative one loses its endless high bits: it is counted
down from the range of the type, or from the next power of two if it lies below that range. -/
def maskOf (type : FlagType) : Int → Nat
  | .ofNat bits => bits
  | .negSucc below =>
    if below < type.range then type.range - (below + 1)
    else max type.range (1 <<< (Nat.log2 (below + 1) + 1)) - (below + 1)

/-- All bits of `part` are in `flags`. -/
def includes (flags part : FlagSet) : Bool := part.bits &&& flags.bits == part.bits

@[simp] theorem maskOf_natCast (type : FlagType) (bits : Nat) : maskOf type (bits : Int) = bits := rfl

theorem includes_iff (flags part : FlagSet) :
    flags.includes part = true ↔ ∀ index, part.bits.testBit index → flags.bits.testBit index := by
  simp only [includes, beq_iff_eq]
  constructor
  · intro same index present
    rw [← same, Nat.testBit_and] at present
    simp_all
  · intro inside
    apply Nat.eq_of_testBit_eq
    intro index
    rw [Nat.testBit_and]
    cases present : part.bits.testBit index
    · rfl
    · simp [inside index present]

end FlagSet

end KeyProtection
