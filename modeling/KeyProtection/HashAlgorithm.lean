import KeyProtection.Mask

/-!
The hash algorithms that a digest restriction allows. Raw signing and unknown bits have none.
-/

namespace KeyProtection

/-- A hash function with its sizes in bytes. -/
structure HashAlgorithm where
  name : String
  digestSize : Nat
  blockSize : Nat
  deriving DecidableEq, Repr

namespace HashAlgorithm

def sha256 : HashAlgorithm := ⟨"sha256", 32, 64⟩

/-- The algorithms with the digest bit that selects each. -/
def selectors : List (Nat × HashAlgorithm) := [(1, sha256)]

def ofBits (bits : Int) : List HashAlgorithm :=
  (selectors.filter fun (index, _) => Bits.test bits index).map Prod.snd

def ofDigests (digests : Value) : Except Error (List HashAlgorithm) :=
  (digests.operand (.flags .digest)).map ofBits

end HashAlgorithm

end KeyProtection
