import KeyProtection.Json.Writer
import KeyProtection.Text.Integer

/-!
The canonical text of a value: members in the order of their keys' code points at every level, and
no blanks. Times and contexts have no text, and neither have integers with too many digits; the first of
them in the order of the output is what fails.
-/

namespace KeyProtection

def Floating.atom : Floating → Atom
  | finite decimal => .decimal decimal
  | infinite negative => .infinite negative
  | nan _ => .nan

/-- Members in the order of their keys; members of one key keep their order. -/
def sortMembers {α : Type} (members : List (String × α)) : List (String × α) :=
  members.mergeSort fun left right => decide (left.1 ≤ right.1)

theorem sortMembers_perm {α : Type} (members : List (String × α)) :
    (sortMembers members).Perm members := List.mergeSort_perm members _

theorem sortMembers_pairwise {α : Type} (members : List (String × α)) :
    (sortMembers members).Pairwise fun left right => left.1 ≤ right.1 := by
  have sorted := @List.pairwise_mergeSort _ (fun (left right : String × α) => decide (left.1 ≤ right.1))
    (fun _ _ _ first second => by
      simpa using String.le_trans (by simpa using first) (by simpa using second))
    (fun left right => by simpa using String.le_total left.1 right.1) members
  simpa [sortMembers] using sorted

/-- All results, or the first error. -/
def sequenceMembers {α : Type} : List (String × Except Error α) → Except Error (List (String × α))
  | [] => .ok []
  | (key, result) :: rest => do
    let item ← result
    return (key, item) :: (← sequenceMembers rest)

namespace Value

variable [Runtime]

mutual

/-- The document of a value. An integer is part of it if it can be written. -/
def toJson : Value → Except Error Json
  | .null => .ok Json.null
  | .bool truth => .ok (Json.bool truth)
  | .int number => (Text.ofInteger number).map fun _ => Json.int number
  | .float number => .ok (.atom number.atom)
  | .text content => .ok (Json.text content)
  | .flags set => (Text.ofInteger set.bits).map fun _ => Json.int set.bits
  | .time _ => .error (.notSerializable .time)
  | .context _ => .error (.notSerializable .context)
  | .list items => (itemsToJson items).map .array
  | .dict entries => (sequenceMembers (sortMembers (entriesToJson entries))).map .object

def itemsToJson : List Value → Except Error (List Json)
  | [] => .ok []
  | item :: rest => do
    let json ← toJson item
    return json :: (← itemsToJson rest)

def entriesToJson : List (String × Value) → List (String × Except Error Json)
  | [] => []
  | (key, value) :: rest => (key, toJson value) :: entriesToJson rest

end

def canonicalText (value : Value) : Except Error String := value.toJson.map Json.render

end Value

end KeyProtection
