import KeyProtection.Decimal

/-!
Documents of the JSON format, with members in order, and the tokens they are written as. The format
is extended by the three words for infinite and undefined numbers.
-/

namespace KeyProtection

/-- What a document holds besides arrays and objects. -/
inductive Atom where
  | null
  | bool (truth : Bool)
  | int (number : Int)
  | decimal (number : Decimal)
  | infinite (negative : Bool)
  | nan
  | text (content : String)
  deriving DecidableEq

inductive Json where
  | atom (leaf : Atom)
  | array (items : List Json)
  | object (members : List (String × Json))

namespace Json

inductive Token where
  | atom (leaf : Atom)
  | comma
  | colon
  | leftBracket
  | rightBracket
  | leftBrace
  | rightBrace
  deriving DecidableEq

mutual

def tokens : Json → List Token
  | .atom leaf => [.atom leaf]
  | .array items => .leftBracket :: (itemTokens items ++ [.rightBracket])
  | .object members => .leftBrace :: (memberTokens members ++ [.rightBrace])

def itemTokens : List Json → List Token
  | [] => []
  | [item] => item.tokens
  | item :: next :: rest => item.tokens ++ .comma :: itemTokens (next :: rest)

def memberTokens : List (String × Json) → List Token
  | [] => []
  | [(key, item)] => .atom (.text key) :: .colon :: item.tokens
  | (key, item) :: next :: rest =>
    .atom (.text key) :: .colon :: (item.tokens ++ .comma :: memberTokens (next :: rest))

end

/-- The first member of a key, if the document is an object that has one. -/
def member? (json : Json) (key : String) : Option Json :=
  match json with
  | .object members => members.lookup key
  | _ => none

def text (content : String) : Json := .atom (.text content)

def int (number : Int) : Json := .atom (.int number)

def bool (truth : Bool) : Json := .atom (.bool truth)

def null : Json := .atom .null

instance : Inhabited Json := ⟨null⟩

end Json

end KeyProtection
