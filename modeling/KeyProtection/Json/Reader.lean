import KeyProtection.Json.Lexer

/-!
From tokens to documents. The reader keeps the containers that are open, innermost first, and what
may come next.
-/

namespace KeyProtection.Json

/-- An open container with what it holds so far, in reverse; a member's key stands before its
value. -/
inductive Open where
  | array (items : List Json)
  | object (members : List (String × Json)) (key : String)

/-- What the reader has just seen. -/
inductive Place where
  | value (stack : List Open)
  | arrayStart (stack : List Open)
  | objectStart (stack : List Open)
  | key (stack : List Open) (members : List (String × Json))
  | colon (stack : List Open) (members : List (String × Json)) (key : String)
  | complete (stack : List Open) (json : Json)

/-- The token that begins a value. -/
def begin (stack : List Open) : Token → Option Place
  | .atom leaf => some (.complete stack (.atom leaf))
  | .leftBracket => some (.arrayStart stack)
  | .leftBrace => some (.objectStart stack)
  | _ => none

def Place.step : Place → Token → Option Place
  | value stack, token => begin stack token
  | arrayStart stack, .rightBracket => some (complete stack (.array []))
  | arrayStart stack, token => begin (.array [] :: stack) token
  | objectStart stack, .rightBrace => some (complete stack (.object []))
  | objectStart stack, .atom (.text name) => some (colon stack [] name)
  | key stack members, .atom (.text name) => some (colon stack members name)
  | colon stack members name, .colon => some (value (.object members name :: stack))
  | complete (.array items :: stack) json, .comma => some (value (.array (json :: items) :: stack))
  | complete (.array items :: stack) json, .rightBracket =>
    some (complete stack (.array (json :: items).reverse))
  | complete (.object members name :: stack) json, .comma => some (key stack ((name, json) :: members))
  | complete (.object members name :: stack) json, .rightBrace =>
    some (complete stack (.object ((name, json) :: members).reverse))
  | _, _ => none

def ofTokens? (tokens : List Token) : Option Json :=
  match tokens.foldlM Place.step (.value []) with
  | some (.complete [] json) => some json
  | _ => none

/-- Reads a whole text as one document. -/
def read? (input : List Char) : Option Json := (lex? input).bind ofTokens?

end KeyProtection.Json
