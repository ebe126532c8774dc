import KeyProtection.Json.Reader

/-! The reader takes no more than the writer gives. Wherever it stands, the tokens that it has taken are
those of the containers that are open and of what they hold, so that a document is read from its own
tokens only. -/

namespace KeyProtection.Json

/-- The tokens of items that more will follow. -/
def itemTokensBefore (items : List Json) : List Token :=
  items.flatMap fun item => item.tokens ++ [.comma]

/-- The tokens of members that more will follow. -/
def memberTokensBefore (members : List (String × Json)) : List Token :=
  members.flatMap fun (key, item) => .atom (.text key) :: .colon :: (item.tokens ++ [.comma])

theorem itemTokens_concat (items : List Json) (item : Json) :
    itemTokens (items ++ [item]) = itemTokensBefore items ++ item.tokens := by
  induction items with
  | nil => rfl
  | cons first rest step =>
    have more : itemTokens (first :: (rest ++ [item])) =
        first.tokens ++ .comma :: itemTokens (rest ++ [item]) := by
      cases rest <;> rfl
    rw [List.cons_append, more, step]
    simp [itemTokensBefore]

theorem memberTokens_concat (members : List (String × Json)) (key : String) (item : Json) :
    memberTokens (members ++ [(key, item)]) =
      memberTokensBefore members ++ .atom (.text key) :: .colon :: item.tokens := by
  induction members with
  | nil => rfl
  | cons first rest step =>
    have more : memberTokens (first :: (rest ++ [(key, item)])) =
        .atom (.text first.1) :: .colon ::
          (first.2.tokens ++ .comma :: memberTokens (rest ++ [(key, item)])) := by
      cases rest <;> rfl
    rw [List.cons_append, more, step]
    simp [memberTokensBefore]

/-- The tokens of an open container up to the item that comes next. -/
def Open.tokens : Open → List Token
  | .array items => .leftBracket :: itemTokensBefore items.reverse
  | .object members key =>
    .leftBrace :: (memberTokensBefore members.reverse ++ [.atom (.text key), .colon])

/-- The tokens of open containers, the innermost of them first. -/
def openTokens (stack : List Open) : List Token := stack.reverse.flatMap Open.tokens

theorem openTokens_cons (innermost : Open) (stack : List Open) :
    openTokens (innermost :: stack) = openTokens stack ++ innermost.tokens := by
  simp [openTokens]

/-- The tokens that have been taken at a place. -/
def Place.tokens : Place → List Token
  | value stack => openTokens stack
  | arrayStart stack => openTokens stack ++ [.leftBracket]
  | objectStart stack => openTokens stack ++ [.leftBrace]
  | key stack members => openTokens stack ++ .leftBrace :: memberTokensBefore members.reverse
  | colon stack members name =>
    openTokens stack ++ .leftBrace :: (memberTokensBefore members.reverse ++ [.atom (.text name)])
  | complete stack json => openTokens stack ++ json.tokens

theorem tokens_begin {stack : List Open} {token : Token} {next : Place}
    (begun : begin stack token = some next) : next.tokens = openTokens stack ++ [token] := by
  cases token with
  | atom leaf | leftBracket | leftBrace =>
    cases begun
    rfl
  | _ => cases begun

/-- Every step takes its token, behind those that were taken before. -/
theorem tokens_step {place next : Place} {token : Token} (stepped : place.step token = some next) :
    next.tokens = place.tokens ++ [token] := by
  cases place with
  | value stack => exact tokens_begin stepped
  | arrayStart stack =>
    by_cases closes : token = .rightBracket
    · subst closes
      cases stepped
      simp [Place.tokens, Json.tokens, itemTokens]
    · have begun : begin (.array [] :: stack) token = some next := by
        cases token with
        | rightBracket => exact absurd rfl closes
        | _ => exact stepped
      rw [tokens_begin begun, openTokens_cons]
      rfl
  | objectStart stack =>
    cases token with
    | rightBrace =>
      cases stepped
      simp [Place.tokens, Json.tokens, memberTokens]
    | atom leaf =>
      cases leaf with
      | text name =>
        cases stepped
        simp [Place.tokens, memberTokensBefore]
      | _ => cases stepped
    | _ => cases stepped
  | key stack members =>
    cases token with
    | atom leaf =>
      cases leaf with
      | text name =>
        cases stepped
        simp [Place.tokens]
      | _ => cases stepped
    | _ => cases stepped
  | colon stack members name =>
    cases token with
    | colon =>
      cases stepped
      simp [Place.tokens, openTokens_cons, Open.tokens]
    | _ => cases stepped
  | complete stack json =>
    cases stack with
    | nil => cases token <;> cases stepped
    | cons innermost stack =>
      cases innermost with
      | array items =>
        cases token with
        | comma =>
          cases stepped
          simp [Place.tokens, openTokens_cons, Open.tokens, itemTokensBefore]
        | rightBracket =>
          cases stepped
          simp [Place.tokens, openTokens_cons, Open.tokens, Json.tokens, itemTokens_concat]
        | _ => cases stepped
      | object members name =>
        cases token with
        | comma =>
          cases stepped
          simp [Place.tokens, openTokens_cons, Open.tokens, memberTokensBefore]
        | rightBrace =>
          cases stepped
          simp [Place.tokens, openTokens_cons, Open.tokens, Json.tokens, memberTokens_concat]
        | _ => cases stepped

theorem tokens_foldlM {place last : Place} {tokens : List Token}
    (read : tokens.foldlM Place.step place = some last) : last.tokens = place.tokens ++ tokens := by
  induction tokens generalizing place with
  | nil =>
    cases read
    exact (List.append_nil _).symm
  | cons token rest later =>
    rw [List.foldlM_cons] at read
    obtain ⟨next, stepped, more⟩ := Option.bind_eq_some_iff.mp read
    rw [later more, tokens_step stepped, List.append_assoc, List.singleton_append]

/-- A document is read from the tokens that it is written as, and from no others. -/
theorem tokens_of_ofTokens? {tokens : List Token} {json : Json} (read : ofTokens? tokens = some json) :
    json.tokens = tokens := by
  rw [ofTokens?] at read
  split at read
  · next ended =>
    cases read
    exact tokens_foldlM ended
  · cases read

/-- A member of an object is written with all its tokens. -/
theorem mem_memberTokens {members : List (String × Json)} {key : String} {item : Json} {token : Token}
    (member : (key, item) ∈ members) (inside : token ∈ item.tokens) :
    token ∈ memberTokens members := by
  induction members with
  | nil => cases member
  | cons first rest step =>
    obtain ⟨firstKey, firstItem⟩ := first
    cases rest with
    | nil =>
      cases List.mem_singleton.mp member
      simp [memberTokens, inside]
    | cons next rest =>
      rcases List.mem_cons.mp member with same | further
      · cases same
        simp [memberTokens, inside]
      · simp [memberTokens, step further]

end KeyProtection.Json
