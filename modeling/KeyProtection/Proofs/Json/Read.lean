import KeyProtection.Json.Reader
import KeyProtection.Proofs.Json.Scan

/-! Documents read back. Every document is found again from its text, whatever it holds: the reader
opens and closes containers where the writer did. -/

namespace KeyProtection.Json

/-- A mark between two runs of tokens keeps them apart. -/
theorem chain_append_mark {left right : List Token} {mark : Token} (notAtom : mark.isAtom = false)
    (first : left.IsChain Apart) (second : right.IsChain Apart) :
    (left ++ mark :: right).IsChain Apart := by
  have start : (mark :: right).IsChain Apart :=
    List.isChain_cons.mpr ⟨fun _ _ => .inl notAtom, second⟩
  refine List.isChain_append.mpr ⟨first, start, ?_⟩
  intro last _ next head
  have same : mark = next := Option.some.inj head
  exact .inr (same ▸ notAtom)

theorem chain_cons_mark {tokens : List Token} {mark : Token} (notAtom : mark.isAtom = false)
    (chain : tokens.IsChain Apart) : (mark :: tokens).IsChain Apart := by
  have joined : ([] ++ mark :: tokens).IsChain Apart := chain_append_mark notAtom .nil chain
  exact joined

theorem chain_member {value : List Token} (key : String) (chain : value.IsChain Apart) :
    (.atom (.text key) :: .colon :: value : List Token).IsChain Apart := by
  have joined : ([.atom (.text key)] ++ .colon :: value : List Token).IsChain Apart :=
    chain_append_mark rfl (.singleton _) chain
  exact joined

mutual

theorem apart_tokens : (json : Json) → json.tokens.IsChain Apart
  | .atom _ => .singleton _
  | .array items => by
    rw [tokens]
    exact chain_cons_mark rfl (chain_append_mark rfl (apart_itemTokens items) .nil)
  | .object members => by
    rw [tokens]
    exact chain_cons_mark rfl (chain_append_mark rfl (apart_memberTokens members) .nil)

theorem apart_itemTokens : (items : List Json) → (itemTokens items).IsChain Apart
  | [] => .nil
  | [item] => by
    rw [itemTokens]
    exact apart_tokens item
  | item :: next :: rest => by
    rw [itemTokens]
    exact chain_append_mark rfl (apart_tokens item) (apart_itemTokens (next :: rest))

theorem apart_memberTokens : (members : List (String × Json)) → (memberTokens members).IsChain Apart
  | [] => .nil
  | [(key, item)] => by
    rw [memberTokens]
    exact chain_member key (apart_tokens item)
  | (key, item) :: next :: rest => by
    rw [memberTokens]
    exact chain_member key
      (chain_append_mark rfl (apart_tokens item) (apart_memberTokens (next :: rest)))

end

/-- A value begins with a token that does not close an array. -/
theorem tokens_eq_cons (json : Json) : ∃ first rest, json.tokens = first :: rest ∧
    first ≠ .rightBracket := by
  cases json with
  | atom leaf => exact ⟨_, _, rfl, by simp⟩
  | array items => exact ⟨_, _, rfl, by simp⟩
  | object members => exact ⟨_, _, rfl, by simp⟩

theorem step_arrayStart (stack : List Open) {token : Token} (opens : token ≠ .rightBracket) :
    Place.step (.arrayStart stack) token = Place.step (.value (.array [] :: stack)) token := by
  cases token with
  | rightBracket => exact absurd rfl opens
  | _ => rfl

theorem foldlM_arrayStart (stack : List Open) (json : Json) (rest : List Token) :
    (json.tokens ++ rest).foldlM Place.step (.arrayStart stack) =
      (json.tokens ++ rest).foldlM Place.step (.value (.array [] :: stack)) := by
  obtain ⟨first, more, same, opens⟩ := tokens_eq_cons json
  rw [same, List.cons_append, List.foldlM_cons, List.foldlM_cons, step_arrayStart stack opens]

mutual

/-- After the tokens of a document the reader holds that document, in whatever stands around it. -/
theorem foldlM_tokens : (json : Json) → (stack : List Open) → (rest : List Token) →
    (json.tokens ++ rest).foldlM Place.step (.value stack) =
      rest.foldlM Place.step (.complete stack json)
  | .atom _, _, _ => rfl
  | .array [], _, _ => rfl
  | .array [item], stack, rest => by
    rw [tokens, itemTokens, List.cons_append, List.append_assoc, List.foldlM_cons]
    refine (foldlM_arrayStart stack item _).trans ?_
    rw [foldlM_tokens item]
    rfl
  | .array (item :: next :: items), stack, rest => by
    have more := foldlM_itemTokens (next :: items) (by simp) [item] stack rest
    rw [tokens, itemTokens, List.cons_append, List.append_assoc, List.append_assoc,
      List.foldlM_cons]
    refine (foldlM_arrayStart stack item _).trans ?_
    rw [foldlM_tokens item]
    simpa [Place.step] using more
  | .object [], _, _ => rfl
  | .object (member :: members), stack, rest => by
    have read := foldlM_memberTokens (member :: members) (by simp) [] stack rest
    rw [tokens, List.cons_append, List.append_assoc, List.singleton_append, List.foldlM_cons]
    obtain ⟨key, item⟩ := member
    cases members with
    | nil => exact read
    | cons next members => exact read

/-- The items of an array that is open gather behind those it holds. -/
theorem foldlM_itemTokens : (items : List Json) → items ≠ [] → (seen : List Json) →
    (stack : List Open) → (rest : List Token) →
    (itemTokens items ++ .rightBracket :: rest).foldlM Place.step (.value (.array seen :: stack)) =
      rest.foldlM Place.step (.complete stack (.array (seen.reverse ++ items)))
  | [], nonempty, _, _, _ => absurd rfl nonempty
  | [item], _, seen, stack, rest => by
    rw [itemTokens, foldlM_tokens item, List.foldlM_cons]
    simp [Place.step]
  | item :: next :: items, _, seen, stack, rest => by
    have more := foldlM_itemTokens (next :: items) (by simp) (item :: seen) stack rest
    rw [itemTokens, List.append_assoc, foldlM_tokens item, List.cons_append, List.foldlM_cons]
    simpa [Place.step] using more

/-- The members of an object that is open gather behind those it holds. -/
theorem foldlM_memberTokens : (members : List (String × Json)) → members ≠ [] →
    (seen : List (String × Json)) → (stack : List Open) → (rest : List Token) →
    (memberTokens members ++ .rightBrace :: rest).foldlM Place.step (.key stack seen) =
      rest.foldlM Place.step (.complete stack (.object (seen.reverse ++ members)))
  | [], nonempty, _, _, _ => absurd rfl nonempty
  | [(key, item)], _, seen, stack, rest => by
    have read := foldlM_tokens item (.object seen key :: stack) (.rightBrace :: rest)
    simpa [memberTokens, List.foldlM_cons, Place.step] using read
  | (key, item) :: next :: members, _, seen, stack, rest => by
    have read := foldlM_tokens item (.object seen key :: stack)
      (.comma :: (memberTokens (next :: members) ++ .rightBrace :: rest))
    have more := foldlM_memberTokens (next :: members) (by simp) ((key, item) :: seen) stack rest
    rw [List.foldlM_cons] at read
    rw [memberTokens, List.cons_append, List.foldlM_cons, List.cons_append, List.append_assoc,
      List.cons_append]
    refine read.trans ?_
    simpa [Place.step] using more

end

theorem ofTokens?_tokens (json : Json) : ofTokens? json.tokens = some json := by
  have read := foldlM_tokens json [] []
  rw [List.append_nil] at read
  rw [ofTokens?, read]
  rfl

/-- Reading the text of a document gives that document back. -/
theorem read?_chars (json : Json) : read? json.chars = some json := by
  rw [read?, chars, lex?_chars json.tokens (apart_tokens json)]
  exact ofTokens?_tokens json

end KeyProtection.Json
