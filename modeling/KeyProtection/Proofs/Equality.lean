import KeyProtection.Proofs.Content
import KeyProtection.Value.Equality

/-! Equality of values. Every value has a meaning, which forgets the kind of a number, the offset of an
instant and the order of entries; two values are equal exactly if they mean the same, and the hash is a
function of the meaning. -/

namespace KeyProtection

/-- What equality can tell of a value. A dictionary has a list of meanings for each key, since nothing
here depends on keys being there only once. -/
inductive Meaning where
  | null
  | number (number : Number)
  | text (content : String)
  | time (moment : Date × TimeOfDay ⊕ Instant)
  | context (label : Meaning)
  | list (items : List Meaning)
  | dict (values : String → List Meaning)

namespace Meaning

/-- The values of all keys with one more in front of those of one key. -/
def add (key : String) (first : Meaning) (values : String → List Meaning) : String → List Meaning :=
  fun other => if other = key then first :: values other else values other

theorem add_eq_add_iff {key : String} {first other : Meaning} {values others : String → List Meaning} :
    add key first values = add key other others ↔ first = other ∧ values = others := by
  constructor
  · intro same
    have here := congrFun same key
    simp only [add, if_pos, List.cons.injEq] at here
    refine ⟨here.1, funext fun name => ?_⟩
    by_cases key_eq : name = key
    · rw [key_eq]
      exact here.2
    · have there := congrFun same name
      simpa only [add, if_neg key_eq] using there
  · rintro ⟨rfl, rfl⟩
    rfl

/-- The hash of a meaning, or the kind that has none. -/
def hash : Meaning → Except Kind UInt64
  | null => .ok 1
  | number value => .ok (Value.numberHash value)
  | text content => .ok (Value.textHash content)
  | time (.inl (date, clock)) =>
    .ok (Value.mix 3 (UInt64.ofInt (date.dayNumber * TimeOfDay.microsecondsPerDay + clock.count)))
  | time (.inr instant) => .ok (Value.mix 3 (UInt64.ofInt instant))
  | context label => do return Value.mix 7 (← hash label)
  | list _ => .error .list
  | dict _ => .error .dict

theorem add_ne_nil (key : String) (first : Meaning) (values : String → List Meaning) :
    add key first values ≠ fun _ => [] := by
  intro same
  have here := congrFun same key
  simp [add] at here

end Meaning

/-- Times with an offset mean an instant, times without one what is written. -/
def DateTime.meaning (moment : DateTime) : Date × TimeOfDay ⊕ Instant :=
  match moment.offset with
  | none => .inl (moment.date, moment.time)
  | some _ => .inr moment.instant

theorem DateTime.equal_iff (left right : DateTime) :
    left.equal right = true ↔ left.meaning = right.meaning := by
  rw [equal, meaning, meaning]
  cases left.offset with
  | none =>
    cases right.offset with
    | none => simp
    | some shift => simp
  | some shift =>
    cases right.offset with
    | none => simp
    | some other => simp

namespace Value

mutual

def meaning : Value → Meaning
  | .null => .null
  | .bool truth => .number (.finite ((if truth then 1 else 0 : Int)))
  | .int number => .number (.finite number)
  | .float number => .number number.number
  | .text content => .text content
  | .flags set => .number (.finite (set.bits : Int))
  | .time moment => .time moment.meaning
  | .context label => .context label.meaning
  | .list items => .list (itemMeanings items)
  | .dict entries => .dict (entryMeanings entries)

def itemMeanings : List Value → List Meaning
  | [] => []
  | item :: rest => item.meaning :: itemMeanings rest

def entryMeanings : List (String × Value) → String → List Meaning
  | [] => fun _ => []
  | (key, value) :: rest => Meaning.add key value.meaning (entryMeanings rest)

end

/-- Looking a key up and removing its first entry splits off the first of its meanings. -/
theorem entryMeanings_of_lookup {entries : List (String × Value)} {key : String} {value : Value}
    (found : entries.lookup key = some value) :
    entryMeanings entries =
      Meaning.add key value.meaning (entryMeanings (entries.eraseP fun entry => entry.1 == key)) := by
  induction entries with
  | nil => cases found
  | cons entry rest step =>
    obtain ⟨name, first⟩ := entry
    by_cases same : name = key
    · subst same
      simp only [List.lookup_cons, BEq.rfl, Option.some.injEq] at found
      simp [entryMeanings, found]
    · have different : key ≠ name := fun equal => same equal.symm
      rw [List.lookup_cons, beq_false_of_ne different] at found
      rw [List.eraseP_cons_of_neg (by simp [same]), entryMeanings, entryMeanings, step found]
      funext other
      by_cases here : other = key
      · simp [Meaning.add, here, different]
      · simp [Meaning.add, here]

theorem entryMeanings_of_lookup_none {entries : List (String × Value)} {key : String}
    (absent : entries.lookup key = none) : entryMeanings entries key = [] := by
  induction entries with
  | nil => rfl
  | cons entry rest step =>
    obtain ⟨name, first⟩ := entry
    by_cases same : key = name
    · simp [same] at absent
    · rw [List.lookup_cons, beq_false_of_ne same] at absent
      simp [entryMeanings, Meaning.add, same, step absent]

theorem meaning_eq_number_iff {value : Value} {number : Number} :
    value.meaning = .number number ↔ value.number? = some number := by
  cases value with
  | bool truth | int integer | float floating | flags set =>
    rw [meaning, Meaning.number.injEq, ← Option.some.injEq]
    rfl
  | _ => simp [meaning, number?, integer?]

/-- A number of any kind equals the same number of every other kind, and nothing else. -/
theorem equal_number_iff {left right : Value} {number : Number}
    (number_eq : left.number? = some number) :
    left.equal right = true ↔ right.number? = some number := by
  cases left with
  | bool truth | int integer | float floating | flags set =>
    simp only [equal, number_eq]
    cases right.number? with
    | none => simp
    | some other =>
      rw [Option.some.injEq, beq_iff_eq]
      exact eq_comm
  | _ => cases number_eq

theorem equal_iff_meaning_of_number? {left right : Value} {number : Number}
    (number_eq : left.number? = some number) :
    left.equal right = true ↔ left.meaning = right.meaning := by
  rw [equal_number_iff number_eq, meaning_eq_number_iff.mpr number_eq, ← meaning_eq_number_iff]
  exact eq_comm

mutual

/-- Two values are equal exactly if they mean the same. -/
theorem equal_iff_meaning (left right : Value) :
    left.equal right = true ↔ left.meaning = right.meaning := by
  cases left with
  | null => cases right <;> simp [equal, meaning, number?, integer?]
  | bool truth | int integer | float floating | flags set => exact equal_iff_meaning_of_number? rfl
  | text content => cases right <;> simp [equal, meaning, number?, integer?]
  | time moment =>
    cases right with
    | time other => simp [equal, meaning, DateTime.equal_iff]
    | _ => simp [equal, meaning, number?, integer?]
  | context label =>
    cases right with
    | context other => simp [equal, meaning, equal_iff_meaning label other]
    | _ => simp [equal, meaning, number?, integer?]
  | list items =>
    cases right with
    | list others => simp [equal, meaning, equalItems_iff_meanings items others]
    | _ => simp [equal, meaning, number?, integer?]
  | dict entries =>
    cases right with
    | dict others => simp [equal, meaning, equalEntries_iff_meanings entries others]
    | _ => simp [equal, meaning, number?, integer?]

theorem equalItems_iff_meanings : ∀ lefts rights : List Value,
    equalItems lefts rights = true ↔ itemMeanings lefts = itemMeanings rights
  | [], [] => by simp [equalItems]
  | [], _ :: _ => by simp [equalItems, itemMeanings]
  | _ :: _, [] => by simp [equalItems, itemMeanings]
  | left :: lefts, right :: rights => by
    simp only [equalItems, itemMeanings, Bool.and_eq_true, List.cons.injEq,
      equal_iff_meaning left right, equalItems_iff_meanings lefts rights]

theorem equalEntries_iff_meanings : ∀ lefts rights : List (String × Value),
    equalEntries lefts rights = true ↔ entryMeanings lefts = entryMeanings rights
  | [], [] => by simp [equalEntries]
  | [], (key, value) :: rest => by
    simp only [equalEntries, entryMeanings, List.isEmpty_cons, Bool.false_eq_true, false_iff]
    exact fun same => Meaning.add_ne_nil key _ _ same.symm
  | (key, left) :: lefts, rights => by
    cases found : rights.lookup key with
    | none =>
      simp only [equalEntries, found, Bool.false_eq_true, false_iff]
      intro same
      have here := congrFun same key
      rw [entryMeanings_of_lookup_none found] at here
      simp [entryMeanings, Meaning.add] at here
    | some right =>
      simp only [equalEntries, found, Bool.and_eq_true, equal_iff_meaning left right,
        equalEntries_iff_meanings lefts, entryMeanings_of_lookup found, entryMeanings,
        Meaning.add_eq_add_iff]

end

/-- The hash of a value is that of its meaning. -/
theorem hash_eq_hash_meaning : ∀ value : Value, value.hash = value.meaning.hash
  | .null | .text _ | .list _ | .dict _ | .int _ | .float _ => rfl
  | .bool truth => by cases truth <;> rfl
  | .flags set => rfl
  | .time moment => by
    rw [hash, meaning, DateTime.meaning, DateTime.instant]
    cases moment.offset with
    | none => rw [Option.getD_none, Int.sub_zero, Meaning.hash]
    | some shift => rfl
  | .context label => by rw [hash, hash_eq_hash_meaning label, meaning, Meaning.hash]

end Value

end KeyProtection
