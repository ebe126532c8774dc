import KeyProtection.Proofs.Equality
import KeyProtection.Proofs.Parameters.Steps

/-! Equality of parameters. Two sets of parameters are equal if all fields mean the same, so that equality
is an equivalence and equal parameters have one hash or none for the same reason; and a builder that is
not set in between builds equal parameters. -/

namespace KeyProtection

namespace KeyParameters

def meaning (parameters : KeyParameters) (field : Field) : Meaning := (parameters.get field).meaning

theorem equal_iff_meaning (left right : KeyParameters) :
    left.equal right = true ↔ left.meaning = right.meaning := by
  rw [equal, List.all_eq_true]
  constructor
  · intro same
    funext field
    exact (Value.equal_iff_meaning _ _).mp (same field field.mem_all)
  · intro same field _
    exact (Value.equal_iff_meaning _ _).mpr (congrFun same field)

theorem hashValues_congr {left right : KeyParameters} (same : left.meaning = right.meaning)
    (fields : List Field) (seed : UInt64) :
    hashValues seed (fields.map left.get) = hashValues seed (fields.map right.get) := by
  induction fields generalizing seed with
  | nil => rfl
  | cons field rest step =>
    have alike : (left.get field).hash = (right.get field).hash := by
      rw [Value.hash_eq_hash_meaning, Value.hash_eq_hash_meaning]
      exact congrArg Meaning.hash (congrFun same field)
    simp only [List.map_cons, hashValues, alike]
    cases (right.get field).hash with
    | ok next => exact step _
    | error kind => rfl

theorem hash_congr {left right : KeyParameters} (same : left.meaning = right.meaning) :
    left.hash = right.hash :=
  hashValues_congr same Field.all 11

/-- Only a value without a hash stands in the way of one. -/
theorem hash_cases (parameters : KeyParameters) :
    (∃ code, parameters.hash = .ok code) ∨ ∃ kind, parameters.hash = .error (.unhashable kind) := by
  have settled (seed : UInt64) (values : List Value) :
      (∃ code, hashValues seed values = .ok code) ∨
        ∃ kind, hashValues seed values = .error (.unhashable kind) := by
    induction values generalizing seed with
    | nil => exact .inl ⟨seed, rfl⟩
    | cons value rest step =>
      cases hashed : value.hash with
      | ok next => simpa only [hashValues, hashed] using step (Value.mix seed next)
      | error kind => exact .inr ⟨kind, by simp only [hashValues, hashed]⟩
  exact settled 11 parameters.values

end KeyParameters

namespace Session

variable [Runtime]

/-- Two builds of one builder, with no setting of it between them, make the same parameters. -/
theorem rebuilt_eq {session : Session} {number : Nat} {between : List SessionStep}
    {first second : KeyParameters}
    (built : (session.step (.build number)).2.outcome = .ok (.fields first))
    (unset : between.filterMap (SessionStep.setting? number) = [])
    (rebuilt : ((session.run (.build number :: between)).1.step (.build number)).2.outcome =
      .ok (.fields second)) : first = second := by
  obtain ⟨builder, present, builds⟩ := (outcome_build_iff _ _ _).mp built
  have kept := builder_run session present (.build number :: between)
  rw [List.filterMap_cons_none rfl, unset] at kept
  obtain ⟨again, presentAgain, buildsAgain⟩ := (outcome_build_iff _ _ _).mp rebuilt
  have same : again = builder := Option.some.inj (presentAgain.symm.trans kept)
  rw [same, builds] at buildsAgain
  exact Except.ok.inj buildsAgain

end Session

namespace KeyParameters

/-- Equality of parameters is an equivalence, whatever their fields hold. Equal parameters have the same
hash, or none because of the same kind of value. Whatever a session does elsewhere, two builds of one
builder without a setting of it in between make equal parameters. -/
theorem equal_equivalence_hash [Runtime] (first second third : KeyParameters) :
    first.equal first = true ∧
    (first.equal second = true → second.equal first = true) ∧
    (first.equal second = true → second.equal third = true → first.equal third = true) ∧
    (first.equal second = true →
      (∃ code, first.hash = .ok code ∧ second.hash = .ok code) ∨
        ∃ kind, first.hash = .error (.unhashable kind) ∧
          second.hash = .error (.unhashable kind)) ∧
    ∀ (session : Session) (number : Nat) (between : List SessionStep),
      (session.step (.build number)).2.outcome = .ok (.fields first) →
      between.filterMap (SessionStep.setting? number) = [] →
      ((session.run (.build number :: between)).1.step (.build number)).2.outcome =
        .ok (.fields second) →
      first.equal second = true := by
  simp only [equal_iff_meaning]
  refine ⟨trivial, Eq.symm, Eq.trans, ?_, ?_⟩
  · intro same
    rw [hash_congr same]
    rcases hash_cases second with ⟨code, hashed⟩ | ⟨kind, unhashed⟩
    · exact .inl ⟨code, hashed, hashed⟩
    · exact .inr ⟨kind, unhashed, unhashed⟩
  · intro session number between built unset rebuilt
    rw [Session.rebuilt_eq built unset rebuilt]

/-- A truth value equals a number, a flag set an integer, and an undefined number in a list itself; the
list is why neither side has a hash. -/
theorem equal_equivalence_hash_mixed :
    let first : KeyParameters := { flags := .bool true, digests := .list [.float (.nan 0), .int 2] }
    let second : KeyParameters :=
      { flags := .float (.finite ⟨false, 1, 0, by decide⟩)
        digests := .list [.float (.nan 0), .flags ⟨.padding, 2⟩] }
    second.equal first = true ∧ ∃ kind, first.hash = .error (.unhashable kind) ∧
      second.hash = .error (.unhashable kind) := by
  intro first second
  have same : first.equal second = true := by decide +kernel
  obtain ⟨_, symmetric, _, hashes, _⟩ := equal_equivalence_hash first second first
  refine ⟨symmetric same, ?_⟩
  rcases hashes same with ⟨code, hashed, _⟩ | unhashed
  · have listed : first.hash = .error (.unhashable .list) := rfl
    rw [listed] at hashed
    cases hashed
  · exact unhashed

end KeyParameters

end KeyProtection
