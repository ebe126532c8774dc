import KeyProtection.Proofs.HashAlgorithm
import KeyProtection.Proofs.Parameters.Changes
import KeyProtection.Proofs.Parameters.Creation
import KeyProtection.Proofs.Parameters.History

/-! Digests from a setting to the choice of hash algorithms. What the last setting of digests chooses is
what the digests of the parameters choose that are built from it, and of all that are made from those by
changes of other fields. -/

namespace KeyProtection

/-- Parameters that come from those of a number by changes that give no digests, among all that a session
has created, each under its number. -/
inductive DescendsFrom (created : List (SessionStep × KeyParameters)) (origin : Nat) : Nat → Prop
  | self : DescendsFrom created origin origin
  | replaced {number next : Nat} {fields : List (String × Value)} {made : KeyParameters}
    (source : DescendsFrom created origin number)
    (call : created[next]? = some (.replace number fields, made))
    (untouched : Field.digests.given? fields = none) : DescendsFrom created origin next

section

variable [Runtime]

namespace Session

/-- A build answers with what the settings of its builder before it have written last. -/
theorem builtFrom_of_settings? {logLevel now : Int} {before : List SessionStep} {number : Nat}
    {settings : List Setting} {built : KeyParameters}
    (lived : SessionStep.settings? number before = some settings)
    (answered : (((Session.mk logLevel now [] []).run before).1.step (.build number)).2.outcome =
      .ok (.fields built)) (field : Field) :
    field.BuiltFrom ((Setting.lastWritten? field settings).or field.initial?) (built.get field) := by
  obtain ⟨builder, present, building⟩ := (outcome_build_iff _ _ _).mp answered
  have made := builder_run_made (Session.mk logLevel now [] []) number before
  simp only [List.length_nil, Nat.zero_add] at made
  obtain ⟨life, lives, rfl⟩ := Option.map_eq_some_iff.mp lived
  rw [made, lives, Option.map_some, Option.some.injEq] at present
  subst present
  have source := ((Builder.build_eq_ok_iff _ _).mp building).2 field
  rw [Builder.stored?_setAll, Builder.stored?_unset] at source
  exact source

/-- What a build has made stays under the next number that was free before it. -/
theorem parameters_built {session : Session} {number : Nat} {built : KeyParameters}
    (answered : (session.step (.build number)).2.outcome = .ok (.fields built))
    (after : List SessionStep) :
    (session.run (.build number :: after)).1.parameters[session.parameters.length]? = some built := by
  have made : SessionStep.made? (.build number) (session.step (.build number)).2 = some built := by
    simp only [SessionStep.made?, answered]
  rw [run_cons]
  apply parameters_run_kept
  rw [parameters_step_made, made]
  exact List.getElem?_concat_length

/-- Changes that give no digests hand on the digests that were there. -/
theorem digests_of_descendsFrom {logLevel now : Int} {steps : List SessionStep} {origin last : Nat}
    {parameters : KeyParameters}
    (descends : DescendsFrom ((Session.mk logLevel now [] []).creations steps) origin last)
    (present : ((Session.mk logLevel now [] []).run steps).1.parameters[origin]? = some parameters) :
    ∃ latest, ((Session.mk logLevel now [] []).run steps).1.parameters[last]? = some latest ∧
      latest.digests = parameters.digests := by
  induction descends with
  | self => exact ⟨parameters, present, rfl⟩
  | replaced source call untouched step =>
    obtain ⟨earlier, found, same⟩ := step
    obtain ⟨origin, there, changed⟩ := replaced_of_creation (List.mem_of_getElem? call)
    rw [found, Option.some.injEq] at there
    subst there
    have digests := KeyParameters.get_of_replace changed .digests
    rw [untouched] at digests
    refine ⟨_, ?_, digests.trans same⟩
    rw [parameters_run_creations, List.nil_append, List.getElem?_map, call]
    rfl

/-- Digests that are a flag set can be asked for. -/
theorem outcome_getDigests {session : Session} {number : Nat} {parameters : KeyParameters}
    {set : FlagSet} (present : session.parameters[number]? = some parameters)
    (digests : parameters.digests = .flags set) :
    (session.step (.getDigests number)).2.outcome = .ok (.value (.flags set)) := by
  have found : session.parameter number = .ok parameters := by rw [parameter, present]
  have specified : parameters.getDigests = .ok (.flags set) := by
    rw [KeyParameters.getDigests, KeyParameters.isDigestsSpecified, digests, if_pos rfl]
  simp only [step, step.read, found, bind, Except.bind, specified]
  rfl

end Session

namespace HashAlgorithm

/-- A mask that is built into digests and the digests built from it choose the same algorithms. -/
theorem ofDigests_of_builtFrom {mask built : Value} (source : Field.digests.BuiltFrom (some mask) built) :
    ∃ set selected, built = .flags set ∧ ofDigests mask = .ok selected ∧
      ofDigests (.flags set) = .ok selected := by
  obtain ⟨set, read, rfl⟩ := source
  obtain ⟨isMask, _, rfl⟩ := FlagSet.ofValue_eq_ok_iff.mp read
  have bits := Value.integer?_of_mask? (Value.mask?_of_isMask isMask)
  exact ⟨_, _, rfl, ofDigests_of_integer? bits, ofDigests_of_integer? rfl⟩

end HashAlgorithm

end

namespace HashAlgorithm

/-- A mask, of any size and sign, chooses the one algorithm there is if its second bit is set in two's
complement, and none otherwise. A union of two masks is made if all flag types that take part can name it,
and then it chooses an algorithm if either part does, unless it is out of range for the type of
authenticators. An intersection is always made, and chooses if both parts do. After any steps in which a
builder builds, its last setting of digests chooses what the digests of the built parameters choose, and so
do those of all that descend from them by changes of other fields. -/
theorem selection_follows_restriction [Runtime] :
    (∀ (digests : Value) (number : Int), digests.integer? = some number →
      ofDigests digests = .ok (if number / 2 % 2 = 1 then [sha256] else [])) ∧
    (∀ (holdings : Holdings) (left right : Value) (number other : Int), left.mask? = some number →
      right.mask? = some other → left.IsMade holdings → right.IsMade holdings →
      WritesIf (Value.NameableIn (left.layers holdings ++ right.layers holdings) (Bits.or number other))
        (left.or holdings right) ∧
      (∀ union, left.or holdings right = .ok union →
        (Selects union ↔ (Selects left ∨ Selects right) ∧ ¬ OutOfRange holdings left right)) ∧
      ∃ common, left.and holdings right = .ok common ∧
        (Selects common ↔ Selects left ∧ Selects right)) ∧
    ∀ (logLevel now : Int) (before after : List SessionStep) (number : Nat) (settings : List Setting)
      (mask : Value) (reply : SessionReply) (built : KeyParameters),
      let start := Session.mk logLevel now [] []
      let steps := before ++ .build number :: after
      SessionStep.settings? number before = some settings →
      Setting.lastWritten? .digests settings = some mask →
      (start.run steps).2[before.length]? = some reply → reply.outcome = .ok (.fields built) →
      ∀ last, DescendsFrom (start.creations steps) (start.run before).1.parameters.length last →
        ∃ digests selected,
          ((start.run steps).1.step (.getDigests last)).2.outcome = .ok (.value digests) ∧
          ofDigests mask = .ok selected ∧ ofDigests digests = .ok selected := by
  refine ⟨fun digests number => ofDigests_of_integer?, ?_, ?_⟩
  · intro holdings left right number other first second made madeToo
    obtain ⟨common, found⟩ := Value.exists_and holdings first second made madeToo
    exact ⟨Value.writesIf_bitwise holdings '|' Bits.or first second,
      fun union => selects_union holdings first second,
      common, found, selects_intersection holdings first second found⟩
  · intro logLevel now before after number settings mask reply built start steps lived written replied
      answered last descends
    rw [Session.reply_at, Option.some.injEq] at replied
    subst replied
    have source := Session.builtFrom_of_settings? lived answered .digests
    rw [written, Option.some_or] at source
    obtain ⟨set, selected, stored, chosen, same⟩ := ofDigests_of_builtFrom source
    have present := Session.parameters_built answered after
    have whole : (start.run steps).1 = ((start.run before).1.run (.build number :: after)).1 := by
      rw [Session.run_append]
    rw [← whole] at present
    obtain ⟨latest, found, digests⟩ := Session.digests_of_descendsFrom descends present
    exact ⟨.flags set, selected, Session.outcome_getDigests found (digests.trans stored), chosen, same⟩

/-- A negative mask chooses, and so does its union with an authenticator, since it is below the range of
that type; digests with an unknown bit are built and kept through a change of the flags. -/
theorem selection_follows_restriction_negative :
    ofDigests (.int (-6)) = .ok [sha256] ∧
    (∃ union, (Value.flags ⟨.userAuthenticator, 1⟩).or {} (.int (-6)) = .ok union ∧ Selects union) ∧
    let start := Session.mk 20 0 [] []
    let fields : List (String × Value) := [("flags", .int 1)]
    let before : List SessionStep := [.builder (.context .null), .set 0 (.digests (.int 0x10000000002))]
    ∃ digests, ((start.run (before ++ .build 0 :: [.replace 0 fields])).1.step
      (.getDigests 1)).2.outcome = .ok (.value digests) ∧ ofDigests digests = .ok [sha256] := by
  obtain ⟨exact, both, pipeline⟩ := @selection_follows_restriction _
  have negative := exact (.int (-6)) (-6) rfl
  have unknown := exact (.int 0x10000000002) 0x10000000002 rfl
  rw [if_pos (by decide)] at negative unknown
  refine ⟨negative, ?_, ?_⟩
  · have known : (Value.flags ⟨.userAuthenticator, 1⟩).IsMade {} := by decide
    obtain ⟨writes, chooses, _⟩ :=
      both {} (.flags ⟨.userAuthenticator, 1⟩) (.int (-6)) 1 (-6) rfl rfl known (by decide)
    obtain ⟨union, made⟩ := writes.made (by decide)
    have inRange : ¬ OutOfRange {} (.flags ⟨.userAuthenticator, 1⟩) (.int (-6)) := by
      rintro ⟨set, number, ⟨left, right⟩ | ⟨left, _⟩, _, outside⟩
      · cases left
        cases right
        exact absurd outside (by decide)
      · cases left
    have chosen := List.mem_singleton_self HashAlgorithm.sha256
    exact ⟨union, made, (chooses union made).mpr ⟨.inr ⟨_, negative, sha256, chosen⟩, inRange⟩⟩
  · intro start fields before
    obtain ⟨digests, selected, answered, chosen, same⟩ := pipeline 20 0 before [.replace 0 fields] 0
      [.digests (.int 0x10000000002)] (.int 0x10000000002) _ _ rfl rfl rfl rfl 1
      (.replaced .self rfl rfl)
    exact ⟨digests, answered, same.trans (chosen.symm.trans unknown)⟩

/-- The union of no authenticators with −1 is the authenticator with the lowest bit, which chooses nothing
though −1 does. -/
theorem union_out_of_range :
    ¬ ∀ (left right union : Value) (number other : Int), left.mask? = some number →
      right.mask? = some other → left.or {} right = .ok union →
      (Selects union ↔ Selects left ∨ Selects right) := by
  intro always
  have union := always (.flags ⟨.userAuthenticator, 0⟩) (.int (-1)) (.flags ⟨.userAuthenticator, 1⟩) 0 (-1)
    rfl rfl rfl
  rw [selects_iff rfl, selects_iff rfl, selects_iff rfl] at union
  exact absurd (union.mpr (.inr rfl)) (by decide)

end HashAlgorithm

end KeyProtection
