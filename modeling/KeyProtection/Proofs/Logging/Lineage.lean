import Mathlib.Data.List.TakeWhile
import KeyProtection.Proofs.Logging.Ancestors

/-! Chains in registries of the same loggers. They differ only where a logger that is named by a beginning of
the root's name is the older one of two in one registry and the younger one in the other, and is next above
that one in one of them. A logger that is made is older than all that are made later. -/

namespace KeyProtection.Logging

namespace Registry

theorem find?_eq_none_iff (registry : Registry) (name : String) :
    registry.find? (.named name) = none ↔ name ∉ registry.named.map Prod.fst := by
  rw [find?, List.lookup_eq_none_iff]
  constructor
  · intro apart member
    obtain ⟨entry, inside, same⟩ := List.mem_map.mp member
    exact absurd same.symm (by simpa using apart entry inside)
  · intro absent entry member
    have different : name ≠ entry.1 := fun same => absent (same ▸ List.mem_map_of_mem member)
    simpa using different

/-- All loggers are older than one that is not there. -/
theorem before_of_absent {registry : Registry} {below : String}
    (absent : registry.find? (.named below) = none) :
    registry.before below = registry.named.map Prod.fst := by
  rw [before, List.takeWhile_eq_self_iff]
  intro name member
  have different : name ≠ below := fun same =>
    (registry.find?_eq_none_iff below).mp absent (same ▸ member)
  simpa using different

@[simp] theorem before_update (registry : Registry) (name : LoggerName) (change : Logger → Logger)
    (below : String) : (registry.update name change).before below = registry.before below := by
  cases name with
  | root => rfl
  | named name =>
    rw [before, before, update, List.map_map]
    rfl

/-- A new logger is older than those that are not there, and than no other. -/
theorem before_ensure_of_absent {registry : Registry} {name : String}
    (absent : registry.find? (.named name) = none) (below : String) :
    (registry.ensure (.named name)).before below =
      if (registry.find? (.named below)).isSome then registry.before below
      else registry.before below ++ [name].takeWhile (· ≠ below) := by
  have made : (registry.ensure (.named name)).before below =
      (registry.named.map Prod.fst ++ [name]).takeWhile (· ≠ below) := by
    simp [ensure, absent, before]
  rw [made, List.takeWhile_append]
  cases there : registry.find? (.named below) with
  | some logger =>
    have ends : ¬ ((registry.named.map Prod.fst).takeWhile (· ≠ below)).length =
        (registry.named.map Prod.fst).length := by
      intro whole
      have all := (List.takeWhile_prefix _).eq_of_length whole
      have missing := (registry.find?_eq_none_iff below).mpr fun member => by
        simpa using List.takeWhile_eq_self_iff.mp all below member
      rw [there] at missing
      cases missing
    rw [if_neg ends, Option.isSome_some, if_pos rfl, before]
  | none =>
    have whole : (registry.named.map Prod.fst).takeWhile (· ≠ below) =
        registry.named.map Prod.fst := before_of_absent there
    rw [if_pos (congrArg List.length whole), before_of_absent there, Option.isSome_none,
      if_neg Bool.false_ne_true]

/-- A logger that is made is older than those that are not there. -/
theorem mem_before_ensure {registry : Registry} {name : LoggerName} {parent below : String}
    (different : parent ≠ below) : parent ∈ (registry.ensure name).before below ↔
      parent ∈ registry.before below ∨
        (registry.find? (.named below) = none ∧ name = .named parent) := by
  cases name with
  | root => simp [ensure]
  | named name =>
    cases found : registry.find? (.named name) with
    | some logger =>
      have kept : registry.ensure (.named name) = registry := by simp only [ensure, found]
      rw [kept]
      refine ⟨.inl, ?_⟩
      rintro (older | ⟨absent, same⟩)
      · exact older
      · obtain rfl := LoggerName.named.inj same
        rw [before_of_absent absent]
        apply Classical.not_not.mp
        intro missing
        rw [(registry.find?_eq_none_iff name).mpr missing] at found
        cases found
    | none =>
      rw [before_ensure_of_absent found]
      cases registry.find? (.named below) with
      | some logger => simp
      | none =>
        rw [Option.isSome_none, if_neg Bool.false_ne_true, List.mem_append]
        by_cases last : name = below
        · have other : below ≠ parent := different.symm
          simp [last, other]
        · simp [last, @eq_comm _ parent name]

/-- A logger that counts in one registry of two with the same loggers counts in the other, but for the
question which of two is older. -/
theorem Counts.or_younger {registry other : Registry} {parent child : String}
    (same : (registry.find? (.named parent)).isSome = (other.find? (.named parent)).isSome)
    (counts : registry.Counts parent child) : other.Counts parent child ∨
      parent.toList <+: LoggerName.root.text.toList ∧ parent ∈ registry.before child ∧
        parent ∉ other.before child := by
  by_cases younger : parent.toList <+: LoggerName.root.text.toList ∧ parent ∉ other.before child
  · exact .inr ⟨younger.1, counts.older younger.1, younger.2⟩
  · refine .inl ⟨counts.named, counts.cut, same ▸ counts.present, fun beginning => ?_⟩
    exact Classical.not_not.mp fun absent => younger ⟨beginning, absent⟩

section

variable {registry other : Registry}
  (same : ∀ name, (registry.find? name).isSome = (other.find? name).isSome)

include same

/-- Where the next loggers above one differ, one of them is named by a beginning of the root's name, and
the registries differ about its age. -/
theorem exists_elder {child : String} {next nextToo : LoggerName} (isNext : registry.IsNext child next)
    (isNextToo : other.IsNext child nextToo) (different : next ≠ nextToo) :
    ∃ parent, parent.toList <+: LoggerName.root.text.toList ∧
      (next = .named parent ∨ nextToo = .named parent) ∧
      ¬ (parent ∈ registry.before child ↔ parent ∈ other.before child) := by
  -- What counts there and not here is the older one there alone.
  have elder {parent : String} (countsToo : other.Counts parent child)
      (discounted : ¬ registry.Counts parent child) :
      parent.toList <+: LoggerName.root.text.toList ∧
        ¬ (parent ∈ registry.before child ↔ parent ∈ other.before child) := by
    obtain ⟨beginning, older, younger⟩ :=
      (countsToo.or_younger (same (.named parent)).symm).resolve_left discounted
    exact ⟨beginning, fun agree => younger (agree.mpr older)⟩
  cases isNext with
  | root none =>
    cases isNextToo with
    | root _ => exact absurd rfl different
    | @logger parent countsToo _ =>
      obtain ⟨beginning, disagree⟩ := elder countsToo (none parent)
      exact ⟨parent, beginning, .inr rfl, disagree⟩
  | @logger parent counts nearest =>
    rcases counts.or_younger (same (.named parent)) with countsToo | ⟨beginning, older, younger⟩
    · cases isNextToo with
      | root none => exact absurd countsToo (none parent)
      | @logger second countsSecond nearestToo =>
        have discounted : ¬ registry.Counts second child := fun countsHere => by
          have length := Nat.le_antisymm (nearest second countsHere) (nearestToo parent countsToo)
          exact different (congrArg _ (counts.eq_of_length countsHere length.symm))
        obtain ⟨beginning, disagree⟩ := elder countsSecond discounted
        exact ⟨second, beginning, .inr rfl, disagree⟩
    · exact ⟨parent, beginning, .inl rfl, fun agree => younger (agree.mp older)⟩

/-- Chains are the same exactly if, wherever one goes up to a logger that is named by a beginning of the
root's name, the registries agree whether that one is older. -/
theorem chain_eq_iff (name : LoggerName) : registry.chain name = other.chain name ↔
    ∀ parent child, .named child ∈ registry.chain name → parent.toList <+: LoggerName.root.text.toList →
      (registry.IsNext child (.named parent) ∨ other.IsNext child (.named parent)) →
      (parent ∈ registry.before child ↔ parent ∈ other.before child) := by
  induction name using registry.upward_induction with
  | root =>
    refine iff_of_true rfl fun parent child member => ?_
    cases List.mem_singleton.mp member
  | step name next isNext further =>
    obtain ⟨nextToo, isNextToo, chain⟩ := other.exists_next name
    rw [chain_of_isNext isNext, chain, List.cons_inj_right]
    by_cases agree : next = nextToo
    · subst agree
      rw [further]
      constructor
      · intro above parent child member beginning
        rcases List.mem_cons.mp member with here | behind
        · obtain rfl := LoggerName.named.inj here
          intro either
          have both : next = .named parent :=
            either.elim isNext.unique isNextToo.unique
          subst both
          cases isNext with
          | logger counts _ =>
            cases isNextToo with
            | logger countsToo _ =>
              exact iff_of_true (counts.older beginning) (countsToo.older beginning)
        · exact above parent child behind beginning
      · exact fun all parent child member => all parent child (List.mem_cons_of_mem _ member)
    · constructor
      · intro equal
        -- The chains of different loggers begin with these.
        have heads : (registry.chain next).head? = (other.chain nextToo).head? := by rw [equal]
        rw [head?_chain, head?_chain] at heads
        exact absurd (Option.some.inj heads) agree
      · intro all
        obtain ⟨parent, beginning, either, disagree⟩ := exists_elder same isNext isNextToo agree
        refine absurd (all parent name List.mem_cons_self beginning ?_) disagree
        rcases either with rfl | rfl
        · exact .inl isNext
        · exact .inr isNextToo

end

end Registry

end KeyProtection.Logging
