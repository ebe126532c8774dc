import KeyProtection.Proofs.Logging.Registry

/-! The loggers above a logger. The next one is the nearest that counts: it exists, and its name is what is in
front of a dot that an even number of dots follow, because a search that has looked at a dot leaves out the
character in front of it. One that is named by a beginning of the root's name counts only for loggers that
are made after it. Where none counts the next one is the root. By such steps the chain of a logger goes up
to the root, each logger of it once, and the first level on it that is set takes effect. -/

namespace KeyProtection.Logging

namespace LoggerName

/-- The dots at the start of a text. -/
def dots (text : List Char) : Nat := (text.takeWhile (· == '.')).length

theorem dots_concat (text : List Char) (char : Char) :
    dots (text ++ [char]) = if dots text = text.length ∧ char = '.' then dots text + 1 else dots text := by
  rw [dots, dots, List.takeWhile_append]
  by_cases whole : (text.takeWhile (· == '.')).length = text.length
  · rw [if_pos whole]
    by_cases dot : char = '.'
    · simp [whole, dot]
    · simp [whole, dot]
  · rw [if_neg whole, if_neg (fun both => whole both.1)]

/-- A dot, and whatever character is in front of it, change nothing in how even the dots are that end a
text. -/
theorem dots_skip (before : List Char) (skipped : Char) :
    dots ('.' :: skipped :: before).reverse % 2 = dots before.reverse % 2 := by
  have bound : dots before.reverse ≤ before.reverse.length := (List.takeWhile_prefix _).length_le
  rw [List.reverse_cons, List.reverse_cons, dots_concat _ '.', List.length_append, List.length_singleton]
  by_cases whole : dots before.reverse = before.reverse.length ∧ skipped = '.'
  · have longer : dots (before.reverse ++ [skipped]) = dots before.reverse + 1 := by
      rw [dots_concat, if_pos whole]
    rw [longer, if_pos ⟨congrArg (· + 1) whole.1, rfl⟩]
    omega
  · have same : dots (before.reverse ++ [skipped]) = dots before.reverse := by
      rw [dots_concat, if_neg whole]
    rw [same, if_neg (by omega)]

/-- The names that a search for a parent looks at, nearest first, all read backwards. -/
def cuts : List Char → List (List Char)
  | [] => []
  | [_] => []
  | first :: second :: rest =>
    if first = '.' then (second :: rest) :: cuts rest else cuts (second :: rest)

/-- A search looks at what is in front of a dot that an even number of dots follow. -/
theorem mem_cuts_iff {parent suffix : List Char} : parent ∈ cuts suffix ↔
    parent ≠ [] ∧ ∃ before, suffix = before ++ '.' :: parent ∧ dots before.reverse % 2 = 0 := by
  fun_induction cuts suffix with
  | case1 => simp
  | case2 single =>
    simp only [List.not_mem_nil, false_iff]
    rintro ⟨named, before, cut, _⟩
    cases before with
    | nil => exact named (List.cons.inj cut).2.symm
    | cons first rest => simp at cut
  | case3 second rest step =>
    rw [List.mem_cons, step]
    constructor
    · rintro (rfl | ⟨named, before, rfl, even⟩)
      · exact ⟨List.cons_ne_nil _ _, [], rfl, rfl⟩
      · exact ⟨named, '.' :: second :: before, rfl, (dots_skip before second).trans even⟩
    · rintro ⟨named, before, cut, even⟩
      match before with
      | [] => exact .inl (List.cons.inj cut).2.symm
      | [_] =>
        obtain ⟨rfl, _⟩ := List.cons.inj cut
        cases even
      | first :: skipped :: before =>
        obtain ⟨rfl, inner⟩ := List.cons.inj cut
        exact .inr ⟨named, before, (List.cons.inj inner).2, (dots_skip before skipped).symm.trans even⟩
  | case4 first second rest other step =>
    have apart (before : List Char) : dots (first :: before).reverse = dots before.reverse := by
      rw [List.reverse_cons, dots_concat, if_neg (fun both => other both.2)]
    rw [step]
    refine and_congr_right fun named => ⟨?_, ?_⟩
    · rintro ⟨before, cut, even⟩
      exact ⟨first :: before, congrArg (first :: ·) cut, (congrArg (· % 2) (apart before)).trans even⟩
    · rintro ⟨before, cut, even⟩
      cases before with
      | nil => exact absurd (List.cons.inj cut).1 other
      | cons own before =>
        obtain ⟨rfl, inner⟩ := List.cons.inj cut
        exact ⟨before, inner, (congrArg (· % 2) (apart before)).symm.trans even⟩

theorem pairwise_cuts (suffix : List Char) :
    (cuts suffix).Pairwise fun nearer further => further.length < nearer.length := by
  fun_induction cuts suffix with
  | case1 => exact .nil
  | case2 => exact .nil
  | case3 second rest step =>
    refine .cons (fun further member => ?_) step
    obtain ⟨_, before, rfl, _⟩ := mem_cuts_iff.mp member
    simp
    omega
  | case4 first second rest other step => exact step

/-- The search goes on from the nearest parent. -/
theorem above_eq (isParent : List Char → List Char → Bool) (name suffix : List Char) :
    above isParent name suffix =
      match (cuts suffix).find? (isParent name) with
      | some parent => parent :: above isParent parent parent
      | none => [] := by
  fun_induction cuts suffix with
  | case1 => rfl
  | case2 => rfl
  | case3 second rest step =>
    rw [above, if_pos rfl, List.find?_cons]
    cases found : isParent name (second :: rest) with
    | true => rfl
    | false => exact step
  | case4 first second rest other step => rw [above, if_neg other, step]

/-- A logger above another one by its name: the root above all others, and else one that is named by what
is in front of a dot. -/
def IsAbove : LoggerName → LoggerName → Prop
  | .root, .named _ => True
  | .named above, .named name => above ≠ "" ∧ ∃ rest, name = above ++ "." ++ rest
  | _, .root => False

theorem IsAbove.trans {above middle name : LoggerName} (first : above.IsAbove middle)
    (second : middle.IsAbove name) : above.IsAbove name := by
  match above, middle, name, first, second with
  | .root, .named _, .named _, _, _ => trivial
  | .named _, .named _, .named _, ⟨apart, rest, rfl⟩, ⟨_, more, rfl⟩ =>
    exact ⟨apart, rest ++ "." ++ more, by simp only [String.append_assoc]⟩

/-- How far down a name is. -/
def depth : LoggerName → Nat
  | root => 0
  | named name => name.length + 1

theorem IsAbove.depth_lt {above name : LoggerName} (isAbove : above.IsAbove name) :
    above.depth < name.depth := by
  match above, name, isAbove with
  | .root, .named _, _ => exact Nat.succ_pos _
  | .named above, .named _, ⟨_, rest, rfl⟩ =>
    have dot : ".".length = 1 := rfl
    simp only [depth, String.length_append, dot]
    omega

end LoggerName

namespace Registry

open LoggerName

/-- A logger that counts as one above another. -/
structure Counts (registry : Registry) (parent child : String) : Prop where
  named : parent ≠ ""
  cut : ∃ rest, child = parent ++ "." ++ rest ∧ dots rest.toList % 2 = 0
  present : (registry.find? (.named parent)).isSome
  older : parent.toList <+: LoggerName.root.text.toList → parent ∈ registry.before child

theorem Counts.isAbove {registry : Registry} {parent child : String}
    (counts : registry.Counts parent child) : IsAbove (.named parent) (.named child) := by
  obtain ⟨rest, cut, _⟩ := counts.cut
  exact ⟨counts.named, rest, cut⟩

/-- Of loggers that count for one, each is the beginning of any longer one. -/
theorem Counts.eq_of_length {registry other : Registry} {parent second child : String}
    (counts : registry.Counts parent child) (countsToo : other.Counts second child)
    (same : parent.length = second.length) : parent = second := by
  obtain ⟨rest, rfl, _⟩ := counts.cut
  obtain ⟨more, cut, _⟩ := countsToo.cut
  rw [String.append_assoc, String.append_assoc] at cut
  have letters := congrArg String.toList cut
  simp only [String.toList_append] at letters
  exact String.toList_inj.mp (List.append_inj_left letters same)

theorem isParent_iff {registry : Registry} {parent child : String} :
    registry.isParent child parent = true ↔ (registry.find? (.named parent)).isSome ∧
      (parent.toList <+: LoggerName.root.text.toList → parent ∈ registry.before child) := by
  have listed (older : parent ∈ registry.before child) : (registry.find? (.named parent)).isSome := by
    obtain ⟨entry, member, same⟩ := List.mem_map.mp ((List.takeWhile_prefix _).mem older)
    exact List.lookup_isSome_iff.mpr ⟨entry, member, beq_iff_eq.mpr same.symm⟩
  rw [isParent]
  split
  · next beginning =>
    rw [List.contains_iff_mem]
    exact ⟨fun older => ⟨listed older, fun _ => older⟩,
      fun both => both.2 (List.isPrefixOf_iff_prefix.mp beginning)⟩
  · next other =>
    exact (and_iff_left fun beginning => absurd (List.isPrefixOf_iff_prefix.mpr beginning) other).symm

theorem counts_iff {registry : Registry} {parent child : String} : registry.Counts parent child ↔
    parent.toList.reverse ∈ cuts child.toList.reverse ∧ registry.isParent child parent = true := by
  rw [mem_cuts_iff, isParent_iff]
  constructor
  · rintro ⟨named, ⟨rest, rfl, even⟩, present, older⟩
    exact ⟨⟨by simpa using named, rest.toList.reverse, by simp, by simpa using even⟩, present, older⟩
  · rintro ⟨⟨named, before, cut, even⟩, present, older⟩
    refine ⟨by simpa using named, ⟨String.ofList before.reverse, ?_, by simpa using even⟩, present, older⟩
    apply String.toList_inj.mp
    simpa using congrArg List.reverse cut

/-- The next logger above one: the nearest that counts, or the root. -/
inductive IsNext (registry : Registry) (child : String) : LoggerName → Prop
  | logger {parent : String} (counts : registry.Counts parent child)
    (nearest : ∀ other, registry.Counts other child → other.length ≤ parent.length) :
    IsNext registry child (.named parent)
  | root (none : ∀ parent, ¬ registry.Counts parent child) : IsNext registry child .root

theorem IsNext.isAbove {registry : Registry} {child : String} {next : LoggerName}
    (isNext : registry.IsNext child next) :
    next.IsAbove (.named child) ∧ (registry.find? next).isSome := by
  cases isNext with
  | logger counts _ => exact ⟨counts.isAbove, counts.present⟩
  | root _ => exact ⟨trivial, rfl⟩

theorem IsNext.unique {registry : Registry} {child : String} {next other : LoggerName}
    (isNext : registry.IsNext child next) (isNextToo : registry.IsNext child other) : next = other := by
  cases isNext with
  | logger counts nearest =>
    cases isNextToo with
    | logger countsToo nearestToo =>
      have same := Nat.le_antisymm (nearestToo _ counts) (nearest _ countsToo)
      exact congrArg LoggerName.named (counts.eq_of_length countsToo same)
    | root none => exact absurd counts (none _)
  | root none =>
    cases isNextToo with
    | logger countsToo _ => exact absurd countsToo (none _)
    | root _ => rfl

/-- Every chain but the root's goes on with that of the next logger above. -/
theorem exists_next (registry : Registry) (name : String) : ∃ next, registry.IsNext name next ∧
    registry.chain (.named name) = .named name :: registry.chain next := by
  have text (reversed : List Char) : (String.ofList reversed.reverse).toList.reverse = reversed := by
    simp
  have chain : registry.chain (.named name) = .named name ::
      ((LoggerName.above (fun child parent => registry.isParent (String.ofList child.reverse)
          (String.ofList parent.reverse)) name.toList.reverse name.toList.reverse).map
        fun reversed => .named (String.ofList reversed.reverse)) ++ [.root] := rfl
  rw [LoggerName.above_eq, List.reverse_reverse, String.ofList_toList] at chain
  cases found : (cuts name.toList.reverse).find?
      fun parent => registry.isParent name (String.ofList parent.reverse) with
  | none =>
    rw [found] at chain
    refine ⟨.root, .root fun parent counts => ?_, chain⟩
    obtain ⟨inside, isParent⟩ := counts_iff.mp counts
    have other := List.find?_eq_none.mp found _ inside
    rw [List.reverse_reverse, String.ofList_toList] at other
    exact other isParent
  | some parent =>
    rw [found] at chain
    obtain ⟨isParent, nearer, further, split, others⟩ := List.find?_eq_some_iff_append.mp found
    have counts : registry.Counts (String.ofList parent.reverse) name := by
      rw [counts_iff, text]
      exact ⟨List.mem_of_find?_eq_some found, isParent⟩
    refine ⟨_, .logger counts fun other countsToo => ?_, ?_⟩
    · obtain ⟨inside, isParentToo⟩ := counts_iff.mp countsToo
      have order := pairwise_cuts name.toList.reverse
      rw [split, List.pairwise_append, List.pairwise_cons] at order
      rw [split, List.mem_append, List.mem_cons] at inside
      rcases inside with before | here | behind
      · have refused := others _ before
        rw [List.reverse_reverse, String.ofList_toList, isParentToo] at refused
        cases refused
      · exact Nat.le_of_eq (by rw [← here, List.reverse_reverse, String.ofList_toList])
      · have shorter := order.2.1.1 _ behind
        rw [List.length_reverse, String.length_toList] at shorter
        rw [String.length_ofList, List.length_reverse]
        exact Nat.le_of_lt shorter
    · rw [chain, Registry.chain, text]
      rfl

theorem chain_of_isNext {registry : Registry} {name : String} {next : LoggerName}
    (isNext : registry.IsNext name next) :
    registry.chain (.named name) = .named name :: registry.chain next := by
  obtain ⟨other, isNextToo, chain⟩ := registry.exists_next name
  rw [chain, isNext.unique isNextToo]

/-- What holds of the root, and of a logger if it holds of the next one above, holds of all. -/
theorem upward_induction (registry : Registry) {motive : LoggerName → Prop} (root : motive .root)
    (step : ∀ name next, registry.IsNext name next → motive next → motive (.named name))
    (name : LoggerName) : motive name := by
  induction bound : name.depth using Nat.strongRecOn generalizing name with
  | ind depth lower =>
    cases name with
    | root => exact root
    | named name =>
      obtain ⟨next, isNext, _⟩ := registry.exists_next name
      exact step name next isNext (lower next.depth (bound ▸ isNext.isAbove.1.depth_lt) next rfl)

theorem head?_chain (registry : Registry) (name : LoggerName) :
    (registry.chain name).head? = some name := by
  cases name with
  | root => rfl
  | named name => rfl

theorem self_mem_chain (registry : Registry) (name : LoggerName) : name ∈ registry.chain name :=
  List.mem_of_mem_head? (registry.head?_chain name)

theorem root_mem_chain (registry : Registry) (name : LoggerName) : .root ∈ registry.chain name := by
  induction name using registry.upward_induction with
  | root => exact registry.self_mem_chain .root
  | step name next isNext further =>
    rw [chain_of_isNext isNext]
    exact List.mem_cons_of_mem _ further

/-- A chain goes through nothing but loggers that exist and are above by their names. -/
theorem mem_chain {registry : Registry} {above name : LoggerName} (member : above ∈ registry.chain name) :
    above = name ∨ (above.IsAbove name ∧ (registry.find? above).isSome) := by
  induction name using registry.upward_induction with
  | root => exact .inl (List.mem_singleton.mp member)
  | step name next isNext further =>
    rw [chain_of_isNext isNext] at member
    obtain ⟨isAbove, present⟩ := isNext.isAbove
    rcases List.mem_cons.mp member with here | behind
    · exact .inl here
    · rcases further behind with rfl | ⟨aboveNext, presentToo⟩
      · exact .inr ⟨isAbove, present⟩
      · exact .inr ⟨aboveNext.trans isAbove, presentToo⟩

/-- A chain goes up. -/
theorem chain_pairwise (registry : Registry) (name : LoggerName) :
    (registry.chain name).Pairwise fun nearer further => further.depth < nearer.depth := by
  induction name using registry.upward_induction with
  | root => exact List.pairwise_singleton _ _
  | step name next isNext further =>
    rw [chain_of_isNext isNext]
    refine .cons (fun above member => ?_) further
    have lower := isNext.isAbove.1.depth_lt
    rcases mem_chain member with rfl | ⟨isAbove, _⟩
    · exact lower
    · exact Nat.lt_trans isAbove.depth_lt lower

/-- The chain of a logger has no logger twice. -/
theorem chain_nodup (registry : Registry) (name : LoggerName) : (registry.chain name).Nodup :=
  (registry.chain_pairwise name).imp fun {nearer further} shorter (same : nearer = further) =>
    Nat.lt_irrefl _ (same ▸ shorter)

/-- Chains and levels as the next loggers decide them. -/
structure GoesUp (registry : Registry) : Prop where
  next : ∀ name, ∃ next, registry.IsNext name next
  root : registry.chain .root = [.root] ∧ registry.effectiveLevel .root =
    if registry.root.level.number = Level.unset then .int Level.unset else registry.root.level
  step : ∀ name next, registry.IsNext name next →
    registry.chain (.named name) = .named name :: registry.chain next ∧
    registry.effectiveLevel (.named name) =
      if (registry.logger (.named name)).level.number = Level.unset then registry.effectiveLevel next
      else (registry.logger (.named name)).level

theorem goesUp (registry : Registry) : registry.GoesUp where
  next name := by
    obtain ⟨next, isNext, _⟩ := registry.exists_next name
    exact ⟨next, isNext⟩
  root := by
    refine ⟨rfl, ?_⟩
    have level : (registry.logger .root).level = registry.root.level := rfl
    rw [effectiveLevel, chain, List.map_singleton, List.find?_singleton, level]
    by_cases unset : registry.root.level.number = Level.unset
    · simp [unset]
    · simp [unset]
  step name next isNext := by
    refine ⟨chain_of_isNext isNext, ?_⟩
    rw [effectiveLevel, chain_of_isNext isNext, List.map_cons, effectiveLevel]
    by_cases unset : (registry.logger (.named name)).level.number = Level.unset
    · rw [if_pos unset, List.find?_cons_of_neg (by simpa using unset)]
    · rw [if_neg unset, List.find?_cons_of_pos (by simpa using unset), Option.getD_some]

end Registry

end KeyProtection.Logging
