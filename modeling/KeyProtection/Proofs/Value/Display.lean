import KeyProtection.Proofs.Mask
import KeyProtection.Value.Display

/-! What messages can show. A value is shown if all integers in it can be written, at any depth and in the
labels of contexts too. -/

namespace KeyProtection

/-- Only the mask of a flag set can be too long, as what no member owns of it is no greater. -/
theorem FlagSet.writesIf_shown [Runtime] (flags : FlagSet) :
    WritesIf (Text.Writable flags.bits) flags.shown := by
  have rest := writesIf_ofInteger flags.unknownBits
  have mask := writesIf_ofInteger flags.bits
  apply (rest.bind fun _ _ => mask.bind fun _ _ => writesIf_ok _).congr
  rw [and_true, and_iff_right_iff_imp]
  exact fun writable => writable.mono flags.unknownBits_le

namespace Value

/-- The integers that are written where a value is shown. -/
inductive Shows : Value → Int → Prop
  | int (number : Int) : Shows (.int number) number
  | flags (set : FlagSet) : Shows (.flags set) set.bits
  | context {label : Value} {number : Int} (inside : Shows label number) : Shows (.context label) number
  | item {items : List Value} {item : Value} {number : Int} (member : item ∈ items)
    (inside : Shows item number) : Shows (.list items) number
  | entry {entries : List (String × Value)} {entry : String × Value} {number : Int}
    (member : entry ∈ entries) (inside : Shows entry.2 number) : Shows (.dict entries) number

theorem shows_int_iff {number other : Int} : (int number).Shows other ↔ other = number :=
  ⟨fun | .int _ => rfl, fun same => same ▸ .int number⟩

theorem shows_flags_iff {set : FlagSet} {other : Int} : (flags set).Shows other ↔ other = set.bits :=
  ⟨fun | .flags _ => rfl, fun same => same ▸ .flags set⟩

variable [Runtime]

def Showable (value : Value) : Prop := ∀ number, value.Shows number → Text.Writable number

theorem showable_int_iff {number : Int} : (int number).Showable ↔ Text.Writable number := by
  simp only [Showable, shows_int_iff, forall_eq]

theorem showable_flags_iff {set : FlagSet} : (flags set).Showable ↔ Text.Writable set.bits := by
  simp only [Showable, shows_flags_iff, forall_eq]

theorem showable_context_iff {label : Value} : (context label).Showable ↔ label.Showable := by
  constructor
  · exact fun all number inside => all number (.context inside)
  · rintro all number (_ | _ | inside)
    exact all number inside

theorem showable_list_iff {items : List Value} :
    (list items).Showable ↔ ∀ item ∈ items, item.Showable := by
  constructor
  · exact fun all _ member number inside => all number (.item member inside)
  · rintro all number (_ | _ | _ | ⟨member, inside⟩)
    exact all _ member number inside

theorem showable_dict_iff {entries : List (String × Value)} :
    (dict entries).Showable ↔ ∀ entry ∈ entries, entry.2.Showable := by
  constructor
  · exact fun all _ member number inside => all number (.entry member inside)
  · rintro all number (_ | _ | _ | _ | ⟨member, inside⟩)
    exact all _ member number inside

/-- What has no integers in it is always shown. -/
theorem writesIf_of_none {value : Value} (none : ∀ number, ¬ value.Shows number) (text : List Char) :
    WritesIf value.Showable (.ok text : Except Error (List Char)) :=
  (writesIf_ok text).congr (iff_of_true trivial fun number shown => absurd shown (none number))

mutual

theorem writesIf_shown : (value : Value) → WritesIf value.Showable value.shown
  | .null => writesIf_of_none (by rintro _ ⟨⟩) _
  | .bool true => writesIf_of_none (by rintro _ ⟨⟩) _
  | .bool false => writesIf_of_none (by rintro _ ⟨⟩) _
  | .float _ => writesIf_of_none (by rintro _ ⟨⟩) _
  | .text _ => writesIf_of_none (by rintro _ ⟨⟩) _
  | .time _ => writesIf_of_none (by rintro _ ⟨⟩) _
  | .int number => (writesIf_ofInteger number).congr showable_int_iff.symm
  | .flags set => set.writesIf_shown.congr showable_flags_iff.symm
  | .context label => ((writesIf_shown label).map _).congr showable_context_iff.symm
  | .list items => ((writesIf_shownItems items).map _).congr showable_list_iff.symm
  | .dict entries => ((writesIf_shownEntries entries).map _).congr showable_dict_iff.symm

theorem writesIf_shownItems : (items : List Value) →
    WritesIf (∀ item ∈ items, item.Showable) (shownItems items)
  | [] => (writesIf_ok _).congr (by simp)
  | item :: rest => by
    have first := writesIf_shown item
    have later := writesIf_shownItems rest
    apply (first.bind fun _ _ => later.bind fun _ _ => writesIf_ok _).congr
    rw [and_true, List.forall_mem_cons]

theorem writesIf_shownEntries : (entries : List (String × Value)) →
    WritesIf (∀ entry ∈ entries, entry.2.Showable) (shownEntries entries)
  | [] => (writesIf_ok _).congr (by simp)
  | (key, value) :: rest => by
    have first := writesIf_shown value
    have later := writesIf_shownEntries rest
    apply (first.bind fun _ _ => later.bind fun _ _ => writesIf_ok _).congr
    rw [and_true, List.forall_mem_cons]

end

/-- Alone, a flag set is shown as its mask, and a text as it is. -/
theorem writesIf_display (value : Value) : WritesIf value.Showable value.display := by
  cases value with
  | text content => exact writesIf_of_none (by rintro _ ⟨⟩) _
  | time moment => exact writesIf_of_none (by rintro _ ⟨⟩) _
  | flags set => exact (writesIf_ofInteger set.bits).congr showable_flags_iff.symm
  | _ => exact writesIf_shown _

end Value

end KeyProtection
