/-
Which schemas pass.

A schema passes if and only if each of its texts can be used where it is put: the prefix of the
enumerators makes a name with a letter behind it, and every other text is a name.  Otherwise the
first text that breaks a rule is reported, in the order of the check.

* `Schema.FieldFault` — what is reported of a field;
* `Schema.forall_fieldDefect?_eq_none_iff`, `Schema.error?_eq_some_iff` — what passes, and which
  field is reported;
* `Schema.check_exact` — names and schemas together.
-/
import ErrorScaffold.Proofs.Header.Acceptance
import ErrorScaffold.Proofs.Identifier.Grammar
import ErrorScaffold.Proofs.Result

namespace ErrorScaffold.Schema

open Identifier

/-- The fault of a field is the first rule that its text breaks. -/
inductive FieldFault (s : Schema) : Field → HeaderError → Prop
  | name {field : Field} {defect : NameDefect} (hfield : field ≠ .ordinalPrefix)
      (h : Breaks (s.get field) defect) :
      FieldFault s field (.unusableField field (s.get field) defect)
  | noPrefix (h : s.ordinalPrefix = "") :
      FieldFault s .ordinalPrefix (.unusableField .ordinalPrefix "" .empty)
  /-- The prefix is tried as part of a name, and reported by itself. -/
  | triedPrefix {defect : NameDefect} (hne : s.ordinalPrefix ≠ "")
      (h : Breaks (s.ordinalPrefix ++ "x") defect) :
      FieldFault s .ordinalPrefix (.unusableField .ordinalPrefix s.ordinalPrefix defect)

variable {s : Schema}

theorem fieldFault_iff {field : Field} {error : HeaderError} :
    (s.fieldDefect? field).map (.unusableField field (s.get field)) = some error ↔
      s.FieldFault field error := by
  rw [Option.map_eq_some_iff]
  constructor
  · rintro ⟨defect, hdefect, rfl⟩
    -- only the prefix is not checked as it stands
    by_cases hfield : field = .ordinalPrefix
    · subst hfield
      rw [fieldDefect?_ordinalPrefix] at hdefect
      split at hdefect
      · next hempty =>
        cases hdefect
        rw [get, hempty]
        exact .noPrefix hempty
      · next hne => exact .triedPrefix hne (defect?_eq_some_iff.1 hdefect)
    · rw [fieldDefect?_of_ne hfield] at hdefect
      exact .name hfield (defect?_eq_some_iff.1 hdefect)
  · intro h
    cases h with
    | name hfield h =>
      exact ⟨_, by rw [fieldDefect?_of_ne hfield, defect?_eq_some_iff.2 h], rfl⟩
    | noPrefix h =>
      exact ⟨_, by rw [fieldDefect?_ordinalPrefix, if_pos h], by rw [get, h]⟩
    | triedPrefix hne h =>
      exact ⟨_, by rw [fieldDefect?_ordinalPrefix, if_neg hne, defect?_eq_some_iff.2 h], rfl⟩

/-- The first field in the order of the check that has a fault is the one that is reported. -/
theorem error?_eq_some_iff {error : HeaderError} :
    s.error? = some error ↔ FirstFault s.FieldFault checkedFields error :=
  findSome?_eq_some_iff fun _ _ => fieldFault_iff

theorem forall_fieldDefect?_eq_none_iff :
    (∀ field, s.fieldDefect? field = none) ↔
      (∀ field, field ≠ .ordinalPrefix → IsUsable (s.get field)) ∧ s.ordinalPrefix ≠ "" ∧
        IsUsable (s.ordinalPrefix ++ "x") := by
  constructor
  · intro h
    -- the prefix is there and passes with a letter behind it, and the other fields pass as they are
    have hprefix := h .ordinalPrefix
    rw [fieldDefect?_ordinalPrefix] at hprefix
    split at hprefix
    · cases hprefix
    · next hne =>
      refine ⟨fun field hfield => ?_, hne, defect?_eq_none_iff_isUsable.1 hprefix⟩
      rw [← defect?_eq_none_iff_isUsable, ← fieldDefect?_of_ne hfield]
      exact h field
  · rintro ⟨hnames, hne, htried⟩ field
    by_cases hfield : field = .ordinalPrefix
    · rw [hfield, fieldDefect?_ordinalPrefix, if_neg hne, defect?_eq_none_iff_isUsable]
      exact htried
    · rw [fieldDefect?_of_ne hfield, defect?_eq_none_iff_isUsable]
      exact hnames field hfield

@[simp] theorem check_eq_ok_iff : s.check = .ok () ↔ s.error? = none := by
  rw [check]
  cases s.error? <;> simp

@[simp] theorem check_eq_error_iff {error : HeaderError} :
    s.check = .error error ↔ s.error? = some error := by
  rw [check]
  cases s.error? <;> simp

/-- **What passes is what the grammar says.**  A name passes if and only if it is spelled like an
identifier, is no keyword and is not reserved; otherwise the first rule that it breaks is named, and
nothing else can come of it, although some of the questions are about bytes.  A schema passes if and
only if its prefix is there and makes a name with a letter behind it and every other text is a name;
otherwise the first field that is at fault is named, with its text and the rule. -/
theorem check_exact :
    (∀ name, (Identifier.check name = .ok () ↔ IsUsable name) ∧
      (∀ defect, Identifier.check name = .error defect ↔ Breaks name defect) ∧
      reservedInBytes? name = some (isReserved name.toList)) ∧
    ∀ s : Schema,
      (s.check = .ok () ↔
        (∀ field, field ≠ .ordinalPrefix → IsUsable (s.get field)) ∧ s.ordinalPrefix ≠ "" ∧
          IsUsable (s.ordinalPrefix ++ "x")) ∧
      ∀ error, s.check = .error error ↔
        FirstFault s.FieldFault (takenFields ++ memberFields ++ [.errorKindField, .ordinalPrefix])
          error := by
  constructor
  · exact fun name => ⟨check_eq_ok_iff_isUsable, fun _ => Identifier.check_eq_error_iff,
      reservedInBytes?_eq name⟩
  · intro s
    constructor
    · rw [check_eq_ok_iff, error?_eq_none_iff, forall_fieldDefect?_eq_none_iff]
    · intro error
      rw [check_eq_error_iff, error?_eq_some_iff, checkedFields]

/-- Of a prefix and a template that are both wrong the template is reported, which is declared
after the prefix and checked before it. -/
theorem check_of_two_faults :
    Schema.check { ordinalPrefix := "", ifTemplate := "IF ELSE" }
      = .error (.unusableField .ifTemplate "IF ELSE" (.illegalCharacter ' ')) := by
  have hfront : ∀ field ∈ takenFields.dropLast,
      fieldDefect? { ordinalPrefix := "", ifTemplate := "IF ELSE" } field = none := by
    decide +kernel
  have hfault : FieldFault { ordinalPrefix := "", ifTemplate := "IF ELSE" } .ifTemplate
      (.unusableField .ifTemplate "IF ELSE" (.illegalCharacter ' ')) :=
    fieldFault_iff.1 (by rfl)
  refine ((check_exact.2 _).2 _).2 ⟨takenFields.dropLast, .ifTemplate,
    memberFields ++ [.errorKindField, .ordinalPrefix], rfl, ?_, hfault⟩
  intro field hfield error herror
  rw [← fieldFault_iff, hfront field hfield] at herror
  cases herror

end ErrorScaffold.Schema
