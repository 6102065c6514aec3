/-
What is known of a header that was made.

A usable schema has an identifier in every field but the enumerators' prefix, which only has to go
in front of one.  It accepts a catalog when no kind has a defect in it, and then

* `UsableSchema.header_eq_ok_iff` — the header is the one that `Header.build` makes;
* `Accepts.nodup_markers` and `Accepts.nodup_enumerators` — the marker types are all different, and
  so are the enumerators;
* `Accepts.not_mem_enumerators` — no kind is called like an enumerator;
* `Accepts.get_ne` and `Accepts.get_ne_enumerator` — nor a kind or its enumerator like a name that
  the schema takes.
-/
import ErrorScaffold.UsableSchema
import ErrorScaffold.Proofs.Identifier.Word
import Mathlib.Data.List.Nodup

namespace ErrorScaffold

open Identifier

/-! ### Usable schemas -/

namespace Schema

theorem mem_checkedFields (field : Field) : field ∈ checkedFields := by
  cases field <;> decide

@[simp] theorem error?_eq_none_iff {s : Schema} :
    s.error? = none ↔ ∀ field, s.fieldDefect? field = none := by
  rw [error?, List.findSome?_eq_none_iff]
  constructor
  · intro h field
    exact Option.map_eq_none_iff.1 (h field (mem_checkedFields field))
  · intro h field _
    rw [h field]
    rfl

/-- Every field but the prefix is checked as it stands. -/
theorem fieldDefect?_of_ne {s : Schema} {field : Field} (h : field ≠ .ordinalPrefix) :
    s.fieldDefect? field = defect? (s.get field) := by
  cases field <;> first | rfl | exact absurd rfl h

theorem fieldDefect?_ordinalPrefix (s : Schema) :
    s.fieldDefect? .ordinalPrefix
      = if s.ordinalPrefix = "" then some .empty else defect? (s.ordinalPrefix ++ "x") := by
  simp only [fieldDefect?, String.isEmpty_iff]

@[simp] theorem enumerator_inj {s : Schema} {a b : String} :
    s.enumerator a = s.enumerator b ↔ a = b :=
  String.append_right_inj s.ordinalPrefix

end Schema

namespace UsableSchema

variable (u : UsableSchema)

/-- A usable schema is found usable again. -/
@[simp] theorem ofSchema_schema : ofSchema u.schema = .ok u := by
  unfold ofSchema
  split
  · next error h =>
    rw [u.usable] at h
    cases h
  · rfl

@[simp] theorem fieldDefect?_eq_none (field : Schema.Field) : u.schema.fieldDefect? field = none :=
  Schema.error?_eq_none_iff.1 u.usable field

theorem defect?_get (field : Schema.Field) (h : field ≠ .ordinalPrefix) :
    defect? (u.schema.get field) = none := by
  rw [← Schema.fieldDefect?_of_ne h]
  exact u.fieldDefect?_eq_none field

theorem isWord_get (field : Schema.Field) (h : field ≠ .ordinalPrefix) :
    IsWord (u.schema.get field) :=
  isWord_of_defect?_eq_none (u.defect?_get field h)

@[simp] theorem ordinalPrefix_ne_empty : u.schema.ordinalPrefix ≠ "" := by
  intro h
  have hfield := u.fieldDefect?_eq_none .ordinalPrefix
  rw [Schema.fieldDefect?_ordinalPrefix, if_pos h] at hfield
  cases hfield

@[simp] theorem defect?_ordinalPrefix : defect? (u.schema.ordinalPrefix ++ "x") = none := by
  have hfield := u.fieldDefect?_eq_none .ordinalPrefix
  rwa [Schema.fieldDefect?_ordinalPrefix, if_neg u.ordinalPrefix_ne_empty] at hfield

theorem isPart_of_mem_ordinalPrefix {c : Char} (h : c ∈ u.schema.ordinalPrefix.toList) :
    isPart c = true := by
  -- the prefix is checked with a letter after it
  refine (isWord_of_defect?_eq_none u.defect?_ordinalPrefix).2 c ?_
  rw [String.toList_append]
  exact List.mem_append_left _ h

theorem isWord_enumerator {marker : String} (h : IsWord marker) :
    IsWord (u.schema.enumerator marker) :=
  h.append fun _ hc => u.isPart_of_mem_ordinalPrefix hc

theorem isWord_enumerator_of_mem {c : Catalog} {kind : String} (h : kind ∈ c.kinds) :
    IsWord (u.schema.enumerator kind) :=
  u.isWord_enumerator (isWord_of_defect?_eq_none (c.usable kind h))

end UsableSchema

/-! ### The ordinal table -/

namespace OrdinalRow

variable (s : Schema) (c : Catalog)

@[simp] theorem map_marker_table : (table s c).map (·.marker) = s.sentinel :: c.kinds := by
  simp only [table, Catalog.entries, Catalog.numberedKinds, List.map_cons, List.map_map]
  exact congrArg (s.sentinel :: ·) (List.zipIdx_map_fst 1 c.kinds)

@[simp] theorem length_table : (table s c).length = c.size + 1 := by
  have hlength := congrArg List.length (map_marker_table s c)
  rwa [List.length_map, List.length_cons] at hlength

/-- There is always the row of the sentinel. -/
@[simp] theorem table_ne_nil : table s c ≠ [] :=
  List.cons_ne_nil _ _

theorem enumerator_of_mem_table {row : OrdinalRow} (h : row ∈ table s c) :
    row.enumerator = s.enumerator row.marker := by
  obtain ⟨entry, -, rfl⟩ := List.mem_map.1 h
  rfl

@[simp] theorem map_enumerator_table :
    (table s c).map (·.enumerator) = (s.sentinel :: c.kinds).map s.enumerator := by
  rw [← map_marker_table, List.map_map]
  exact List.map_congr_left fun row hrow => enumerator_of_mem_table s c hrow

end OrdinalRow

namespace Header

variable (s : Schema) (c : Catalog) (budget : SlotBudget)

@[simp] theorem schema_build : (build s c budget).schema = s :=
  rfl

@[simp] theorem rows_build : (build s c budget).rows = OrdinalRow.table s c :=
  rfl

@[simp] theorem trialCount_build : (build s c budget).trialCount = c.size :=
  rfl

@[simp] theorem slotCount_build : (build s c budget).slotCount = budget.slots := by
  simp [slotCount, build]

end Header

theorem UsableSchema.enumerators_eq (u : UsableSchema) (c : Catalog) :
    u.enumerators c = (u.schema.sentinel :: c.kinds).map u.schema.enumerator := by
  rw [← OrdinalRow.map_enumerator_table, OrdinalRow.table, List.map_map]
  rfl

/-! ### Accepted catalogs -/

/-- No kind of the catalog has a defect under the schema. -/
def UsableSchema.Accepts (u : UsableSchema) (c : Catalog) : Prop :=
  ∀ name ∈ c.kinds, u.kindDefect? c name = none

namespace UsableSchema

variable {u : UsableSchema} {c : Catalog}

@[simp] theorem kindError?_eq_none_iff : u.kindError? c = none ↔ u.Accepts c := by
  rw [kindError?, List.findSome?_eq_none_iff]
  constructor
  · intro h name hname
    obtain ⟨position, hposition⟩ := List.mem_iff_getElem?.1 hname
    exact Option.map_eq_none_iff.1
      (h (name, position) (List.mk_mem_zipIdx_iff_getElem?.2 hposition))
  · intro h entry hentry
    exact Option.map_eq_none_iff.2 (h entry.1 (List.fst_mem_of_mem_zipIdx hentry))

@[simp] theorem header_eq_ok_iff {budget : SlotBudget} {h : Header} :
    u.header c budget = .ok h ↔ u.Accepts c ∧ h = .build u.schema c budget := by
  rw [← kindError?_eq_none_iff, header]
  cases hdefect : u.kindError? c with
  | some error => simp
  | none => simp [eq_comm]

theorem header_of_accepts {budget : SlotBudget} (h : u.Accepts c) :
    u.header c budget = .ok (.build u.schema c budget) :=
  header_eq_ok_iff.2 ⟨h, rfl⟩

/-- The slots play no part in what is refused. -/
@[simp] theorem header_eq_error_iff {budget : SlotBudget} {error : HeaderError} :
    u.header c budget = .error error ↔ u.kindError? c = some error := by
  rw [header]
  cases u.kindError? c <;> simp

/-- The built-in catalog has a header under the default schema. -/
theorem header_seephit :
    standard.header .seephit .standard = .ok (.build standard.schema .seephit .standard) :=
  header_of_accepts (kindError?_eq_none_iff.1 (by decide +kernel))

theorem mem_enumerators {name : String} :
    name ∈ u.enumerators c ↔
      name = u.schema.enumerator u.schema.sentinel ∨
        ∃ other ∈ c.kinds, name = u.schema.enumerator other := by
  rw [enumerators_eq, List.mem_map]
  simp [eq_comm]

theorem clashes_eq_false_iff {name : String} :
    u.clashes c name = false ↔
      name ∉ u.enumerators c ∧
        ∀ field ∈ Schema.takenFields,
          u.schema.get field ≠ name ∧ u.schema.get field ≠ u.schema.enumerator name := by
  simp [clashes, Schema.takenNames]

@[simp] theorem kindDefect?_eq_none_iff {name : String} :
    u.kindDefect? c name = none ↔
      u.clashes c name = false ∧ defect? (u.schema.enumerator name) = none := by
  rw [kindDefect?]
  cases u.clashes c name <;> simp

end UsableSchema

namespace UsableSchema.Accepts

variable {u : UsableSchema} {c : Catalog} (h : u.Accepts c)
include h

theorem not_mem_enumerators {name : String} (hname : name ∈ c.kinds) :
    name ∉ u.enumerators c :=
  (clashes_eq_false_iff.1 (kindDefect?_eq_none_iff.1 (h name hname)).1).1

theorem get_ne {name : String} (hname : name ∈ c.kinds) (field : Schema.Field)
    (hfield : field ∈ Schema.takenFields) : u.schema.get field ≠ name :=
  ((clashes_eq_false_iff.1 (kindDefect?_eq_none_iff.1 (h name hname)).1).2 field hfield).1

theorem get_ne_enumerator {name : String} (hname : name ∈ c.kinds) (field : Schema.Field)
    (hfield : field ∈ Schema.takenFields) : u.schema.get field ≠ u.schema.enumerator name :=
  ((clashes_eq_false_iff.1 (kindDefect?_eq_none_iff.1 (h name hname)).1).2 field hfield).2

theorem defect?_enumerator {name : String} (hname : name ∈ c.kinds) :
    defect? (u.schema.enumerator name) = none :=
  (kindDefect?_eq_none_iff.1 (h name hname)).2

theorem sentinel_not_mem : u.schema.sentinel ∉ c.kinds := by
  intro hmem
  exact h.get_ne hmem .sentinel (by simp [Schema.takenFields]) rfl

/-- The marker types are all different. -/
theorem nodup_markers : (u.schema.sentinel :: c.kinds).Nodup :=
  List.nodup_cons.2 ⟨h.sentinel_not_mem, c.distinct⟩

/-- The enumerators are all different. -/
theorem nodup_enumerators : (u.enumerators c).Nodup := by
  rw [enumerators_eq]
  exact h.nodup_markers.map fun _ _ => Schema.enumerator_inj.1

end UsableSchema.Accepts

end ErrorScaffold
