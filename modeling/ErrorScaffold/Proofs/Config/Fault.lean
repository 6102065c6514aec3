/-
What is wrong with a document, entry by entry.

Every fault belongs to one entry of a table, or to the end of the catalog table when its kinds are
missing, and whether an entry has one does not depend on the entries before it.

* `texts_eq_ok_iff`, `texts_eq_error_iff` and the like — what is read of a value, and what is wrong
  with any other;
* `CatalogTable.Partial.take_eq_error_iff`, `Schema.takeEntry_eq_error_iff` — the fault of an entry;
* `CatalogFault`, `EntryFault` — that of the catalog table and that of an entry of the document.
-/
import ErrorScaffold.Config
import ErrorScaffold.Proofs.Result

namespace ErrorScaffold

namespace Config

/-! ### Values -/

/-- A value where a text is asked for. -/
inductive TextFault : Toml.Value → Fault → Prop
  | wrongType {value : Toml.Value} (h : ∀ text, value ≠ .string text) :
      TextFault value (.wrongType value .text)

/-- A value where a number of things is asked for. -/
inductive CountFault : Toml.Value → Fault → Prop
  | wrongType {value : Toml.Value} (h : ∀ n, value ≠ .integer n) :
      CountFault value (.wrongType value .count)
  | negative {n : Int} (h : n < 0) : CountFault (.integer n) (.negative n)

/-- A value where texts are asked for. -/
inductive ListFault : Toml.Value → Fault → Prop
  | wrongType {value : Toml.Value} (h : ∀ elements, value ≠ .array elements) :
      ListFault value (.wrongType value .list)
  | element {elements : List Toml.Value} {fault : Fault} (h : FirstFault TextFault elements fault) :
      ListFault (.array elements) fault

variable {value : Toml.Value} {fault : Fault}

@[simp] theorem text_eq_ok_iff {t : String} : text value = .ok t ↔ value = .string t := by
  cases value <;> simp [text]

@[simp] theorem text_eq_error_iff : text value = .error fault ↔ TextFault value fault := by
  constructor
  · intro h
    cases value with
    | string t => cases h
    | _ =>
      cases h
      exact .wrongType nofun
  · rintro ⟨h⟩
    cases value with
    | string t => exact absurd rfl (h t)
    | _ => rfl

@[simp] theorem count_eq_ok_iff {n : Nat} : count value = .ok n ↔ value = .integer n := by
  cases value with
  | integer m =>
    rw [count]
    split
    · simp
      omega
    · simp
      omega
  | _ => simp [count]

@[simp] theorem count_eq_error_iff : count value = .error fault ↔ CountFault value fault := by
  constructor
  · intro h
    cases value with
    | integer n =>
      rw [count] at h
      split at h
      · -- an integer is only refused for its sign
        next hneg =>
        cases h
        exact .negative hneg
      · cases h
    -- what is no integer has the wrong type, whatever it is
    | _ =>
      cases h
      exact .wrongType nofun
  · rintro (h | h)
    · cases value with
      | integer n => exact absurd rfl (h n)
      | _ => rfl
    · rw [count, if_pos h]

@[simp] theorem mapM_text_eq_ok_iff {elements : List Toml.Value} {found : List String} :
    elements.mapM text = .ok found ↔ elements = found.map .string := by
  -- along the elements, with what is read off them left open
  induction elements generalizing found with
  | nil => cases found <;> simp [pure, Except.pure]
  | cons element elements ih =>
    rw [List.mapM_cons]
    constructor
    · intro h
      obtain ⟨t, ht, h⟩ := exists_of_bind_eq_ok h
      obtain ⟨rest, hrest, h⟩ := exists_of_bind_eq_ok h
      cases h
      rw [List.map_cons, text_eq_ok_iff.1 ht, ih.1 hrest]
    · intro h
      cases found with
      | nil => cases h
      | cons t rest =>
        obtain ⟨rfl, hrest⟩ := List.cons.inj h
        rw [ih.2 hrest]
        rfl

@[simp] theorem mapM_text_eq_error_iff {elements : List Toml.Value} :
    elements.mapM text = .error fault ↔ FirstFault TextFault elements fault :=
  mapM_eq_error_iff fun _ _ _ => text_eq_error_iff

@[simp] theorem texts_eq_ok_iff {found : List String} :
    texts value = .ok found ↔ value = .array (found.map .string) := by
  cases value with
  | array elements => rw [texts, mapM_text_eq_ok_iff, Toml.Value.array.injEq]
  | _ => simp [texts]

@[simp] theorem texts_eq_error_iff : texts value = .error fault ↔ ListFault value fault := by
  constructor
  · intro h
    cases value with
    | array elements => exact .element (mapM_text_eq_error_iff.1 h)
    | _ =>
      cases h
      exact .wrongType nofun
  · rintro (h | h)
    · cases value with
      | array elements => exact absurd rfl (h elements)
      | _ => rfl
    · exact mapM_text_eq_error_iff.2 h

/-! ### Entries of the catalog table -/

inductive CatalogEntryFault : String × Toml.Value → Fault → Prop
  | kinds {value : Toml.Value} {fault : Fault} (h : ListFault value fault) :
      CatalogEntryFault ("kinds", value) fault
  | slots {value : Toml.Value} {fault : Fault} (h : CountFault value fault) :
      CatalogEntryFault ("slots", value) fault
  | unknown {key : String} {value : Toml.Value} (hkinds : key ≠ "kinds") (hslots : key ≠ "slots") :
      CatalogEntryFault (key, value) (.unknownField key ["kinds", "slots"])

@[simp] theorem catalogEntryFault_kinds_iff :
    CatalogEntryFault ("kinds", value) fault ↔ ListFault value fault := by
  refine ⟨?_, .kinds⟩
  generalize hkey : "kinds" = key
  rintro (h | h | ⟨hne, -⟩)
  · exact h
  · exact absurd hkey (by decide)
  · exact absurd hkey.symm hne

@[simp] theorem catalogEntryFault_slots_iff :
    CatalogEntryFault ("slots", value) fault ↔ CountFault value fault := by
  refine ⟨?_, .slots⟩
  generalize hkey : "slots" = key
  rintro (h | h | ⟨-, hne⟩)
  · exact absurd hkey (by decide)
  · exact h
  · exact absurd hkey.symm hne

/-- The catalog table ends with a fault of its own if its kinds are missing, and only if nothing
was wrong with its entries. -/
inductive CatalogFault : Toml.Table → Fault → Prop
  | entry {entries : Toml.Table} {fault : Fault} (h : FirstFault CatalogEntryFault entries fault) :
      CatalogFault entries fault
  | missing {entries : Toml.Table} (hentries : ∀ entry ∈ entries, ∀ f, ¬CatalogEntryFault entry f)
      (hkinds : ∀ value, ("kinds", value) ∉ entries) :
      CatalogFault entries (.missingField "kinds")

/-! ### Entries of the schema table -/

inductive SchemaEntryFault : String × Toml.Value → Fault → Prop
  | text {field : Schema.Field} {value : Toml.Value} {fault : Fault} (h : TextFault value fault) :
      SchemaEntryFault (field.key, value) fault
  | unknown {key : String} {value : Toml.Value} (h : ∀ field : Schema.Field, key ≠ field.key) :
      SchemaEntryFault (key, value) (.unknownField key (Schema.Field.all.map Schema.Field.key))

/-! ### Entries of the document -/

/-- An entry of a document that has tables where tables are asked for. -/
inductive EntryFault : String × Toml.Value → Fault → Prop
  | catalog {entries : Toml.Table} {fault : Fault} (h : CatalogFault entries fault) :
      EntryFault ("catalog", .table entries) fault
  | schema {entries : Toml.Table} {fault : Fault} (h : FirstFault SchemaEntryFault entries fault) :
      EntryFault ("schema", .table entries) fault
  | unknown {key : String} {value : Toml.Value} (hcatalog : key ≠ "catalog")
      (hschema : key ≠ "schema") :
      EntryFault (key, value) (.unknownField key ["catalog", "schema"])

end Config

/-! ### Reading an entry -/

open Config

variable {entry : String × Toml.Value} {fault : Config.Fault}

namespace CatalogTable.Partial

variable {p p' : Partial}

theorem take_eq_error_iff : p.take entry = .error fault ↔ CatalogEntryFault entry fault := by
  obtain ⟨key, value⟩ := entry
  unfold take
  split
  · next heq =>
    obtain rfl : key = "kinds" := heq
    rw [bind_pure_eq_error_iff, texts_eq_error_iff, catalogEntryFault_kinds_iff]
  · next heq =>
    obtain rfl : key = "slots" := heq
    rw [bind_pure_eq_error_iff, count_eq_error_iff, catalogEntryFault_slots_iff]
  · next hkinds hslots =>
    -- the key is neither of the two, so only the last case can hold
    constructor
    · intro h
      cases h
      exact .unknown hkinds hslots
    · rintro (h | h | h)
      · exact absurd rfl hkinds
      · exact absurd rfl hslots
      · rfl

theorem take_eq_ok_iff : p.take entry = .ok p' ↔
    (∃ kinds : List String, entry = ("kinds", .array (kinds.map .string)) ∧
      p' = { p with kinds := some kinds }) ∨
    ∃ n : Nat, entry = ("slots", .integer n) ∧ p' = { p with slots := some n } := by
  obtain ⟨key, value⟩ := entry
  unfold take
  split
  · next heq =>
    obtain rfl : key = "kinds" := heq
    rw [bind_pure_eq_ok_iff]
    simp
  · next heq =>
    obtain rfl : key = "slots" := heq
    rw [bind_pure_eq_ok_iff]
    simp
  · next hkinds hslots =>
    -- neither kind of entry that is taken has such a key
    have hkinds' : key ≠ "kinds" := hkinds
    have hslots' : key ≠ "slots" := hslots
    simp [hkinds', hslots']

end CatalogTable.Partial

namespace Schema

@[simp] theorem Field.ofKey?_key (field : Field) : Field.ofKey? field.key = some field := by
  cases field <;> rfl

theorem Field.key_of_ofKey? {key : String} {field : Field} (h : Field.ofKey? key = some field) :
    field.key = key := by
  have hfound := List.find?_some h
  exact beq_iff_eq.1 hfound

@[simp] theorem Field.ofKey?_eq_none_iff {key : String} :
    Field.ofKey? key = none ↔ ∀ field : Field, key ≠ field.key := by
  constructor
  · rintro h field rfl
    rw [Field.ofKey?_key] at h
    cases h
  · intro h
    cases hfound : Field.ofKey? key with
    | none => rfl
    | some field => exact absurd (Field.key_of_ofKey? hfound).symm (h field)

variable {s s' : Schema}

theorem takeEntry_eq_error_iff :
    s.takeEntry entry = .error fault ↔ SchemaEntryFault entry fault := by
  obtain ⟨key, value⟩ := entry
  rw [takeEntry]
  cases hfield : Field.ofKey? key with
  -- no field has the key
  | none =>
    constructor
    · intro h
      cases h
      exact .unknown (Field.ofKey?_eq_none_iff.1 hfield)
    · rintro (h | h)
      · cases (Field.ofKey?_key _).symm.trans hfield
      · rfl
  | some field =>
    -- a field with the key takes any text
    obtain rfl := Field.key_of_ofKey? hfield
    show (text value >>= fun t => pure (s.set field t)) = .error fault ↔ _
    rw [bind_pure_eq_error_iff, text_eq_error_iff]
    constructor
    · exact .text
    · generalize hkey : field.key = key
      rintro (h | h)
      · exact h
      · exact absurd hkey.symm (h field)

theorem takeEntry_eq_ok_iff : s.takeEntry entry = .ok s' ↔
    ∃ (field : Field) (t : String), entry = (field.key, .string t) ∧ s' = s.set field t := by
  obtain ⟨key, value⟩ := entry
  rw [takeEntry]
  cases hfield : Field.ofKey? key with
  -- an entry that is taken has the key of a field
  | none =>
    constructor
    · exact nofun
    · rintro ⟨field, t, heq, -⟩
      obtain ⟨rfl, -⟩ := Prod.mk.inj heq
      cases (Field.ofKey?_key _).symm.trans hfield
  | some field =>
    obtain rfl := Field.key_of_ofKey? hfield
    show (text value >>= fun t => pure (s.set field t)) = .ok s' ↔ _
    rw [bind_pure_eq_ok_iff]
    constructor
    · rintro ⟨t, ht, hs'⟩
      exact ⟨field, t, by rw [text_eq_ok_iff.1 ht], hs'⟩
    · -- keys tell the fields apart
      rintro ⟨other, t, heq, hs'⟩
      obtain ⟨hkey, rfl⟩ := Prod.mk.inj heq
      rw [hkey, Field.ofKey?_key] at hfield
      cases hfield
      exact ⟨t, rfl, hs'⟩

end Schema

end ErrorScaffold
