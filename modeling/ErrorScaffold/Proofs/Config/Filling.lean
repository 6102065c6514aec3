/-
What a document says of a configuration.

A document that is accepted fills one configuration: what is given stands in it, and what is not
given is standard.  Neither says in which order the entries stand.

* `CatalogTable.Fills`, `Schema.Fills`, `Config.Fills` — a table, a schema and a configuration have
  what entries give;
* `CatalogTable.Fills.unique` and the like — no other one has;
* `Config.Accepted` — nothing is wrong with the document, by `accepted_iff_forall_not_entryFault`;
* `Config.ofDocument_eq_ok_iff`, `Config.ofDocument_eq_error_iff` — which configuration is read, and
  which fault is found.
-/
import ErrorScaffold.Proofs.Config.Fault
import ErrorScaffold.Proofs.Toml.Draft
import Mathlib.Data.List.Nodup

namespace ErrorScaffold

open Config

/-- In tables with distinct keys a key has one value. -/
theorem Toml.value_unique {entries : List (String × Toml.Value)}
    (distinct : (entries.map Prod.fst).Nodup) {key : String} {value value' : Toml.Value}
    (h : (key, value) ∈ entries) (h' : (key, value') ∈ entries) : value = value' := by
  have heq := List.inj_on_of_nodup_map distinct h h' rfl
  exact congrArg Prod.snd heq

theorem Toml.Value.WellKeyed.distinct_of_table {entries : List (String × Toml.Value)}
    (h : (Toml.Value.table entries).WellKeyed) : (entries.map Prod.fst).Nodup := by
  cases h with
  | table distinct _ => exact distinct

/-! ### The catalog table -/

namespace CatalogTable

/-- The table holds the kinds in their order, and the slots, of which there are twenty where none
are given. -/
structure Fills (table : CatalogTable) (entries : Toml.Table) : Prop where
  kinds : ("kinds", .array (table.kinds.map .string)) ∈ entries
  slots : ("slots", .integer table.slots) ∈ entries ∨
    (∀ value, ("slots", value) ∉ entries) ∧ table.slots = 20

variable {entries : Toml.Table} {table table' : CatalogTable} {fault : Config.Fault}

theorem kinds_of_foldlM (distinct : (entries.map Prod.fst).Nodup) {p : Partial}
    (h : entries.foldlM Partial.take {} = .ok p) :
    (∀ value, ("kinds", value) ∈ entries →
      ∃ kinds : List String, value = .array (kinds.map .string) ∧ p.kinds = some kinds) ∧
    ((∀ value, ("kinds", value) ∉ entries) → p.kinds = none) := by
  refine part_of_foldlM Partial.kinds "kinds"
    (fun value found => ∃ kinds : List String, value = .array (kinds.map .string) ∧
      found = some kinds)
    (fun state value next hnext => ?_) (fun state entry next hnext hne => ?_) distinct h
  · obtain ⟨kinds, heq, rfl⟩ | ⟨n, heq, -⟩ := Partial.take_eq_ok_iff.1 hnext
    · obtain ⟨-, rfl⟩ := Prod.mk.inj heq
      exact ⟨kinds, rfl, rfl⟩
    · exact absurd (Prod.mk.inj heq).1 (by decide)
  · obtain ⟨kinds, rfl, -⟩ | ⟨n, -, rfl⟩ := Partial.take_eq_ok_iff.1 hnext
    · exact absurd rfl hne
    · rfl

theorem slots_of_foldlM (distinct : (entries.map Prod.fst).Nodup) {p : Partial}
    (h : entries.foldlM Partial.take {} = .ok p) :
    (∀ value, ("slots", value) ∈ entries →
      ∃ n : Nat, value = .integer n ∧ p.slots = some n) ∧
    ((∀ value, ("slots", value) ∉ entries) → p.slots = none) := by
  refine part_of_foldlM Partial.slots "slots"
    (fun value found => ∃ n : Nat, value = .integer n ∧ found = some n)
    (fun state value next hnext => ?_) (fun state entry next hnext hne => ?_) distinct h
  · obtain ⟨kinds, heq, -⟩ | ⟨n, heq, rfl⟩ := Partial.take_eq_ok_iff.1 hnext
    · exact absurd (Prod.mk.inj heq).1 (by decide)
    · obtain ⟨-, rfl⟩ := Prod.mk.inj heq
      exact ⟨n, rfl, rfl⟩
  · obtain ⟨kinds, -, rfl⟩ | ⟨n, rfl, -⟩ := Partial.take_eq_ok_iff.1 hnext
    · rfl
    · exact absurd rfl hne

@[simp] theorem Partial.finish_eq_error_iff {p : Partial} :
    p.finish = .error fault ↔ p.kinds = none ∧ fault = .missingField "kinds" := by
  rw [finish]
  cases p.kinds <;> simp [eq_comm]

theorem ofEntries_eq_error_iff (distinct : (entries.map Prod.fst).Nodup) :
    ofEntries entries = .error fault ↔ CatalogFault entries fault := by
  have hstep : ∀ entry ∈ entries, ∀ (p : Partial) f,
      p.take entry = .error f ↔ CatalogEntryFault entry f :=
    fun _ _ _ _ => Partial.take_eq_error_iff
  have hfold : ∀ f, entries.foldlM Partial.take {} = .error f ↔
      FirstFault CatalogEntryFault entries f :=
    fun _ => foldlM_eq_error_iff hstep {}
  rw [ofEntries]
  cases hp : entries.foldlM Partial.take {} with
  -- an entry is refused, and what is missing at the end plays no part
  | error f =>
    have hfirst := (hfold f).1 hp
    constructor
    · intro h
      cases h
      exact .entry hfirst
    · rintro (h | ⟨hentries, -⟩)
      · cases hp.symm.trans ((hfold fault).2 h)
        rfl
      · exact absurd hfirst (forall_not_firstFault_iff.2 hentries f)
  -- all entries are taken, so that only missing kinds are left to refuse
  | ok p =>
    have hentries : ∀ entry ∈ entries, ∀ f, ¬CatalogEntryFault entry f := by
      refine forall_not_firstFault_iff.1 fun f hf => ?_
      cases hp.symm.trans ((hfold f).2 hf)
    obtain ⟨hgiven, hmissing⟩ := kinds_of_foldlM distinct hp
    show p.finish = .error fault ↔ _
    rw [Partial.finish_eq_error_iff]
    constructor
    · rintro ⟨hnone, rfl⟩
      refine .missing hentries fun value hvalue => ?_
      obtain ⟨kinds, -, hsome⟩ := hgiven value hvalue
      cases hnone.symm.trans hsome
    · rintro (h | ⟨-, hkinds⟩)
      · exact absurd h (forall_not_firstFault_iff.2 hentries fault)
      · exact ⟨hmissing hkinds, rfl⟩

theorem fills_of_ofEntries (distinct : (entries.map Prod.fst).Nodup)
    (h : ofEntries entries = .ok table) : table.Fills entries := by
  obtain ⟨p, hp, h⟩ := exists_of_bind_eq_ok h
  obtain ⟨hkinds, hnokinds⟩ := kinds_of_foldlM distinct hp
  obtain ⟨hslots, hnoslots⟩ := slots_of_foldlM distinct hp
  cases hfound : p.kinds with
  -- a table without kinds is refused at its end
  | none =>
    rw [Partial.finish, hfound] at h
    cases h
  | some kinds =>
    rw [Partial.finish, hfound] at h
    cases h
    constructor
    · by_cases hgiven : ∃ value, ("kinds", value) ∈ entries
      · obtain ⟨value, hvalue⟩ := hgiven
        obtain ⟨kinds', rfl, hkinds'⟩ := hkinds value hvalue
        cases hfound.symm.trans hkinds'
        exact hvalue
      · cases hfound.symm.trans (hnokinds (not_exists.1 hgiven))
    · -- the slots may be left out, and then they are the standard ones
      by_cases hgiven : ∃ value, ("slots", value) ∈ entries
      · obtain ⟨value, hvalue⟩ := hgiven
        obtain ⟨n, rfl, hn⟩ := hslots value hvalue
        rw [hn]
        exact Or.inl hvalue
      · rw [hnoslots (not_exists.1 hgiven)]
        exact Or.inr ⟨not_exists.1 hgiven, rfl⟩

/-- No two tables are filled with the same entries. -/
theorem Fills.unique (distinct : (entries.map Prod.fst).Nodup) (h : table.Fills entries)
    (h' : table'.Fills entries) : table = table' := by
  have hkinds : table.kinds = table'.kinds := by
    have heq := Toml.Value.array.inj (Toml.value_unique distinct h.kinds h'.kinds)
    exact (List.map_inj_right fun _ _ => Toml.Value.string.inj).1 heq
  -- the slots are given in both or left out in both
  have hslots : table.slots = table'.slots := by
    rcases h.slots with hgiven | ⟨hnone, hslots⟩
    · rcases h'.slots with hgiven' | ⟨hnone', -⟩
      · have heq := Toml.Value.integer.inj (Toml.value_unique distinct hgiven hgiven')
        exact Int.ofNat.inj heq
      · exact absurd hgiven (hnone' _)
    · rcases h'.slots with hgiven' | ⟨-, hslots'⟩
      · exact absurd hgiven' (hnone _)
      · rw [hslots, hslots']
  cases table
  cases table'
  cases hkinds
  cases hslots
  rfl

end CatalogTable

/-! ### The schema table -/

namespace Schema

/-- The schema has the texts that are given, and its own in all other fields. -/
structure Fills (s : Schema) (entries : Toml.Table) : Prop where
  given (field : Field) (t : String) : (field.key, .string t) ∈ entries → s.get field = t
  default (field : Field) : (∀ value, (field.key, value) ∉ entries) →
    s.get field = ({} : Schema).get field

variable {entries : Toml.Table} {s s' : Schema}

theorem Field.key_inj {field other : Field} (h : field.key = other.key) : field = other := by
  have hfield := field.ofKey?_key
  rw [h, other.ofKey?_key] at hfield
  exact (Option.some.inj hfield).symm

theorem fills_of_foldlM (distinct : (entries.map Prod.fst).Nodup)
    (h : entries.foldlM takeEntry {} = .ok s) : s.Fills entries := by
  -- one field at a time: its own entry sets it, every other leaves it alone
  have hfield : ∀ field : Field,
      (∀ value, (field.key, value) ∈ entries → value = .string (s.get field)) ∧
      ((∀ value, (field.key, value) ∉ entries) → s.get field = ({} : Schema).get field) := by
    intro field
    refine part_of_foldlM (fun s => s.get field) field.key (fun value t => value = .string t)
      (fun state value next hnext => ?_) (fun state entry next hnext hne => ?_) distinct h
    · obtain ⟨other, t, heq, rfl⟩ := takeEntry_eq_ok_iff.1 hnext
      obtain ⟨hkey, rfl⟩ := Prod.mk.inj heq
      rw [get_set, if_pos (Field.key_inj hkey)]
    · obtain ⟨other, t, rfl, rfl⟩ := takeEntry_eq_ok_iff.1 hnext
      rw [get_set, if_neg fun heq => hne (congrArg Field.key heq.symm)]
  exact {
    given := fun field t ht => (Toml.Value.string.inj ((hfield field).1 _ ht)).symm
    default := fun field => (hfield field).2 }

theorem Fills.unique (hknown : ∀ entry ∈ entries, ∃ (field : Field) (t : String),
      entry = (field.key, .string t)) (h : s.Fills entries) (h' : s'.Fills entries) : s = s' := by
  refine ext_get fun field => ?_
  by_cases hgiven : ∃ value, (field.key, value) ∈ entries
  · obtain ⟨value, hvalue⟩ := hgiven
    obtain ⟨other, t, heq⟩ := hknown _ hvalue
    obtain ⟨-, rfl⟩ := Prod.mk.inj heq
    rw [h.given field t hvalue, h'.given field t hvalue]
  · rw [h.default field (not_exists.1 hgiven), h'.default field (not_exists.1 hgiven)]

end Schema

/-! ### The document -/

namespace Config

/-- The tables of the document are tables. -/
def HasTables (document : Toml.Table) : Prop :=
  ∀ entry ∈ document, entry.1 = "catalog" ∨ entry.1 = "schema" →
    ∃ entries, entry.2 = .table entries

/-- The document has the keys that are known, and at each of them what is asked for. -/
structure Accepted (document : Toml.Table) : Prop where
  keys : ∀ entry ∈ document, entry.1 = "catalog" ∨ entry.1 = "schema"
  kinds (entries : Toml.Table) : ("catalog", .table entries) ∈ document →
    ∃ kinds : List String, ("kinds", .array (kinds.map .string)) ∈ entries
  catalog (entries : Toml.Table) : ("catalog", .table entries) ∈ document →
    ∀ entry ∈ entries, (∃ kinds : List String, entry = ("kinds", .array (kinds.map .string))) ∨
      ∃ n : Nat, entry = ("slots", .integer n)
  schema (entries : Toml.Table) : ("schema", .table entries) ∈ document →
    ∀ entry ∈ entries, ∃ (field : Schema.Field) (t : String), entry = (field.key, .string t)

/-- The configuration has what the document gives, and what is standard for all else. -/
structure Fills (c : Config) (document : Toml.Table) : Prop where
  catalog (entries : Toml.Table) : ("catalog", .table entries) ∈ document →
    ∃ table, c.catalogTable = some table ∧ table.Fills entries
  noCatalog : (∀ value, ("catalog", value) ∉ document) → c.catalogTable = none
  schema (entries : Toml.Table) : ("schema", .table entries) ∈ document → c.schema.Fills entries
  noSchema : (∀ value, ("schema", value) ∉ document) → c.schema = {}

variable {c c' : Config} {entry : String × Toml.Value} {fault : Fault} {document : Toml.Table}

theorem forall_not_schemaEntryFault_iff :
    (∀ f, ¬SchemaEntryFault entry f) ↔
      ∃ (field : Schema.Field) (t : String), entry = (field.key, .string t) := by
  have hread : (∀ f, ({} : Schema).takeEntry entry ≠ .error f) ↔ _ := forall_ne_error_iff
  simp only [ne_eq, Schema.takeEntry_eq_error_iff, Schema.takeEntry_eq_ok_iff] at hread
  rw [hread]
  exact ⟨fun ⟨_, field, t, heq, _⟩ => ⟨field, t, heq⟩,
    fun ⟨field, t, heq⟩ => ⟨_, field, t, heq, rfl⟩⟩

theorem forall_not_catalogEntryFault_iff :
    (∀ f, ¬CatalogEntryFault entry f) ↔
      (∃ kinds : List String, entry = ("kinds", .array (kinds.map .string))) ∨
        ∃ n : Nat, entry = ("slots", .integer n) := by
  have hread : (∀ f, ({} : CatalogTable.Partial).take entry ≠ .error f) ↔ _ := forall_ne_error_iff
  simp only [ne_eq, CatalogTable.Partial.take_eq_error_iff, CatalogTable.Partial.take_eq_ok_iff]
    at hread
  rw [hread]
  constructor
  · rintro ⟨_, ⟨kinds, heq, -⟩ | ⟨n, heq, -⟩⟩
    · exact Or.inl ⟨kinds, heq⟩
    · exact Or.inr ⟨n, heq⟩
  · rintro (⟨kinds, heq⟩ | ⟨n, heq⟩)
    · exact ⟨_, Or.inl ⟨kinds, heq, rfl⟩⟩
    · exact ⟨_, Or.inr ⟨n, heq, rfl⟩⟩

theorem forall_not_catalogFault_iff {entries : Toml.Table} :
    (∀ f, ¬CatalogFault entries f) ↔
      (∃ kinds : List String, ("kinds", .array (kinds.map .string)) ∈ entries) ∧
        ∀ entry ∈ entries, ∀ f, ¬CatalogEntryFault entry f := by
  constructor
  · intro h
    have hentries : ∀ entry ∈ entries, ∀ f, ¬CatalogEntryFault entry f :=
      forall_not_firstFault_iff.1 fun f hf => h f (.entry hf)
    refine ⟨?_, hentries⟩
    by_contra hnone
    refine h _ (.missing hentries fun value hvalue => hnone ?_)
    -- the value at the key can be read, so that it is an array of texts
    obtain ⟨kinds, heq⟩ | ⟨n, heq⟩ :=
      forall_not_catalogEntryFault_iff.1 (hentries _ hvalue)
    · exact ⟨kinds, heq ▸ hvalue⟩
    · exact absurd (Prod.mk.inj heq).1 (by decide)
  · rintro ⟨⟨kinds, hkinds⟩, hentries⟩ f (hf | ⟨-, hnone⟩)
    · exact forall_not_firstFault_iff.2 hentries f hf
    · exact hnone _ hkinds

@[simp] theorem entryFault_catalog_iff {entries : Toml.Table} :
    EntryFault ("catalog", .table entries) fault ↔ CatalogFault entries fault := by
  refine ⟨?_, .catalog⟩
  generalize hkey : "catalog" = key
  rintro (h | h | ⟨hne, -⟩)
  · exact h
  · exact absurd hkey (by decide)
  · exact absurd hkey.symm hne

@[simp] theorem entryFault_schema_iff {entries : Toml.Table} :
    EntryFault ("schema", .table entries) fault ↔ FirstFault SchemaEntryFault entries fault := by
  refine ⟨?_, .schema⟩
  generalize hkey : "schema" = key
  rintro (h | h | ⟨-, hne⟩)
  · exact absurd hkey (by decide)
  · exact h
  · exact absurd hkey.symm hne

theorem takeEntry_eq_error_iff
    (htable : entry.1 = "catalog" ∨ entry.1 = "schema" → ∃ entries, entry.2 = .table entries)
    (hkeys : entry.2.WellKeyed) :
    takeEntry c entry = .error fault ↔ EntryFault entry fault := by
  obtain ⟨key, value⟩ := entry
  unfold takeEntry
  split
  · next heq =>
    obtain rfl : key = "catalog" := heq
    obtain ⟨entries, rfl⟩ : ∃ entries, value = .table entries := htable (Or.inl rfl)
    cases hkeys with
    | table distinct values =>
      rw [bind_pure_eq_error_iff, entryFault_catalog_iff]
      exact CatalogTable.ofEntries_eq_error_iff distinct
  · next heq =>
    obtain rfl : key = "schema" := heq
    obtain ⟨entries, rfl⟩ : ∃ entries, value = .table entries := htable (Or.inr rfl)
    rw [bind_pure_eq_error_iff, entryFault_schema_iff]
    have hstep : ∀ entry ∈ entries, ∀ (s : Schema) f,
        s.takeEntry entry = .error f ↔ SchemaEntryFault entry f :=
      fun _ _ _ _ => Schema.takeEntry_eq_error_iff
    exact foldlM_eq_error_iff hstep {}
  · next hcatalog hschema =>
    -- any other key is a fault in itself
    constructor
    · intro h
      cases h
      exact .unknown hcatalog hschema
    · rintro (h | h | h)
      · exact absurd rfl hcatalog
      · exact absurd rfl hschema
      · rfl

theorem takeEntry_eq_ok_iff : takeEntry c entry = .ok c' ↔
    (∃ table, entry.1 = "catalog" ∧ CatalogTable.ofValue entry.2 = .ok table ∧
      c' = { c with catalogTable := some table }) ∨
    ∃ s, entry.1 = "schema" ∧ Schema.ofValue entry.2 = .ok s ∧ c' = { c with schema := s } := by
  obtain ⟨key, value⟩ := entry
  unfold takeEntry
  split
  · next heq =>
    obtain rfl : key = "catalog" := heq
    rw [bind_pure_eq_ok_iff]
    simp
  · next heq =>
    obtain rfl : key = "schema" := heq
    rw [bind_pure_eq_ok_iff]
    simp
  · next hcatalog hschema =>
    have hcatalog' : key ≠ "catalog" := hcatalog
    have hschema' : key ≠ "schema" := hschema
    simp [hcatalog', hschema']

theorem ofDocument_eq_error_iff (hkeys : document.WellKeyed) (htables : HasTables document) :
    ofDocument document = .error fault ↔ FirstFault EntryFault document fault := by
  have hstep : ∀ entry ∈ document, ∀ (c : Config) f,
      c.takeEntry entry = .error f ↔ EntryFault entry f :=
    fun entry hentry _ _ =>
      takeEntry_eq_error_iff (htables entry hentry) (hkeys.values entry hentry)
  exact foldlM_eq_error_iff hstep {}

theorem catalogTable_of_ofDocument (hkeys : document.WellKeyed) (h : ofDocument document = .ok c) :
    (∀ value, ("catalog", value) ∈ document →
      ∃ table, CatalogTable.ofValue value = .ok table ∧ c.catalogTable = some table) ∧
    ((∀ value, ("catalog", value) ∉ document) → c.catalogTable = none) := by
  refine part_of_foldlM Config.catalogTable "catalog"
    (fun value found => ∃ table, CatalogTable.ofValue value = .ok table ∧ found = some table)
    (fun state value next hnext => ?_) (fun state entry next hnext hne => ?_) hkeys.distinct h
  · obtain ⟨table, -, htable, rfl⟩ | ⟨s, hkey, -⟩ := takeEntry_eq_ok_iff.1 hnext
    · exact ⟨table, htable, rfl⟩
    · exact absurd (show "catalog" = "schema" from hkey) (by decide)
  · obtain ⟨table, hkey, -⟩ | ⟨s, -, -, rfl⟩ := takeEntry_eq_ok_iff.1 hnext
    · exact absurd hkey hne
    · rfl

theorem schema_of_ofDocument (hkeys : document.WellKeyed) (h : ofDocument document = .ok c) :
    (∀ value, ("schema", value) ∈ document → Schema.ofValue value = .ok c.schema) ∧
    ((∀ value, ("schema", value) ∉ document) → c.schema = {}) := by
  refine part_of_foldlM Config.schema "schema" (fun value found => Schema.ofValue value = .ok found)
    (fun state value next hnext => ?_) (fun state entry next hnext hne => ?_) hkeys.distinct h
  · obtain ⟨table, hkey, -⟩ | ⟨s, -, hs, rfl⟩ := takeEntry_eq_ok_iff.1 hnext
    · exact absurd (show "schema" = "catalog" from hkey) (by decide)
    · exact hs
  · obtain ⟨table, -, -, rfl⟩ | ⟨s, hkey, -⟩ := takeEntry_eq_ok_iff.1 hnext
    · rfl
    · exact absurd hkey hne

theorem fills_of_ofDocument (hkeys : document.WellKeyed) (h : ofDocument document = .ok c) :
    c.Fills document := by
  obtain ⟨hcatalog, hnocatalog⟩ := catalogTable_of_ofDocument hkeys h
  obtain ⟨hschema, hnoschema⟩ := schema_of_ofDocument hkeys h
  exact {
    catalog := fun entries hentries => by
      obtain ⟨table, htable, hfound⟩ := hcatalog _ hentries
      have hdistinct := (hkeys.values _ hentries).distinct_of_table
      exact ⟨table, hfound, CatalogTable.fills_of_ofEntries hdistinct htable⟩
    noCatalog := hnocatalog
    schema := fun entries hentries =>
      Schema.fills_of_foldlM (hkeys.values _ hentries).distinct_of_table (hschema _ hentries)
    noSchema := hnoschema }

theorem accepted_iff_forall_not_entryFault (htables : HasTables document) :
    Accepted document ↔ ∀ entry ∈ document, ∀ f, ¬EntryFault entry f := by
  constructor
  · rintro h ⟨key, value⟩ hentry f
    obtain ⟨entries, rfl⟩ := htables _ hentry (h.keys _ hentry)
    -- the entry is one of the two tables, and has no fault of either kind
    obtain rfl | rfl : key = "catalog" ∨ key = "schema" := h.keys _ hentry
    · rw [entryFault_catalog_iff]
      refine forall_not_catalogFault_iff.2 ⟨h.kinds entries hentry, fun entry he => ?_⟩ f
      exact forall_not_catalogEntryFault_iff.2 (h.catalog entries hentry entry he)
    · rw [entryFault_schema_iff]
      refine forall_not_firstFault_iff.2 (fun entry he => ?_) f
      exact forall_not_schemaEntryFault_iff.2 (h.schema entries hentry entry he)
  · intro h
    -- the tables are free of faults since the document is
    have hcatalog : ∀ entries, ("catalog", Toml.Value.table entries) ∈ document →
        ∀ f, ¬CatalogFault entries f :=
      fun entries hentries f hf => h _ hentries f (.catalog hf)
    have hschema : ∀ entries, ("schema", Toml.Value.table entries) ∈ document →
        ∀ f, ¬FirstFault SchemaEntryFault entries f :=
      fun entries hentries f hf => h _ hentries f (.schema hf)
    exact {
      keys := fun entry hentry => by
        by_contra hkey
        obtain ⟨hc, hs⟩ := not_or.1 hkey
        exact h entry hentry _ (.unknown hc hs)
      kinds := fun entries hentries => (forall_not_catalogFault_iff.1 (hcatalog entries hentries)).1
      catalog := fun entries hentries entry he => by
        obtain ⟨-, hclean⟩ := forall_not_catalogFault_iff.1 (hcatalog entries hentries)
        exact forall_not_catalogEntryFault_iff.1 (hclean entry he)
      schema := fun entries hentries entry he => by
        have hclean := forall_not_firstFault_iff.1 (hschema entries hentries)
        exact forall_not_schemaEntryFault_iff.1 (hclean entry he) }

theorem exists_ofDocument_iff (hkeys : document.WellKeyed) (htables : HasTables document) :
    (∃ c, ofDocument document = .ok c) ↔ Accepted document := by
  rw [← forall_ne_error_iff, accepted_iff_forall_not_entryFault htables,
    ← forall_not_firstFault_iff]
  exact forall_congr' fun f => not_congr (ofDocument_eq_error_iff hkeys htables)

/-- No two configurations are filled with the same document. -/
theorem Fills.unique (hkeys : document.WellKeyed) (htables : HasTables document)
    (haccepted : Accepted document) (h : c.Fills document) (h' : c'.Fills document) : c = c' := by
  have hcatalog : c.catalogTable = c'.catalogTable := by
    by_cases hgiven : ∃ value, ("catalog", value) ∈ document
    · obtain ⟨value, hvalue⟩ := hgiven
      obtain ⟨entries, rfl⟩ : ∃ entries, value = .table entries := htables _ hvalue (Or.inl rfl)
      obtain ⟨table, hfound, hfills⟩ := h.catalog entries hvalue
      obtain ⟨table', hfound', hfills'⟩ := h'.catalog entries hvalue
      rw [hfound, hfound',
        CatalogTable.Fills.unique (hkeys.values _ hvalue).distinct_of_table hfills hfills']
    · rw [h.noCatalog (not_exists.1 hgiven), h'.noCatalog (not_exists.1 hgiven)]
  have hschema : c.schema = c'.schema := by
    by_cases hgiven : ∃ value, ("schema", value) ∈ document
    · obtain ⟨value, hvalue⟩ := hgiven
      obtain ⟨entries, rfl⟩ : ∃ entries, value = .table entries := htables _ hvalue (Or.inr rfl)
      exact Schema.Fills.unique (haccepted.schema entries hvalue) (h.schema entries hvalue)
        (h'.schema entries hvalue)
    · rw [h.noSchema (not_exists.1 hgiven), h'.noSchema (not_exists.1 hgiven)]
  cases c
  cases c'
  cases hcatalog
  cases hschema
  rfl

/-- A document that is accepted says what its configuration is. -/
theorem ofDocument_eq_ok_iff (hkeys : document.WellKeyed) (htables : HasTables document) :
    ofDocument document = .ok c ↔ Accepted document ∧ c.Fills document := by
  constructor
  · intro h
    exact ⟨(exists_ofDocument_iff hkeys htables).1 ⟨c, h⟩, fills_of_ofDocument hkeys h⟩
  · rintro ⟨haccepted, hfills⟩
    obtain ⟨found, hfound⟩ := (exists_ofDocument_iff hkeys htables).2 haccepted
    have heq := Fills.unique hkeys htables haccepted (fills_of_ofDocument hkeys hfound) hfills
    rw [hfound, heq]

end Config

end ErrorScaffold
