/-
The listing of the ordinal table, and whether its rows can be told apart.

* `OrdinalRow.nodup_marker_table_iff`, `OrdinalRow.nodup_enumerator_table_iff` — the rows of a
  table can, unless a kind is called as the sentinel;
* `OutputMode.Shows` — what a listing says of the rows;
* `Invocation.listing_distinct_iff` — the same of all that the command lists: it checks the names
  and the schema, each by itself, and not the one against the other as a header does.
-/
import ErrorScaffold.Proofs.Catalog.Building
import ErrorScaffold.Proofs.Config.Parsing
import ErrorScaffold.Proofs.Header.Views

namespace ErrorScaffold

open Header

/-! ### Rows that can be told apart -/

namespace OrdinalRow

variable {s : Schema} {c : Catalog}

theorem nodup_marker_table_iff :
    ((table s c).map (·.marker)).Nodup ↔ s.sentinel ∉ c.kinds := by
  simp [c.distinct]

/-- The enumerators say no more than the marker types. -/
theorem nodup_enumerator_table_iff :
    ((table s c).map (·.enumerator)).Nodup ↔ s.sentinel ∉ c.kinds := by
  rw [map_enumerator_table, List.nodup_map_iff fun _ _ => Schema.enumerator_inj.1,
    ← map_marker_table]
  exact nodup_marker_table_iff

theorem nodup_marker_tail_table : ((table s c).tail.map (·.marker)).Nodup := by
  simp [List.map_tail, c.distinct]

theorem nodup_enumerator_tail_table : ((table s c).tail.map (·.enumerator)).Nodup := by
  rw [map_enumerator_tail_table]
  exact c.distinct.map fun _ _ => Schema.enumerator_inj.1

end OrdinalRow

/-! ### What is listed -/

/-- The listing says all of the rows in JSON, and their ordinals and marker types to people. -/
def OutputMode.Shows (mode : OutputMode) (rows : List OrdinalRow) (printed : String) : Prop :=
  if mode.json then Json.ofText? printed = some (.array (rows.map OrdinalRow.toJson))
  else (Text.lines printed.toList).filterMap Listing.row?
    = rows.map fun row => (row.ordinal.value, row.marker)

theorem UsableSchema.shows_listing (u : UsableSchema) (c : Catalog) (mode : OutputMode) :
    mode.Shows (OrdinalRow.table u.schema c) (mode.listing (OrdinalRow.table u.schema c)) := by
  unfold OutputMode.Shows OutputMode.listing
  by_cases hjson : mode.json = true
  · rw [if_pos hjson, if_pos hjson]
    exact OrdinalRow.ofText?_jsonArray _
  · rw [if_neg hjson, if_neg hjson]
    -- the rows are those of a header, with any budget
    have hn := isNamed_build u c .standard
    exact Listing.rows_listing fun row hrow => hn.marker hrow

theorem Config.exists_of_rows_eq_ok {config : Config} {rows : List OrdinalRow}
    (h : config.rows = .ok rows) :
    ∃ (c : Catalog) (u : UsableSchema), config.catalog = .ok c ∧ config.usableSchema = .ok u ∧
      rows = OrdinalRow.table u.schema c := by
  obtain ⟨c, hcatalog, h⟩ := exists_of_bind_eq_ok h
  obtain ⟨u, hschema, h⟩ := exists_of_bind_eq_ok h
  exact ⟨c, u, hcatalog, hschema, (Except.ok.inj h).symm⟩

/-- What was listed, and from which configuration. -/
theorem Command.exists_of_effect_catalog {files after : FileStore} {config? : Option String}
    {printed : String} {mode : OutputMode} {fetch : Url → Fetch}
    (h : (catalog config?).effect mode fetch files = .ok (after, printed)) :
    ∃ (config : Config) (c : Catalog) (u : UsableSchema), files.config config? = .ok config ∧
      config.catalog = .ok c ∧ config.usableSchema = .ok u ∧
        printed = mode.listing (OrdinalRow.table u.schema c) := by
  obtain ⟨config, hconfig, h⟩ := exists_of_bind_eq_ok h
  obtain ⟨rows, hrows, h⟩ := exists_of_bind_eq_ok h
  obtain ⟨c, u, hcatalog, hschema, rfl⟩ :=
    Config.exists_of_rows_eq_ok (eq_ok_of_mapError_eq_ok hrows)
  cases h
  exact ⟨config, c, u, hconfig, hcatalog, hschema, rfl⟩

/-- A header is made only of kinds that are not called as the sentinel. -/
theorem Config.sentinel_not_mem_of_header {config : Config} {c : Catalog} {u : UsableSchema}
    (hcatalog : config.catalog = .ok c) (hschema : config.usableSchema = .ok u)
    {slots? : Option Nat} {h : Header} (hh : config.header slots? = .ok h) :
    u.schema.sentinel ∉ c.kinds := by
  obtain ⟨_, -, hrest⟩ := exists_of_bind_eq_ok hh
  obtain ⟨budget, hbudget, -⟩ := exists_of_bind_eq_ok hrest
  rw [header_eq hcatalog hbudget hschema] at hh
  obtain ⟨haccepts, -⟩ := UsableSchema.header_eq_ok_iff.1 hh
  exact haccepts.sentinel_not_mem

namespace Invocation

/-- What the command lists, once the configuration is read. -/
theorem outcome_catalog {config? : Option String} {config : Config} {c : Catalog}
    {u : UsableSchema} {before : Session} (hconfig : before.files.config config? = .ok config)
    (hcatalog : config.catalog = .ok c) (hschema : config.usableSchema = .ok u)
    (mode : OutputMode) (fetch : Url → Fetch) :
    (outcome ⟨.catalog config?, mode⟩ fetch before).1 = .ok () ∧
      (outcome ⟨.catalog config?, mode⟩ fetch before).2.stdout
        = before.stdout ++ mode.listing (OrdinalRow.table u.schema c) := by
  have hconcludes := concludes ⟨.catalog config?, mode⟩ fetch before
  rw [Command.effect_catalog hconfig _ _ (Config.rows_eq hcatalog hschema)] at hconcludes
  exact ⟨hconcludes.of_ok.1, hconcludes.of_ok.2.2⟩

/-- **The listing tells its rows apart, unless a kind is called as the sentinel.**  The kinds are
listed under marker types and enumerators of their own; one of them is listed under those of the
sentinel exactly if it has its name, and then no header can be made. -/
theorem listing_distinct_iff {config? : Option String} {mode : OutputMode} {fetch : Url → Fetch}
    {before : Session} (hok : (outcome ⟨.catalog config?, mode⟩ fetch before).1 = .ok ()) :
    ∃ (config : Config) (c : Catalog) (u : UsableSchema) (printed : String),
      before.files.config config? = .ok config ∧
      config.catalog = .ok c ∧ config.usableSchema = .ok u ∧
      (outcome ⟨.catalog config?, mode⟩ fetch before).2.stdout = before.stdout ++ printed ∧
      mode.Shows (OrdinalRow.table u.schema c) printed ∧
      ((OrdinalRow.table u.schema c).tail.map (·.marker)).Nodup ∧
      ((OrdinalRow.table u.schema c).tail.map (·.enumerator)).Nodup ∧
      (((OrdinalRow.table u.schema c).map (·.marker)).Nodup ↔ u.schema.sentinel ∉ c.kinds) ∧
      (((OrdinalRow.table u.schema c).map (·.enumerator)).Nodup ↔
        u.schema.sentinel ∉ c.kinds) ∧
      ∀ slots? h, config.header slots? = .ok h → u.schema.sentinel ∉ c.kinds := by
  have hconcludes := concludes ⟨.catalog config?, mode⟩ fetch before
  obtain ⟨files, printed, heffect, -, hprinted⟩ := hconcludes.exists_of_ok hok
  obtain ⟨config, c, u, hconfig, hcatalog, hschema, rfl⟩ :=
    Command.exists_of_effect_catalog heffect
  exact ⟨config, c, u, _, hconfig, hcatalog, hschema, hprinted, u.shows_listing c mode,
    OrdinalRow.nodup_marker_tail_table, OrdinalRow.nodup_enumerator_tail_table,
    OrdinalRow.nodup_marker_table_iff, OrdinalRow.nodup_enumerator_table_iff,
    fun _ _ hh => Config.sentinel_not_mem_of_header hcatalog hschema hh⟩

/-- The built-in rows are listed and can be told apart. -/
theorem listing_distinct_seephit :
    (outcome ⟨.catalog none, {}⟩ (fun _ => .unresolved) {}).1 = .ok () ∧
      ((OrdinalRow.table UsableSchema.standard.schema .seephit).map (·.marker)).Nodup := by
  have hconfig : ({} : Session).files.config none = .ok {} := rfl
  have hschema : Config.usableSchema {} = .ok .standard := UsableSchema.standard.ofSchema_schema
  have hlisted := outcome_catalog hconfig rfl hschema {} fun _ => .unresolved
  obtain ⟨config, c, u, -, hread, hcatalog, husable, -, -, -, -, hmarkers, -⟩ :=
    listing_distinct_iff hlisted.1
  cases hread
  cases hcatalog
  cases hschema.symm.trans husable
  exact ⟨hlisted.1, hmarkers.2 (by decide)⟩

end Invocation

/-- A session with a configuration whose one kind is called as the standard sentinel. -/
def Session.careless : Session where
  files := ({} : FileStore).put ["h"] "catalog.kinds=['None']".toUTF8

/-- A kind that is called as the sentinel is listed, to people and in JSON, under the marker type
and the enumerator of the sentinel. -/
theorem Invocation.listing_of_careless_kind :
    ∃ rows : List OrdinalRow,
      (outcome ⟨.catalog (some "h"), {}⟩ (fun _ => .unresolved) .careless).1 = .ok () ∧
      (outcome ⟨.catalog (some "h"), {}⟩ (fun _ => .unresolved) .careless).2.stdout
        = OutputMode.listing {} rows ∧
      OutputMode.listing {} rows = "  0  None\n  1  None\n" ∧
      (outcome ⟨.catalog (some "h"), { json := true }⟩ (fun _ => .unresolved) .careless).1
        = .ok () ∧
      (outcome ⟨.catalog (some "h"), { json := true }⟩ (fun _ => .unresolved) .careless).2.stdout
        = OutputMode.listing { json := true } rows ∧
      ¬(rows.map (·.marker)).Nodup ∧ ¬(rows.map (·.enumerator)).Nodup := by
  -- the file is read as the configuration of one kind
  have hconfig : Session.careless.files.config (some "h")
      = .ok { catalogTable := some { kinds := ["None"] } } := by
    have htext : String.fromUTF8? "catalog.kinds=['None']".toUTF8
        = some "catalog.kinds=['None']" := by decide +kernel
    have hparse : Toml.parse? "catalog.kinds=['None']"
        = some [("catalog", .table [("kinds", .array [.string "None"])])] := by decide +kernel
    show Config.ofFile "h" (FileStore.read _ "h") = _
    rw [Session.careless, FileStore.read_name]
    unfold Config.ofFile
    simp only [htext, Config.parse_eq hparse]
    rfl
  -- the catalog admits it, since a catalog knows of no sentinel
  have hcatalog : Config.catalog { catalogTable := some { kinds := ["None"] } }
      = .ok ⟨["None"], by decide, by decide⟩ :=
    Catalog.ofNames_kinds ⟨["None"], by decide, by decide⟩
  have hschema : Config.usableSchema { catalogTable := some { kinds := ["None"] } }
      = .ok .standard := UsableSchema.standard.ofSchema_schema
  -- and so it is listed, in either form
  have hlisted := outcome_catalog hconfig hcatalog hschema {} fun _ => .unresolved
  have hjson := outcome_catalog hconfig hcatalog hschema { json := true } fun _ => .unresolved
  refine ⟨_, hlisted.1, hlisted.2.trans (String.empty_append), ?_, hjson.1,
    hjson.2.trans (String.empty_append), ?_, ?_⟩
  · decide +kernel
  · rw [OrdinalRow.nodup_marker_table_iff]
    decide
  · rw [OrdinalRow.nodup_enumerator_table_iff]
    decide

end ErrorScaffold
