/-
The ordinal table, and all that shows it.

Three sections of the header, the listing and the JSON print the rows of the ordinal table, each in
a form of its own; the blocks of the report macro are made from the kinds.  Read back line by line
they all agree on one table, in the order of the ordinals.

* `OrdinalRow.map_ordinal_table` — the ordinals count from the sentinel's on, without a gap;
* `Reading.markers_markers` — the marker types that are declared;
* `Listing.rows_listing` — the lines for people, however many digits an ordinal has;
* `UsableSchema.views_of_header` — all of them for a header that was made.
-/
import ErrorScaffold.Proofs.Command.Effect
import ErrorScaffold.Proofs.Command.Summary
import ErrorScaffold.Proofs.Header.Reading

namespace ErrorScaffold

open Header Identifier

/-! ### The rows -/

namespace OrdinalRow

variable (s : Schema) (c : Catalog)

/-- The ordinals count the rows. -/
@[simp] theorem map_ordinal_table :
    (table s c).map (·.ordinal) = (List.range (c.size + 1)).map Ordinal.mk := by
  have hnumbers : (c.kinds.zipIdx 1).map Prod.snd = List.range' 1 c.size :=
    List.zipIdx_map_snd 1 c.kinds
  rw [List.range_eq_range', List.range'_succ, ← hnumbers]
  simp only [table, Catalog.entries, Catalog.numberedKinds, List.map_cons, List.map_map]
  rfl

/-- Behind the sentinel's row come those of the kinds. -/
@[simp] theorem map_enumerator_tail_table :
    (table s c).tail.map (·.enumerator) = c.kinds.map s.enumerator := by
  simp [List.map_tail]

end OrdinalRow

/-! ### The declarations of the marker types -/

namespace Reading

/-- The marker type on a line that declares one. -/
def marker? (line : List Char) : Option String :=
  match Layout.markerForm.read line with
  | some [name] => some name
  | _ => none

theorem marker?_marker {row : OrdinalRow} (hn : (Layout.marker row).IsNamed) :
    marker? (Layout.marker row).chars = some row.marker := by
  have hread : Layout.markerForm.read (Layout.marker row).chars = some [row.marker] :=
    Line.read_chars hn
  rw [marker?, hread]

theorem markers_markers {h : Header} (hn : h.IsNamed) :
    (Text.lines h.markers.toList).filterMap marker? = h.rows.map (·.marker) := by
  have hnamed := Layout.isNamed_markers hn
  rw [toList_markers, Line.filterMap_lines_textOf (by decide) hnamed, Layout.markers,
    List.map_map]
  refine Text.filterMap_written fun row hrow => ?_
  exact marker?_marker (hnamed _ (List.mem_map_of_mem hrow))

end Reading

/-! ### The listing for people -/

namespace Listing

/-- The ordinal and the marker type on a line of the listing: what stands before and after the two
spaces, once the leading ones are dropped. -/
def row? (line : List Char) : Option (Nat × String) := do
  let (digits, marker) ← Text.splitAtFirst? [' ', ' '] (line.dropWhile fun c => c == ' ')
  let ordinal ← (String.ofList digits).toNat?
  return (ordinal, .ofList marker)

/-- The characters of a line: the digits after what fills the column, and the marker type. -/
def lineChars (row : OrdinalRow) : List Char :=
  List.replicate (3 - row.ordinal.value.repr.length) ' '
    ++ (row.ordinal.value.repr.toList ++ [' ', ' '] ++ row.marker.toList)

@[simp] theorem toList_line (row : OrdinalRow) : row.line.toList = lineChars row ++ ['\n'] := by
  have hdigits : toString row.ordinal = row.ordinal.value.repr := rfl
  unfold OrdinalRow.line Ordinal.padded lineChars
  dsimp only
  rw [hdigits]
  simp only [String.toList_append, String.toList_ofList, String.reduceToList, List.append_assoc,
    List.cons_append, List.nil_append]

@[simp] theorem toList_listing (rows : List OrdinalRow) :
    (String.join (rows.map OrdinalRow.line)).toList = Text.unlines (rows.map lineChars) := by
  induction rows with
  | nil => rfl
  | cons row rows ih =>
    rw [List.map_cons, List.map_cons, String.join_cons, String.toList_append, ih, toList_line,
      Text.unlines_cons, List.append_assoc, List.singleton_append]

@[simp] theorem row?_lineChars (row : OrdinalRow) :
    row? (lineChars row) = some (row.ordinal.value, row.marker) := by
  have hspace : ' ' ∉ row.ordinal.value.repr.toList := by
    intro hmem
    cases Text.isDigit_of_mem_repr hmem
  have hblanks : ∀ c ∈ List.replicate (3 - row.ordinal.value.repr.length) ' ',
      (c == ' ') = true := by
    intro c hc
    rw [List.eq_of_mem_replicate hc]
    rfl
  -- the digits start with no space, so that exactly what fills the column is dropped
  have hdigits : ∀ c ∈ (row.ordinal.value.repr.toList ++ [' ', ' '] ++ row.marker.toList).head?,
      (c == ' ') = false := by
    intro c hc
    obtain ⟨d, digits, hcons⟩ := (isWord_repr row.ordinal.value).exists_eq_cons
    rw [hcons] at hspace hc
    cases hc
    rw [beq_eq_false_iff_ne]
    exact fun heq => hspace (heq ▸ List.mem_cons_self)
  rw [row?, lineChars, Text.dropWhile_run hblanks hdigits,
    Text.splitAtFirst?_needle (Text.avoids_of_not_mem hspace), Option.bind_eq_bind,
    Option.bind_some]
  dsimp only
  rw [String.ofList_toList, String.ofList_toList, Nat.toNat?_repr]
  rfl

theorem newline_not_mem_lineChars {row : OrdinalRow} (h : IsWord row.marker) :
    '\n' ∉ lineChars row := by
  have hdigits : '\n' ∉ row.ordinal.value.repr.toList :=
    (isWord_repr row.ordinal.value).not_mem (by decide)
  have hmarker : '\n' ∉ row.marker.toList := h.not_mem (by decide)
  simp [lineChars, hdigits, hmarker, -Nat.toList_repr]

/-- The listing gives the ordinals and marker types of its rows. -/
theorem rows_listing {rows : List OrdinalRow} (h : ∀ row ∈ rows, IsWord row.marker) :
    (Text.lines (String.join (rows.map OrdinalRow.line)).toList).filterMap row?
      = rows.map fun row => (row.ordinal.value, row.marker) := by
  have hlines : ∀ l ∈ rows.map lineChars, '\n' ∉ l := by
    intro l hl
    obtain ⟨row, hrow, rfl⟩ := List.mem_map.1 hl
    exact newline_not_mem_lineChars (h row hrow)
  rw [toList_listing, Text.filterMap_lines_unlines (by decide) hlines]
  exact Text.filterMap_written fun row _ => row?_lineChars row

end Listing

/-! ### All views -/

/-- All that shows the ordinal table of a header shows these rows. -/
structure OrdinalRow.Views (rows : List OrdinalRow) (h : Header) : Prop where
  /-- The enumeration lists the enumerators. -/
  enumerators :
    (Text.lines h.ordinals.toList).filterMap Reading.enumerator? = rows.map (·.enumerator)
  /-- The marker types are declared. -/
  markers : (Text.lines h.markers.toList).filterMap Reading.marker? = rows.map (·.marker)
  /-- The specializations take the enumerators to the marker types. -/
  mapping : (Text.lines h.specializations.toList).filterMap Reading.specialization?
    = rows.map fun row => (row.enumerator, row.marker)
  /-- Each block tries the enumerators behind the sentinel's. -/
  trials : ((Text.lines h.dispatch.toList).foldr Reading.addLine ([], [])).2
    = (List.range h.slotCount).map fun slot => ⟨slot, rows.tail.map (·.enumerator)⟩
  /-- The listing for people has a line for each row. -/
  listing (mode : OutputMode) : mode.json = false →
    (Text.lines (mode.listing rows).toList).filterMap Listing.row?
      = rows.map fun row => (row.ordinal.value, row.marker)
  /-- The listing in JSON says what the rows hold. -/
  json (mode : OutputMode) : mode.json = true →
    Json.ofText? (mode.listing rows) = some (.array (rows.map OrdinalRow.toJson))
  /-- So does the summary of the header. -/
  summary (path : String) : Json.ofText? (Command.headerSummary path h ++ "\n")
    = some (.object [("output", .text path), ("ordinals", .array (rows.map OrdinalRow.toJson)),
        ("slots", .count h.slotCount), ("bytes", .count h.text.utf8ByteSize)])

/-- **All views of the ordinal table agree.**  A header that was made of a catalog has a row for
each ordinal from the sentinel's on; the sections of the header, the listings and the summary show
these rows, in this order and no others, and they are what listing the ordinals prints. -/
theorem UsableSchema.views_of_header {u : UsableSchema} {c : Catalog} {budget : SlotBudget}
    {h : Header} (hh : u.header c budget = .ok h) :
    (OrdinalRow.table u.schema c).map (·.ordinal) = (List.range (c.size + 1)).map Ordinal.mk ∧
      OrdinalRow.Views (OrdinalRow.table u.schema c) h ∧
      ∀ (config? : Option String) (config : Config) (mode : OutputMode) (fetch : Url → Fetch)
        (before : Session), before.files.config config? = .ok config →
          config.catalog = .ok c → config.usableSchema = .ok u →
            (Invocation.outcome ⟨.catalog config?, mode⟩ fetch before).2.stdout
              = before.stdout ++ mode.listing (OrdinalRow.table u.schema c) := by
  obtain ⟨-, rfl⟩ := header_eq_ok_iff.1 hh
  have hn := isNamed_build u c budget
  have hrows : (build u.schema c budget).rows ≠ [] := OrdinalRow.table_ne_nil _ _
  refine ⟨OrdinalRow.map_ordinal_table u.schema c, ?_, ?_⟩
  · -- each view is read back by the lemma on its own text
    exact {
      enumerators := Reading.enumerators_ordinals hn hrows
      markers := Reading.markers_markers hn
      mapping := Reading.mapping_specializations hn
      trials := by
        rw [Reading.blocks_dispatch hn, slotCount_build, OrdinalRow.map_enumerator_tail_table]
        rfl
      listing := by
        intro mode hjson
        rw [OutputMode.listing, hjson]
        exact Listing.rows_listing fun row hrow => hn.marker hrow
      json := by
        intro mode hjson
        rw [OutputMode.listing, hjson]
        exact OrdinalRow.ofText?_jsonArray _
      summary := fun path => Command.ofText?_headerSummary path _ }
  · intro config? config mode fetch before hconfig hcatalog hschema
    have hconcludes := Invocation.concludes ⟨.catalog config?, mode⟩ fetch before
    rw [Command.effect_catalog hconfig _ _ (Config.rows_eq hcatalog hschema)] at hconcludes
    exact hconcludes.of_ok.2.2

/-- The built-in table, its views and its listing. -/
theorem UsableSchema.views_seephit :
    OrdinalRow.Views (OrdinalRow.table standard.schema .seephit)
        (.build standard.schema .seephit .standard) ∧
      (Invocation.outcome ⟨.catalog none, {}⟩ (fun _ => .unresolved) {}).2.stdout
        = "" ++ OutputMode.listing {} (OrdinalRow.table standard.schema .seephit) := by
  obtain ⟨-, hviews, hprinted⟩ := views_of_header header_seephit
  exact ⟨hviews, hprinted none {} {} (fun _ => .unresolved) {} rfl rfl standard.ofSchema_schema⟩

end ErrorScaffold
