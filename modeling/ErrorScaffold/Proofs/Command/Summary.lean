/-
What the JSON summaries say.

* `OrdinalRow.ofText?_jsonArray` — the listing of an ordinal table says what its rows hold;
* `Command.ofText?_headerSummary` — the summary of a header says where it went, what its rows hold,
  and how many slots and bytes it has.
-/
import ErrorScaffold.Proofs.Text.Json
import ErrorScaffold.Run

namespace ErrorScaffold

open Json

namespace OrdinalRow

/-- What a row says in JSON. -/
def toJson (row : OrdinalRow) : Json :=
  .object [("ordinal", .count row.ordinal.value), ("enumerator", .text row.enumerator),
    ("marker", .text row.marker)]

theorem json_eq (row : OrdinalRow) :
    row.json = "\x7b" ++ ",".intercalate [memberText "ordinal" row.ordinal.value.repr,
      memberText "enumerator" (Text.jsonString row.enumerator),
      memberText "marker" (Text.jsonString row.marker)] ++ "\x7d" := by
  have hordinal : Text.jsonString "ordinal" = "\"ordinal\"" := by decide
  have henumerator : Text.jsonString "enumerator" = "\"enumerator\"" := by decide
  have hmarker : Text.jsonString "marker" = "\"marker\"" := by decide
  have hdigits : toString row.ordinal = row.ordinal.value.repr := rfl
  unfold json memberText
  simp [← String.toList_inj, hdigits, hordinal, henumerator, hmarker]

theorem spells_json (row : OrdinalRow) (depth : Nat) :
    Spells (value? (depth + 2)) row.json row.toJson := by
  rw [json_eq]
  refine spells_object (.cons ?_ (.cons ?_ (.cons ?_ .nil)))
  · exact spells_member (spells_count depth _) "ordinal"
  · exact spells_member (spells_text depth _) "enumerator"
  · exact spells_member (spells_text depth _) "marker"

theorem spells_jsonArray (rows : List OrdinalRow) (depth : Nat) :
    Spells (value? (depth + 3)) (jsonArray rows) (.array (rows.map toJson)) := by
  refine spells_array ?_
  rw [List.forall₂_map_left_iff, List.forall₂_map_right_iff, List.forall₂_same]
  exact fun row _ => row.spells_json depth

/-- The listing of an ordinal table reads back as its rows. -/
theorem ofText?_jsonArray (rows : List OrdinalRow) :
    ofText? (jsonArray rows ++ "\n") = some (.array (rows.map toJson)) :=
  ofText?_of_spells (spells_jsonArray rows 125)

end OrdinalRow

namespace Command

/-- What the summary of a header says. -/
def headerJson (path : String) (header : Header) : Json :=
  .object [("output", .text path), ("ordinals", .array (header.rows.map OrdinalRow.toJson)),
    ("slots", .count header.slotCount), ("bytes", .count header.text.utf8ByteSize)]

theorem headerSummary_eq (path : String) (header : Header) :
    headerSummary path header
      = "\x7b" ++ ",".intercalate [memberText "output" (Text.jsonString path),
        memberText "ordinals" (OrdinalRow.jsonArray header.rows),
        memberText "slots" header.slotCount.repr,
        memberText "bytes" header.text.utf8ByteSize.repr] ++ "\x7d" := by
  have houtput : Text.jsonString "output" = "\"output\"" := by decide
  have hordinals : Text.jsonString "ordinals" = "\"ordinals\"" := by decide
  have hslots : Text.jsonString "slots" = "\"slots\"" := by decide
  have hbytes : Text.jsonString "bytes" = "\"bytes\"" := by decide
  unfold headerSummary memberText
  generalize header.text = text
  simp [← String.toList_inj, houtput, hordinals, hslots, hbytes]

theorem spells_headerSummary (path : String) (header : Header) (depth : Nat) :
    Spells (value? (depth + 4)) (headerSummary path header) (headerJson path header) := by
  rw [headerSummary_eq]
  refine spells_object (.cons ?_ (.cons ?_ (.cons ?_ (.cons ?_ .nil))))
  · exact spells_member (spells_text (depth + 2) _) "output"
  · exact spells_member (OrdinalRow.spells_jsonArray header.rows depth) "ordinals"
  · exact spells_member (spells_count (depth + 2) _) "slots"
  · exact spells_member (spells_count (depth + 2) _) "bytes"

/-- The summary of a header reads back as what it is about. -/
theorem ofText?_headerSummary (path : String) (header : Header) :
    ofText? (headerSummary path header ++ "\n") = some (headerJson path header) :=
  ofText?_of_spells (spells_headerSummary path header 124)

end Command

end ErrorScaffold
