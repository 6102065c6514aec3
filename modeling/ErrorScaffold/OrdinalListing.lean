/-
The ordinal table as it is printed, for people and as JSON.
-/
import ErrorScaffold.Header
import ErrorScaffold.Text.JsonString

namespace ErrorScaffold

namespace OrdinalRow

/-- The line of a row: the ordinal in a column, and the marker type. -/
def line (row : OrdinalRow) : String :=
  row.ordinal.padded ++ "  " ++ row.marker ++ "\n"

/-- A row as a JSON object. -/
def json (row : OrdinalRow) : String :=
  "\x7b\"ordinal\":" ++ toString row.ordinal ++ ",\"enumerator\":"
    ++ Text.jsonString row.enumerator ++ ",\"marker\":" ++ Text.jsonString row.marker ++ "\x7d"

/-- Rows as a JSON array. -/
def jsonArray (rows : List OrdinalRow) : String :=
  "[" ++ ",".intercalate (rows.map json) ++ "]"

end OrdinalRow

end ErrorScaffold
