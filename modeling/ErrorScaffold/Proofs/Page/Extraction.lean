/-
Tag names written into a page and taken out of it again.

A reference page is made of tables marked as standard; each row of a table links to an element and
mentions names in the text of the link, as `<name>` with other text before it, escaped for markup.
`Reference.text` is such a page, whatever its tables, rows and texts are.

* `namesInCode_escape` — the names in one escaped text;
* `standardTables_text` — such a page is a listing whose tables all count;
* `tagNames_text` — a page gives back exactly the names that were written into it.
-/
import ErrorScaffold.Proofs.Page.Entity
import ErrorScaffold.Proofs.Page.Listing
import ErrorScaffold.Proofs.Text.Lines

namespace ErrorScaffold.Page

open Text

/-! ### The layout of a reference page -/

/-- A name in angle brackets, with what stands before it. -/
structure Mention where
  lead : String
  name : String
  lead_lacks : Lacks ['<', '>'] lead
  name_lacks : Lacks ['<', '>'] name
  name_ne : name ≠ ""

/-- The text of a mention, before it is escaped. -/
def Mention.text (m : Mention) : String :=
  m.lead ++ "<" ++ m.name ++ ">"

/-- A row of a table: a link with mentions. -/
structure Row where
  address : String
  lead : String
  attributes : String
  mentions : List Mention
  tail : String
  address_lacks : Lacks ['\x22', '<', '>'] address
  lead_lacks : Lacks ['<'] lead
  attributes_lacks : Lacks ['<', '>'] attributes
  attributes_blank : ∀ c ∈ attributes.toList.head?, c = ' '
  tail_lacks : Lacks ['<'] tail

/-- What the row mentions, before it is escaped. -/
def Row.content (r : Row) : String :=
  String.join (r.mentions.map Mention.text)

def Row.text (r : Row) : String :=
  "<tr><td><a href=\"" ++ r.address ++ "\">" ++ r.lead ++ "<code" ++ r.attributes ++ ">"
    ++ String.ofList (escape r.content.toList) ++ "</code>" ++ r.tail ++ "</a></td></tr>"

/-- A table, and the text of the page before it. -/
structure StandardTable where
  lead : String
  classesBefore : String
  classesAfter : String
  rows : List Row
  lead_lacks : Lacks ['<'] lead
  before_lacks : Lacks ['\x22', '=', '<', '>'] classesBefore
  before_blank : ∀ c ∈ classesBefore.toList.getLast?, c = ' '
  after_lacks : Lacks ['\x22', '=', '<', '>'] classesAfter
  after_blank : ∀ c ∈ classesAfter.toList.head?, c = ' '

def StandardTable.text (t : StandardTable) : String :=
  t.lead ++ "<table class=\"" ++ t.classesBefore ++ "standard-table" ++ t.classesAfter ++ "\">"
    ++ String.join (t.rows.map Row.text) ++ "</table>"

/-- A page: its tables, and the text after the last one. -/
structure Reference where
  tables : List StandardTable
  tail : String
  tail_lacks : Lacks ['<'] tail

namespace Reference

def text (page : Reference) : String :=
  String.join (page.tables.map StandardTable.text) ++ page.tail

/-- All names that the page mentions, in order and with repetitions. -/
def names (page : Reference) : List String :=
  page.tables.flatMap fun table => table.rows.flatMap fun row => row.mentions.map Mention.name

end Reference

/-! ### Names in a text -/

theorem afterLast_append {c : Char} (lead : List Char) {name : List Char} (h : c ∉ name) :
    afterLast c (lead ++ c :: name) = name := by
  have hname : ∀ d ∈ name.reverse, (d != c) = true := by
    intro d hd
    rw [bne_iff_ne]
    rintro rfl
    exact h (List.mem_reverse.1 hd)
  rw [afterLast, List.reverse_append, List.reverse_cons, List.append_assoc,
    List.takeWhile_append_of_pos hname, List.singleton_append,
    List.takeWhile_cons_of_neg (by simp), List.append_nil, List.reverse_reverse]

/-- The mentions of a text, one after the other. -/
@[simp] theorem namesInCode_escape (mentions : List Mention) :
    namesInCode (escape (String.join (mentions.map Mention.text)).toList)
      = mentions.map fun m => m.name.toList := by
  rw [namesInCode, unescape_escape]
  -- each mention ends at its closing bracket, and after the last one nothing is left
  induction mentions with
  | nil => rfl
  | cons m mentions ih =>
    have hpiece : '>' ∉ m.lead.toList ++ '<' :: m.name.toList := by
      rw [List.mem_append, List.mem_cons, not_or, not_or]
      exact ⟨m.lead_lacks '>' (by decide), by decide, m.name_lacks '>' (by decide)⟩
    have htext : (String.join ((m :: mentions).map Mention.text)).toList
        = (m.lead.toList ++ '<' :: m.name.toList)
          ++ '>' :: (String.join (mentions.map Mention.text)).toList := by
      simp [Mention.text]
    have hname : (!m.name.toList.isEmpty) = true := by
      rw [Bool.not_eq_true', List.isEmpty_eq_false_iff]
      exact fun h => m.name_ne (String.toList_eq_nil_iff.1 h)
    rw [htext, List.splitOn_append_cons_self_of_not_mem hpiece, List.map_cons,
      afterLast_append _ (m.name_lacks '<' (by decide)), List.filter_cons, if_pos hname, ih,
      List.map_cons]

/-! ### The page as a listing -/

/-- The row as a link, its mentions in markup. -/
def Row.toLink (r : Row) : Link where
  address := r.address
  lead := r.lead
  attributes := r.attributes
  content := String.ofList (escape r.content.toList)
  tail := r.tail
  address_lacks := r.address_lacks
  lead_lacks := r.lead_lacks
  attributes_lacks := r.attributes_lacks
  attributes_blank := r.attributes_blank
  content_lacks := by
    intro c hc
    rw [List.mem_singleton.1 hc, String.toList_ofList]
    exact not_mem_escape (Or.inl rfl) _
  tail_lacks := r.tail_lacks

namespace StandardTable

variable (t : StandardTable)

/-- The table with the class that marks it among its other classes. -/
def toClassedTable : ClassedTable where
  lead := t.lead
  classes := t.classesBefore ++ "standard-table" ++ t.classesAfter
  links := t.rows.map Row.toLink
  lead_lacks := t.lead_lacks
  classes_lacks := by
    have hword : Lacks ['\x22', '=', '<', '>'] "standard-table" := by decide
    intro c hc
    rw [String.toList_append, String.toList_append, List.mem_append, List.mem_append, not_or,
      not_or]
    exact ⟨⟨t.before_lacks c hc, hword c hc⟩, t.after_lacks c hc⟩

theorem isMarked_toClassedTable : t.toClassedTable.IsMarked := by
  have hblank : Text.isWordChar ' ' = false := by decide
  refine ⟨t.classesBefore.toList, t.classesAfter.toList, ?_, fun c hc => ?_, fun c hc => ?_⟩
  · rw [toClassedTable, String.toList_append, String.toList_append]
    rfl
  · rwa [t.before_blank c hc]
  · rwa [t.after_blank c hc]

/-- The rows of the table in markup. -/
def body : List Char :=
  (String.join (t.rows.map Row.text)).toList

@[simp] theorem body_toClassedTable : t.toClassedTable.body = t.body := by
  rw [ClassedTable.body, toClassedTable, List.map_map]
  rfl

@[simp] theorem text_toClassedTable : t.toClassedTable.text = t.text := by
  rw [ClassedTable.text, text, toClassedTable, List.map_map]
  simp only [String.append_assoc]
  rfl

/-- The names in a table are those of its rows. -/
theorem names_body :
    (elements "a".toList t.body).flatMap
        (fun link => (elements "code".toList link).flatMap namesInCode)
      = t.rows.flatMap fun row => row.mentions.map fun m => m.name.toList := by
  rw [← body_toClassedTable, ClassedTable.names_body, toClassedTable, List.flatMap_map]
  refine List.flatMap_congr fun row _ => ?_
  rw [Row.toLink, String.toList_ofList]
  exact namesInCode_escape row.mentions

end StandardTable

/-- The page as a listing. -/
def Reference.toListing (page : Reference) : Listing where
  tables := page.tables.map StandardTable.toClassedTable
  tail := page.tail
  tail_lacks := page.tail_lacks

@[simp] theorem Reference.text_toListing (page : Reference) : page.toListing.text = page.text := by
  rw [Listing.text, text, toListing, List.map_map]
  congr 2
  exact List.map_congr_left fun t _ => t.text_toClassedTable

/-- All tables of a reference page count. -/
@[simp] theorem standardTables_text (page : Reference) :
    standardTables page.text.toList = page.tables.map StandardTable.body := by
  have hmarked : ∀ t ∈ page.toListing.tables, decide t.IsMarked = true := by
    intro t ht
    obtain ⟨table, -, rfl⟩ := List.mem_map.1 ht
    exact decide_eq_true table.isMarked_toClassedTable
  rw [← page.text_toListing, standardTables_listing, List.filter_eq_self.2 hmarked,
    Reference.toListing, List.map_map]
  exact List.map_congr_left fun t _ => t.body_toClassedTable

/-- **A page gives back its names.**  Taken from a reference page, the tag names are exactly those
that its rows mention, in the order of the page and each as often as it is mentioned. -/
theorem tagNames_text (page : Reference) : tagNames page.text = page.names := by
  have hnames : ∀ table : StandardTable,
      (table.rows.flatMap fun row => row.mentions.map fun m => m.name.toList).map String.ofList
        = table.rows.flatMap fun row => row.mentions.map Mention.name := by
    intro table
    simp [List.map_flatMap, Function.comp_def]
  rw [tagNames, tagNameChars, standardTables_text, List.flatMap_map, List.map_flatMap]
  refine List.flatMap_congr fun table _ => ?_
  rw [table.names_body, hnames]

/-- A page with the heading tags, which stand in one cell. -/
def headingPage : Reference where
  tables := [{
    lead := "Headings"
    classesBefore := "wide "
    classesAfter := ""
    rows := [{
      address := "/docs/Heading_Elements"
      lead := ""
      attributes := " dir=ltr"
      mentions := [⟨"", "h1", by decide, by decide, by decide⟩,
        ⟨" & more, up to &lt;", "h6", by decide, by decide, by decide⟩]
      tail := ""
      address_lacks := by decide
      lead_lacks := by decide
      attributes_lacks := by decide
      attributes_blank := by simp
      tail_lacks := by decide }]
    lead_lacks := by decide
    before_lacks := by decide
    before_blank := by simp
    after_lacks := by decide
    after_blank := by simp }]
  tail := "\n"
  tail_lacks := by decide

theorem tagNames_headingPage : tagNames headingPage.text = ["h1", "h6"] :=
  tagNames_text headingPage

end ErrorScaffold.Page
