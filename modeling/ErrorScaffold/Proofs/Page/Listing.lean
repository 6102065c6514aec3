/-
Pages of tables whose rows link to elements.

A `Listing` is a page that was written table by table, whatever the classes of the tables are, and
row by row, with one link in each row and one `code` element in the link.  Its text is found again
piece by piece: of each table the classes decide whether it counts, and of each row of one that
does the text of the link is looked at.

* `Link.elements_body`, `elements_links` — the links of a table, and the text of each;
* `standardTables_listing` — the tables of a page that count;
* `tagNames_listing` — the names of the page are those in the rows of these tables.
-/
import ErrorScaffold.Page.TagName
import ErrorScaffold.Proofs.Page.Scanning
import Mathlib.Data.List.Basic

namespace ErrorScaffold.Page

open Text

/-- None of the characters stands in the text. -/
def Lacks (characters : List Char) (text : String) : Prop :=
  ∀ c ∈ characters, c ∉ text.toList

instance (characters : List Char) (text : String) : Decidable (Lacks characters text) :=
  decidable_of_iff (characters.all (fun c => !text.toList.contains c) = true) (by simp [Lacks])

/-! ### The layout of a page -/

/-- A row of a table: a link to an element, with the element's text in markup. -/
structure Link where
  address : String
  lead : String
  attributes : String
  content : String
  tail : String
  address_lacks : Lacks ['\x22', '<', '>'] address
  lead_lacks : Lacks ['<'] lead
  attributes_lacks : Lacks ['<', '>'] attributes
  attributes_blank : ∀ c ∈ attributes.toList.head?, c = ' '
  content_lacks : Lacks ['<'] content
  tail_lacks : Lacks ['<'] tail

def Link.text (l : Link) : String :=
  "<tr><td><a href=\"" ++ l.address ++ "\">" ++ l.lead ++ "<code" ++ l.attributes ++ ">"
    ++ l.content ++ "</code>" ++ l.tail ++ "</a></td></tr>"

/-- A table with the value of its class attribute, and the text of the page before it. -/
structure ClassedTable where
  lead : String
  classes : String
  links : List Link
  lead_lacks : Lacks ['<'] lead
  classes_lacks : Lacks ['\x22', '=', '<', '>'] classes

def ClassedTable.text (t : ClassedTable) : String :=
  t.lead ++ "<table class=\"" ++ t.classes ++ "\">" ++ String.join (t.links.map Link.text)
    ++ "</table>"

/-- A page: its tables, and the text after the last one. -/
structure Listing where
  tables : List ClassedTable
  tail : String
  tail_lacks : Lacks ['<'] tail

def Listing.text (page : Listing) : String :=
  String.join (page.tables.map ClassedTable.text) ++ page.tail

theorem toList_join_cons {α : Type} (f : α → String) (a : α) (as : List α) :
    (String.join ((a :: as).map f)).toList
      = (f a).toList ++ (String.join (as.map f)).toList := by
  rw [List.map_cons, String.join_cons, String.toList_append]

/-! ### Links -/

namespace Link

variable (l : Link)

/-- What stands between the tags of the link. -/
def body : List Char :=
  l.lead.toList ++ writtenElement "code".toList l.attributes.toList l.content.toList
    ++ l.tail.toList

def element : List Char :=
  writtenElement "a".toList (" href=\"".toList ++ l.address.toList ++ ['\x22']) l.body

/-- The names that the text of the link mentions. -/
def names : List String :=
  (namesInCode l.content.toList).map String.ofList

theorem toList_text :
    l.text.toList = "<tr><td>".toList ++ l.element ++ "</td></tr>".toList := by
  unfold text element body writtenElement closing
  simp only [String.toList_append, String.reduceToList, List.append_assoc, List.cons_append,
    List.nil_append]

/-- The body of a link holds nothing that could be taken for `needle`. -/
theorem avoids_body {needle : List Char}
    (hopen : differsThroughout ('<' :: needle) "<code".toList = true)
    (hclose : differsThroughout ('<' :: needle) (closing "code".toList) = true) :
    Avoids ('<' :: needle) l.body := by
  have hlead : Avoids ('<' :: needle) l.lead.toList :=
    avoids_of_not_mem (l.lead_lacks '<' (by decide))
  have hattributes : Avoids ('<' :: needle) (l.attributes.toList ++ ['>']) := by
    refine avoids_of_not_mem ?_
    rw [List.mem_append, not_or]
    exact ⟨l.attributes_lacks '<' (by decide), by decide⟩
  have hcontent : Avoids ('<' :: needle) l.content.toList :=
    avoids_of_not_mem (l.content_lacks '<' (by decide))
  have htail : Avoids ('<' :: needle) l.tail.toList :=
    avoids_of_not_mem (l.tail_lacks '<' (by decide))
  exact (hlead.append (((avoids_of_differs hopen).append hattributes).append
    (hcontent.append (avoids_of_differs hclose)))).append htail

/-- The only text of the link is its content. -/
@[simp] theorem elements_body : elements "code".toList l.body = [l.content.toList] := by
  -- the attributes are empty or start with a blank, so that the name ends there
  have hboundary : atWordBoundary (l.attributes.toList ++ ['>']) = true := by
    rw [atWordBoundary, List.head?_append]
    cases hhead : l.attributes.toList.head? with
    | none => decide
    | some c =>
      obtain rfl := l.attributes_blank c hhead
      decide
  have hattributes : '>' ∉ l.attributes.toList := l.attributes_lacks '>' (by decide)
  have hcontent : Avoids (closing "code".toList) l.content.toList :=
    avoids_of_not_mem (l.content_lacks '<' (by decide))
  have hlead : Avoids ('<' :: "code".toList) l.lead.toList :=
    avoids_of_not_mem (l.lead_lacks '<' (by decide))
  have htail : Avoids ('<' :: "code".toList) l.tail.toList :=
    avoids_of_not_mem (l.tail_lacks '<' (by decide))
  rw [body, List.append_assoc, elements_append hlead,
    elements_writtenElement hboundary hattributes hcontent, elements_of_avoids htail]

/-- In a row nothing stands that could be taken for `needle`. -/
theorem avoids_text {needle : List Char}
    (hrow : differsThroughout ('<' :: needle) "<tr><td><a href=\"".toList = true)
    (hend : differsThroughout ('<' :: needle) "</a></td></tr>".toList = true)
    (hopen : differsThroughout ('<' :: needle) "<code".toList = true)
    (hclose : differsThroughout ('<' :: needle) (closing "code".toList) = true) :
    Avoids ('<' :: needle) l.text.toList := by
  have haddress : Avoids ('<' :: needle) (l.address.toList ++ ['\x22', '>']) := by
    refine avoids_of_not_mem ?_
    rw [List.mem_append, not_or]
    exact ⟨l.address_lacks '<' (by decide), by decide⟩
  have htext : l.text.toList = "<tr><td><a href=\"".toList ++ (l.address.toList ++ ['\x22', '>'])
      ++ (l.body ++ "</a></td></tr>".toList) := by
    unfold text body writtenElement closing
    simp only [String.toList_append, String.reduceToList, List.append_assoc, List.cons_append,
      List.nil_append]
  rw [htext]
  exact ((avoids_of_differs hrow).append haddress).append
    ((l.avoids_body hopen hclose).append (avoids_of_differs hend))

/-- The link of a row in front of other rows. -/
@[simp] theorem elements_text_append (rest : List Char) :
    elements "a".toList (l.text.toList ++ rest) = l.body :: elements "a".toList rest := by
  have hfront : Avoids ('<' :: "a".toList) "<tr><td>".toList := avoids_of_differs (by decide)
  have hback : Avoids ('<' :: "a".toList) "</td></tr>".toList := avoids_of_differs (by decide)
  have hattributes : '>' ∉ " href=\"".toList ++ l.address.toList ++ ['\x22'] := by
    have hnot : '>' ∉ l.address.toList := l.address_lacks '>' (by decide)
    simpa using hnot
  have hbody : Avoids (closing "a".toList) l.body := l.avoids_body (by decide) (by decide)
  rw [toList_text, List.append_assoc, List.append_assoc, elements_append hfront, element,
    elements_writtenElement rfl hattributes hbody, elements_append hback]

end Link

/-- The links of a table are those of its rows. -/
@[simp] theorem elements_links (links : List Link) :
    elements "a".toList (String.join (links.map Link.text)).toList = links.map Link.body := by
  induction links with
  | nil => exact elements_of_avoids .nil
  | cons l links ih => rw [toList_join_cons, l.elements_text_append, ih, List.map_cons]

/-- What no row holds, the rows together do not hold. -/
theorem avoids_links {needle : List Char} {links : List Link}
    (h : ∀ l ∈ links, Avoids needle l.text.toList) :
    Avoids needle (String.join (links.map Link.text)).toList := by
  induction links with
  | nil =>
    rw [List.map_nil, String.join_nil, String.toList_empty]
    exact .nil
  | cons l links ih =>
    rw [List.forall_mem_cons] at h
    rw [toList_join_cons]
    exact h.1.append (ih h.2)

/-! ### Tables -/

@[simp] theorem hasWord_standardTableWord_iff {text : List Char} :
    hasWord standardTableWord text = true ↔ StandsAlone standardTableWord text :=
  hasWord_iff (by decide)

instance (text : List Char) : Decidable (StandsAlone standardTableWord text) :=
  decidable_of_iff _ hasWord_standardTableWord_iff

namespace ClassedTable

variable (t : ClassedTable)

/-- The rows of the table. -/
def body : List Char :=
  (String.join (t.links.map Link.text)).toList

/-- The names that the rows mention. -/
def names : List String :=
  t.links.flatMap Link.names

/-- The classes mark the table. -/
def IsMarked : Prop :=
  StandsAlone standardTableWord t.classes.toList

instance : Decidable t.IsMarked :=
  inferInstanceAs (Decidable (StandsAlone _ _))

theorem toList_text :
    t.text.toList = t.lead.toList ++ writtenTable t.classes.toList t.body := by
  unfold text writtenTable writtenElement classedAttributes classAttribute body closing
  simp only [String.toList_append, String.reduceToList, List.append_assoc, List.cons_append,
    List.nil_append]

/-- A table in front of the rest of the page. -/
theorem standardTables_text_append (rest : List Char) :
    standardTables (t.text.toList ++ rest)
      = if t.IsMarked then t.body :: standardTables rest else standardTables rest := by
  have hlead : Avoids ('<' :: "table".toList) t.lead.toList :=
    avoids_of_not_mem (t.lead_lacks '<' (by decide))
  have hclose : Avoids (closing "table".toList) t.body :=
    avoids_links fun l _ => l.avoids_text (by decide) (by decide) (by decide) (by decide)
  have hopen : Avoids ('<' :: "table".toList) t.body :=
    avoids_links fun l _ => l.avoids_text (by decide) (by decide) (by decide) (by decide)
  rw [toList_text, List.append_assoc, standardTables_append hlead,
    standardTables_writtenTable t.classes_lacks hclose hopen]
  exact if_congr hasWord_standardTableWord_iff rfl rfl

/-- What is looked at in a table are the texts of its links. -/
theorem names_body {α : Type} (f : List Char → List α) :
    (elements "a".toList t.body).flatMap (fun link => (elements "code".toList link).flatMap f)
      = t.links.flatMap fun l => f l.content.toList := by
  rw [body, elements_links, List.flatMap_map]
  refine List.flatMap_congr fun l _ => ?_
  rw [l.elements_body, List.flatMap_singleton]

end ClassedTable

/-! ### The page -/

/-- The tables that count are those that their classes mark. -/
@[simp] theorem standardTables_listing (page : Listing) :
    standardTables page.text.toList
      = (page.tables.filter fun t => t.IsMarked).map ClassedTable.body := by
  have htail : Avoids ('<' :: "table".toList) page.tail.toList :=
    avoids_of_not_mem (page.tail_lacks '<' (by decide))
  rw [Listing.text, String.toList_append]
  induction page.tables with
  | nil => exact standardTables_of_avoids htail
  | cons t tables ih =>
    rw [toList_join_cons, List.append_assoc, t.standardTables_text_append, ih, List.filter_cons]
    by_cases hmarked : t.IsMarked
    · rw [if_pos hmarked, if_pos (decide_eq_true hmarked), List.map_cons]
    · rw [if_neg hmarked, if_neg (by simpa using hmarked)]

/-- The names of a page are those in its marked tables. -/
theorem tagNames_listing (page : Listing) :
    tagNames page.text
      = (page.tables.filter fun t => t.IsMarked).flatMap ClassedTable.names := by
  rw [tagNames, tagNameChars, standardTables_listing, List.flatMap_map, List.map_flatMap]
  refine List.flatMap_congr fun t _ => ?_
  rw [t.names_body, List.map_flatMap]
  rfl

end ErrorScaffold.Page
