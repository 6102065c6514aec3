/-
Kinds that are appended.

A catalog that goes on where another ends leaves the ordinals of the first kinds alone, and so a
report of these.  Its header can be made only if that of the first kinds can, and each list in it
starts with the one that stands in the other header.

* `Catalog.Extends.marker?_eq`, `ordinalOf?_eq` — ordinals and marker types of the first kinds;
* `Catalog.Extends.report_eq` — the report of a state in which no other kind is recorded;
* `Accepts.of_sublist`, `continues_build` — the header, and the lists in it;
* `ofNames_append_exact` — all this for lists of names.
-/
import ErrorScaffold.Proofs.Catalog.Ordinals
import ErrorScaffold.Proofs.Header.Pairs
import ErrorScaffold.Proofs.Header.Views
import ErrorScaffold.Proofs.Report.Meaning

namespace ErrorScaffold

open Header

/-! ### Ordinals and reports -/

namespace Catalog

/-- The kinds of one catalog start with those of the other. -/
def Extends (big small : Catalog) : Prop :=
  small.kinds <+: big.kinds

namespace Extends

variable {small big : Catalog} (h : big.Extends small)
include h

theorem getElem?_kinds {position : Nat} (hlt : position < small.size) :
    big.kinds[position]? = small.kinds[position]? := by
  have hlt : position < small.kinds.length := hlt
  rw [List.prefix_iff_getElem?.1 h position hlt, List.getElem?_eq_getElem hlt]

theorem marker?_eq {o : Ordinal} (ho : o.value ≤ small.size) : big.marker? o = small.marker? o := by
  obtain ⟨_ | position⟩ := o
  · rfl
  · rw [marker?_succ, marker?_succ, h.getElem?_kinds ho]

/-- A name keeps its ordinal, since no later kind has this name. -/
theorem ordinalOf?_eq {name : String} {o : Ordinal} (ho : small.ordinalOf? name = some o) :
    big.ordinalOf? name = some o := by
  have hmarker := ordinalOf?_eq_some_iff.1 ho
  rw [ordinalOf?_eq_some_iff, h.marker?_eq (value_of_marker?_eq_kind hmarker).2, hmarker]

theorem slotReport?_eq (slot : Nat) {w : Warning} (hw : w.kind.value ≤ small.size) :
    big.slotReport? slot w = small.slotReport? slot w := by
  rw [Catalog.slotReport?_eq, Catalog.slotReport?_eq]
  obtain ⟨⟨_ | position⟩, row, col⟩ := w
  · rfl
  · dsimp only
    rw [h.getElem?_kinds hw]

theorem report_eq (budget : SlotBudget) {warnings : List Warning} {e : HardError}
    (hwarnings : ∀ w ∈ warnings, w.kind.value ≤ small.size) (he : e.kind.value ≤ small.size) :
    big.report budget warnings e = small.report budget warnings e := by
  have hslots : big.slotReports budget warnings = small.slotReports budget warnings := by
    refine List.filterMap_congr fun (w, slot) hentry => ?_
    have hw : w ∈ warnings := List.mem_of_mem_take (List.fst_mem_of_mem_zipIdx hentry)
    exact h.slotReport?_eq slot (hwarnings w hw)
  have herror : big.hardError e = small.hardError e := by
    rw [hardError, hardError, h.marker?_eq he]
  rw [report, report, hslots, herror]

theorem entries_isPrefix : small.entries <+: big.entries := by
  obtain ⟨more, hmore⟩ := h
  rw [entries, entries, numberedKinds, numberedKinds, ← hmore, List.zipIdx_append]
  simp only [List.map_append]
  exact ⟨_, List.cons_append⟩

end Extends

end Catalog

/-! ### Headers -/

/-- The lines of a section, each of which ends in a newline. -/
def Header.sectionLines (text : String) : List (List Char) :=
  (Text.lines text.toList).dropLast

/-- What the sections of one header list starts with what those of the other list, and the same
slots are guarded. -/
structure Header.Continues (longer h : Header) : Prop where
  /-- The enumerators. -/
  enumerators : (Text.lines h.ordinals.toList).filterMap Reading.enumerator?
    <+: (Text.lines longer.ordinals.toList).filterMap Reading.enumerator?
  /-- The declarations of the marker types, line by line. -/
  markers : sectionLines h.markers <+: sectionLines longer.markers
  /-- The mapping and its specializations, line by line. -/
  mapping : sectionLines h.specializations <+: sectionLines longer.specializations
  /-- The trials of each block. -/
  trials : List.Forall₂ (fun b b' => b.slot = b'.slot ∧ b.trials <+: b'.trials)
    ((Text.lines h.dispatch.toList).foldr Reading.addLine ([], [])).2
    ((Text.lines longer.dispatch.toList).foldr Reading.addLine ([], [])).2

namespace Header.Layout

theorem sectionLines_eq {text : String} {ls : List Line} (htext : text.toList = Line.textOf ls)
    (hn : ∀ line ∈ ls, line.IsNamed) : sectionLines text = ls.map Line.chars := by
  rw [sectionLines, htext, Line.lines_textOf hn, List.dropLast_concat]

end Header.Layout

namespace UsableSchema

variable {u : UsableSchema} {small big : Catalog}

/-- No kind is needed for another. -/
theorem Accepts.of_sublist (h : u.Accepts big) (hkinds : small.kinds.Sublist big.kinds) :
    u.Accepts small :=
  accepts_of_pairwise (fun _ hname => h.stands (hkinds.subset hname))
    (h.pairwise_apart.sublist hkinds)

theorem continues_build (u : UsableSchema) (budget : SlotBudget)
    (h : big.Extends small) :
    (build u.schema big budget).Continues (build u.schema small budget) := by
  have hn := isNamed_build u small budget
  have hn' := isNamed_build u big budget
  have hrows : (build u.schema small budget).rows <+: (build u.schema big budget).rows :=
    h.entries_isPrefix.map _
  -- the rows are a prefix, and each section is made row by row
  exact {
    enumerators := by
      rw [Reading.enumerators_ordinals hn (OrdinalRow.table_ne_nil _ _),
        Reading.enumerators_ordinals hn' (OrdinalRow.table_ne_nil _ _)]
      exact hrows.map _
    markers := by
      rw [Layout.sectionLines_eq (toList_markers _) (Layout.isNamed_markers hn),
        Layout.sectionLines_eq (toList_markers _) (Layout.isNamed_markers hn')]
      exact (hrows.map _).map _
    mapping := by
      rw [Layout.sectionLines_eq (toList_specializations _) (Layout.isNamed_specializations hn),
        Layout.sectionLines_eq (toList_specializations _) (Layout.isNamed_specializations hn')]
      have hlines := hrows.map (Layout.specialization u.schema)
      exact ((List.prefix_cons_inj _).2 ((List.prefix_cons_inj _).2 hlines)).map _
    trials := by
      rw [Reading.blocks_dispatch hn, Reading.blocks_dispatch hn', build, build,
        List.forall₂_map_left_iff, List.forall₂_map_right_iff, List.forall₂_same]
      exact fun slot _ => ⟨rfl, h.map _⟩ }

end UsableSchema

/-! ### Lists of names -/

namespace Catalog

/-- The first of the names of a catalog make a catalog. -/
theorem exists_ofNames_of_append {names more : List String} {big : Catalog}
    (hbig : ofNames (names ++ more) = .ok big) :
    ∃ small, ofNames names = .ok small ∧ small.kinds = names ∧ big.Extends small := by
  have hkinds := ofNames_eq_ok_iff.1 hbig
  have hbegins : names <+: big.kinds := ⟨more, hkinds.symm⟩
  let small : Catalog :=
    ⟨names, fun name hname => big.usable name (hbegins.subset hname),
      big.distinct.sublist hbegins.sublist⟩
  exact ⟨small, ofNames_eq_ok_iff.2 rfl, rfl, hbegins⟩

/-- **Kinds can be appended to a catalog without a change to those before them.**  If a list of
names makes a catalog then so does its beginning; there both catalogs have the same ordinals and
marker types, and they report alike what is recorded with these ordinals.  A schema that gives the
longer catalog a header gives the other one a header as well, which the longer header goes on
from. -/
theorem ofNames_append_exact {names more : List String} {big : Catalog}
    (hbig : ofNames (names ++ more) = .ok big) :
    ∃ small, ofNames names = .ok small ∧
      (∀ o : Ordinal, o.value ≤ names.length →
        ∃ marker, small.marker? o = some marker ∧ big.marker? o = some marker) ∧
      (∀ name ∈ names, ∃ o, small.ordinalOf? name = some o ∧ big.ordinalOf? name = some o) ∧
      (∀ (budget : SlotBudget) (warnings : List Warning) (e : HardError),
        (∀ w ∈ warnings, w.kind.value ≤ names.length) → e.kind.value ≤ names.length →
          ∃ r, small.report budget warnings e = .ok r ∧ big.report budget warnings e = .ok r) ∧
      ∀ (u : UsableSchema) (budget : SlotBudget) (longer : Header),
        u.header big budget = .ok longer →
          ∃ h, u.header small budget = .ok h ∧ longer.Continues h := by
  obtain ⟨small, hsmall, rfl, hextends⟩ := exists_ofNames_of_append hbig
  refine ⟨small, hsmall, fun o ho => ?_, fun name hname => ?_, fun budget warnings e hw he => ?_,
    fun u budget longer hlonger => ?_⟩
  · obtain ⟨marker, hmarker⟩ := Option.ne_none_iff_exists'.1
      (mt marker?_eq_none_iff.1 (Nat.not_le.2 (Nat.lt_succ_of_le ho)))
    exact ⟨marker, hmarker, (hextends.marker?_eq ho).trans hmarker⟩
  · obtain ⟨o, ho⟩ := Option.ne_none_iff_exists'.1 (mt ordinalOf?_eq_none_iff.1 (not_not.2 hname))
    exact ⟨o, ho, hextends.ordinalOf?_eq ho⟩
  · -- no ordinal that is recorded is beyond the shorter catalog, so it reports as well
    have hreport := hextends.report_eq budget hw he
    cases hsmall : small.report budget warnings e with
    | ok r => exact ⟨r, rfl, hreport.trans hsmall⟩
    | error fault =>
      obtain ⟨⟨-, -, hbeyond⟩, -⟩ := report_eq_error_iff.1 hsmall
      exact absurd he (Nat.not_le.2 hbeyond)
  · obtain ⟨haccepts, rfl⟩ := UsableSchema.header_eq_ok_iff.1 hlonger
    exact ⟨_, UsableSchema.header_of_accepts (haccepts.of_sublist hextends.sublist),
      u.continues_build budget hextends⟩

/-- A third kind leaves the first two where they are, and a report of them as it is. -/
theorem ofNames_append_third :
    ∃ small big, ofNames ["Missing_quote", "Unknown_tag"] = .ok small ∧
      ofNames ["Missing_quote", "Unknown_tag", "Duplicate_id"] = .ok big ∧
      big.marker? ⟨2⟩ = small.marker? ⟨2⟩ ∧
      big.ordinalOf? "Unknown_tag" = small.ordinalOf? "Unknown_tag" ∧
      (∃ r, small.report .standard [⟨⟨2⟩, 4, 1⟩] ⟨⟨1⟩, 7, 3⟩ = .ok r ∧
        big.report .standard [⟨⟨2⟩, 4, 1⟩] ⟨⟨1⟩, 7, 3⟩ = .ok r) ∧
      ∃ h longer, UsableSchema.standard.header small .standard = .ok h ∧
        UsableSchema.standard.header big .standard = .ok longer ∧ longer.Continues h := by
  let big : Catalog :=
    ⟨["Missing_quote", "Unknown_tag", "Duplicate_id"], by decide +kernel, by decide +kernel⟩
  have hbig : ofNames (["Missing_quote", "Unknown_tag"] ++ ["Duplicate_id"]) = .ok big :=
    ofNames_eq_ok_iff.2 rfl
  obtain ⟨small, hsmall, hmarker, hordinal, hreport, hheader⟩ := ofNames_append_exact hbig
  obtain ⟨marker, hm, hm'⟩ := hmarker ⟨2⟩ (by decide)
  obtain ⟨o, ho, ho'⟩ := hordinal "Unknown_tag" (by decide)
  -- what is left to show is that the longer catalog has a header
  have hlonger : UsableSchema.standard.header big .standard
      = .ok (.build UsableSchema.standard.schema big .standard) :=
    UsableSchema.header_of_accepts (UsableSchema.kindError?_eq_none_iff.1 (by decide +kernel))
  obtain ⟨h, hh, hcontinues⟩ := hheader _ _ _ hlonger
  exact ⟨small, big, hsmall, hbig, hm'.trans hm.symm, ho'.trans ho.symm,
    hreport .standard [⟨⟨2⟩, 4, 1⟩] ⟨⟨1⟩, 7, 3⟩ (by decide) (by decide),
    h, _, hh, hlonger, hcontinues⟩

end Catalog

end ErrorScaffold
