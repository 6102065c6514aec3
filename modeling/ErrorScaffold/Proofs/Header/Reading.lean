/-
The sections of a header read back.

`Reading.ofSections` takes the enumerators, the map from enumerators to marker types and the
guarded blocks from the sections, line by line and without knowing the schema.

* `Reading.ofSections_eq` — for a header whose names are words, the sections say what the header
  holds: the enumerators and marker types of its rows, and its blocks.
-/
import ErrorScaffold.Proofs.Header.Words
import Std.Data.String.ToNat

namespace ErrorScaffold

open Header Identifier

/-- What the sections of a header say. -/
structure Reading where
  /-- The enumerators; the position of one is its ordinal. -/
  enumerators : List String
  /-- The marker type of each enumerator. -/
  mapping : List (String × String)
  blocks : List Header.Block
  deriving DecidableEq

/-! ### Reading -/

namespace Reading

/-- The enumerator on a line of the enumeration. -/
def enumerator? (line : List Char) : Option String :=
  match (Layout.enumeratorForm.read line).or (Layout.lastEnumeratorForm.read line) with
  | some [name] => some name
  | _ => none

/-- The enumerator and the marker type on a line that specializes the mapping. -/
def specialization? (line : List Char) : Option (String × String) :=
  match Layout.specializationForm.read line with
  | some [_, enumerator, marker] => some (enumerator, marker)
  | _ => none

/-- The index in the guard of a block. -/
def guard? (line : List Char) : Option Nat :=
  match Layout.guardForm.read line with
  | some [slot] => slot.toNat?
  | _ => none

/-- The enumerator that a trial tests. -/
def trial? (line : List Char) : Option String :=
  match Layout.trialForm.read line with
  | some [_, _, _, _, enumerator, _, _, _, _, _, _, _] => some enumerator
  | _ => none

/-- Puts a line in front of the lines after it, which are the trials before the next guard and
the blocks from there on. -/
def addLine (line : List Char) (rest : List String × List Header.Block) :
    List String × List Header.Block :=
  match guard? line, trial? line with
  | some slot, _ => ([], ⟨slot, rest.1⟩ :: rest.2)
  | none, some enumerator => (enumerator :: rest.1, rest.2)
  | none, none => rest

/-- The sections read line by line. -/
def ofSections (ordinals specializations dispatch : String) : Reading where
  enumerators := (Text.lines ordinals.toList).filterMap enumerator?
  mapping := (Text.lines specializations.toList).filterMap specialization?
  blocks := ((Text.lines dispatch.toList).foldr addLine ([], [])).2

/-! ### Forms that do not read each other -/

theorem clashes_enumeratorForm :
    ∀ form ∈ [Layout.lastEnumeratorForm, Layout.enumForm, Layout.openForm, Layout.closeForm],
      LineForm.clashes Layout.enumeratorForm.symbols form.symbols = true := by
  decide

theorem clashes_lastEnumeratorForm :
    ∀ form ∈ [Layout.enumForm, Layout.openForm, Layout.closeForm],
      LineForm.clashes Layout.lastEnumeratorForm.symbols form.symbols = true := by
  decide

theorem clashes_specializationForm :
    ∀ form ∈ [Layout.primaryForm, Layout.blankForm],
      LineForm.clashes Layout.specializationForm.symbols form.symbols = true := by
  decide

theorem clashes_guardForm :
    ∀ form ∈ [Layout.trialForm, Layout.openBlockForm, Layout.bindingForm, Layout.closeBlockForm],
      LineForm.clashes Layout.guardForm.symbols form.symbols = true := by
  decide

theorem clashes_trialForm :
    ∀ form ∈ [Layout.openBlockForm, Layout.bindingForm, Layout.closeBlockForm],
      LineForm.clashes Layout.trialForm.symbols form.symbols = true := by
  decide

/-! ### Reading what was written -/

theorem enumerator?_enumerator {name : String} (hn : (Layout.enumerator name).IsNamed) :
    enumerator? (Layout.enumerator name).chars = some name := by
  have hread : Layout.enumeratorForm.read (Layout.enumerator name).chars = some [name] :=
    Line.read_chars hn
  rw [enumerator?, hread]
  rfl

theorem enumerator?_lastEnumerator {name : String}
    (hn : (Layout.lastEnumerator name).IsNamed) :
    enumerator? (Layout.lastEnumerator name).chars = some name := by
  have hread : Layout.lastEnumeratorForm.read (Layout.lastEnumerator name).chars = some [name] :=
    Line.read_chars hn
  rw [enumerator?, Line.read_chars_of_clashes hn (clashes_enumeratorForm _ (.head _)), hread]
  rfl

theorem enumerator?_eq_none {line : Line} (hn : line.IsNamed)
    (hform : line.form ∈ [Layout.enumForm, Layout.openForm, Layout.closeForm]) :
    enumerator? line.chars = none := by
  rw [enumerator?, Line.read_chars_of_clashes hn (clashes_enumeratorForm _ (.tail _ hform)),
    Line.read_chars_of_clashes hn (clashes_lastEnumeratorForm _ hform)]
  rfl

theorem filterMap_enumerators {names : List String}
    (hn : ∀ line ∈ Layout.enumerators names, line.IsNamed) :
    ((Layout.enumerators names).map Line.chars).filterMap enumerator? = names := by
  induction names with
  | nil => rfl
  | cons name names ih =>
    cases names with
    | nil =>
      rw [Layout.enumerators, List.forall_mem_singleton] at hn
      rw [Layout.enumerators, List.map_singleton,
        List.filterMap_cons_some (enumerator?_lastEnumerator hn)]
      rfl
    | cons next names =>
      rw [Layout.enumerators_cons_cons, List.forall_mem_cons] at hn
      rw [Layout.enumerators_cons_cons, List.map_cons,
        List.filterMap_cons_some (enumerator?_enumerator hn.1), ih hn.2]

/-- The enumeration lists the enumerators of the rows. -/
theorem enumerators_ordinals {h : Header} (hn : h.IsNamed) (hrows : h.rows ≠ []) :
    (Text.lines h.ordinals.toList).filterMap enumerator? = h.rows.map (·.enumerator) := by
  have hnamed := Layout.isNamed_ordinals hn
  rw [toList_ordinals hrows, Line.filterMap_lines_textOf (by decide) hnamed]
  rw [Layout.ordinals, List.cons_append, List.cons_append, List.forall_mem_cons,
    List.forall_mem_cons, List.forall_mem_append, List.forall_mem_singleton] at hnamed
  obtain ⟨hfirst, hopen, hnames, hclose⟩ := hnamed
  -- of all these lines only the enumerators are read
  rw [Layout.ordinals, List.cons_append, List.cons_append, List.map_cons, List.map_cons,
    List.map_append, List.map_singleton, List.filterMap_cons_none, List.filterMap_cons_none,
    List.filterMap_append, filterMap_enumerators hnames, List.filterMap_cons_none]
  · exact List.append_nil _
  · exact enumerator?_eq_none hclose (.tail _ (.tail _ (.head _)))
  · exact enumerator?_eq_none hopen (.tail _ (.head _))
  · exact enumerator?_eq_none hfirst (.head _)

theorem specialization?_specialization {s : Schema} {row : OrdinalRow}
    (hn : (Layout.specialization s row).IsNamed) :
    specialization? (Layout.specialization s row).chars = some (row.enumerator, row.marker) := by
  have hread : Layout.specializationForm.read (Layout.specialization s row).chars
      = some [s.mapping, row.enumerator, row.marker] :=
    Line.read_chars hn
  rw [specialization?, hread]

theorem specialization?_eq_none {line : Line} (hn : line.IsNamed)
    (hform : line.form ∈ [Layout.primaryForm, Layout.blankForm]) :
    specialization? line.chars = none := by
  rw [specialization?, Line.read_chars_of_clashes hn (clashes_specializationForm _ hform)]

/-- The specializations give the marker type of each enumerator. -/
theorem mapping_specializations {h : Header} (hn : h.IsNamed) :
    (Text.lines h.specializations.toList).filterMap specialization?
      = h.rows.map fun row => (row.enumerator, row.marker) := by
  have hnamed := Layout.isNamed_specializations hn
  rw [toList_specializations, Line.filterMap_lines_textOf (by decide) hnamed]
  rw [Layout.specializations, List.forall_mem_cons, List.forall_mem_cons] at hnamed
  obtain ⟨hprimary, hblank, hrows⟩ := hnamed
  rw [Layout.specializations, List.map_cons, List.map_cons, List.filterMap_cons_none,
    List.filterMap_cons_none, List.map_map]
  · refine Text.filterMap_written fun row hrow => ?_
    exact specialization?_specialization (hrows _ (List.mem_map_of_mem hrow))
  · exact specialization?_eq_none hblank (.tail _ (.head _))
  · exact specialization?_eq_none hprimary (.head _)

/-! ### Reading the blocks -/

theorem guard?_eq_none {line : Line} (hn : line.IsNamed)
    (hform : line.form ∈ [Layout.trialForm, Layout.openBlockForm, Layout.bindingForm,
      Layout.closeBlockForm]) :
    guard? line.chars = none := by
  rw [guard?, Line.read_chars_of_clashes hn (clashes_guardForm _ hform)]

theorem addLine_guard {slot : Nat} (hn : (Layout.blockGuard slot).IsNamed)
    (rest : List String × List Block) :
    addLine (Layout.blockGuard slot).chars rest = ([], ⟨slot, rest.1⟩ :: rest.2) := by
  have hread : Layout.guardForm.read (Layout.blockGuard slot).chars = some [slot.repr] :=
    Line.read_chars hn
  have hguard : guard? (Layout.blockGuard slot).chars = some slot := by
    rw [guard?, hread]
    exact Nat.toNat?_repr slot
  rw [addLine, hguard]

theorem addLine_trial {s : Schema} {name : String} (hn : (Layout.trial s name).IsNamed)
    (rest : List String × List Block) :
    addLine (Layout.trial s name).chars rest = (name :: rest.1, rest.2) := by
  have hread : Layout.trialForm.read (Layout.trial s name).chars
      = some (Layout.trial s name).names :=
    Line.read_chars hn
  have htrial : trial? (Layout.trial s name).chars = some name := by
    rw [trial?, hread]
    rfl
  rw [addLine, guard?_eq_none hn (.head _), htrial]

/-- The other lines of a block say nothing. -/
theorem addLine_other {line : Line} (hn : line.IsNamed)
    (hform : line.form ∈ [Layout.openBlockForm, Layout.bindingForm, Layout.closeBlockForm])
    (rest : List String × List Block) :
    addLine line.chars rest = rest := by
  have htrial : trial? line.chars = none := by
    rw [trial?, Line.read_chars_of_clashes hn (clashes_trialForm _ hform)]
  rw [addLine, guard?_eq_none hn (.tail _ hform), htrial]

theorem foldr_addLine_trials {s : Schema} {names : List String}
    (hn : ∀ line ∈ names.map (Layout.trial s), line.IsNamed) (rest : List String × List Block) :
    ((names.map (Layout.trial s)).map Line.chars).foldr addLine rest
      = (names ++ rest.1, rest.2) := by
  induction names with
  | nil => rfl
  | cons name names ih =>
    rw [List.map_cons, List.forall_mem_cons] at hn
    rw [List.map_cons, List.map_cons, List.foldr_cons, ih hn.2, addLine_trial hn.1]
    rfl

/-- The lines of a block in front of other blocks. -/
theorem foldr_addLine_block {s : Schema} {b : Block}
    (hn : ∀ line ∈ Layout.block s b, line.IsNamed) (blocks : List Block) :
    ((Layout.block s b).map Line.chars).foldr addLine ([], blocks) = ([], b :: blocks) := by
  rw [Layout.block, List.cons_append, List.cons_append, List.cons_append, List.cons_append,
    List.forall_mem_cons, List.forall_mem_cons, List.forall_mem_append, List.forall_mem_append,
    List.forall_mem_singleton] at hn
  obtain ⟨hguard, hopen, ⟨hbinding, htrials⟩, hclose⟩ := hn
  -- the binding is there or not, and is passed over
  have hbound : ∀ rest : List String × List Block,
      ((Layout.bindings s b).map Line.chars).foldr addLine rest = rest := by
    intro rest
    unfold Layout.bindings at hbinding ⊢
    split
    · rfl
    · next htrials =>
      rw [if_neg htrials, List.forall_mem_singleton] at hbinding
      exact addLine_other hbinding (.tail _ (.head _)) rest
  rw [Layout.block, List.cons_append, List.cons_append, List.cons_append, List.cons_append,
    List.map_cons, List.map_cons, List.map_append, List.map_append, List.map_singleton,
    -- from the last line back: the trials gather until the guard takes them
    List.foldr_cons, List.foldr_cons, List.foldr_append, List.foldr_append, List.foldr_cons,
    List.foldr_nil, addLine_other hclose (.tail _ (.tail _ (.head _))),
    foldr_addLine_trials htrials, hbound, addLine_other hopen (.head _), addLine_guard hguard,
    List.append_nil]

/-- The dispatch section lists the guarded blocks. -/
theorem blocks_dispatch {h : Header} (hn : h.IsNamed) :
    ((Text.lines h.dispatch.toList).foldr addLine ([], [])).2 = h.blocks := by
  -- the lines are read from the last one back, so each block finds those behind it done
  have hblocks : ∀ blocks : List Block,
      (∀ line ∈ blocks.flatMap (Layout.block h.schema), line.IsNamed) →
        ((blocks.flatMap (Layout.block h.schema)).map Line.chars).foldr addLine ([], [])
          = ([], blocks) := by
    intro blocks hnamed
    induction blocks with
    | nil => rfl
    | cons b blocks ih =>
      rw [List.flatMap_cons, List.forall_mem_append] at hnamed
      rw [List.flatMap_cons, List.map_append, List.foldr_append, ih hnamed.2,
        foldr_addLine_block hnamed.1]
  have hnamed := Layout.isNamed_dispatch hn
  have hlast : addLine [] ([], []) = ([], []) := by decide
  rw [toList_dispatch, Line.lines_textOf hnamed, List.foldr_append, List.foldr_cons, List.foldr_nil,
    hlast, Layout.dispatch, hblocks h.blocks hnamed]

/-- The sections say what the header holds. -/
theorem ofSections_eq {h : Header} (hn : h.IsNamed) (hrows : h.rows ≠ []) :
    ofSections h.ordinals h.specializations h.dispatch
      = ⟨h.rows.map (·.enumerator), h.rows.map fun row => (row.enumerator, row.marker),
          h.blocks⟩ := by
  rw [ofSections, enumerators_ordinals hn hrows, mapping_specializations hn, blocks_dispatch hn]

end Reading

end ErrorScaffold
