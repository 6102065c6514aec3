/-
What a preprocessor sees of a header.

A preprocessor splices continued lines first, so that the definition of the report macro becomes a
single line, and then obeys the lines that start with `#`.

* `macroBody` — what the report macro stands for, as a list of statements;
* `directives_text` — the lines that start with `#` are the eight lines of `directives`, and all
  declarations come between the second and the third.
-/
import ErrorScaffold.Proofs.Header.Words

namespace ErrorScaffold

open Identifier

theorem Identifier.IsWord.newline_not_mem {word : String} (h : IsWord word) :
    '\n' ∉ word.toList :=
  h.not_mem (by decide)

theorem Identifier.IsWord.backslash_not_mem {word : String} (h : IsWord word) :
    '\\' ∉ word.toList :=
  h.not_mem (by decide)

/-! ### Logical lines -/

namespace Text

/-- The lines that are left when continued lines have been spliced. -/
def logicalLines (text : String) : List String :=
  (lines (splice text.toList)).map String.ofList

/-- A line that the preprocessor obeys. -/
def isDirective (line : String) : Bool :=
  line.toList.head? == some '#'

/-- Nothing in the text ends a line or continues one. -/
def IsPlain (text : String) : Prop :=
  '\n' ∉ text.toList ∧ '\\' ∉ text.toList

/-- Continued lines and a last line become one line, with a blank where each was continued. -/
theorem splice_join_continued {xs : List String} {last : String} (hxs : ∀ x ∈ xs, IsPlain x)
    (hlast : IsPlain last) (rest : List Char) :
    splice ((String.join (xs.map Header.continued) ++ last).toList ++ rest)
      = (" ".intercalate (xs ++ [last])).toList ++ splice rest := by
  -- by induction on the lines before the last: each loses its backslash and its newline
  induction xs with
  | nil =>
    rw [List.map_nil, String.join_nil, String.empty_append, List.nil_append,
      String.intercalate_singleton]
    exact splice_append hlast.2 rest
  | cons x xs ih =>
    rw [List.forall_mem_cons] at hxs
    have hx : '\\' ∉ (x ++ " ").toList := by simp [hxs.1.2]
    have htext : (String.join ((x :: xs).map Header.continued) ++ last).toList ++ rest
        = (x ++ " ").toList
          ++ '\\' :: '\n' :: ((String.join (xs.map Header.continued) ++ last).toList ++ rest) := by
      simp [Header.continued]
    have hjoin : (" ".intercalate (x :: xs ++ [last])).toList
        = (x ++ " ").toList ++ (" ".intercalate (xs ++ [last])).toList := by
      rw [← String.toList_append, List.cons_append, String.intercalate_cons_of_ne_nil (by simp)]
    rw [htext, splice_continued hx, ih hxs.2, hjoin, List.append_assoc]

theorem newline_not_mem_intercalate {xs : List String} (h : ∀ x ∈ xs, IsPlain x) :
    '\n' ∉ (" ".intercalate xs).toList := by
  induction xs with
  | nil => exact List.not_mem_nil
  | cons x xs ih =>
    rw [List.forall_mem_cons] at h
    by_cases hxs : xs = []
    · rw [hxs, String.intercalate_singleton]
      exact h.1.1
    · rw [String.intercalate_cons_of_ne_nil hxs, String.toList_append, String.toList_append,
        List.mem_append, List.mem_append, not_or, not_or]
      exact ⟨⟨h.1.1, by decide⟩, ih h.2⟩

end Text

namespace Header

/-! ### The report macro -/

/-- The trial of a kind. -/
def trialStatement (s : Schema) (kind : String) : String :=
  "  " ++ s.inScope s.ifTemplate ++ "<w." ++ s.kindField ++ " == "
    ++ s.inScope (s.enumerator kind) ++ ", " ++ s.inScope s.warningTemplate ++ "<w." ++ s.rowField
    ++ ", w." ++ s.colField ++ ", " ++ s.inScope s.mapping ++ "<w." ++ s.kindField
    ++ ">::type>> \x7b\x7d;"

/-- The binding of the warning at hand, where there are kinds to try. -/
def bindingStatements (s : Schema) (kinds : List String) (slot : Nat) : List String :=
  if kinds.isEmpty then []
  else ["  constexpr auto w = parser." ++ s.warningsField ++ "[" ++ toString slot ++ "];"]

/-- The guarded block of a slot. -/
def blockStatements (s : Schema) (kinds : List String) (slot : Nat) : List String :=
  ["if (" ++ toString slot ++ " < n)", "\x7b"] ++ bindingStatements s kinds slot
    ++ kinds.map (trialStatement s) ++ ["\x7d"]

/-- The binding of the number of recorded warnings. -/
def countStatement (s : Schema) : String :=
  "constexpr int n = parser." ++ s.warningsField ++ ".size();"

/-- The terminal check. -/
def conditionStatement (s : Schema) : String :=
  "constexpr bool hasErr = parser." ++ s.errorRowField ++ " >= 0 && parser." ++ s.errorColField
    ++ " >= 0;"

/-- The construction of the error, which the terminal check guards. -/
def errorStatement (s : Schema) : String :=
  s.inScope s.ifTemplate ++ "<hasErr, " ++ s.inScope s.errorTemplate ++ "<parser."
    ++ s.errorRowField ++ ", parser." ++ s.errorColField ++ ", " ++ s.inScope s.mapping
    ++ "<parser." ++ s.errorKindField ++ ">::type>> \x7b\x7d;"

/-- What the report macro stands for. -/
def macroBody (s : Schema) (kinds : List String) (slots : Nat) : List String :=
  [countStatement s] ++ (List.range slots).flatMap (blockStatements s kinds)
    ++ [conditionStatement s] ++ [errorStatement s]

/-- The definition of the report macro, on one line. -/
def definition (s : Schema) (kinds : List String) (slots : Nat) : String :=
  "#define " ++ s.reportMacro ++ "(parser) " ++ " ".intercalate (macroBody s kinds slots)

/-- What a preprocessor has to do with the header. -/
def directives (s : Schema) (kinds : List String) (slots : Nat) : List String :=
  ["#ifndef " ++ s.includeGuard, "#define " ++ s.includeGuard, "#ifndef " ++ s.debugMacro,
    definition s kinds slots, "#else", "#define " ++ s.reportMacro ++ "(parser)", "#endif",
    "#endif"]

/-! ### The statements are the text -/

@[simp] theorem trialLine_enumerator (s : Schema) (kind : String) :
    trialLine s (s.enumerator kind) = continued (trialStatement s kind) := by
  unfold trialLine trialStatement resolvedMarker
  rw [show ">::type>> \x7b\x7d;" = ">::type" ++ ">> \x7b\x7d;" from rfl]
  simp only [String.append_assoc]

theorem blockText_eq (s : Schema) (kinds : List String) (slot : Nat) :
    blockText s ⟨slot, kinds.map s.enumerator⟩
      = String.join ((blockStatements s kinds slot).map continued) := by
  -- a block without trials has no binding on either side
  have hbinding : bindingLine s ⟨slot, kinds.map s.enumerator⟩
      = String.join ((bindingStatements s kinds slot).map continued) := by
    unfold bindingLine bindingStatements
    cases kinds with
    | nil => rfl
    | cons kind kinds =>
      rw [if_neg (by simp), if_neg (by simp), List.map_singleton, String.join_cons,
        String.join_nil, String.append_empty]
  have htrials : (kinds.map s.enumerator).map (trialLine s)
      = (kinds.map (trialStatement s)).map continued := by
    rw [List.map_map, List.map_map]
    exact List.map_congr_left fun kind _ => trialLine_enumerator s kind
  rw [blockText, hbinding, htrials, blockStatements]
  simp only [List.map_append, List.map_cons, List.map_nil, String.join_append, String.join_cons,
    String.join_nil, String.append_empty, String.append_assoc]

theorem dispatch_eq {h : Header} {kinds : List String} {slots : Nat}
    (hblocks : h.blocks
      = (List.range slots).map fun slot => ⟨slot, kinds.map h.schema.enumerator⟩) :
    h.dispatch = String.join
      (((List.range slots).flatMap (blockStatements h.schema kinds)).map continued) := by
  rw [dispatch, hblocks, List.map_map]
  induction List.range slots with
  | nil => rfl
  | cons slot rest ih =>
    rw [List.map_cons, String.join_cons, ih, List.flatMap_cons, List.map_append,
      String.join_append, ← blockText_eq]
    rfl

theorem terminalCheck_eq (s : Schema) :
    terminalCheck s = continued (conditionStatement s) ++ errorStatement s ++ "\n" := by
  unfold terminalCheck errorStatement conditionStatement
  rw [show ">::type>> \x7b\x7d;\n" = ">::type>> \x7b\x7d;" ++ "\n" from rfl]
  simp only [String.append_assoc]

theorem definition_eq (s : Schema) (kinds : List String) (slots : Nat) :
    definition s kinds slots
      = " ".intercalate (("#define " ++ s.reportMacro ++ "(parser)") ::
          macroBody s kinds slots) := by
  rw [definition, String.intercalate_cons_of_ne_nil (by simp [macroBody]),
    show "(parser) " = "(parser)" ++ " " from rfl]
  simp only [String.append_assoc]

section

variable {h : Header} (hn : h.IsNamed) {kinds : List String}
  (hkinds : ∀ kind ∈ kinds, IsWord (h.schema.enumerator kind))
include hn hkinds

theorem isPlain_of_mem_blockStatements (slot : Nat) :
    ∀ x ∈ blockStatements h.schema kinds slot, Text.IsPlain x := by
  have hwords := hn.words
  intro x hx
  rw [blockStatements, List.mem_append, List.mem_append, List.mem_append] at hx
  -- neither a newline nor a backslash comes from a word, a number or what is between them
  rcases hx with ((hx | hx) | hx) | hx
  · rcases List.mem_cons.1 hx with rfl | hx
    · simp [-Nat.toList_repr, Text.IsPlain, IsWord.newline_not_mem,
        IsWord.backslash_not_mem]
    · rw [List.mem_singleton.1 hx]
      exact ⟨by decide, by decide⟩
  · unfold bindingStatements at hx
    split at hx
    · cases hx
    · rw [List.mem_singleton.1 hx]
      simp [-Nat.toList_repr, Text.IsPlain, hwords, IsWord.newline_not_mem,
        IsWord.backslash_not_mem]
  · obtain ⟨kind, hkind, rfl⟩ := List.mem_map.1 hx
    unfold trialStatement
    simp [Text.IsPlain, Schema.inScope, hwords, hkinds kind hkind, IsWord.newline_not_mem,
      IsWord.backslash_not_mem]
  · rw [List.mem_singleton.1 hx]
    exact ⟨by decide, by decide⟩

theorem isPlain_of_mem_macroBody (slots : Nat) :
    ∀ x ∈ macroBody h.schema kinds slots, Text.IsPlain x := by
  have hwords := hn.words
  intro x hx
  rw [macroBody, List.mem_append, List.mem_append, List.mem_append] at hx
  -- the count, the blocks, the condition and the error
  rcases hx with ((hx | hx) | hx) | hx
  · rw [List.mem_singleton.1 hx]
    unfold countStatement
    simp [Text.IsPlain, hwords, IsWord.newline_not_mem, IsWord.backslash_not_mem]
  · obtain ⟨slot, -, hx⟩ := List.mem_flatMap.1 hx
    exact isPlain_of_mem_blockStatements hn hkinds slot x hx
  · rw [List.mem_singleton.1 hx]
    unfold conditionStatement
    simp [Text.IsPlain, hwords, IsWord.newline_not_mem, IsWord.backslash_not_mem]
  · rw [List.mem_singleton.1 hx]
    unfold errorStatement
    simp [Text.IsPlain, Schema.inScope, hwords, IsWord.newline_not_mem, IsWord.backslash_not_mem]

theorem newline_not_mem_definition (slots : Nat) :
    '\n' ∉ (definition h.schema kinds slots).toList := by
  have hbody := Text.newline_not_mem_intercalate (isPlain_of_mem_macroBody hn hkinds slots)
  rw [definition, String.toList_append, List.mem_append, not_or]
  refine ⟨?_, hbody⟩
  simp [hn.words, IsWord.newline_not_mem]

/-- After splicing, the definition of the report macro has become one line. -/
theorem splice_macroLines {slots : Nat}
    (hblocks : h.blocks
      = (List.range slots).map fun slot => ⟨slot, kinds.map h.schema.enumerator⟩)
    (rest : List Char) :
    Text.splice (Line.textOf (Layout.macroLines h) ++ rest)
      = (definition h.schema kinds slots).toList ++ '\n' :: Text.splice rest := by
  have hplain := isPlain_of_mem_macroBody hn hkinds slots
  rw [macroBody, List.forall_mem_append, List.forall_mem_singleton] at hplain
  have hstart : Text.IsPlain ("#define " ++ h.schema.reportMacro ++ "(parser)") := by
    simp [Text.IsPlain, hn.words, IsWord.newline_not_mem, IsWord.backslash_not_mem]
  have hcount : countLine h.schema = continued (countStatement h.schema) := by
    unfold countLine countStatement
    rfl
  -- all statements but the last are continued
  have htext : continued ("#define " ++ h.schema.reportMacro ++ "(parser)") ++ countLine h.schema
        ++ h.dispatch ++ terminalCheck h.schema
      = String.join ((("#define " ++ h.schema.reportMacro ++ "(parser)") ::
          ([countStatement h.schema] ++ (List.range slots).flatMap (blockStatements h.schema kinds)
            ++ [conditionStatement h.schema])).map continued)
          ++ errorStatement h.schema ++ "\n" := by
    rw [hcount, dispatch_eq hblocks, terminalCheck_eq]
    simp only [List.map_append, List.map_cons, List.map_nil, String.join_append, String.join_cons,
      String.join_nil, String.append_empty, String.append_assoc]
  rw [← toList_macro, htext, String.toList_append, List.append_assoc,
    Text.splice_join_continued (List.forall_mem_cons.2 ⟨hstart, hplain.1⟩) hplain.2,
    definition_eq]
  exact congrArg _ (Text.splice_cons_of_ne (by decide) rest)

end

/-! ### The lines of the text -/

/-- A section that is not continued has its lines, and none is a directive. -/
theorem logicalLines_section {text : String} {ls : List Line} {forms : List LineForm}
    (htext : text.toList = Line.textOf ls) (hn : ∀ line ∈ ls, line.IsNamed)
    (hls : ∀ line ∈ ls, line.form ∈ forms)
    (hforms : ∀ form ∈ forms,
      .char '\\' ∉ form.symbols ∧ form.symbols.head? ≠ some (.char '#')) :
    Text.logicalLines text = ls.map Line.text ++ [""] ∧
      (Text.logicalLines text).filter Text.isDirective = [] := by
  -- nothing is continued, so the section is read line by line
  have hbackslash : '\\' ∉ Line.textOf ls :=
    Line.not_mem_textOf hn (by decide) (by decide) fun line hline => (hforms _ (hls line hline)).1
  have hlines : Text.logicalLines text = ls.map Line.text ++ [""] := by
    rw [Text.logicalLines, htext, Text.splice_of_not_mem hbackslash, Line.lines_textOf hn,
      List.map_append, List.map_map]
    rfl
  refine ⟨hlines, ?_⟩
  rw [hlines, List.filter_eq_nil_iff]
  intro l hl
  rw [Text.isDirective, beq_iff_eq]
  -- a line starts as its form does, and behind the last newline is nothing
  rcases List.mem_append.1 hl with hl | hl
  · obtain ⟨line, hline, rfl⟩ := List.mem_map.1 hl
    rw [Line.text, String.toList_ofList]
    exact Line.head?_chars_ne (hn line hline) (by decide) (hforms _ (hls line hline)).2
  · rw [List.mem_singleton.1 hl]
    exact fun hnil => nomatch hnil

theorem logicalLines_ordinals {h : Header} (hn : h.IsNamed) (hrows : h.rows ≠ []) :
    Text.logicalLines h.ordinals = (Layout.ordinals h).map Line.text ++ [""] ∧
      (Text.logicalLines h.ordinals).filter Text.isDirective = [] :=
  logicalLines_section (toList_ordinals hrows) (Layout.isNamed_ordinals hn)
    (fun _ => Layout.form_of_mem_ordinals) (by decide)

theorem logicalLines_markers {h : Header} (hn : h.IsNamed) :
    Text.logicalLines h.markers = (Layout.markers h).map Line.text ++ [""] ∧
      (Text.logicalLines h.markers).filter Text.isDirective = [] :=
  logicalLines_section (toList_markers h) (Layout.isNamed_markers hn)
    (fun _ => Layout.form_of_mem_markers) (by decide)

theorem logicalLines_specializations {h : Header} (hn : h.IsNamed) :
    Text.logicalLines h.specializations = (Layout.specializations h).map Line.text ++ [""] ∧
      (Text.logicalLines h.specializations).filter Text.isDirective = [] :=
  logicalLines_section (toList_specializations h) (Layout.isNamed_specializations hn)
    (fun _ => Layout.form_of_mem_specializations) (by decide)

/-- The lines before the sections of declarations. -/
def front (h : Header) : List Line :=
  [Layout.banner h, Layout.blank, Layout.ifndef h.schema.includeGuard,
    Layout.define h.schema.includeGuard, Layout.blank]

/-- The sections of declarations stand together before the definition of the report macro. -/
theorem map_text_opening {h : Header} (hn : h.IsNamed) (hrows : h.rows ≠ []) :
    (Layout.opening h).map Line.text
      = (front h).map Line.text ++ Text.logicalLines h.ordinals ++ Text.logicalLines h.markers
        ++ Text.logicalLines h.specializations
        ++ [Layout.ifndef h.schema.debugMacro, Layout.blank].map Line.text := by
  -- the blank line after each section is the last line of the section's text
  have hblank : Layout.blank.text = "" := rfl
  rw [(logicalLines_ordinals hn hrows).1, (logicalLines_markers hn).1,
    (logicalLines_specializations hn).1, Layout.opening, front]
  simp only [List.map_append, List.map_cons, List.map_nil, hblank, List.append_assoc,
    List.cons_append, List.nil_append]

theorem backslash_not_mem_opening {h : Header} (hn : h.IsNamed) :
    '\\' ∉ Line.textOf (Layout.opening h) := by
  have hforms : ∀ form ∈ Layout.openingForms, .char '\\' ∉ form.symbols := by decide
  refine Line.not_mem_textOf (Layout.isNamed_opening hn) (by decide) (by decide) ?_
  intro line hline
  exact hforms _ (Layout.form_of_mem_opening line hline)

theorem backslash_not_mem_closing {h : Header} (hn : h.IsNamed) :
    '\\' ∉ Line.textOf (Layout.closing h) := by
  have hforms : ∀ form ∈ [Layout.blankForm, Layout.elseForm, Layout.emptyMacroForm,
      Layout.endifForm], .char '\\' ∉ form.symbols := by decide
  have hmem : ∀ line ∈ Layout.closing h, line.form ∈
      [Layout.blankForm, Layout.elseForm, Layout.emptyMacroForm, Layout.endifForm] := by
    simp [Layout.closing, Layout.blank, Layout.otherwise, Layout.emptyMacro, Layout.endif]
  refine Line.not_mem_textOf (Layout.isNamed_closing hn) (by decide) (by decide) ?_
  intro line hline
  exact hforms _ (hmem line hline)

/-- The lines of a header: before the definition of the report macro, that definition, and after
it. -/
theorem logicalLines_text {h : Header} (hn : h.IsNamed) (hrows : h.rows ≠ [])
    {kinds : List String} (hkinds : ∀ kind ∈ kinds, IsWord (h.schema.enumerator kind)) {slots : Nat}
    (hblocks : h.blocks
      = (List.range slots).map fun slot => ⟨slot, kinds.map h.schema.enumerator⟩) :
    Text.logicalLines h.text
      = (Layout.opening h).map Line.text
        ++ (definition h.schema kinds slots :: (Layout.closing h).map Line.text ++ [""]) := by
  have hlines : ∀ l ∈ (Layout.opening h).map Line.chars
      ++ (definition h.schema kinds slots).toList :: (Layout.closing h).map Line.chars,
      '\n' ∉ l := by
    rw [List.forall_mem_append, List.forall_mem_cons, List.forall_mem_map, List.forall_mem_map]
    refine ⟨fun line hline => ?_, newline_not_mem_definition hn hkinds slots, fun line hline => ?_⟩
    · exact Line.newline_not_mem (Layout.isNamed_opening hn line hline)
    · exact Line.newline_not_mem (Layout.isNamed_closing hn line hline)
  -- only the macro in the middle has continued lines
  have hsplice : Text.splice h.text.toList
      = Text.unlines ((Layout.opening h).map Line.chars
        ++ (definition h.schema kinds slots).toList :: (Layout.closing h).map Line.chars) := by
    rw [toList_text hrows, Layout.lines, Line.textOf_append, Line.textOf_append,
      List.append_assoc, Text.splice_append (backslash_not_mem_opening hn),
      splice_macroLines hn hkinds hblocks, Text.splice_of_not_mem (backslash_not_mem_closing hn),
      Text.unlines_append, Text.unlines_cons]
    rfl
  rw [Text.logicalLines, hsplice, Text.lines_unlines hlines]
  simp only [List.map_append, List.map_cons, List.map_map, List.map_nil, String.ofList_toList,
    List.append_assoc]
  rfl

/-! ### Directives -/

@[simp] theorem text_ifndef (name : String) : (Layout.ifndef name).text = "#ifndef " ++ name := by
  simp [Line.text, Layout.ifndef, Layout.ifndefForm, LineForm.template, Line.chars, LineForm.fill,
    ← String.toList_inj]

@[simp] theorem text_define (name : String) : (Layout.define name).text = "#define " ++ name := by
  simp [Line.text, Layout.define, Layout.defineForm, LineForm.template, Line.chars, LineForm.fill,
    ← String.toList_inj]

@[simp] theorem text_emptyMacro (s : Schema) :
    (Layout.emptyMacro s).text = "#define " ++ s.reportMacro ++ "(parser)" := by
  simp [Line.text, Layout.emptyMacro, Layout.emptyMacroForm, LineForm.template, Line.chars,
    LineForm.fill, ← String.toList_inj]

@[simp] theorem text_otherwise : Layout.otherwise.text = "#else" := by decide

@[simp] theorem text_endif : Layout.endif.text = "#endif" := by decide

@[simp] theorem isDirective_ifndef (name : String) :
    Text.isDirective ("#ifndef " ++ name) = true := by
  simp [Text.isDirective]

@[simp] theorem isDirective_define (text : String) :
    Text.isDirective ("#define " ++ text) = true := by
  simp [Text.isDirective]

@[simp] theorem isDirective_definition (s : Schema) (kinds : List String) (slots : Nat) :
    Text.isDirective (definition s kinds slots) = true := by
  rw [definition, String.append_assoc, String.append_assoc]
  exact isDirective_define _

@[simp] theorem isDirective_nil : Text.isDirective "" = false := by decide

/-- The lines before the declarations. -/
theorem filter_isDirective_front (h : Header) :
    ((front h).map Line.text).filter Text.isDirective
      = ["#ifndef " ++ h.schema.includeGuard, "#define " ++ h.schema.includeGuard] := by
  have hbanner : Text.isDirective (Layout.banner h).text = false := by
    simp [Line.text, Text.isDirective, Layout.banner, Layout.bannerForm, LineForm.template,
      Line.chars, LineForm.fill]
  have hblank : Layout.blank.text = "" := rfl
  simp [front, hbanner, hblank]

/-- The lines after them, with the definition of the report macro. -/
theorem filter_isDirective_back (h : Header) {line : String}
    (hline : Text.isDirective line = true) :
    ([Layout.ifndef h.schema.debugMacro, Layout.blank].map Line.text
        ++ (line :: (Layout.closing h).map Line.text ++ [""])).filter Text.isDirective
      = ["#ifndef " ++ h.schema.debugMacro, line, "#else",
          "#define " ++ h.schema.reportMacro ++ "(parser)", "#endif", "#endif"] := by
  have hblank : Layout.blank.text = "" := rfl
  have helse : Text.isDirective "#else" = true := by decide
  have hendif : Text.isDirective "#endif" = true := by decide
  have hempty : Text.isDirective ("#define " ++ h.schema.reportMacro ++ "(parser)") = true := by
    rw [String.append_assoc]
    exact isDirective_define _
  simp [Layout.closing, hblank, hline, helse, hempty, hendif]

/-- Of the lines of a text after splicing, the eight directives are those that start with `#`. -/
theorem filter_isDirective_text {h : Header} (hn : h.IsNamed) (hrows : h.rows ≠ [])
    {kinds : List String} (hkinds : ∀ kind ∈ kinds, IsWord (h.schema.enumerator kind)) {slots : Nat}
    (hblocks : h.blocks
      = (List.range slots).map fun slot => ⟨slot, kinds.map h.schema.enumerator⟩) :
    (Text.logicalLines h.text).filter Text.isDirective = directives h.schema kinds slots := by
  -- the declarations are three sections without a directive
  rw [logicalLines_text hn hrows hkinds hblocks, map_text_opening hn hrows, List.append_assoc,
    List.filter_append, List.filter_append, List.filter_append, List.filter_append,
    (logicalLines_ordinals hn hrows).2, (logicalLines_markers hn).2,
    (logicalLines_specializations hn).2, filter_isDirective_front h,
    filter_isDirective_back h (isDirective_definition h.schema kinds slots)]
  rfl

/-- **What a preprocessor has to do with a header.**  After splicing, its lines that start with `#`
are the eight directives, and the whole definition of the report macro is one of them; the
declarations lie between the second and the third.  The header has as many guarded blocks as slots
and as many trials in each as kinds. -/
theorem directives_text {u : UsableSchema} {c : Catalog} {budget : SlotBudget} {h : Header}
    (hh : u.header c budget = .ok h) :
    (Text.logicalLines h.text).filter Text.isDirective
        = directives u.schema c.kinds budget.slots ∧
    (∃ before after,
      Text.logicalLines h.text
        = before ++ Text.logicalLines h.ordinals ++ Text.logicalLines h.markers
          ++ Text.logicalLines h.specializations ++ after ∧
      before.filter Text.isDirective = (directives u.schema c.kinds budget.slots).take 2 ∧
      after.filter Text.isDirective = (directives u.schema c.kinds budget.slots).drop 2) ∧
    h.slotCount = budget.slots ∧ h.trialCount = c.size := by
  obtain ⟨-, hbuild⟩ := UsableSchema.header_eq_ok_iff.1 hh
  have hn : h.IsNamed := hbuild ▸ isNamed_build u c budget
  have hschema : h.schema = u.schema := by rw [hbuild, schema_build]
  have hrows : h.rows ≠ [] := by
    rw [hbuild]
    exact OrdinalRow.table_ne_nil _ _
  have hblocks : h.blocks
      = (List.range budget.slots).map fun slot => ⟨slot, c.kinds.map h.schema.enumerator⟩ := by
    rw [hbuild, build]
  have hkinds : ∀ kind ∈ c.kinds, IsWord (h.schema.enumerator kind) := by
    intro kind hkind
    rw [hschema]
    exact u.isWord_enumerator_of_mem hkind
  have hfront := filter_isDirective_front h
  have hback := filter_isDirective_back h (isDirective_definition h.schema c.kinds budget.slots)
  -- what lies in front of the macro is the opening, which holds the sections
  have hsplit := logicalLines_text hn hrows hkinds hblocks
  rw [map_text_opening hn hrows, List.append_assoc] at hsplit
  rw [← hschema]
  refine ⟨filter_isDirective_text hn hrows hkinds hblocks, ⟨_, _, hsplit, hfront, hback⟩, ?_, ?_⟩
  · rw [hbuild, slotCount_build]
  · rw [hbuild, trialCount_build]

/-- The built-in header has eight directives, twenty blocks and eighteen trials in each. -/
theorem directives_seephit :
    ∃ h, UsableSchema.standard.header .seephit .standard = .ok h ∧
      ((Text.logicalLines h.text).filter Text.isDirective).length = 8 ∧
      h.slotCount = 20 ∧ h.trialCount = 18 := by
  have hspec := directives_text UsableSchema.header_seephit
  refine ⟨_, UsableSchema.header_seephit, ?_, hspec.2.2⟩
  rw [hspec.1]
  rfl

example : blockStatements {} ["A"] 0
    = ["if (0 < n)", "\x7b", "  constexpr auto w = parser.m_arrWarns[0];",
        "  spt::IF<w.m == spt::Error_A, spt::Warning<w.row, w.col, "
          ++ "spt::MsgToType<w.m>::type>> \x7b\x7d;", "\x7d"] := by
  decide

end Header

end ErrorScaffold
