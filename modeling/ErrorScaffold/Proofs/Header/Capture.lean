/-
What a name in a header may be mistaken for.

The report macro has the parameter `parser`, which a preprocessor replaces wherever it finds this
token in the replacement list, and a specialization has a member `type`.  Acceptance compares names
with what else is declared at namespace scope, and the parameter and the member are not.

* `receivesAfter_append` — a list of tokens is cut behind a sign that is no dot;
* `exposes_macroBody` — the parameter stands where it is asked for a member, and where a name is
  that is called like it;
* `capture_free_iff` — so nothing is captured if and only if no name is called like either;
* `capture_of_careless_names` — and a name may be.
-/
import ErrorScaffold.Proofs.Header.Reading
import ErrorScaffold.Proofs.Header.Statements

namespace ErrorScaffold

open Identifier Text

/-! ### Tokens that receive -/

/-- Between these tokens stands an object that is asked for one of the fields. -/
def Token.IsReceiver (fields : List String) (before after : List Token) : Prop :=
  before.getLast? ≠ some (.sign '.') ∧ ∃ field ∈ fields, [.sign '.', .word field] <+: after

/-- Wherever `parser` is among the tokens, it is asked for one of the fields. -/
def Token.OnlyReceives (fields : List String) (tokens : List Token) : Prop :=
  ∀ before after, tokens = before ++ .word "parser" :: after → IsReceiver fields before after

namespace Token

variable {fields : List String}

/-- Token by token, `parser` is asked for one of the fields; `dotted` says whether a dot comes
before the first token. -/
def ReceivesAfter (fields : List String) : (dotted : Bool) → List Token → Prop
  | _, [] => True
  | dotted, token :: rest =>
    (token = .word "parser" →
      dotted = false ∧ ∃ field ∈ fields, [.sign '.', .word field] <+: rest) ∧
    ReceivesAfter fields (token == .sign '.') rest

theorem receivesAfter_iff {dotted : Bool} {tokens : List Token} :
    ReceivesAfter fields dotted tokens ↔
      ∀ before after, tokens = before ++ .word "parser" :: after →
        (before.getLast?.map (· == .sign '.')).getD dotted = false ∧
          ∃ field ∈ fields, [.sign '.', .word field] <+: after := by
  -- `dotted` stands for the token before the first, so each step hands its own token on
  induction tokens generalizing dotted with
  | nil => exact iff_of_true trivial fun before after h => by simp at h
  | cons token rest ih =>
    -- a token in front leaves the last one as it is, unless it is the last itself
    have hlast : ∀ before : List Token,
        ((token :: before).getLast?.map (· == .sign '.')).getD dotted
          = (before.getLast?.map (· == .sign '.')).getD (token == .sign '.') := by
      intro before
      rw [List.getLast?_cons]
      cases before.getLast? <;> rfl
    rw [ReceivesAfter, ih]
    constructor
    · rintro ⟨hfirst, hrest⟩ before after h
      cases before with
      | nil =>
        obtain ⟨rfl, rfl⟩ := List.cons.inj h
        exact hfirst rfl
      | cons first before =>
        obtain ⟨rfl, htail⟩ := List.cons.inj h
        rw [hlast]
        exact hrest before after htail
    · -- a `parser` at the front has nothing before it; any other has this token there
      intro h
      refine ⟨fun htoken => h [] rest (by rw [htoken]; rfl), fun before after htail => ?_⟩
      rw [← hlast]
      exact h (token :: before) after (by rw [htail]; rfl)

theorem onlyReceives_iff {tokens : List Token} :
    OnlyReceives fields tokens ↔ ReceivesAfter fields false tokens := by
  rw [receivesAfter_iff]
  refine forall₃_congr fun before after _ => ?_
  rw [IsReceiver]
  cases before.getLast? <;> simp

/-- What comes behind a sign that is no dot is read by itself. -/
theorem receivesAfter_append {c : Char} (hc : c ≠ '.') {dotted : Bool} {tokens rest : List Token} :
    ReceivesAfter fields dotted (tokens ++ .sign c :: rest) ↔
      ReceivesAfter fields dotted (tokens ++ [.sign c]) ∧ ReceivesAfter fields false rest := by
  have hsign : (Token.sign c == .sign '.') = false := by simpa using hc
  induction tokens generalizing dotted with
  | nil => simp [ReceivesAfter, hsign]
  | cons token tokens ih =>
    -- the two tokens behind `parser` are before the sign, or the sign is one of them
    have hprefix : ∀ field, [.sign '.', .word field] <+: tokens ++ .sign c :: rest ↔
        [.sign '.', .word field] <+: tokens ++ [.sign c] := by
      intro field
      match tokens with
      | [] => simp [hc.symm]
      | [token] => simp
      | first :: second :: tokens => simp
    simp only [List.cons_append, ReceivesAfter, hprefix, ih, and_assoc]

end Token

namespace Header

open Token

/-! ### Names among the tokens -/

/-- What the macro asks the parser for. -/
def receivingFields (s : Schema) : List String :=
  [s.warningsField, s.errorRowField, s.errorColField, s.errorKindField]

/-- In the tokens of these statements `parser` stands only where it is asked for a member, and
where one of the names is called so; and each statement ends with a sign that is no dot. -/
def Exposes (fields : List String) (statements : List String) (names : List String) : Prop :=
  (∀ x ∈ statements, ∃ c, c ≠ '.' ∧ (tokens x.toList).getLast? = some (.sign c)) ∧
  (ReceivesAfter fields false (statements.flatMap fun x => tokens x.toList) ↔ "parser" ∉ names)

namespace Exposes

variable {fields : List String}

theorem nil : Exposes fields [] [] :=
  ⟨fun _ h => (nomatch h), iff_of_true trivial List.not_mem_nil⟩

theorem append {xs ys names names' : List String} (hx : Exposes fields xs names)
    (hy : Exposes fields ys names') : Exposes fields (xs ++ ys) (names ++ names') := by
  refine ⟨List.forall_mem_append.2 ⟨hx.1, hy.1⟩, ?_⟩
  rw [List.mem_append, not_or, ← hx.2, ← hy.2, List.flatMap_append]
  rcases List.eq_nil_or_concat' xs with rfl | ⟨front, last, rfl⟩
  · exact (and_iff_right trivial).symm
  · obtain ⟨c, hc, hlast⟩ := hx.1 last (by simp)
    obtain ⟨ts, hts⟩ := List.getLast?_eq_some_iff.1 hlast
    simp only [List.flatMap_append, List.flatMap_cons, List.flatMap_nil, List.append_nil, hts]
    rw [← List.append_assoc, List.append_assoc _ [Token.sign c], List.singleton_append,
      receivesAfter_append hc]

theorem flatMap {α : Type} {xs names : α → List String} {as : List α}
    (h : ∀ a ∈ as, Exposes fields (xs a) (names a)) :
    Exposes fields (as.flatMap xs) (as.flatMap names) := by
  induction as with
  | nil => exact nil
  | cons a as ih =>
    rw [List.forall_mem_cons] at h
    exact h.1.append (ih h.2)

theorem singleton {x : String} {names : List String} {ts : List Token} {c : Char}
    (htokens : tokens x.toList = ts) (hlast : ts.getLast? = some (.sign c)) (hc : c ≠ '.')
    (h : ReceivesAfter fields false ts ↔ "parser" ∉ names) : Exposes fields [x] names := by
  rw [← htokens] at hlast h
  refine ⟨List.forall_mem_singleton.2 ⟨c, hc, hlast⟩, ?_⟩
  rwa [List.flatMap_singleton]

end Exposes

/-! ### The names of each statement

Each name comes behind a dot or in front of something else than a dot, which is no place of an
object that is asked; where the form has `parser` itself, one of the fields is asked for. -/

section

variable {s : Schema}

theorem exposes_countStatement (hn : (Layout.count s).IsNamed) :
    Exposes (receivingFields s) [countStatement s] (Layout.count s).names := by
  refine .singleton (tokens_countStatement (hn _ (.head _))) rfl (by decide) ?_
  simp [Layout.count, ReceivesAfter, memberTokens, receivingFields, @eq_comm _ "parser"]

theorem exposes_trialStatement {kind : String}
    (hn : (Layout.trial s (s.enumerator kind)).IsNamed) :
    Exposes (receivingFields s) [trialStatement s kind]
      (Layout.trial s (s.enumerator kind)).names := by
  refine .singleton (tokens_trialStatement hn) rfl (by decide) ?_
  simp [Layout.trial, ReceivesAfter, memberTokens, scopedTokens, @eq_comm _ "parser"]

theorem repr_ne_parameter (slot : Nat) : slot.repr ≠ "parser" := by
  intro h
  have hdigit : 'p'.isDigit = true := isDigit_of_mem_repr (n := slot) (by rw [h]; decide)
  exact absurd hdigit (by decide)

theorem exposes_guard (slot : Nat) :
    Exposes (receivingFields s) ["if (" ++ toString slot ++ " < n)"] [] := by
  refine .singleton (tokens_guard slot) rfl (by decide) ?_
  simp [ReceivesAfter, repr_ne_parameter slot]

theorem exposes_bindingStatements (kinds : List String) (slot : Nat)
    (hwarnings : IsWord s.warningsField) :
    Exposes (receivingFields s) (bindingStatements s kinds slot)
      (if kinds.isEmpty then [] else (Layout.count s).names) := by
  unfold bindingStatements
  split
  · exact .nil
  · refine .singleton (tokens_binding hwarnings slot) rfl (by decide) ?_
    simp [Layout.count, ReceivesAfter, memberTokens, receivingFields, repr_ne_parameter slot,
      @eq_comm _ "parser"]

theorem exposes_conditionStatement (hn : (Layout.condition s).IsNamed) :
    Exposes (receivingFields s) [conditionStatement s] (Layout.condition s).names := by
  refine .singleton (tokens_conditionStatement hn) rfl (by decide) ?_
  simp [Layout.condition, ReceivesAfter, memberTokens, receivingFields, @eq_comm _ "parser"]

theorem exposes_errorStatement (hn : (Layout.error s).IsNamed) :
    Exposes (receivingFields s) [errorStatement s] (Layout.error s).names := by
  refine .singleton (tokens_errorStatement hn) rfl (by decide) ?_
  simp [Layout.error, ReceivesAfter, memberTokens, scopedTokens, receivingFields,
    @eq_comm _ "parser"]

/-- The names in a guarded block. -/
def blockNames (s : Schema) (kinds : List String) : List String :=
  (if kinds.isEmpty then [] else (Layout.count s).names)
    ++ kinds.flatMap fun kind => (Layout.trial s (s.enumerator kind)).names

theorem exposes_blockStatements {kinds : List String} (slot : Nat)
    (hwarnings : IsWord s.warningsField)
    (htrials : ∀ kind ∈ kinds, (Layout.trial s (s.enumerator kind)).IsNamed) :
    Exposes (receivingFields s) (blockStatements s kinds slot) (blockNames s kinds) := by
  have hopen : tokens "\x7b".toList = [.sign '\x7b'] := rfl
  have hclose : tokens "\x7d".toList = [.sign '\x7d'] := rfl
  have htried : Exposes (receivingFields s) (kinds.map (trialStatement s))
      (kinds.flatMap fun kind => (Layout.trial s (s.enumerator kind)).names) := by
    rw [List.map_eq_flatMap]
    exact .flatMap fun kind hkind => exposes_trialStatement (htrials kind hkind)
  have hopened : Exposes (receivingFields s) ["\x7b"] [] :=
    .singleton hopen rfl (by decide) (by simp [ReceivesAfter])
  have hclosed : Exposes (receivingFields s) ["\x7d"] [] :=
    .singleton hclose rfl (by decide) (by simp [ReceivesAfter])
  -- the guard, the brace, the binding, the trials and the closing brace
  have hall := ((((exposes_guard slot).append hopened).append
    (exposes_bindingStatements kinds slot hwarnings)).append htried).append hclosed
  rw [List.append_nil] at hall
  exact hall

end

/-- The names in the replacement list of the report macro. -/
def bodyNames (s : Schema) (kinds : List String) : List String :=
  [s.namespaceName, s.ifTemplate, s.errorTemplate, s.mapping] ++ receivingFields s
    ++ kinds.flatMap fun kind =>
      [s.enumerator kind, s.warningTemplate, s.kindField, s.rowField, s.colField]

theorem mem_bodyNames_iff {s : Schema} {kinds : List String} {slots : Nat} (hslots : 0 < slots)
    {name : String} :
    name ∈ (Layout.count s).names ++ (List.range slots).flatMap (fun _ => blockNames s kinds)
        ++ (Layout.condition s).names ++ (Layout.error s).names ↔
      name ∈ bodyNames s kinds := by
  have hslot : name ∈ (List.range slots).flatMap (fun _ => blockNames s kinds) ↔
      name ∈ blockNames s kinds := by
    rw [List.mem_flatMap]
    exact ⟨fun ⟨_, _, hx⟩ => hx, fun hx => ⟨0, List.mem_range.2 hslots, hx⟩⟩
  rw [List.mem_append, List.mem_append, List.mem_append, hslot]
  simp only [bodyNames, receivingFields, blockNames, Layout.count, Layout.trial, Layout.condition,
    Layout.error, List.mem_append, List.mem_cons, List.not_mem_nil, or_false, List.mem_flatMap]
  grind

/-- `parser` stands in the macro where it is asked for a member, and where a name is that is called
so. -/
theorem exposes_macroBody {h : Header} (hn : h.IsNamed) {kinds : List String} {slots : Nat}
    (hslots : 0 < slots) (hkinds : ∀ kind ∈ kinds, IsWord (h.schema.enumerator kind)) :
    Exposes (receivingFields h.schema) (macroBody h.schema kinds slots)
      (bodyNames h.schema kinds) := by
  have hwords := hn.words
  have hwarnings : IsWord h.schema.warningsField := by simp [hwords]
  have htrials : ∀ kind ∈ kinds, (Layout.trial h.schema (h.schema.enumerator kind)).IsNamed := by
    intro kind hkind
    simp [Line.IsNamed, Layout.trial, hwords, hkinds kind hkind]
  -- each line of the macro is made of words, as its form asks
  have hcount : (Layout.count h.schema).IsNamed := by simp [Line.IsNamed, Layout.count, hwords]
  have hcondition : (Layout.condition h.schema).IsNamed := by
    simp [Line.IsNamed, Layout.condition, hwords]
  have herror : (Layout.error h.schema).IsNamed := by simp [Line.IsNamed, Layout.error, hwords]
  have hblocks : Exposes (receivingFields h.schema)
      ((List.range slots).flatMap (blockStatements h.schema kinds))
      ((List.range slots).flatMap fun _ => blockNames h.schema kinds) :=
    .flatMap fun slot _ => exposes_blockStatements slot hwarnings htrials
  -- the count, the blocks, the condition and the error, one behind the other
  have hall := (((exposes_countStatement hcount).append hblocks).append
    (exposes_conditionStatement hcondition)).append (exposes_errorStatement herror)
  exact ⟨hall.1, hall.2.trans (not_congr (mem_bodyNames_iff hslots))⟩

/-! ### The macro in the text -/

/-- What a line defines a macro with the parameter `parser` to stand for. -/
def replacement? (name line : String) : Option (List Char) :=
  ("#define " ++ name ++ "(parser)").toList.isPrefixOf? line.toList

/-- All that a text defines the macro to stand for. -/
def replacementLists (name text : String) : List (List Char) :=
  (Text.logicalLines text).filterMap (replacement? name)

@[simp] theorem replacement?_append (name rest : String) :
    replacement? name ("#define " ++ name ++ "(parser)" ++ rest) = some rest.toList := by
  have htext : ("#define " ++ name ++ "(parser)" ++ rest).toList
      = ("#define " ++ name ++ "(parser)").toList ++ rest.toList := String.toList_append
  rw [replacement?, htext]
  exact isPrefixOf?_append _ _

theorem replacement?_of_not_mem {name line : String} (h : '(' ∉ line.toList) :
    replacement? name line = none := by
  rw [Option.eq_none_iff_forall_ne_some]
  intro rest hrest
  refine h ?_
  rw [← List.append_eq_of_isPrefixOf?_eq_some hrest]
  simp

/-- Only a directive defines a macro. -/
theorem replacementLists_eq (name text : String) :
    replacementLists name text
      = ((Text.logicalLines text).filter Text.isDirective).filterMap (replacement? name) := by
  rw [replacementLists, List.filterMap_filter]
  refine List.filterMap_congr fun line _ => ?_
  by_cases hdirective : Text.isDirective line = true
  · rw [if_pos hdirective]
  · rw [if_neg hdirective, Option.eq_none_iff_forall_ne_some]
    intro rest hrest
    refine hdirective ?_
    rw [Text.isDirective, ← List.append_eq_of_isPrefixOf?_eq_some hrest]
    simp

section

variable {h : Header} (hn : h.IsNamed) (hrows : h.rows ≠ []) {kinds : List String}
  (hkinds : ∀ kind ∈ kinds, IsWord (h.schema.enumerator kind)) {slots : Nat}
  (hblocks : h.blocks
    = (List.range slots).map fun slot => ⟨slot, kinds.map h.schema.enumerator⟩)
include hn hrows hkinds hblocks

/-- A header defines the report macro twice, and once to stand for nothing. -/
theorem replacementLists_text :
    replacementLists h.schema.reportMacro h.text
      = [' ' :: (" ".intercalate (macroBody h.schema kinds slots)).toList, []] := by
  -- a parenthesis would have to be in a name, and names are words
  have hguard : '(' ∉ h.schema.includeGuard.toList :=
    IsWord.not_mem (by simp [hn.words]) (by decide)
  have hdebug : '(' ∉ h.schema.debugMacro.toList :=
    IsWord.not_mem (by simp [hn.words]) (by decide)
  have hifndef : ∀ name : String, '(' ∉ name.toList →
      replacement? h.schema.reportMacro ("#ifndef " ++ name) = none := fun name hname =>
    replacement?_of_not_mem (by simpa using hname)
  have hdefine : replacement? h.schema.reportMacro ("#define " ++ h.schema.includeGuard) = none :=
    replacement?_of_not_mem (by simpa using hguard)
  have helse : replacement? h.schema.reportMacro "#else" = none :=
    replacement?_of_not_mem (by decide)
  have hendif : replacement? h.schema.reportMacro "#endif" = none :=
    replacement?_of_not_mem (by decide)
  -- of the eight directives only the two definitions of the macro begin so
  have hbody : replacement? h.schema.reportMacro (definition h.schema kinds slots)
      = some (' ' :: (" ".intercalate (macroBody h.schema kinds slots)).toList) := by
    have hsplit : definition h.schema kinds slots
        = "#define " ++ h.schema.reportMacro ++ "(parser)"
          ++ (" " ++ " ".intercalate (macroBody h.schema kinds slots)) := by
      rw [definition, show "(parser) " = "(parser)" ++ " " from rfl]
      simp only [String.append_assoc]
    rw [hsplit, replacement?_append, String.toList_append]
    rfl
  have hempty := replacement?_append h.schema.reportMacro ""
  rw [String.append_empty] at hempty
  rw [replacementLists_eq, filter_isDirective_text hn hrows hkinds hblocks, directives]
  simp only [List.filterMap_cons, List.filterMap_nil, hifndef _ hguard, hifndef _ hdebug, hdefine,
    hbody, hempty, helse, hendif, String.toList_empty]

end

/-! ### What is captured -/

/-- In the text of a header, `parser` is only asked for members if and only if no name in the macro
is called so. -/
theorem onlyReceives_build_iff (u : UsableSchema) (c : Catalog) (budget : SlotBudget) :
    (∀ list ∈ replacementLists u.schema.reportMacro (build u.schema c budget).text,
        OnlyReceives (receivingFields u.schema) (tokens list)) ↔
      "parser" ∉ bodyNames u.schema c.kinds := by
  have hn := isNamed_build u c budget
  have hkinds : ∀ kind ∈ c.kinds, IsWord (u.schema.enumerator kind) := fun kind hkind =>
    u.isWord_enumerator_of_mem hkind
  have hlists : replacementLists u.schema.reportMacro (build u.schema c budget).text
      = [' ' :: (" ".intercalate (macroBody u.schema c.kinds budget.slots)).toList, []] :=
    replacementLists_text hn (OrdinalRow.table_ne_nil _ _) hkinds rfl
  have htokens : tokens (' ' :: (" ".intercalate (macroBody u.schema c.kinds budget.slots)).toList)
      = (macroBody u.schema c.kinds budget.slots).flatMap fun x => tokens x.toList :=
    tokens_intercalate _
  have hempty : ReceivesAfter (receivingFields u.schema) false (tokens []) := trivial
  rw [hlists, List.forall_mem_cons, List.forall_mem_singleton, onlyReceives_iff, onlyReceives_iff,
    htokens, and_iff_left hempty]
  exact (exposes_macroBody hn budget.positive hkinds).2

/-- In the text of a header, no alias is called like the marker type it stands for if and only if
no marker type is called like the aliases. -/
theorem aliases_build_iff (u : UsableSchema) (c : Catalog) (budget : SlotBudget) :
    (∀ entry ∈ (Text.lines (build u.schema c budget).specializations.toList).filterMap
          Reading.specialization?, entry.2 ≠ "type") ↔
      u.schema.sentinel ≠ "type" ∧ "type" ∉ c.kinds := by
  have hmarkers : (build u.schema c budget).rows.map (·.marker) = u.schema.sentinel :: c.kinds :=
    OrdinalRow.map_marker_table u.schema c
  have hrows : (∀ row ∈ (build u.schema c budget).rows, row.marker ≠ "type") ↔
      "type" ∉ u.schema.sentinel :: c.kinds := by
    rw [← hmarkers, ← List.forall_mem_ne, List.forall_mem_map]
    simp only [ne_comm, ne_eq]
  rw [Reading.mapping_specializations (isNamed_build u c budget), List.forall_mem_map, hrows,
    List.mem_cons, not_or]
  exact and_congr_left' ne_comm

/-- **Nothing is captured that has another name.**  In the replacement list of the report macro the
parameter stands only where the macro asks it for one of four members, if and only if none of the
names in the list is called like it; and no specialization has an alias for a type of the same name,
if and only if no marker type is called like the alias. -/
theorem capture_free_iff {u : UsableSchema} {c : Catalog} {budget : SlotBudget} {h : Header}
    (hh : u.header c budget = .ok h) :
    ((∀ list ∈ replacementLists u.schema.reportMacro h.text,
        OnlyReceives (receivingFields u.schema) (tokens list)) ↔
      "parser" ∉ bodyNames u.schema c.kinds) ∧
    ((∀ entry ∈ (Text.lines h.specializations.toList).filterMap Reading.specialization?,
        entry.2 ≠ "type") ↔
      u.schema.sentinel ≠ "type" ∧ "type" ∉ c.kinds) := by
  obtain ⟨-, rfl⟩ := UsableSchema.header_eq_ok_iff.1 hh
  exact ⟨onlyReceives_build_iff u c budget, aliases_build_iff u c budget⟩

/-- The built-in header captures nothing. -/
theorem capture_free_seephit :
    ∃ h, UsableSchema.standard.header .seephit .standard = .ok h ∧
      (∀ list ∈ replacementLists "REPORT_ERRORS" h.text,
        OnlyReceives (receivingFields {}) (tokens list)) ∧
      ∀ entry ∈ (Text.lines h.specializations.toList).filterMap Reading.specialization?,
        entry.2 ≠ "type" := by
  have hspec := capture_free_iff UsableSchema.header_seephit
  exact ⟨_, UsableSchema.header_seephit, hspec.1.2 (by decide +kernel),
    hspec.2.2 (by decide +kernel)⟩

/-- The namespace may be called like the parameter, and a kind like the alias. -/
theorem capture_of_careless_names :
    (∃ u c budget h, u.schema = { namespaceName := "parser" } ∧
      (c.kinds = ["A"] ∧ budget.slots = 1) ∧ UsableSchema.header u c budget = .ok h ∧
      ¬∀ list ∈ replacementLists u.schema.reportMacro h.text,
        OnlyReceives (receivingFields u.schema) (tokens list)) ∧
    ∃ c budget h, (c.kinds = ["type"] ∧ budget.slots = 1) ∧
      UsableSchema.standard.header c budget = .ok h ∧
      ("Error_type", "type") ∈
        (Text.lines h.specializations.toList).filterMap Reading.specialization? := by
  let budget : SlotBudget := ⟨1, Nat.one_pos⟩
  constructor
  · -- the namespace is asked for the members of the parameter
    let u : UsableSchema := ⟨{ namespaceName := "parser" }, by decide +kernel⟩
    let c : Catalog := ⟨["A"], by decide +kernel, by decide +kernel⟩
    have haccepts : u.Accepts c :=
      UsableSchema.kindError?_eq_none_iff.1 (by decide +kernel)
    refine ⟨u, c, budget, _, rfl, ⟨rfl, rfl⟩, UsableSchema.header_of_accepts haccepts, ?_⟩
    exact fun hreceives => (onlyReceives_build_iff u c budget).1 hreceives (by decide +kernel)
  · -- the alias stands for the type it is called like
    let c : Catalog := ⟨["type"], by decide +kernel, by decide +kernel⟩
    have haccepts : UsableSchema.standard.Accepts c :=
      UsableSchema.kindError?_eq_none_iff.1 (by decide +kernel)
    refine ⟨c, budget, _, ⟨rfl, rfl⟩, UsableSchema.header_of_accepts haccepts, ?_⟩
    rw [Reading.mapping_specializations (isNamed_build UsableSchema.standard c budget)]
    decide +kernel

end Header

end ErrorScaffold
