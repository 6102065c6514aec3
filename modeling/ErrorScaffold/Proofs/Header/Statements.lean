/-
The tokens of the statements of the report macro.

Each statement is on one line, by a form whose places are apart from every other word, so that a
name in it is one token and all other tokens are those of the form.

* `tokens_continued` — a statement has the tokens of its line, without the sign that continues it;
* `tokens_countStatement`, `tokens_guard`, `tokens_binding`, `tokens_trialStatement`,
  `tokens_conditionStatement`, `tokens_errorStatement` — the tokens of each statement.
-/
import ErrorScaffold.Proofs.Header.Preprocessing
import ErrorScaffold.Proofs.Text.Tokens

namespace ErrorScaffold

open Identifier Text

namespace Header

/-- A name with the namespace in front. -/
def scopedTokens (s : Schema) (name : String) : List Token :=
  [.word s.namespaceName, .sign ':', .sign ':', .word name]

/-- A member of an object. -/
def memberTokens (object field : String) : List Token :=
  [.word object, .sign '.', .word field]

/-- No word could go on from what comes before its place in the macro. -/
theorem isSpaced_macroForms :
    ∀ form ∈ [Layout.countForm, Layout.guardForm, Layout.bindingForm, Layout.trialForm,
      Layout.conditionForm, Layout.errorForm],
      LineForm.isSpaced false form.symbols = true := by
  decide +kernel

/-- The tokens of a statement are those of the line that it is on, which goes on behind it. -/
theorem tokens_continued {x : String} {line : Line} {ts : List Token} (hn : line.IsNamed)
    (hspaced : LineForm.isSpaced false line.form.symbols = true)
    (hchars : line.chars = x.toList ++ [' ', '\\'])
    (htokens : LineForm.tokensAfter [] line.form.symbols line.names = ts ++ [.sign '\\']) :
    tokens x.toList = ts := by
  have hline : tokens line.chars = tokens x.toList ++ [.sign '\\'] := by
    rw [hchars, tokens_append (by decide), tokens_blank]
    rfl
  rw [← Line.tokens_chars hn hspaced, hline] at htokens
  exact List.append_cancel_right htokens

section

variable {s : Schema}

theorem tokens_countStatement (hwarnings : IsWord s.warningsField) :
    tokens (countStatement s).toList
      = [.word "constexpr", .word "int", .word "n", .sign '=']
        ++ memberTokens "parser" s.warningsField
        ++ [.sign '.', .word "size", .sign '(', .sign ')', .sign ';'] := by
  have hn : (Layout.count s).IsNamed := by simpa [Line.IsNamed, Layout.count] using hwarnings
  have hchars : (Layout.count s).chars = (countStatement s).toList ++ [' ', '\\'] := by
    unfold countStatement
    simp [Layout.count, Layout.countForm, LineForm.template, Line.chars, LineForm.fill]
  exact tokens_continued hn (isSpaced_macroForms _ (.head _)) hchars rfl

@[simp] theorem tokens_guard (slot : Nat) :
    tokens ("if (" ++ toString slot ++ " < n)").toList
      = [.word "if", .sign '(', .word (toString slot), .sign '<', .word "n", .sign ')'] := by
  have hn : (Layout.blockGuard slot).IsNamed := by simp [Line.IsNamed, Layout.blockGuard]
  have hchars : (Layout.blockGuard slot).chars
      = ("if (" ++ toString slot ++ " < n)").toList ++ [' ', '\\'] := by
    simp [Layout.blockGuard, Layout.guardForm, LineForm.template, Line.chars, LineForm.fill]
  exact tokens_continued hn (isSpaced_macroForms _ (.tail _ (.head _))) hchars rfl

theorem tokens_binding (hwarnings : IsWord s.warningsField) (slot : Nat) :
    tokens ("  constexpr auto w = parser." ++ s.warningsField ++ "[" ++ toString slot
        ++ "];").toList
      = [.word "constexpr", .word "auto", .word "w", .sign '=']
        ++ memberTokens "parser" s.warningsField
        ++ [.sign '[', .word (toString slot), .sign ']', .sign ';'] := by
  have hn : (Layout.binding s slot).IsNamed := by
    simpa [Line.IsNamed, Layout.binding] using hwarnings
  have hchars : (Layout.binding s slot).chars
      = ("  constexpr auto w = parser." ++ s.warningsField ++ "[" ++ toString slot
        ++ "];").toList ++ [' ', '\\'] := by
    simp [Layout.binding, Layout.bindingForm, LineForm.template, Line.chars, LineForm.fill]
  exact tokens_continued hn (isSpaced_macroForms _ (by simp [Layout.binding])) hchars rfl

theorem tokens_trialStatement {kind : String} (hn : (Layout.trial s (s.enumerator kind)).IsNamed) :
    tokens (trialStatement s kind).toList
      = scopedTokens s s.ifTemplate ++ .sign '<' :: memberTokens "w" s.kindField
        ++ [.sign '=', .sign '='] ++ scopedTokens s (s.enumerator kind)
        ++ .sign ',' :: scopedTokens s s.warningTemplate
        ++ .sign '<' :: memberTokens "w" s.rowField ++ .sign ',' :: memberTokens "w" s.colField
        ++ .sign ',' :: scopedTokens s s.mapping ++ .sign '<' :: memberTokens "w" s.kindField
        ++ [.sign '>', .sign ':', .sign ':', .word "type", .sign '>', .sign '>', .sign '\x7b',
          .sign '\x7d', .sign ';'] := by
  have hchars : (Layout.trial s (s.enumerator kind)).chars
      = (trialStatement s kind).toList ++ [' ', '\\'] := by
    unfold trialStatement
    simp [Layout.trial, Layout.trialForm, Schema.inScope, LineForm.template, Line.chars,
      LineForm.fill]
  exact tokens_continued hn (isSpaced_macroForms _ (by simp [Layout.trial])) hchars rfl

theorem tokens_conditionStatement (hn : (Layout.condition s).IsNamed) :
    tokens (conditionStatement s).toList
      = [.word "constexpr", .word "bool", .word "hasErr", .sign '=']
        ++ memberTokens "parser" s.errorRowField
        ++ [.sign '>', .sign '=', .word "0", .sign '&', .sign '&']
        ++ memberTokens "parser" s.errorColField
        ++ [.sign '>', .sign '=', .word "0", .sign ';'] := by
  have hchars : (Layout.condition s).chars
      = (conditionStatement s).toList ++ [' ', '\\'] := by
    unfold conditionStatement
    simp [Layout.condition, Layout.conditionForm, LineForm.template, Line.chars, LineForm.fill]
  exact tokens_continued hn (isSpaced_macroForms _ (by simp [Layout.condition])) hchars rfl

theorem tokens_errorStatement (hn : (Layout.error s).IsNamed) :
    tokens (errorStatement s).toList
      = scopedTokens s s.ifTemplate ++ [.sign '<', .word "hasErr", .sign ',']
        ++ scopedTokens s s.errorTemplate ++ .sign '<' :: memberTokens "parser" s.errorRowField
        ++ .sign ',' :: memberTokens "parser" s.errorColField
        ++ .sign ',' :: scopedTokens s s.mapping
        ++ .sign '<' :: memberTokens "parser" s.errorKindField
        ++ [.sign '>', .sign ':', .sign ':', .word "type", .sign '>', .sign '>', .sign '\x7b',
          .sign '\x7d', .sign ';'] := by
  have hchars : (Layout.error s).chars = (errorStatement s).toList := by
    unfold errorStatement
    simp [Layout.error, Layout.errorForm, Schema.inScope, LineForm.template, Line.chars,
      LineForm.fill]
  -- the last statement is not continued
  rw [← hchars, Line.tokens_chars hn (isSpaced_macroForms _ (by simp [Layout.error]))]
  rfl

end

end Header

end ErrorScaffold
