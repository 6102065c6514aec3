/-
What comes out of shortening, and that it is not shortened again.

A match takes two quotation marks from its text, one before the message and one after it.  The
preferred match opens its message at the last mark that can open one, so that a mark inside the
message would be a better place to open it unless nothing comes after it.  What comes out has one
mark at most, and a second pass finds no match in it.

* `Match.IsPreferred.eq_nil_of_quote` — a quotation mark in the message is its last character;
* `not_reads_shorten` — no match is left, whatever the text was;
* `shorten_shorten` — shortening twice is shortening once, and a shortened text is one line.
-/
import ErrorScaffold.Proofs.CompilerOutput.Preference

namespace ErrorScaffold.CompilerOutput

/-! ### Quotation marks of a match -/

namespace Match

variable {m : Match} {text front back : List Char}

/-- A mark with more of the message behind it would have opened the message. -/
theorem IsPreferred.eq_nil_of_quote (h : m.IsPreferred text)
    (hquote : m.message = front ++ '\x22' :: back) : back = [] := by
  by_contra hne
  have hline := h.reads.message_line
  rw [hquote, List.mem_append, List.mem_cons, not_or, not_or] at hline
  -- the same report with its message opened at that mark, which has a longer lead
  let later : Match := { m with lead := m.lead ++ '\x22' :: front, message := back }
  have htext : m.text = later.text := by
    unfold Match.text
    rw [hquote]
    simp [later]
  have hreads : later.Reads text := by
    refine ⟨h.reads.text_eq.trans htext, ?_, hline.2.2, hne, h.reads.line_ne, h.reads.line_digits⟩
    rw [List.mem_append, List.mem_cons, not_or, not_or]
    exact ⟨h.reads.lead_line, by decide, hline.1⟩
  have hlength := h.lead_le later hreads rfl
  rw [List.length_append, List.length_cons] at hlength
  omega

theorem IsPreferred.count_message_le (h : m.IsPreferred text) : m.message.count '\x22' ≤ 1 := by
  by_cases hmem : '\x22' ∈ m.message
  · obtain ⟨front, back, hquote, hfront⟩ := List.eq_append_cons_of_mem hmem
    have hback : back = [] := h.eq_nil_of_quote hquote
    rw [hquote, hback, List.count_append, List.count_eq_zero.2 hfront, List.count_singleton_self]
  · rw [List.count_eq_zero.2 hmem]
    exact Nat.zero_le 1

/-- The mark before the message and the one after it. -/
theorem Reads.two_le_count (h : m.Reads text) : 2 ≤ text.count '\x22' := by
  have hend : messageEnd.count '\x22' = 1 := by decide
  rw [h.text_eq, Match.text]
  simp only [List.count_append, List.count_cons_self, hend]
  omega

theorem Reads.not_mem_line (h : m.Reads text) {c : Char} (hc : c.isDigit = false) :
    c ∉ m.line := by
  intro hmem
  rw [h.line_digits c hmem] at hc
  cases hc

end Match

/-! ### The shortened text -/

/-- What stands between the message and the line. -/
def lineNote : List Char :=
  " at line: ".toList

/-- A message and its line as one line of text. -/
structure IsSummary (message line output : List Char) : Prop where
  eq : output = message ++ lineNote ++ line
  newline_not_mem : '\n' ∉ output
  message_ne : message ≠ []
  count_quote_le : message.count '\x22' ≤ 1
  quote_last : ∀ front back, message = front ++ '\x22' :: back → back = []
  line_ne : line ≠ []
  line_digits : ∀ c ∈ line, c.isDigit = true

variable {m : Match} {text : List Char} {raw : String}

theorem exists_isPreferred (h : m.Reads text) : ∃ best : Match, best.IsPreferred text := by
  cases hextract : extract? text with
  | none => exact absurd h (not_reads_of_extract? hextract m)
  | some found =>
    obtain ⟨best, hbest, -⟩ := isPreferred_of_extract? hextract
    exact ⟨best, hbest⟩

theorem shorten_of_not_reads (h : ∀ m : Match, ¬m.Reads raw.toList) : shorten raw = raw := by
  cases hextract : extract? raw.toList with
  | none => rw [shorten, hextract]
  | some found =>
    obtain ⟨best, hbest, -⟩ := isPreferred_of_extract? hextract
    exact absurd hbest.reads (h best)

theorem toList_shorten (h : m.IsPreferred raw.toList) :
    (shorten raw).toList = m.message ++ lineNote ++ m.line := by
  cases hextract : extract? raw.toList with
  | none => exact absurd h.reads (not_reads_of_extract? hextract m)
  | some found =>
    obtain ⟨message, line⟩ := found
    obtain ⟨best, hbest, hmessage, hline⟩ := isPreferred_of_extract? hextract
    rw [h.unique hbest, hmessage, hline, shorten, hextract]
    simp only [String.toList_append, String.toList_ofList]
    rfl

theorem isSummary_shorten (h : m.IsPreferred raw.toList) :
    IsSummary m.message m.line (shorten raw).toList where
  eq := toList_shorten h
  newline_not_mem := by
    rw [toList_shorten h, List.mem_append, List.mem_append, not_or, not_or]
    exact ⟨⟨h.reads.message_line, by decide⟩, h.reads.not_mem_line (by decide)⟩
  message_ne := h.reads.message_ne
  count_quote_le := h.count_message_le
  quote_last _ _ hquote := h.eq_nil_of_quote hquote
  line_ne := h.reads.line_ne
  line_digits := h.reads.line_digits

theorem IsSummary.count_output {message line output : List Char}
    (h : IsSummary message line output) : output.count '\x22' = message.count '\x22' := by
  have hnote : lineNote.count '\x22' = 0 := by decide
  have hline : '\x22' ∉ line := fun hmem => absurd (h.line_digits _ hmem) (by decide)
  rw [h.eq, List.count_append, List.count_append, hnote, List.count_eq_zero.2 hline]
  rfl

/-- A text with a match loses it: too few quotation marks are left. -/
theorem not_reads_shorten (raw : String) (m : Match) : ¬m.Reads (shorten raw).toList := by
  intro hreads
  by_cases hmatch : ∃ m : Match, m.Reads raw.toList
  · obtain ⟨_, hm⟩ := hmatch
    obtain ⟨best, hbest⟩ := exists_isPreferred hm
    have hsummary := isSummary_shorten hbest
    have htwo := hreads.two_le_count
    have hone := hsummary.count_quote_le
    rw [hsummary.count_output] at htwo
    omega
  · rw [not_exists] at hmatch
    rw [shorten_of_not_reads hmatch] at hreads
    exact hmatch m hreads

/-- **Shortening twice is shortening once.**  A text with a match becomes a single line: a message
that is not empty, with no quotation mark but one at its end, the note, and the digits of a line. -/
theorem shorten_shorten (raw : String) :
    shorten (shorten raw) = shorten raw ∧
      ((∃ m : Match, m.Reads raw.toList) →
        ∃ m : Match, m.IsPreferred raw.toList ∧
          IsSummary m.message m.line (shorten raw).toList) := by
  refine ⟨shorten_of_not_reads (not_reads_shorten raw), ?_⟩
  rintro ⟨m, hm⟩
  obtain ⟨best, hbest⟩ := exists_isPreferred hm
  exact ⟨best, hbest, isSummary_shorten hbest⟩

/-- A report whose message holds what opens a report and a subscript, and ends in a mark. -/
def nestedReport : String :=
  "ParseError(\"ParseError(array subscript value '1'\"\") array subscript value '23'"

theorem shorten_nestedReport :
    (∃ m : Match, m.Reads nestedReport.toList) ∧
      (∃ m : Match, m.IsPreferred nestedReport.toList ∧
        IsSummary m.message m.line (shorten nestedReport).toList) ∧
      shorten (shorten nestedReport) = "ParseError(array subscript value '1'\" at line: 23" := by
  have hreads : ∃ m : Match, m.Reads nestedReport.toList := by
    rw [nestedReport]
    exact ⟨⟨[], [], "ParseError(array subscript value '1'\"".toList, [' '], ['2', '3'], []⟩,
      rfl, by decide, by decide, by decide, by decide, List.all_eq_true.1 (by decide)⟩
  have hextract : extract? nestedReport.toList
      = some ("ParseError(array subscript value '1'\"".toList, "23".toList) := by
    rw [nestedReport]
    rfl
  have hshorten : shorten nestedReport = "ParseError(array subscript value '1'\" at line: 23" := by
    rw [shorten, hextract]
    rfl
  obtain ⟨htwice, hsummary⟩ := shorten_shorten nestedReport
  exact ⟨hreads, hsummary hreads, htwice.trans hshorten⟩

end ErrorScaffold.CompilerOutput
