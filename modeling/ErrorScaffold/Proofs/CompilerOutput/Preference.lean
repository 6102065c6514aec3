/-
Which report and which subscript are taken from a compiler's output.

A `Match` is one way to read a text as a failed report and a subscript after it.  A text may have
many, and `Match.IsPreferred` says which one counts: the first report, its last opening quotation
mark, its last closing one, and the last subscript, each among the matches that agree so far.

* `splitAtLastSubscript?_spec`, `message?_spec`, `quotedMessage?_spec` and
  `reportedMessage?_spec` — each scan stops at the last, or at the first, place that works;
* `Match.IsPreferred.unique` — one match at most is preferred;
* `isPreferred_of_extract?` — it is the one that the scans put together;
* `shorten_preferred` — a text is shortened by its preferred match, and stays if it has none.
-/
import ErrorScaffold.CompilerOutput
import ErrorScaffold.Proofs.Text.Search
import Mathlib.Data.List.TakeWhile

namespace ErrorScaffold

/-! ### The first and the last place to cut a text -/

namespace Text

/-- The text can be cut so that `P` holds of the two parts, and not further behind. -/
structure LastCut (P : List Char → List Char → Prop) (text front rest : List Char) : Prop where
  eq : text = front ++ rest
  holds : P front rest
  last : ∀ front' rest', text = front' ++ rest' → P front' rest' → front'.length ≤ front.length

/-- The text can be cut so that `P` holds of the two parts, and not further in front. -/
structure FirstCut (P : List Char → List Char → Prop) (text front rest : List Char) : Prop where
  eq : text = front ++ rest
  holds : P front rest
  first : ∀ front' rest', text = front' ++ rest' → P front' rest' → front.length ≤ front'.length

/-- Wherever the text is cut, `P` fails. -/
def NoCut (P : List Char → List Char → Prop) (text : List Char) : Prop :=
  ∀ front rest, text = front ++ rest → ¬P front rest

section

variable {P : List Char → List Char → Prop} {c : Char} {text front rest : List Char}

theorem NoCut.cons (hhere : ¬P [] (c :: text)) (h : NoCut (fun front => P (c :: front)) text) :
    NoCut P (c :: text) := by
  intro front rest heq
  cases front with
  | nil => rwa [← List.nil_append rest, ← heq]
  | cons d front =>
    obtain ⟨rfl, htail⟩ := List.cons.inj heq
    exact h front rest htail

/-- The last cut of the rest is the last cut of the whole. -/
theorem LastCut.cons (h : LastCut (fun front => P (c :: front)) text front rest) :
    LastCut P (c :: text) (c :: front) rest := by
  refine ⟨congrArg (c :: ·) h.eq, h.holds, ?_⟩
  intro front' rest' heq hP
  cases front' with
  | nil => exact Nat.zero_le _
  | cons d front' =>
    obtain ⟨rfl, htail⟩ := List.cons.inj heq
    exact Nat.succ_le_succ (h.last front' rest' htail hP)

/-- Where the rest has no cut, the start of the text is the last place. -/
theorem LastCut.here (hhere : P [] (c :: text)) (h : NoCut (fun front => P (c :: front)) text) :
    LastCut P (c :: text) [] (c :: text) := by
  refine ⟨rfl, hhere, ?_⟩
  intro front' rest' heq hP
  cases front' with
  | nil => exact Nat.le_refl _
  | cons d front' =>
    obtain ⟨rfl, htail⟩ := List.cons.inj heq
    exact absurd hP (h front' rest' htail)

theorem FirstCut.here (hhere : P [] text) : FirstCut P text [] text :=
  ⟨rfl, hhere, fun _ _ _ _ => Nat.zero_le _⟩

theorem FirstCut.cons (hhere : ¬P [] (c :: text))
    (h : FirstCut (fun front => P (c :: front)) text front rest) :
    FirstCut P (c :: text) (c :: front) rest := by
  refine ⟨congrArg (c :: ·) h.eq, h.holds, ?_⟩
  intro front' rest' heq hP
  cases front' with
  | nil =>
    rw [List.nil_append] at heq
    exact absurd (heq ▸ hP) hhere
  | cons d front' =>
    obtain ⟨rfl, htail⟩ := List.cons.inj heq
    exact Nat.succ_le_succ (h.first front' rest' htail hP)

end

end Text

namespace CompilerOutput

open Text

/-! ### Matches -/

/-- A text in pieces: a failed report with its message, and a subscript with its line.  Between the
pieces stand the notes that mark them. -/
@[ext]
structure Match where
  before : List Char
  lead : List Char
  message : List Char
  between : List Char
  line : List Char
  after : List Char

namespace Match

/-- The text that the pieces come from. -/
def text (m : Match) : List Char :=
  m.before ++ reportNote ++ m.lead ++ '\x22' :: m.message ++ messageEnd ++ m.between
    ++ subscriptNote ++ m.line ++ '\x27' :: m.after

/-- The pieces make up the text, and the report is on one line. -/
structure Reads (m : Match) (text : List Char) : Prop where
  text_eq : text = m.text
  lead_line : '\n' ∉ m.lead
  message_line : '\n' ∉ m.message
  message_ne : m.message ≠ []
  line_ne : m.line ≠ []
  line_digits : ∀ c ∈ m.line, c.isDigit = true

/-- Of all matches of the text this one has the shortest piece before the report; of those that
share it the longest lead, then the longest message, and then the longest piece in between. -/
structure IsPreferred (m : Match) (text : List Char) : Prop where
  reads : m.Reads text
  before_le : ∀ m' : Match, m'.Reads text → m.before.length ≤ m'.before.length
  lead_le : ∀ m' : Match, m'.Reads text → m'.before = m.before →
    m'.lead.length ≤ m.lead.length
  message_le : ∀ m' : Match, m'.Reads text → m'.before = m.before → m'.lead = m.lead →
    m'.message.length ≤ m.message.length
  between_le : ∀ m' : Match, m'.Reads text → m'.before = m.before → m'.lead = m.lead →
    m'.message = m.message → m'.between.length ≤ m.between.length

end Match

/-! ### The subscript -/

/-- The note of a subscript stands at the start of the text. -/
def IsSubscript (line text : List Char) : Prop :=
  line ≠ [] ∧ (∀ c ∈ line, c.isDigit = true) ∧
    ∃ after, text = subscriptNote ++ (line ++ '\x27' :: after)

@[simp] theorem subscript?_eq_some_iff {line text : List Char} :
    subscript? text = some line ↔ IsSubscript line text := by
  constructor
  · intro h
    simp only [subscript?, Option.bind_eq_bind, Option.bind_eq_some_iff] at h
    obtain ⟨value, hvalue, hline⟩ := h
    split at hline
    · cases hline
    · -- the scan stopped behind at least one digit, and at a quote
      next hnot =>
      obtain rfl := Option.some.inj hline
      rw [Bool.or_eq_true, not_or, List.isEmpty_iff, bne_iff_ne, ne_eq, Decidable.not_not] at hnot
      obtain ⟨after, hafter⟩ := List.head?_eq_some_iff.1 hnot.2
      refine ⟨hnot.1, fun c hc => List.mem_takeWhile_imp hc, after, ?_⟩
      rw [← List.append_eq_of_isPrefixOf?_eq_some hvalue, ← hafter,
        List.takeWhile_append_dropWhile]
  · -- the digits are a whole run, because the quote behind them is none
    rintro ⟨hne, hdigits, after, rfl⟩
    have hquote : ∀ c ∈ ('\x27' :: after).head?, c.isDigit = false := by
      intro c hc
      cases hc
      rfl
    have hempty : line.isEmpty = false := by
      rw [List.isEmpty_eq_false_iff]
      exact hne
    rw [subscript?, isPrefixOf?_append, Option.bind_eq_bind, Option.bind_some,
      takeWhile_run hdigits hquote, dropWhile_run hdigits hquote]
    dsimp only
    rw [hempty]
    rfl

/-- A subscript starts where the text is cut. -/
def StartsSubscript (_front rest : List Char) : Prop :=
  ∃ line, IsSubscript line rest

theorem subscript?_eq_none_iff {front text : List Char} :
    subscript? text = none ↔ ¬StartsSubscript front text := by
  rw [Option.eq_none_iff_forall_ne_some, StartsSubscript, not_exists]
  exact forall_congr' fun line => not_congr subscript?_eq_some_iff

/-- The scan for the last subscript, which goes to the end of the text first. -/
theorem splitAtLastSubscript?_spec (text : List Char) :
    (∀ before line, splitAtLastSubscript? text = some (before, line) →
      ∃ rest, LastCut StartsSubscript text before rest ∧ IsSubscript line rest) ∧
    (splitAtLastSubscript? text = none → NoCut StartsSubscript text) := by
  induction text with
  | nil =>
    refine ⟨nofun, fun _ front rest heq => ?_⟩
    rw [(List.append_eq_nil_iff.1 heq.symm).2]
    exact subscript?_eq_none_iff.1 rfl
  | cons c text ih =>
    cases hlater : splitAtLastSubscript? text with
    -- a later subscript goes before one that starts here
    | some found =>
      obtain ⟨rest, hcut, hline⟩ := ih.1 _ _ hlater
      rw [splitAtLastSubscript?, hlater]
      refine ⟨fun before line h => ?_, nofun⟩
      obtain ⟨rfl, rfl⟩ := Prod.mk.inj (Option.some.inj h)
      exact ⟨rest, hcut.cons, hline⟩
    -- with none later, the one that starts here is the last
    | none =>
      have hnone : NoCut StartsSubscript text := ih.2 hlater
      rw [splitAtLastSubscript?, hlater]
      constructor
      · intro before line h
        obtain ⟨digits, hdigits, heq⟩ := Option.map_eq_some_iff.1 h
        obtain ⟨rfl, rfl⟩ := Prod.mk.inj heq
        have hline := subscript?_eq_some_iff.1 hdigits
        exact ⟨_, .here ⟨digits, hline⟩ hnone, hline⟩
      · intro h
        exact .cons (subscript?_eq_none_iff.1 (Option.map_eq_none_iff.1 h)) hnone

/-! ### The message and its quotation marks -/

/-- What stands before the cut is a message, and its end comes next. -/
def EndsMessage (front rest : List Char) : Prop :=
  front ≠ [] ∧ '\n' ∉ front ∧ ∃ after, rest = messageEnd ++ after

/-- What stands before the cut is on one line, and a quoted message comes next. -/
def OpensMessage (front rest : List Char) : Prop :=
  '\n' ∉ front ∧ ∃ tail, rest = '\x22' :: tail ∧
    ∃ message after, tail = message ++ after ∧ EndsMessage message after

theorem message?_cons {c : Char} (hc : c ≠ '\n') (rest : List Char) :
    (lineEnd (c :: rest)).message?
      = ((lineEnd rest).message?.map (c :: ·)).or
          ((messageEnd.isPrefixOf? rest).map fun _ => [c]) := by
  rw [lineEnd, if_neg (by rwa [beq_iff_eq])]
  cases (lineEnd rest).message? <;> rfl

theorem quoted?_cons_of_ne {c : Char} (hc : c ≠ '\n') (rest : List Char) :
    (lineEnd (c :: rest)).quoted?
      = (lineEnd rest).quoted?.or (if c == '\x22' then (lineEnd rest).message? else none) := by
  rw [lineEnd, if_neg (by rwa [beq_iff_eq])]
  cases (lineEnd rest).quoted? <;> rfl

theorem endsMessage_cons_iff {c : Char} (hc : c ≠ '\n') {front rest : List Char} :
    EndsMessage (c :: front) rest ↔
      '\n' ∉ front ∧ ∃ after, rest = messageEnd ++ after := by
  rw [EndsMessage, List.mem_cons, not_or]
  exact ⟨fun h => ⟨h.2.1.2, h.2.2⟩,
    fun h => ⟨List.cons_ne_nil c front, ⟨Ne.symm hc, h.1⟩, h.2⟩⟩

/-- A message that goes on over `c` is one without `c` as well, unless `c` is all of it. -/
theorem EndsMessage.of_cons {c : Char} {front rest : List Char}
    (h : EndsMessage (c :: front) rest) (hne : front ≠ []) : EndsMessage front rest := by
  have hline := h.2.1
  rw [List.mem_cons, not_or] at hline
  exact ⟨hne, hline.2, h.2.2⟩

/-- The scan for the last end of a message. -/
theorem message?_spec (text : List Char) :
    (∀ message, (lineEnd text).message? = some message →
      ∃ rest, LastCut EndsMessage text message rest) ∧
    ((lineEnd text).message? = none → NoCut EndsMessage text) := by
  induction text with
  | nil =>
    refine ⟨nofun, fun _ front rest heq h => ?_⟩
    exact h.1 (List.append_eq_nil_iff.1 heq.symm).1
  | cons c text ih =>
    -- no message is empty, so that none ends where the text starts
    have hstart : ¬EndsMessage [] (c :: text) := fun h => h.1 rfl
    by_cases hc : c = '\n'
    · subst hc
      refine ⟨nofun, fun _ => .cons hstart fun front rest _ h => ?_⟩
      exact h.2.1 List.mem_cons_self
    · rw [message?_cons hc]
      cases hlater : (lineEnd text).message? with
      | some found =>
        obtain ⟨rest, hcut⟩ := ih.1 found hlater
        refine ⟨fun message h => ?_, nofun⟩
        obtain rfl := Option.some.inj h
        refine ⟨rest, .cons ⟨hcut.eq, ?_, fun front' rest' heq h' => ?_⟩⟩
        · exact (endsMessage_cons_iff hc).2 hcut.holds.2
        · by_cases hne : front' = []
          · rw [hne]
            exact Nat.zero_le _
          · exact hcut.last front' rest' heq (h'.of_cons hne)
      | none =>
        have hnone : NoCut EndsMessage text := ih.2 hlater
        constructor
        · intro message h
          -- `c` is the whole message
          obtain ⟨after, hafter, rfl⟩ := Option.map_eq_some_iff.1 h
          refine ⟨text, .cons ⟨rfl, ?_, fun front' rest' heq h' => ?_⟩⟩
          · have hrest := (List.append_eq_of_isPrefixOf?_eq_some hafter).symm
            exact (endsMessage_cons_iff hc).2 ⟨List.not_mem_nil, after, hrest⟩
          · by_cases hne : front' = []
            · rw [hne]
            · exact absurd (h'.of_cons hne) (hnone front' rest' heq)
        · intro h
          refine .cons hstart fun front rest heq h' => ?_
          by_cases hne : front = []
          · obtain ⟨after, hafter⟩ := h'.2.2
            rw [hne, List.nil_append] at heq
            rw [Option.map_none, Option.none_or, heq, hafter, isPrefixOf?_append] at h
            cases h
          · exact hnone front rest heq (h'.of_cons hne)

theorem opensMessage_cons {c : Char} (hc : c ≠ '\n') :
    (fun front => OpensMessage (c :: front)) = OpensMessage := by
  funext front rest
  rw [OpensMessage, OpensMessage, List.mem_cons, not_or, and_iff_right (Ne.symm hc)]

/-- The scan for the last quotation mark before a message, and the message after it. -/
theorem quotedMessage?_spec (text : List Char) :
    (∀ message, quotedMessage? text = some message →
      ∃ front tail rest, LastCut OpensMessage text front ('\x22' :: tail) ∧
        LastCut EndsMessage tail message rest) ∧
    (quotedMessage? text = none → NoCut OpensMessage text) := by
  unfold quotedMessage?
  -- the scan runs from behind, so what the rest of the line holds decides the case
  induction text with
  | nil =>
    refine ⟨nofun, fun _ front rest heq h => ?_⟩
    obtain ⟨-, tail, htail, -⟩ := h
    rw [(List.append_eq_nil_iff.1 heq.symm).2] at htail
    cases htail
  | cons c text ih =>
    by_cases hc : c = '\n'
    · -- the line ends here: nothing is opened here, and nothing later counts
      subst hc
      refine ⟨nofun, fun _ => .cons ?_ fun front rest _ h => h.1 List.mem_cons_self⟩
      rintro ⟨-, tail, htail, -⟩
      cases htail
    · rw [quoted?_cons_of_ne hc]
      cases hlater : (lineEnd text).quoted? with
      -- a later mark opens a message, and goes before one at this place
      | some found =>
        obtain ⟨front, tail, rest, hcut, hmessage⟩ := ih.1 found hlater
        refine ⟨fun message h => ?_, nofun⟩
        obtain rfl := Option.some.inj h
        rw [← opensMessage_cons hc] at hcut
        exact ⟨c :: front, tail, rest, hcut.cons, hmessage⟩
      | none =>
        have hnone := ih.2 hlater
        rw [← opensMessage_cons hc] at hnone
        rw [Option.none_or]
        -- no later mark does, so this character alone decides
        by_cases hquote : c = '\x22'
        · subst hquote
          rw [if_pos (beq_self_eq_true _)]
          -- a mark opens a message if and only if one ends behind it
          constructor
          · intro message h
            obtain ⟨rest, hmessage⟩ := (message?_spec text).1 message h
            refine ⟨[], text, rest, .here ?_ hnone, hmessage⟩
            exact ⟨List.not_mem_nil, text, rfl, message, rest, hmessage.eq, hmessage.holds⟩
          · intro h
            refine .cons ?_ hnone
            rintro ⟨-, tail, htail, message, after, heq, hends⟩
            obtain ⟨-, rfl⟩ := List.cons.inj htail
            exact (message?_spec text).2 h message after heq hends
        · -- any other character opens none
          rw [if_neg (by rwa [beq_iff_eq])]
          refine ⟨nofun, fun _ => .cons ?_ hnone⟩
          rintro ⟨-, tail, htail, -⟩
          exact hquote (List.cons.inj htail).1

/-! ### The report -/

/-- A report with a quoted message starts where the text is cut. -/
def StartsReport (_front rest : List Char) : Prop :=
  ∃ tail, rest = reportNote ++ tail ∧ ∃ lead quoted, tail = lead ++ quoted ∧
    OpensMessage lead quoted

/-- The scan for the first report. -/
theorem reportedMessage?_spec (text : List Char) :
    (∀ message, reportedMessage? text = some message →
      ∃ before tail lead quoted rest, FirstCut StartsReport text before (reportNote ++ tail) ∧
        LastCut OpensMessage tail lead ('\x22' :: quoted) ∧
        LastCut EndsMessage quoted message rest) ∧
    (reportedMessage? text = none → NoCut StartsReport text) := by
  induction text with
  | nil =>
    refine ⟨nofun, fun _ front rest heq h => ?_⟩
    obtain ⟨tail, htail, -⟩ := h
    rw [(List.append_eq_nil_iff.1 heq.symm).2] at htail
    cases htail
  | cons c text ih =>
    cases hhere : (reportNote.isPrefixOf? (c :: text)).bind quotedMessage? with
    -- a report that starts here is the first, whatever follows
    | some found =>
      obtain ⟨tail, htail, hfound⟩ := Option.bind_eq_some_iff.1 hhere
      obtain ⟨lead, quoted, rest, hlead, hmessage⟩ := (quotedMessage?_spec tail).1 found hfound
      have htext := (List.append_eq_of_isPrefixOf?_eq_some htail).symm
      have hreport : StartsReport [] (c :: text) :=
        ⟨tail, htext, lead, _, hlead.eq, hlead.holds⟩
      rw [reportedMessage?, hhere]
      refine ⟨fun message h => ?_, nofun⟩
      obtain rfl := Option.some.inj h
      exact ⟨[], tail, lead, quoted, rest, htext ▸ .here hreport, hlead, hmessage⟩
    -- none starts here, so the first of the rest is the first of all
    | none =>
      have hreport : ¬StartsReport [] (c :: text) := by
        rintro ⟨tail, htail, lead, quoted, heq, hopens⟩
        rw [htail, isPrefixOf?_append, Option.bind_some] at hhere
        exact (quotedMessage?_spec tail).2 hhere lead quoted heq hopens
      rw [reportedMessage?, hhere]
      constructor
      · intro message h
        obtain ⟨before, tail, lead, quoted, rest, hcut, hlead, hmessage⟩ := ih.1 message h
        exact ⟨c :: before, tail, lead, quoted, rest, hcut.cons hreport, hlead, hmessage⟩
      · exact fun h => .cons hreport (ih.2 h)

/-! ### The preferred match -/

namespace Match

/-- The pieces up to the end of the message, with the notes between them. -/
def report (m : Match) : List Char :=
  m.before ++ (reportNote ++ (m.lead ++ '\x22' :: (m.message ++ messageEnd)))

/-- The subscript and what follows it. -/
def subscript (m : Match) : List Char :=
  subscriptNote ++ (m.line ++ '\x27' :: m.after)

theorem text_eq_report (m : Match) : m.text = m.report ++ (m.between ++ m.subscript) := by
  simp [text, report, subscript]

theorem report_append (m : Match) (rest : List Char) :
    m.report ++ rest
      = m.before ++ (reportNote ++ (m.lead ++ '\x22' :: (m.message ++ (messageEnd ++ rest)))) := by
  simp [report]

variable {m m' : Match} {text before rest : List Char}

theorem Reads.isSubscript (h : m.Reads text) : IsSubscript m.line m.subscript :=
  ⟨h.line_ne, h.line_digits, m.after, rfl⟩

theorem Reads.endsMessage (h : m.Reads text) (rest : List Char) :
    EndsMessage m.message (messageEnd ++ rest) :=
  ⟨h.message_ne, h.message_line, rest, rfl⟩

theorem Reads.opensMessage (h : m.Reads text) (rest : List Char) :
    OpensMessage m.lead ('\x22' :: (m.message ++ (messageEnd ++ rest))) :=
  ⟨h.lead_line, _, rfl, m.message, _, rfl, h.endsMessage rest⟩

theorem Reads.startsReport (h : m.Reads text) (front rest : List Char) :
    StartsReport front (reportNote ++ (m.lead ++ '\x22' :: (m.message ++ (messageEnd ++ rest)))) :=
  ⟨_, rfl, m.lead, _, rfl, h.opensMessage rest⟩

/-- Any match has its report before the last subscript, which it may take instead of its own. -/
theorem Reads.exists_between (h : m.Reads text) (hcut : LastCut StartsSubscript text before rest) :
    ∃ between, before = m.report ++ between ∧ m.between.length ≤ between.length := by
  have htext : text = (m.report ++ m.between) ++ m.subscript := by
    rw [h.text_eq, text_eq_report, List.append_assoc]
  have hlength := hcut.last _ _ htext ⟨m.line, h.isSubscript⟩
  have hprefix : m.report ++ m.between <+: before :=
    List.prefix_of_prefix_length_le ⟨_, htext.symm⟩ ⟨_, hcut.eq.symm⟩ hlength
  obtain ⟨more, hmore⟩ := hprefix
  refine ⟨m.between ++ more, ?_, ?_⟩
  · rw [← hmore, List.append_assoc]
  · rw [List.length_append]
    exact Nat.le_add_right _ _

/-- No two matches are preferred: their pieces have the same lengths, one after the other. -/
theorem IsPreferred.unique (h : m.IsPreferred text) (h' : m'.IsPreferred text) : m = m' := by
  have htext : m.report ++ (m.between ++ m.subscript)
      = m'.report ++ (m'.between ++ m'.subscript) := by
    rw [← text_eq_report, ← text_eq_report, ← h.reads.text_eq, ← h'.reads.text_eq]
  rw [report_append, report_append] at htext
  obtain ⟨hbefore, htext⟩ := List.append_inj htext
    (Nat.le_antisymm (h.before_le m' h'.reads) (h'.before_le m h.reads))
  obtain ⟨hlead, htext⟩ := List.append_inj (List.append_cancel_left htext)
    (Nat.le_antisymm (h'.lead_le m h.reads hbefore) (h.lead_le m' h'.reads hbefore.symm))
  obtain ⟨hmessage, htext⟩ := List.append_inj (List.cons.inj htext).2
    (Nat.le_antisymm (h'.message_le m h.reads hbefore hlead)
      (h.message_le m' h'.reads hbefore.symm hlead.symm))
  obtain ⟨hbetween, htext⟩ := List.append_inj (List.append_cancel_left htext)
    (Nat.le_antisymm (h'.between_le m h.reads hbefore hlead hmessage)
      (h.between_le m' h'.reads hbefore.symm hlead.symm hmessage.symm))
  -- the digits of a line end at the quotation mark
  have hquote : ∀ after : List Char, ∀ c ∈ ('\x27' :: after).head?, c.isDigit = false := by
    intro after c hc
    cases hc
    rfl
  have hvalue := List.append_cancel_left htext
  have hline : m.line = m'.line := by
    rw [← takeWhile_run h.reads.line_digits (hquote m.after), hvalue,
      takeWhile_run h'.reads.line_digits (hquote m'.after)]
  rw [hline] at hvalue
  have hafter := (List.cons.inj (List.append_cancel_left hvalue)).2
  exact Match.ext hbefore hlead hmessage hbetween hline hafter

end Match

/-- What the scans put together is the preferred match. -/
theorem isPreferred_of_extract? {text message line : List Char}
    (h : extract? text = some (message, line)) :
    ∃ m : Match, m.IsPreferred text ∧ m.message = message ∧ m.line = line := by
  simp only [extract?, Option.bind_eq_bind, Option.bind_eq_some_iff, Prod.exists] at h
  obtain ⟨front, digits, hsplit, found, hfound, heq⟩ := h
  obtain ⟨rfl, rfl⟩ := Prod.mk.inj (Option.some.inj heq)
  obtain ⟨_, hsubscript, hne, hdigits, after, rfl⟩ := (splitAtLastSubscript?_spec text).1 _ _ hsplit
  obtain ⟨before, tail, lead, quoted, _, hbefore, hlead, hmessage⟩ :=
    (reportedMessage?_spec front).1 _ hfound
  obtain ⟨hmessage_ne, hmessage_line, between, rfl⟩ := hmessage.holds
  let m : Match := ⟨before, lead, found, between, digits, after⟩
  have hfront : front = m.report ++ between := by
    rw [Match.report_append, ← hmessage.eq, ← hlead.eq, ← hbefore.eq]
  have hreads : m.Reads text := by
    refine ⟨?_, hlead.holds.1, hmessage_line, hmessage_ne, hne, hdigits⟩
    rw [Match.text_eq_report, hsubscript.eq, hfront, List.append_assoc]
    rfl
  refine ⟨m, ⟨hreads, ?_, ?_, ?_, ?_⟩, rfl, rfl⟩
  -- each other match has its report before the same subscript, and the scans have passed it
  · intro m' h'
    obtain ⟨v, hv, -⟩ := h'.exists_between hsubscript
    rw [Match.report_append] at hv
    exact hbefore.first _ _ hv (h'.startsReport _ v)
  · intro m' h' hb
    obtain ⟨v, hv, -⟩ := h'.exists_between hsubscript
    rw [Match.report_append, hb, hbefore.eq] at hv
    have htail := List.append_cancel_left (List.append_cancel_left hv)
    exact hlead.last _ _ htail (h'.opensMessage v)
  · intro m' h' hb hl
    obtain ⟨v, hv, -⟩ := h'.exists_between hsubscript
    rw [Match.report_append, hb, hl, hbefore.eq, hlead.eq] at hv
    have htail := List.append_cancel_left (List.append_cancel_left (List.append_cancel_left hv))
    exact hmessage.last _ _ (List.cons.inj htail).2 (h'.endsMessage v)
  · intro m' h' hb hl hm
    obtain ⟨v, hv, hlength⟩ := h'.exists_between hsubscript
    have hreport : m'.report = m.report := by rw [Match.report, hb, hl, hm, Match.report]
    rw [hreport, hfront] at hv
    rwa [← List.append_cancel_left hv] at hlength

theorem not_reads_of_extract? {text : List Char} (h : extract? text = none) (m : Match) :
    ¬m.Reads text := by
  intro hreads
  simp only [extract?, Option.bind_eq_bind, Option.bind_eq_none_iff, Prod.forall] at h
  cases hsplit : splitAtLastSubscript? text with
  -- without a subscript there is none for the match to end in
  | none =>
    have htext : text = (m.report ++ m.between) ++ m.subscript := by
      rw [hreads.text_eq, Match.text_eq_report, List.append_assoc]
    exact (splitAtLastSubscript?_spec text).2 hsplit _ _ htext ⟨m.line, hreads.isSubscript⟩
  -- with one, the text in front of the last is free of reports, and a match has its report there
  | some found =>
    obtain ⟨front, line⟩ := found
    obtain ⟨rest, hsubscript, -⟩ := (splitAtLastSubscript?_spec text).1 _ _ hsplit
    obtain ⟨between, hfront, -⟩ := hreads.exists_between hsubscript
    rw [Match.report_append] at hfront
    have hmessage : reportedMessage? front = none := by
      cases hfound : reportedMessage? front with
      | none => rfl
      | some message => cases h front line hsplit message hfound
    exact (reportedMessage?_spec front).2 hmessage _ _ hfront (hreads.startsReport _ between)

/-- **A text is shortened by its preferred match.**  A text without a match stays as it is; a text
with one has exactly one that is preferred, and becomes the message of that and its line. -/
theorem shorten_preferred (raw : String) :
    ((¬∃ m : Match, m.Reads raw.toList) → shorten raw = raw) ∧
    ((∃ m : Match, m.Reads raw.toList) → ∃! m : Match, m.IsPreferred raw.toList) ∧
    ∀ m : Match, m.IsPreferred raw.toList →
      shorten raw = String.ofList m.message ++ " at line: " ++ String.ofList m.line := by
  cases hextract : extract? raw.toList with
  | none =>
    have hnone := not_reads_of_extract? hextract
    have hshorten : shorten raw = raw := by rw [shorten, hextract]
    exact ⟨fun _ => hshorten, fun ⟨m, hm⟩ => absurd hm (hnone m),
      fun m hm => absurd hm.reads (hnone m)⟩
  | some found =>
    obtain ⟨message, line⟩ := found
    obtain ⟨m, hm, rfl, rfl⟩ := isPreferred_of_extract? hextract
    refine ⟨fun hnot => absurd ⟨m, hm.reads⟩ hnot,
      fun _ => ⟨m, hm, fun m' hm' => hm'.unique hm⟩, ?_⟩
    intro m' hm'
    rw [hm'.unique hm, shorten, hextract]

/-- Of two reports, three quotation marks and two subscripts the first report counts, its last
marks and the last subscript. -/
theorem shorten_two_reports :
    let raw := "ParseError(\"a\", \"b\") c\")\nParseError(\"d\") array subscript value '1', '2'"
      ++ "\narray subscript value '34'"
    (∃ m : Match, m.Reads raw.toList) ∧
      (∃ m : Match, m.IsPreferred raw.toList ∧
        shorten raw = String.ofList m.message ++ " at line: " ++ String.ofList m.line) ∧
      shorten raw = ") c at line: 34" := by
  intro raw
  have htext : raw.toList
      = "ParseError(\"a\", \"b\") c\")\nParseError(\"d\") array subscript value '1', '2'".toList
        ++ "\narray subscript value '34'".toList := String.toList_append
  -- not the preferred one: it takes the second report and the first subscript
  have hreads : ∃ m : Match, m.Reads raw.toList := by
    rw [htext]
    refine ⟨⟨"ParseError(\"a\", \"b\") c\")\n".toList, [], ['d'], [' '], ['1'],
      ", '2'\narray subscript value '34'".toList⟩, rfl, by decide, by decide, by decide, by decide,
      List.forall_mem_singleton.2 rfl⟩
  obtain ⟨m, hm, -⟩ := (shorten_preferred raw).2.1 hreads
  have hextract : extract? raw.toList = some (") c".toList, "34".toList) := by
    rw [htext]
    rfl
  refine ⟨hreads, ⟨m, hm, (shorten_preferred raw).2.2 m hm⟩, ?_⟩
  rw [shorten, hextract]
  rfl

end CompilerOutput

end ErrorScaffold
