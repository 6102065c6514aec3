/-
How a command talks has no part in what it does.

The mode of an invocation decides on summaries and notes.  The checks of a command and the texts
that it writes do not depend on it, so that two runs that differ in the mode alone end in the same
way and leave the same files.

* `Concludes.parts` — the end of a run, part by part, from the effect of its command;
* `Command.files_effect` — the mode touches nothing of an effect but what is printed;
* `Command.effect_eq_of_printsAlike` — and not that, where both modes print the same of it;
* `Invocation.independent` — all this for two runs.
-/
import ErrorScaffold.Proofs.Command.Effect

namespace ErrorScaffold

/-! ### The parts of an effect -/

namespace Effect

/-- The files after a command, or why it fails. -/
def files (effect : Effect) : Except RunError FileStore :=
  effect.map Prod.fst

/-- What is printed; a failure prints nothing. -/
def printed : Effect → String
  | .ok (_, text) => text
  | .error _ => ""

/-- Steps that come first and touch no file leave it to what follows them. -/
theorem files_bind_congr {result : Except RunError α} {next next' : α → Effect}
    (h : ∀ a, (next a).files = (next' a).files) :
    files (result >>= next) = files (result >>= next') := by
  cases result with
  | error e => rfl
  | ok a => exact h a

end Effect

/-- A run ends as the effect of its command says; a failure leaves the files as they were. -/
theorem Concludes.parts {mode : OutputMode} {before : Session} {effect : Effect}
    {ended : Except RunError Unit × Session} (h : Concludes mode before effect ended) :
    ended.1 = effect.files.map (fun _ => ()) ∧
      ended.2.files = effect.files.toOption.getD before.files ∧
      ended.2.stdout = before.stdout ++ effect.printed ∧
      (mode.reports = false → ended.2.stderr = before.stderr) := by
  cases h with
  | done noted => exact ⟨rfl, noted.files, noted.stdout, noted.stderr⟩
  | failed noted =>
    refine ⟨rfl, noted.files, ?_, noted.stderr⟩
    rw [noted.stdout]
    exact String.append_empty.symm

/-! ### Two modes -/

namespace OutputMode

/-- Both modes print the same summary. -/
def SummarizesAlike (mode mode' : OutputMode) : Prop :=
  mode.json = mode'.json ∧ (mode.json = true ∨ mode.quiet = mode'.quiet)

theorem SummarizesAlike.summary_eq {mode mode' : OutputMode} (h : mode.SummarizesAlike mode')
    (json remark : String) : mode.summary json remark = mode'.summary json remark := by
  obtain ⟨hjson, hquiet⟩ := h
  unfold summary
  rw [← hjson]
  rcases hquiet with hquiet | hquiet
  · rw [if_pos hquiet, if_pos hquiet]
  · rw [hquiet]

end OutputMode

namespace Command

variable {mode mode' : OutputMode} {fetch : Url → Fetch} {files : FileStore}

/-- The modes have no say in what the command prints, or agree in what they have to say: on a
listing, whether it is JSON, and on a summary, whether it is JSON and, if it is not, whether it is
left out. -/
def PrintsAlike (mode mode' : OutputMode) : Command → Prop
  | generate _ _ none => True
  | generate _ _ (some _) => mode.SummarizesAlike mode'
  | catalog _ => mode.json = mode'.json
  | filter _ => True
  | skeleton _ => True
  | tags _ _ => mode.SummarizesAlike mode'

theorem files_deliver (files : FileStore) (path text summary summary' : String)
    (refused : SystemFault → RunError) :
    (deliver files path text summary refused).files
      = (deliver files path text summary' refused).files := by
  unfold deliver
  cases files.write path text.toUTF8 <;> rfl

/-- The mode touches nothing of an effect but what is printed. -/
theorem files_effect (command : Command) (mode mode' : OutputMode) (fetch : Url → Fetch)
    (files : FileStore) :
    (command.effect mode fetch files).files = (command.effect mode' fetch files).files := by
  cases command with
  | generate config? slots? output? =>
    refine Effect.files_bind_congr fun config => Effect.files_bind_congr fun header => ?_
    cases output? with
    | none => rfl
    | some path => exact files_deliver files path header.text _ _ _
  | catalog config? =>
    exact Effect.files_bind_congr fun config => Effect.files_bind_congr fun rows => rfl
  | filter raw => rfl
  | skeleton source => rfl
  | tags address output =>
    exact Effect.files_bind_congr fun file => files_deliver files output file.render _ _ _

/-- Where both modes print the same, the whole effect is the same. -/
theorem effect_eq_of_printsAlike {command : Command} (h : command.PrintsAlike mode mode') :
    command.effect mode fetch files = command.effect mode' fetch files := by
  cases command with
  | generate config? slots? output? =>
    cases output? with
    | none => rfl
    -- only the summary of what was written looks at the flags
    | some path =>
      have hsummary := OutputMode.SummarizesAlike.summary_eq h
      simp only [effect, headerEffect, hsummary]
  | catalog config? =>
    -- a listing looks at one flag alone
    have hjson : mode.json = mode'.json := h
    simp only [effect, OutputMode.listing, hjson]
  | filter raw => rfl
  | skeleton source => rfl
  | tags address output =>
    have hsummary := OutputMode.SummarizesAlike.summary_eq h
    simp only [effect, tagsEffect, hsummary]

theorem printsAlike_of_summarizesAlike (command : Command) (h : mode.SummarizesAlike mode') :
    command.PrintsAlike mode mode' := by
  cases command with
  | generate config? slots? output? =>
    cases output? with
    | none => trivial
    | some path => exact h
  | catalog config? => exact h.1
  | filter raw => trivial
  | skeleton source => trivial
  | tags address output => exact h

end Command

/-- **The mode does not interfere.**  Two runs of a command that differ in the mode alone have the
same result and leave the same files.  They print the same where the command prints no summary or
the modes agree on it; so it is with any summary in JSON, and reporting progress never counts.
Without that, nothing is noted. -/
theorem Invocation.independent (command : Command) (mode mode' : OutputMode)
    (fetch : Url → Fetch) (before : Session) :
    let run := outcome ⟨command, mode⟩ fetch before
    let run' := outcome ⟨command, mode'⟩ fetch before
    run.1 = run'.1 ∧ run.2.files = run'.2.files ∧
    (command.PrintsAlike mode mode' → run.2.stdout = run'.2.stdout) ∧
    (mode.json = true → mode'.json = true → run.2.stdout = run'.2.stdout) ∧
    (mode.json = mode'.json → mode.quiet = mode'.quiet → run.2.stdout = run'.2.stdout) ∧
    (¬(mode.verbose = true ∧ mode.quiet = false) → run.2.stderr = before.stderr) := by
  intro run run'
  obtain ⟨hresult, hfiles, hstdout, hstderr⟩ := (concludes ⟨command, mode⟩ fetch before).parts
  obtain ⟨hresult', hfiles', hstdout', -⟩ := (concludes ⟨command, mode'⟩ fetch before).parts
  have hsame := command.files_effect mode mode' fetch before.files
  have halike : command.PrintsAlike mode mode' → run.2.stdout = run'.2.stdout := fun h => by
    rw [hstdout, hstdout', Command.effect_eq_of_printsAlike h]
  refine ⟨?_, ?_, halike, fun hjson hjson' => ?_, fun hjson hquiet => ?_, fun hreports => ?_⟩
  · rw [hresult, hresult', hsame]
  · rw [hfiles, hfiles', hsame]
  · exact halike (command.printsAlike_of_summarizesAlike ⟨hjson.trans hjson'.symm, .inl hjson⟩)
  · exact halike (command.printsAlike_of_summarizesAlike ⟨hjson, .inr hquiet⟩)
  · exact hstderr (by simpa [OutputMode.reports] using hreports)

/-- The built-in header is written with the same summary, with and without notes, and the table is
listed for people whether they want to hear of it or not. -/
theorem Invocation.independent_seephit :
    let fetch : Url → Fetch := fun _ => .unresolved
    let writing : Command := .generate none none (some "h")
    let loud : OutputMode := { json := true, verbose := true }
    let quiet : OutputMode := { json := true, quiet := true, verbose := true }
    (outcome ⟨writing, loud⟩ fetch {}).1 = .ok () ∧
      (outcome ⟨writing, quiet⟩ fetch {}).1 = .ok () ∧
      (outcome ⟨writing, loud⟩ fetch {}).2.stdout = (outcome ⟨writing, quiet⟩ fetch {}).2.stdout ∧
      (outcome ⟨writing, quiet⟩ fetch {}).2.stderr = "" ∧
      (outcome ⟨.catalog none, {}⟩ fetch {}).2.stdout
        = (outcome ⟨.catalog none, { quiet := true, verbose := true }⟩ fetch {}).2.stdout := by
  intro fetch writing loud quiet
  have hdone : (outcome ⟨writing, loud⟩ fetch {}).1 = .ok () := outcome_seephit loud fetch
  obtain ⟨hresult, -, -, hjson, -, -⟩ := independent writing loud quiet fetch {}
  obtain ⟨-, -, -, -, -, hsilent⟩ := independent writing quiet quiet fetch {}
  obtain ⟨-, -, hlisting, -, -, -⟩ :=
    independent (.catalog none) {} { quiet := true, verbose := true } fetch {}
  exact ⟨hdone, hresult.symm.trans hdone, hjson rfl rfl, hsilent (by decide), hlisting rfl⟩

end ErrorScaffold
