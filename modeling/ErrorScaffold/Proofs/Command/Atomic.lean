/-
Commands are all or nothing.

* `Command.effect_eq_ok` — a command that succeeds has left the files alone, or has written one
  complete text to the path it was given;
* `Invocation.atomic` — a command that fails changes no file and prints nothing, and one that
  succeeds changes at most the file at that path, which then holds the complete text.
-/
import ErrorScaffold.Proofs.Command.Effect
import ErrorScaffold.Proofs.FileStore.Writing

namespace ErrorScaffold

namespace Command

/-- Where a command puts a file, if it puts one. -/
def output? : Command → Option String
  | generate _ _ output? => output?
  | tags _ output => some output
  | catalog _ => none
  | filter _ => none
  | skeleton _ => none

/-- The text that a command puts into its file, whole. -/
inductive Makes (fetch : Url → Fetch) (files : FileStore) : Command → String → Prop
  | header {config? : Option String} {slots? : Option Nat} {path : String} {config : Config}
      {header : Header} (hconfig : files.config config? = .ok config)
      (hheader : config.header slots? = .ok header) :
      Makes fetch files (.generate config? slots? (some path)) header.text
  | tagFile {address output : String} {file : TagFile}
      (hfile : TagFile.ofAddress fetch address = .ok file) :
      Makes fetch files (.tags address output) file.render

end Command

/-! ### Effects that succeed -/

namespace Command

/-- A command that succeeds leaves the files alone or writes its text. -/
theorem effect_eq_ok {mode : OutputMode} {fetch : Url → Fetch} {files after : FileStore}
    {printed : String} {command : Command}
    (h : command.effect mode fetch files = .ok (after, printed)) :
    (command.output? = none ∧ after = files) ∨
      ∃ path text, command.output? = some path ∧ command.Makes fetch files text ∧
        files.write path text.toUTF8 = .ok after := by
  cases command with
  | generate config? slots? output? =>
    cases output? with
    -- without a path the header is printed
    | none =>
      obtain ⟨config, -, h⟩ := exists_of_bind_eq_ok h
      obtain ⟨header, -, h⟩ := exists_of_bind_eq_ok h
      cases h
      exact Or.inl ⟨rfl, rfl⟩
    -- with one it is written, and the write is the last thing that can fail
    | some path =>
      obtain ⟨config, header, hconfig, hheader, hwrite, -⟩ := exists_of_effect_generate_some h
      exact Or.inr ⟨path, header.text, rfl, .header hconfig hheader, hwrite⟩
  | catalog config? =>
    obtain ⟨config, -, h⟩ := exists_of_bind_eq_ok h
    obtain ⟨rows, -, h⟩ := exists_of_bind_eq_ok h
    cases h
    exact Or.inl ⟨rfl, rfl⟩
  -- what only prints cannot fail
  | filter raw =>
    cases h
    exact Or.inl ⟨rfl, rfl⟩
  | skeleton source =>
    cases h
    exact Or.inl ⟨rfl, rfl⟩
  | tags address output =>
    obtain ⟨file, hfile, h⟩ := exists_of_bind_eq_ok h
    exact Or.inr ⟨output, file.render, rfl, .tagFile (eq_ok_of_mapError_eq_ok hfile),
      (write_of_deliver h).1⟩

end Command

/-- **Commands are atomic.**  Whatever the files are and whatever comes of fetching a page: a
command that fails has changed no file and printed nothing.  One that succeeds has changed nothing
but the file at the path it was given, and this one holds the whole text; a command without such a
path changes no file at all. -/
theorem Invocation.atomic (invocation : Invocation) (fetch : Url → Fetch) (before : Session) :
    (∀ e, (invocation.outcome fetch before).1 = .error e →
      (invocation.outcome fetch before).2.files = before.files ∧
        (invocation.outcome fetch before).2.stdout = before.stdout) ∧
    (invocation.command.output? = none →
      (invocation.outcome fetch before).2.files = before.files) ∧
    ∀ path, invocation.command.output? = some path →
      (invocation.outcome fetch before).1 = .ok () →
        ∃ text, invocation.command.Makes fetch before.files text ∧
          before.files.Written path text.toUTF8 (invocation.outcome fetch before).2.files := by
  have hconcludes := invocation.concludes fetch before
  generalize invocation.outcome fetch before = ended at hconcludes ⊢
  generalize heffect : invocation.command.effect invocation.mode fetch before.files = effect
    at hconcludes
  cases hconcludes with
  -- a failure leaves the session as it was but for the log
  | failed noted =>
    exact ⟨fun _ _ => ⟨noted.files, noted.stdout⟩, fun _ => noted.files, nofun⟩
  | done noted =>
    refine ⟨nofun, ?_, ?_⟩
    · -- the command has no path, so it did not write
      intro hnone
      obtain ⟨-, hfiles⟩ | ⟨path, text, hsome, -⟩ := Command.effect_eq_ok heffect
      · exact noted.files.trans hfiles
      · cases hnone.symm.trans hsome
    · -- it has one, so it wrote, and wrote there
      intro path hsome _
      obtain ⟨hnone, -⟩ | ⟨path', text, hpath, hmakes, hwrite⟩ := Command.effect_eq_ok heffect
      · cases hnone.symm.trans hsome
      · cases hpath.symm.trans hsome
        refine ⟨text, hmakes, ?_⟩
        rw [noted.files]
        exact FileStore.written_of_write hwrite

/-- The built-in header goes to a file where there was none. -/
theorem Invocation.atomic_seephit :
    ∃ text,
      (Command.generate none none (some "h")).Makes (fun _ => .unresolved) {} text ∧
        FileStore.Written {} "h" text.toUTF8
          (outcome ⟨.generate none none (some "h"), {}⟩ (fun _ => .unresolved) {}).2.files := by
  exact (atomic ⟨.generate none none (some "h"), {}⟩ (fun _ => .unresolved) {}).2.2 "h" rfl
    (outcome_seephit {} fun _ => .unresolved)

end ErrorScaffold
