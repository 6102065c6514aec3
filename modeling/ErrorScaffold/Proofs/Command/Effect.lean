/-
What a command does, without the steps.

A command reads, checks and only at its end writes and prints.  `Command.effect` says what comes of
it as a function of the files: the files afterwards and what is printed, or the error.

* `Finds.performs` — a step that only finds something out goes in front of the effect;
* `Invocation.concludes` — running a command in a session has this effect; beside it there are only
  notes, and none unless progress is to be reported.
-/
import ErrorScaffold.Proofs.FileStore.Writing
import ErrorScaffold.Proofs.Header.Acceptance
import ErrorScaffold.Proofs.Result
import ErrorScaffold.Run

namespace ErrorScaffold

/-! ### The effect of a command -/

/-- The configuration in what was read of a file. -/
def Config.ofFile (path : String) : Except SystemFault ByteArray → Except RunError Config
  | .error fault => .error (.config (.unreadable path fault))
  | .ok content =>
    match String.fromUTF8? content with
    | none => .error (.config (.unreadable path .notText))
    | some text => (Config.parse text).mapError .config

/-- The configuration that a command reads. -/
def FileStore.config (files : FileStore) : Option String → Except RunError Config
  | none => .ok {}
  | some path => Config.ofFile path (files.read path)

/-- The header of a configuration; `slots?` counts before it. -/
def Config.header (config : Config) (slots? : Option Nat) : Except HeaderError Header := do
  let catalog ← config.catalog
  let budget ← config.budget slots?
  let schema ← config.usableSchema
  schema.header catalog budget

/-- Once catalog, budget and schema are there, the rest is up to the schema. -/
theorem Config.header_eq {config : Config} {slots? : Option Nat} {catalog : Catalog}
    {budget : SlotBudget} {schema : UsableSchema} (hcatalog : config.catalog = .ok catalog)
    (hbudget : config.budget slots? = .ok budget) (hschema : config.usableSchema = .ok schema) :
    config.header slots? = schema.header catalog budget := by
  rw [Config.header, hcatalog, hbudget, hschema]
  rfl

theorem Config.exists_of_header_eq_ok {config : Config} {slots? : Option Nat} {header : Header}
    (h : config.header slots? = .ok header) :
    ∃ (schema : UsableSchema) (catalog : Catalog) (budget : SlotBudget),
      schema.header catalog budget = .ok header := by
  obtain ⟨catalog, -, h⟩ := exists_of_bind_eq_ok h
  obtain ⟨budget, -, h⟩ := exists_of_bind_eq_ok h
  obtain ⟨schema, -, h⟩ := exists_of_bind_eq_ok h
  exact ⟨schema, catalog, budget, h⟩

/-- The ordinal table of a configuration. -/
def Config.rows (config : Config) : Except HeaderError (List OrdinalRow) := do
  let catalog ← config.catalog
  let usable ← config.usableSchema
  return OrdinalRow.table usable.schema catalog

theorem Config.rows_eq {config : Config} {catalog : Catalog} {usable : UsableSchema}
    (hcatalog : config.catalog = .ok catalog) (hschema : config.usableSchema = .ok usable) :
    config.rows = .ok (OrdinalRow.table usable.schema catalog) := by
  rw [Config.rows, hcatalog, hschema]
  rfl

/-- The tag file of the page at an address. -/
def TagFile.ofAddress (fetch : Url → Fetch) (address : String) :
    Except ReferenceError TagFile := do
  let url ← Url.ofAddress address
  TagFile.ofFetch address url (fetch url)

namespace OutputMode

/-- Whether progress is reported. -/
def reports (mode : OutputMode) : Bool :=
  mode.verbose && !mode.quiet

/-- What is printed about a file that was written. -/
def summary (mode : OutputMode) (json remark : String) : String :=
  if mode.json then json ++ "\n" else if mode.quiet then "" else remark ++ "\n"

/-- How an ordinal table is printed. -/
def listing (mode : OutputMode) (rows : List OrdinalRow) : String :=
  if mode.json then OrdinalRow.jsonArray rows ++ "\n" else String.join (rows.map OrdinalRow.line)

end OutputMode

/-- The files after a command and what it prints, or why it fails. -/
abbrev Effect : Type := Except RunError (FileStore × String)

namespace Command

/-- Writes a text to a path, and then prints a summary. -/
def deliver (files : FileStore) (path text summary : String) (refused : SystemFault → RunError) :
    Effect :=
  match files.write path text.toUTF8 with
  | .ok files => .ok (files, summary)
  | .error fault => .error (refused fault)

/-- Where a header goes. -/
def headerEffect (mode : OutputMode) (files : FileStore) (output? : Option String)
    (header : Header) : Effect :=
  match output? with
  | none => .ok (files, header.text)
  | some path =>
    deliver files path header.text
      (mode.summary (headerSummary path header) (headerRemark path header)) (.unwritable path)

/-- Where a tag file goes. -/
def tagsEffect (mode : OutputMode) (files : FileStore) (output : String) (file : TagFile) :
    Effect :=
  deliver files output file.render (mode.summary (tagsSummary output file) (tagsRemark output file))
    fun fault => .reference (.unwritable fault)

/-- The effect of a command on the files. -/
def effect (mode : OutputMode) (fetch : Url → Fetch) (files : FileStore) : Command → Effect
  | .generate config? slots? output? => do
    let config ← files.config config?
    let header ← (config.header slots?).mapError .header
    headerEffect mode files output? header
  | .catalog config? => do
    let config ← files.config config?
    let rows ← config.rows.mapError .header
    .ok (files, mode.listing rows)
  | .filter raw => .ok (files, CompilerOutput.shorten raw ++ "\n")
  | .skeleton source => .ok (files, Skeleton.text source ++ "\n")
  | .tags address output => do
    let file ← (TagFile.ofAddress fetch address).mapError .reference
    tagsEffect mode files output file

end Command

/-! ### Effects step by step -/

namespace Command

theorem deliver_of_write {files after : FileStore} {path text : String} (summary : String)
    (refused : SystemFault → RunError) (h : files.write path text.toUTF8 = .ok after) :
    deliver files path text summary refused = .ok (after, summary) := by
  rw [deliver, h]

theorem write_of_deliver {files after : FileStore} {path text summary printed : String}
    {refused : SystemFault → RunError}
    (h : deliver files path text summary refused = .ok (after, printed)) :
    files.write path text.toUTF8 = .ok after ∧ printed = summary := by
  unfold deliver at h
  split at h
  · next hwrite =>
    cases h
    exact ⟨hwrite, rfl⟩
  · cases h

section configured

variable {files : FileStore} {config? : Option String} {config : Config} {slots? : Option Nat}
  (hconfig : files.config config? = .ok config) (mode : OutputMode) (fetch : Url → Fetch)
include hconfig

theorem effect_generate (output? : Option String) :
    (generate config? slots? output?).effect mode fetch files
      = (config.header slots?).mapError .header >>= headerEffect mode files output? := by
  rw [effect, hconfig]
  rfl

/-- Without a path the header is printed. -/
theorem effect_generate_none {header : Header} (hheader : config.header slots? = .ok header) :
    (generate config? slots? none).effect mode fetch files = .ok (files, header.text) := by
  rw [effect_generate hconfig, hheader]
  rfl

/-- With a path it is written there, and a summary is printed. -/
theorem effect_generate_some {header : Header} (hheader : config.header slots? = .ok header)
    {path : String} {after : FileStore} (hwrite : files.write path header.text.toUTF8 = .ok after) :
    (generate config? slots? (some path)).effect mode fetch files
      = .ok (after, mode.summary (headerSummary path header) (headerRemark path header)) := by
  rw [effect_generate hconfig, hheader]
  exact deliver_of_write _ _ hwrite

/-- The listing of the ordinal table is printed. -/
theorem effect_catalog {rows : List OrdinalRow} (hrows : config.rows = .ok rows) :
    (catalog config?).effect mode fetch files = .ok (files, mode.listing rows) := by
  rw [effect, hconfig]
  simp only [bind, Except.bind, hrows]
  rfl

end configured

/-- What a header was written from, and what was printed then. -/
theorem exists_of_effect_generate_some {files after : FileStore} {config? : Option String}
    {slots? : Option Nat} {path printed : String} {mode : OutputMode} {fetch : Url → Fetch}
    (h : (generate config? slots? (some path)).effect mode fetch files = .ok (after, printed)) :
    ∃ config header, files.config config? = .ok config ∧ config.header slots? = .ok header ∧
      files.write path header.text.toUTF8 = .ok after ∧
        printed = mode.summary (headerSummary path header) (headerRemark path header) := by
  obtain ⟨config, hconfig, h⟩ := exists_of_bind_eq_ok h
  obtain ⟨header, hheader, h⟩ := exists_of_bind_eq_ok h
  exact ⟨config, header, hconfig, eq_ok_of_mapError_eq_ok hheader, write_of_deliver h⟩

end Command

/-! ### Programs in a session -/

namespace Session

/-- The result of a program in a session, and the session after it. -/
def outcome (before : Session) (program : ExceptT RunError (StateM Session) α) :
    Except RunError α × Session :=
  (program.run.run before).run

theorem outcome_bind (program : ExceptT RunError (StateM Session) α)
    (next : α → ExceptT RunError (StateM Session) β) (before : Session) :
    before.outcome (program >>= next)
      = match before.outcome program with
        | (.ok a, between) => between.outcome (next a)
        | (.error e, after) => (.error e, after) := by
  change (ExceptT.bindCont next (program.run.run before).run.1).run
    (program.run.run before).run.2 = _
  rw [outcome]
  obtain ⟨result, after⟩ := (program.run.run before).run
  cases result <;> rfl

/-- Nothing but notes came to a session, and only where progress is reported. -/
structure Noted (mode : OutputMode) (before after : Session) : Prop where
  files : after.files = before.files
  stdout : after.stdout = before.stdout
  stderr : mode.reports = false → after.stderr = before.stderr

variable {mode : OutputMode} {a b c : Session}

theorem Noted.refl (mode : OutputMode) (a : Session) : a.Noted mode a :=
  ⟨rfl, rfl, fun _ => rfl⟩

theorem Noted.trans (hab : a.Noted mode b) (hbc : b.Noted mode c) : a.Noted mode c where
  files := hbc.files.trans hab.files
  stdout := hbc.stdout.trans hab.stdout
  stderr h := (hbc.stderr h).trans (hab.stderr h)

end Session

/-- How a program ends in a session: with an effect or an error, and notes beside it. -/
inductive Concludes (mode : OutputMode) (before : Session) :
    Effect → Except RunError Unit × Session → Prop
  | done {files : FileStore} {printed : String} {after : Session}
      (noted : { before with files, stdout := before.stdout ++ printed }.Noted mode after) :
      Concludes mode before (.ok (files, printed)) (.ok (), after)
  | failed {e : RunError} {after : Session} (noted : before.Noted mode after) :
      Concludes mode before (.error e) (.error e, after)

namespace Concludes

variable {mode : OutputMode} {before : Session} {ended : Except RunError Unit × Session}

theorem of_ok {files : FileStore} {printed : String}
    (h : Concludes mode before (.ok (files, printed)) ended) :
    ended.1 = .ok () ∧ ended.2.files = files ∧ ended.2.stdout = before.stdout ++ printed := by
  cases h with
  | done noted => exact ⟨rfl, noted.files, noted.stdout⟩

theorem exists_of_ok {effect : Effect} (h : Concludes mode before effect ended)
    (hok : ended.1 = .ok ()) :
    ∃ files printed, effect = .ok (files, printed) ∧ ended.2.files = files ∧
      ended.2.stdout = before.stdout ++ printed := by
  cases h with
  | done noted => exact ⟨_, _, rfl, noted.files, noted.stdout⟩
  | failed noted => cases hok

end Concludes

/-! ### Steps -/

/-- The program finds a value out and leaves the files and the output. -/
def Finds (mode : OutputMode) (program : ExceptT RunError (StateM Session) α)
    (value : FileStore → Except RunError α) : Prop :=
  ∀ before : Session, (before.outcome program).1 = value before.files ∧
    before.Noted mode (before.outcome program).2

/-- The program has an effect on the files and the output. -/
def Performs (mode : OutputMode) (program : ExceptT RunError (StateM Session) Unit)
    (effect : FileStore → Effect) : Prop :=
  ∀ before : Session, Concludes mode before (effect before.files) (before.outcome program)

theorem Finds.const (mode : OutputMode) (result : Except RunError α) :
    Finds mode (ExceptT.mk (pure result)) fun _ => result :=
  fun before => ⟨rfl, .refl mode before⟩

theorem Finds.checked (mode : OutputMode) (result : Except HeaderError α) :
    Finds mode (Command.checked result) fun _ => result.mapError .header :=
  .const mode _

theorem Finds.referenced (mode : OutputMode) (result : Except ReferenceError α) :
    Finds mode (Command.referenced result) fun _ => result.mapError .reference :=
  .const mode _

theorem Finds.bind {mode : OutputMode} {program : ExceptT RunError (StateM Session) α}
    {next : α → ExceptT RunError (StateM Session) β} {value : FileStore → Except RunError α}
    {value' : α → FileStore → Except RunError β} (h : Finds mode program value)
    (hnext : ∀ a, Finds mode (next a) (value' a)) :
    Finds mode (program >>= next) fun files => value files >>= fun a => value' a files := by
  intro before
  obtain ⟨hvalue, hnoted⟩ := h before
  dsimp only
  rw [Session.outcome_bind, ← hvalue]
  generalize before.outcome program = ended at hvalue hnoted ⊢
  obtain ⟨result, between⟩ := ended
  cases result with
  | error e => exact ⟨rfl, hnoted⟩
  | ok a =>
    obtain ⟨hvalue', hnoted'⟩ := hnext a between
    rw [hnoted.files] at hvalue'
    exact ⟨hvalue', hnoted.trans hnoted'⟩

/-- What was only noted before does not count. -/
theorem Concludes.of_noted {mode : OutputMode} {before between : Session} {effect : Effect}
    {outcome : Except RunError Unit × Session} (hnoted : before.Noted mode between)
    (h : Concludes mode between effect outcome) : Concludes mode before effect outcome := by
  cases h with
  | done noted =>
    refine .done ⟨noted.files, ?_, fun hquiet => ?_⟩
    · rw [noted.stdout, hnoted.stdout]
    · exact (noted.stderr hquiet).trans (hnoted.stderr hquiet)
  | failed noted => exact .failed (hnoted.trans noted)

/-- A step that only finds something out goes in front of an effect. -/
theorem Finds.performs {mode : OutputMode}
    {program : ExceptT RunError (StateM Session) α}
    {next : α → ExceptT RunError (StateM Session) Unit} {value : FileStore → Except RunError α}
    {effect : α → FileStore → Effect} (h : Finds mode program value)
    (hnext : ∀ a, Performs mode (next a) (effect a)) :
    Performs mode (program >>= next) fun files => value files >>= fun a => effect a files := by
  intro before
  obtain ⟨hvalue, hnoted⟩ := h before
  dsimp only
  rw [Session.outcome_bind, ← hvalue]
  generalize before.outcome program = ended at hvalue hnoted ⊢
  obtain ⟨result, between⟩ := ended
  cases result with
  | error e => exact .failed hnoted
  | ok a =>
    have hconcludes := hnext a between
    rw [hnoted.files] at hconcludes
    exact hconcludes.of_noted hnoted

/-! ### The steps of the commands -/

section commands

variable (mode : OutputMode) (fetch : Url → Fetch)

theorem finds_progress (line : String) :
    Finds mode (liftM ((Session.host fetch).progress mode line)) fun _ => .ok () := by
  intro before
  rw [Host.progress, ← OutputMode.reports]
  by_cases hreports : mode.reports = true
  · rw [if_pos hreports]
    refine ⟨rfl, rfl, rfl, fun h => ?_⟩
    rw [hreports] at h
    cases h
  · rw [if_neg hreports]
    exact ⟨rfl, .refl mode before⟩

/-- The configuration is read, or the file or its text is at fault. -/
theorem finds_readConfig (path? : Option String) :
    Finds mode (Command.readConfig (Session.host fetch) mode path?) fun files =>
      files.config path? := by
  cases path? with
  -- without a path nothing is read
  | none =>
    exact (finds_progress mode fetch "Using the built-in seephit catalog").bind fun _ =>
      Finds.const mode (.ok ({} : Config))
  | some path =>
    have hload : Finds mode (liftM ((Session.host fetch).load path)) fun files =>
        .ok (files.read path) :=
      fun before => ⟨rfl, .refl mode before⟩
    refine (finds_progress mode fetch ("Loading " ++ path)).bind fun _ => hload.bind fun read =>
      (?_ : Finds mode _ fun _ => Config.ofFile path read)
    -- the file may be missing, or hold what is no text; neither touches the session
    cases read with
    | error fault => exact Finds.const mode _
    | ok content =>
      dsimp only [Config.ofFile]
      cases String.fromUTF8? content with
      | none => exact Finds.const mode _
      | some text => exact Finds.const mode _

theorem performs_print (text : String) :
    Performs mode (liftM ((Session.host fetch).print text)) fun files => .ok (files, text) :=
  fun _ => .done (.refl mode _)

theorem performs_summary (json remark : String) :
    Performs mode
      (if mode.json then liftM ((Session.host fetch).print (json ++ "\n"))
        else liftM ((Session.host fetch).remark mode remark))
      fun files => .ok (files, mode.summary json remark) := by
  unfold OutputMode.summary Host.remark
  cases mode.json with
  | true => exact performs_print mode fetch (json ++ "\n")
  | false =>
    cases mode.quiet with
    | true =>
      intro before
      exact .done ⟨rfl, (String.append_empty).symm, fun _ => rfl⟩
    | false => exact performs_print mode fetch (remark ++ "\n")

theorem outcome_store (path text : String) (before : Session) :
    before.outcome (liftM ((Session.host fetch).store path text))
      = match before.files.write path text.toUTF8 with
        | .ok files => (.ok (.ok ()), { before with files })
        | .error fault => (.ok (.error fault), before) := by
  change (Except.ok ((Session.store path text).run before).run.1,
    ((Session.store path text).run before).run.2) = _
  unfold Session.store
  generalize text.toUTF8 = content
  cases hwrite : before.files.write path content with
  | ok files => simp [hwrite]
  | error fault => simp [hwrite]

/-- Writing is done before anything is printed, and is all or nothing. -/
theorem performs_deliver (path text summary : String) (refused : SystemFault → RunError)
    {afterwards : ExceptT RunError (StateM Session) Unit}
    (h : Performs mode afterwards fun files => .ok (files, summary)) :
    Performs mode (do
      match ← (Session.host fetch).store path text with
      | .error fault => throw (refused fault)
      | .ok () => afterwards)
      fun files => Command.deliver files path text summary refused := by
  intro before
  rw [Session.outcome_bind, outcome_store]
  dsimp only [Command.deliver]
  cases before.files.write path text.toUTF8 with
  | error fault => exact .failed (.refl mode before)
  | ok files =>
    have hafterwards := h { before with files }
    dsimp only
    generalize ({ before with files } : Session).outcome afterwards = ended at hafterwards ⊢
    cases hafterwards with
    | done noted => exact .done noted

theorem performs_writeHeader (config? : Option String) (slots? : Option Nat)
    (output? : Option String) :
    Performs mode (Command.writeHeader (Session.host fetch) mode config? slots? output?)
      fun files => (Command.generate config? slots? output?).effect mode fetch files := by
  have hend : ∀ header : Header, Performs mode
      (match output? with
      | none => liftM ((Session.host fetch).print header.text)
      | some path => do
        match ← (Session.host fetch).store path header.text with
        | .error fault => throw (.unwritable path fault)
        | .ok () =>
          if mode.json then
            (Session.host fetch).print (Command.headerSummary path header ++ "\n")
          else (Session.host fetch).remark mode (Command.headerRemark path header))
      fun files => Command.headerEffect mode files output? header := by
    intro header
    cases output? with
    | none => exact performs_print mode fetch header.text
    | some path => exact performs_deliver mode fetch _ _ _ _ (performs_summary mode fetch _ _)
  -- the checks come one after the other, and none of them touches the files
  have hchecks : ∀ config : Config,
      (fun files => (config.header slots?).mapError RunError.header >>=
          fun header => Command.headerEffect mode files output? header)
        = fun files => config.catalog.mapError .header >>= fun catalog =>
          (config.budget slots?).mapError .header >>= fun budget =>
          config.usableSchema.mapError .header >>= fun schema =>
          (schema.header catalog budget).mapError .header >>= fun header =>
          Command.headerEffect mode files output? header := by
    intro config
    simp only [Config.header, mapError_bind, bind_assoc]
  refine (finds_readConfig mode fetch config?).performs fun config => ?_
  rw [hchecks config]
  exact (Finds.checked mode _).performs fun catalog => (Finds.checked mode _).performs fun budget =>
    (Finds.checked mode _).performs fun schema => (Finds.checked mode _).performs fun header =>
    (finds_progress mode fetch _).performs fun _ => hend header

theorem performs_listOrdinals (config? : Option String) :
    Performs mode (Command.listOrdinals (Session.host fetch) mode config?)
      fun files => (Command.catalog config?).effect mode fetch files := by
  have hend : ∀ rows : List OrdinalRow, Performs mode
      (if mode.json then (Session.host fetch).print (OrdinalRow.jsonArray rows ++ "\n")
        else (Session.host fetch).print (String.join (rows.map OrdinalRow.line)))
      fun files => .ok (files, mode.listing rows) := by
    intro rows
    rw [OutputMode.listing]
    cases mode.json with
    | true => exact performs_print mode fetch _
    | false => exact performs_print mode fetch _
  -- the effect takes the rows at once, the program checks the catalog before the schema
  have hchecks : ∀ config : Config,
      (fun files => config.rows.mapError RunError.header >>= fun rows =>
          (.ok (files, mode.listing rows) : Effect))
        = fun files => config.catalog.mapError .header >>= fun catalog =>
          config.usableSchema.mapError .header >>= fun usable =>
          .ok (files, mode.listing (OrdinalRow.table usable.schema catalog)) := by
    intro config
    simp only [Config.rows, mapError_bind, bind_assoc]
    rfl
  refine (finds_readConfig mode fetch config?).performs fun config => ?_
  rw [hchecks config]
  exact (Finds.checked mode _).performs fun catalog => (Finds.checked mode _).performs fun usable =>
    hend (OrdinalRow.table usable.schema catalog)

theorem performs_writeTagFile (address output : String) :
    Performs mode (Command.writeTagFile (Session.host fetch) mode address output)
      fun files => (Command.tags address output).effect mode fetch files := by
  have hfetch : ∀ url, Finds mode (liftM ((Session.host fetch).fetch url)) fun _ =>
      .ok (fetch url) :=
    fun _ before => ⟨rfl, .refl mode before⟩
  -- the address, the answer and the page are checked in this order
  have hchecks : (fun files => (TagFile.ofAddress fetch address).mapError RunError.reference >>=
          fun file => Command.tagsEffect mode files output file)
        = fun files => (Url.ofAddress address).mapError .reference >>= fun url =>
          (TagFile.ofFetch address url (fetch url)).mapError .reference >>= fun file =>
          Command.tagsEffect mode files output file := by
    simp only [TagFile.ofAddress, mapError_bind, bind_assoc]
  refine (finds_progress mode fetch ("Fetching " ++ address)).performs fun _ =>
    (?_ : Performs mode _ fun files => (TagFile.ofAddress fetch address).mapError .reference >>=
      fun file => Command.tagsEffect mode files output file)
  rw [hchecks]
  exact (Finds.referenced mode _).performs fun url => (hfetch url).performs fun fetched =>
    (Finds.referenced mode _).performs fun file =>
    performs_deliver mode fetch _ _ _ _ (performs_summary mode fetch _ _)

/-- Every command has its effect. -/
theorem performs_run (command : Command) :
    Performs mode (command.run (Session.host fetch) mode)
      fun files => command.effect mode fetch files := by
  cases command with
  | generate config? slots? output? => exact performs_writeHeader mode fetch config? slots? output?
  | catalog config? => exact performs_listOrdinals mode fetch config?
  | filter raw => exact performs_print mode fetch _
  | skeleton source => exact performs_print mode fetch _
  | tags address output => exact performs_writeTagFile mode fetch address output

end commands

/-- What running a command in a session comes to. -/
def Invocation.outcome (invocation : Invocation) (fetch : Url → Fetch) (before : Session) :
    Except RunError Unit × Session :=
  ((invocation.run (Session.host fetch)).run before).run

/-- **Running a command has its effect.**  The result, the files and the output after a run in a
session are those of the command's effect on the files; beside it there are only notes. -/
theorem Invocation.concludes (invocation : Invocation) (fetch : Url → Fetch) (before : Session) :
    Concludes invocation.mode before
      (invocation.command.effect invocation.mode fetch before.files)
      (invocation.outcome fetch before) :=
  performs_run invocation.mode fetch invocation.command before

/-- The built-in header, written where there was no file. -/
theorem Invocation.outcome_seephit (mode : OutputMode) (fetch : Url → Fetch) :
    (outcome ⟨.generate none none (some "h"), mode⟩ fetch {}).1 = .ok () := by
  have hschema : Config.usableSchema {} = .ok .standard := UsableSchema.standard.ofSchema_schema
  have hheader : Config.header {} none
      = .ok (.build UsableSchema.standard.schema .seephit .standard) := by
    rw [Config.header_eq rfl rfl hschema]
    exact UsableSchema.header_seephit
  have hconcludes := concludes ⟨.generate none none (some "h"), mode⟩ fetch {}
  rw [Command.effect_generate_some rfl _ _ hheader (FileStore.write_name _)] at hconcludes
  exact hconcludes.of_ok.1

end ErrorScaffold
