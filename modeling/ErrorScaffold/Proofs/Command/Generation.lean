/-
One header, whichever way it is made.

A header can be made from a list of kinds, from a configuration and by a command, and the command
prints it or writes it to a file.

* `Header.ofNames_eq` — a list of kinds and a number of slots come to what the configuration with
  these two and nothing else comes to;
* `Config.header_override` — a number of slots that is given beside the configuration takes the
  place of the one in it;
* `Invocation.generation` — both for the command, whose printed header is the one that it writes,
  and whose summary says what is in it.
-/
import ErrorScaffold.Proofs.Catalog.Building
import ErrorScaffold.Proofs.Command.Effect
import ErrorScaffold.Proofs.Command.Summary
import ErrorScaffold.Proofs.FileStore.Writing
import ErrorScaffold.Proofs.Header.Contents

namespace ErrorScaffold

/-! ### From names and from configurations -/

/-- The header of a list of kinds is that of the configuration with these kinds. -/
theorem Header.ofNames_eq (kinds : List String) (slots : Nat) :
    Header.ofNames kinds slots = Config.header { catalogTable := some ⟨kinds, slots⟩ } none := by
  have hschema : Config.usableSchema { catalogTable := some ⟨kinds, slots⟩ } = .ok .standard :=
    UsableSchema.standard.ofSchema_schema
  rw [ofNames, Config.header, hschema]
  rfl

namespace Config

/-- The configuration with its kinds, or else the built-in ones, and with a number of slots that is
fixed. -/
def pinned (config : Config) (slots : Nat) : Config :=
  let kinds := (config.catalogTable.map fun table => table.kinds).getD Catalog.builtInKinds
  { config with catalogTable := some ⟨kinds, slots⟩ }

@[simp] theorem catalog_pinned (config : Config) (slots : Nat) :
    (config.pinned slots).catalog = config.catalog := by
  rw [catalog, catalog, pinned]
  cases config.catalogTable with
  | none => exact Catalog.ofNames_kinds .seephit
  | some table => rfl

/-- What the configuration says on slots does not count beside an override. -/
theorem header_override (config : Config) (slots : Nat) :
    config.header (some slots) = (config.pinned slots).header none := by
  rw [header, header, catalog_pinned]
  rfl

end Config

/-! ### What a command writes and says -/

namespace Command

/-- The summary of a header speaks of what its text lists. -/
theorem summary_of_header {config : Config} {slots? : Option Nat} {header : Header}
    (h : config.header slots? = .ok header) (path : String) :
    Json.ofText? (headerSummary path header ++ "\n")
        = some (.object [("output", .text path),
            ("ordinals", .array (header.rows.map OrdinalRow.toJson)),
            ("slots", .count ((Text.lines header.text.toList).filterMap Reading.guard?).length),
            ("bytes", .count header.text.utf8ByteSize)]) ∧
      header.rows.map (·.enumerator)
        = (Text.lines header.text.toList).filterMap Reading.enumerator? := by
  obtain ⟨schema, catalog, budget, hheader⟩ := Config.exists_of_header_eq_ok h
  obtain ⟨-, rfl⟩ := UsableSchema.header_eq_ok_iff.1 hheader
  have hn := Header.isNamed_build schema catalog budget
  have hrows : (Header.build schema.schema catalog budget).rows ≠ [] := OrdinalRow.table_ne_nil _ _
  rw [Reading.guards_text hn hrows, Reading.enumerators_text hn hrows, List.length_map]
  exact ⟨ofText?_headerSummary path _, rfl⟩

end Command

namespace Invocation

/-- Under an override the command comes to what the pinned configuration comes to. -/
theorem concludes_override {config? : Option String} {config : Config} {before : Session}
    (hconfig : before.files.config config? = .ok config) (slots : Nat) (output? : Option String)
    (mode : OutputMode) (fetch : Url → Fetch) :
    Concludes mode before
      (((config.pinned slots).header none).mapError .header >>=
        Command.headerEffect mode before.files output?)
      (outcome ⟨.generate config? (some slots) output?, mode⟩ fetch before) := by
  have hconcludes := concludes ⟨.generate config? (some slots) output?, mode⟩ fetch before
  rwa [Command.effect_generate hconfig, Config.header_override] at hconcludes

/-- What is written to a file is what is printed without one, and what the summary is about. -/
theorem printed_of_written {config? : Option String} {slots? : Option Nat} {path : String}
    {mode' : OutputMode} {fetch : Url → Fetch} {before : Session}
    (hwriting : (outcome ⟨.generate config? slots? (some path), mode'⟩ fetch before).1 = .ok ())
    (mode : OutputMode) :
    (outcome ⟨.generate config? slots? none, mode⟩ fetch before).1 = .ok () ∧ ∃ text : String,
      (outcome ⟨.generate config? slots? none, mode⟩ fetch before).2.stdout
          = before.stdout ++ text ∧
      before.files.Written path text.toUTF8
          (outcome ⟨.generate config? slots? (some path), mode'⟩ fetch before).2.files ∧
      (mode'.json = true → ∃ (summary : String) (rows : List OrdinalRow),
        (outcome ⟨.generate config? slots? (some path), mode'⟩ fetch before).2.stdout
            = before.stdout ++ summary ∧
        Json.ofText? summary
          = some (.object [("output", .text path),
              ("ordinals", .array (rows.map OrdinalRow.toJson)),
              ("slots", .count ((Text.lines text.toList).filterMap Reading.guard?).length),
              ("bytes", .count text.utf8ByteSize)]) ∧
        rows.map (·.enumerator) = (Text.lines text.toList).filterMap Reading.enumerator?) := by
  obtain ⟨files, printed, heffect, hfiles, hstdout⟩ :=
    (concludes ⟨.generate config? slots? (some path), mode'⟩ fetch before).exists_of_ok hwriting
  obtain ⟨config, header, hconfig, hheader, hwrite, rfl⟩ :=
    Command.exists_of_effect_generate_some heffect
  -- the same configuration gives the same header to the command that prints it
  have hprinting := concludes ⟨.generate config? slots? none, mode⟩ fetch before
  rw [Command.effect_generate_none hconfig _ _ hheader] at hprinting
  refine ⟨hprinting.of_ok.1, header.text, hprinting.of_ok.2.2, ?_, ?_⟩
  · rw [hfiles]
    exact FileStore.written_of_write hwrite
  · intro hjson
    obtain ⟨hsummary, henumerators⟩ := Command.summary_of_header hheader path
    refine ⟨_, header.rows, hstdout, ?_, henumerators⟩
    rw [OutputMode.summary, if_pos hjson]
    exact hsummary

/-- **There is one header, whatever the way to it.**  A list of kinds and a number of slots give the
header, or the error, that the configuration with these two gives.  Under an override the command
comes to what the pinned configuration comes to.  And where it writes a header to a file, it prints
the same text without a path, and the summary in JSON tells the length of this text in bytes, how
many guarded blocks it has and which enumerators it lists. -/
theorem generation :
    (∀ (kinds : List String) (slots : Nat),
      Header.ofNames kinds slots = Config.header { catalogTable := some ⟨kinds, slots⟩ } none) ∧
    (∀ (config? : Option String) (config : Config) (slots : Nat) (output? : Option String)
        (mode : OutputMode) (fetch : Url → Fetch) (before : Session),
      before.files.config config? = .ok config →
        Concludes mode before
          (((config.pinned slots).header none).mapError .header >>=
            Command.headerEffect mode before.files output?)
          (outcome ⟨.generate config? (some slots) output?, mode⟩ fetch before)) ∧
    ∀ (config? : Option String) (slots? : Option Nat) (path : String) (mode mode' : OutputMode)
        (fetch : Url → Fetch) (before : Session),
      let printing := outcome ⟨.generate config? slots? none, mode⟩ fetch before
      let writing := outcome ⟨.generate config? slots? (some path), mode'⟩ fetch before
      writing.1 = .ok () →
        printing.1 = .ok () ∧ ∃ text : String,
          printing.2.stdout = before.stdout ++ text ∧
          before.files.Written path text.toUTF8 writing.2.files ∧
          (mode'.json = true → ∃ (summary : String) (rows : List OrdinalRow),
            writing.2.stdout = before.stdout ++ summary ∧
            Json.ofText? summary
              = some (.object [("output", .text path),
                  ("ordinals", .array (rows.map OrdinalRow.toJson)),
                  ("slots", .count ((Text.lines text.toList).filterMap Reading.guard?).length),
                  ("bytes", .count text.utf8ByteSize)]) ∧
            rows.map (·.enumerator) = (Text.lines text.toList).filterMap Reading.enumerator?) := by
  refine ⟨Header.ofNames_eq, ?_, ?_⟩
  · intro config? config slots output? mode fetch before hconfig
    exact concludes_override hconfig slots output? mode fetch
  · intro config? slots? path mode mode' fetch before printing writing hwriting
    exact printed_of_written hwriting mode

/-- The built-in header, pinned to one slot, and printed and written. -/
theorem generation_seephit :
    Concludes {} {}
        (((Config.pinned {} 1).header none).mapError .header >>= Command.headerEffect {} {} none)
        (outcome ⟨.generate none (some 1) none, {}⟩ (fun _ => .unresolved) {}) ∧
      ∃ text : String,
        (outcome ⟨.generate none none none, {}⟩ (fun _ => .unresolved) {}).2.stdout = "" ++ text ∧
        FileStore.Written {} "h" text.toUTF8
          (outcome ⟨.generate none none (some "h"), { json := true }⟩
            (fun _ => .unresolved) {}).2.files := by
  have hwriting := outcome_seephit { json := true } fun _ => .unresolved
  obtain ⟨-, text, hprinted, hwritten, -⟩ :=
    generation.2.2 none none "h" {} { json := true } (fun _ => .unresolved) {} hwriting
  exact ⟨generation.2.1 none {} 1 none {} (fun _ => .unresolved) {} rfl, text, hprinted, hwritten⟩

end Invocation

end ErrorScaffold
