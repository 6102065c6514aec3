/-
From the text of a document to its configuration.

* `Toml.Table.Reordered` — the same keys in any order, which accepts the same configurations;
* `Config.parse_exact` — what is read of a text, and with which fault it is refused.
-/
import ErrorScaffold.Proofs.Config.Filling
import ErrorScaffold.Proofs.Toml.Document
import Mathlib.Data.List.Perm.Basic

namespace ErrorScaffold

open Config

/-! ### The order of the keys -/

namespace Toml

/-- The entries of a table in any order. -/
inductive Value.Reordered : Value → Value → Prop
  | same (value : Value) : Reordered value value
  | table {entries entries' : List (String × Value)} (h : entries.Perm entries') :
      Reordered (.table entries) (.table entries')

/-- The same keys in any order, in the document and in each of its tables. -/
def Table.Reordered (document document' : Table) : Prop :=
  ∃ middle, List.Forall₂ (fun entry entry' => entry.1 = entry'.1 ∧ entry.2.Reordered entry'.2)
    document middle ∧ middle.Perm document'

theorem Value.Reordered.symm {value value' : Value} (h : value.Reordered value') :
    value'.Reordered value := by
  cases h with
  | same => exact .same _
  | table h => exact .table h.symm

namespace Table.Reordered

variable {document document' : Table}

theorem symm (h : document.Reordered document') : document'.Reordered document := by
  obtain ⟨middle, hvalues, horder⟩ := h
  have hback : List.Forall₂ (fun entry entry' : String × Value =>
      entry.1 = entry'.1 ∧ entry.2.Reordered entry'.2) middle document := by
    refine hvalues.flip.imp ?_
    rintro entry entry' ⟨hkey, hvalue⟩
    exact ⟨hkey.symm, hvalue.symm⟩
  exact List.perm_comp_forall₂ horder.symm hback

theorem exists_of_mem (h : document.Reordered document') {key : String} {value : Value}
    (hvalue : (key, value) ∈ document) :
    ∃ value', (key, value') ∈ document' ∧ value.Reordered value' := by
  obtain ⟨middle, hvalues, horder⟩ := h
  have hmiddle : ∃ value', (key, value') ∈ middle ∧ value.Reordered value' := by
    clear horder
    induction hvalues with
    | nil => cases hvalue
    | @cons entry entry' _ _ hentry _ ih =>
      rcases List.mem_cons.1 hvalue with rfl | hvalue
      · obtain ⟨rfl, hreordered⟩ := hentry
        exact ⟨entry'.2, List.mem_cons_self, hreordered⟩
      · obtain ⟨value', hvalue', hreordered⟩ := ih hvalue
        exact ⟨value', List.mem_cons_of_mem _ hvalue', hreordered⟩
  obtain ⟨value', hvalue', hreordered⟩ := hmiddle
  exact ⟨value', horder.mem_iff.1 hvalue', hreordered⟩

theorem exists_of_mem_table (h : document.Reordered document') {key : String}
    {entries : List (String × Value)} (hentries : (key, .table entries) ∈ document) :
    ∃ entries', (key, .table entries') ∈ document' ∧ entries.Perm entries' := by
  obtain ⟨value', hvalue', hreordered⟩ := h.exists_of_mem hentries
  cases hreordered with
  | same => exact ⟨entries, hvalue', List.Perm.refl entries⟩
  | table hperm => exact ⟨_, hvalue', hperm⟩

end Table.Reordered

end Toml

theorem CatalogTable.Fills.reorder {table : CatalogTable} {entries entries' : Toml.Table}
    (h : table.Fills entries) (hperm : entries.Perm entries') : table.Fills entries' where
  kinds := hperm.mem_iff.1 h.kinds
  slots := h.slots.imp hperm.mem_iff.1
    fun ⟨hnone, hslots⟩ => ⟨fun value hvalue => hnone value (hperm.mem_iff.2 hvalue), hslots⟩

theorem Schema.Fills.reorder {s : Schema} {entries entries' : Toml.Table} (h : s.Fills entries)
    (hperm : entries.Perm entries') : s.Fills entries' where
  given field t ht := h.given field t (hperm.mem_iff.2 ht)
  default field hnone := h.default field fun value hvalue => hnone value (hperm.mem_iff.1 hvalue)

namespace Config

variable {c : Config} {document document' : Toml.Table}

theorem HasTables.reorder (h : HasTables document) (horder : document.Reordered document') :
    HasTables document' := by
  rintro ⟨key, value'⟩ hentry hkey
  obtain ⟨value, hvalue, hreordered⟩ := horder.symm.exists_of_mem hentry
  obtain ⟨entries, rfl⟩ : ∃ entries, value = .table entries := h _ hvalue hkey
  cases hreordered with
  | same => exact ⟨entries, rfl⟩
  | table => exact ⟨_, rfl⟩

theorem Accepted.reorder (h : Accepted document) (horder : document.Reordered document') :
    Accepted document' where
  keys := by
    rintro ⟨key, value'⟩ hentry
    obtain ⟨value, hvalue, -⟩ := horder.symm.exists_of_mem hentry
    exact h.keys (key, value) hvalue
  kinds entries' hentries' := by
    obtain ⟨entries, hentries, hperm⟩ := horder.symm.exists_of_mem_table hentries'
    obtain ⟨kinds, hkinds⟩ := h.kinds entries hentries
    exact ⟨kinds, hperm.mem_iff.2 hkinds⟩
  catalog entries' hentries' entry hentry := by
    obtain ⟨entries, hentries, hperm⟩ := horder.symm.exists_of_mem_table hentries'
    exact h.catalog entries hentries entry (hperm.mem_iff.1 hentry)
  schema entries' hentries' entry hentry := by
    obtain ⟨entries, hentries, hperm⟩ := horder.symm.exists_of_mem_table hentries'
    exact h.schema entries hentries entry (hperm.mem_iff.1 hentry)

theorem Fills.reorder (h : c.Fills document) (horder : document.Reordered document') :
    c.Fills document' where
  catalog entries' hentries' := by
    obtain ⟨entries, hentries, hperm⟩ := horder.symm.exists_of_mem_table hentries'
    obtain ⟨table, hfound, hfills⟩ := h.catalog entries hentries
    exact ⟨table, hfound, hfills.reorder hperm.symm⟩
  noCatalog hnone := h.noCatalog fun value hvalue => by
    obtain ⟨value', hvalue', -⟩ := horder.exists_of_mem hvalue
    exact hnone value' hvalue'
  schema entries' hentries' := by
    obtain ⟨entries, hentries, hperm⟩ := horder.symm.exists_of_mem_table hentries'
    exact (h.schema entries hentries).reorder hperm.symm
  noSchema hnone := h.noSchema fun value hvalue => by
    obtain ⟨value', hvalue', -⟩ := horder.exists_of_mem hvalue
    exact hnone value' hvalue'

/-! ### The text -/

section parse

variable {text : String} (hparse : Toml.parse? text = some document)
include hparse

theorem parse_eq : parse text = (ofDocument document).mapError .unfit := by
  unfold parse
  rw [hparse]

theorem parse_eq_ok_iff_ofDocument : parse text = .ok c ↔ ofDocument document = .ok c := by
  rw [parse_eq hparse]
  constructor
  · exact eq_ok_of_mapError_eq_ok
  · intro h
    rw [h]
    rfl

theorem parse_eq_error_iff_ofDocument {e : ConfigError} :
    parse text = .error e ↔ ∃ fault, e = .unfit fault ∧ ofDocument document = .error fault := by
  rw [parse_eq hparse]
  cases ofDocument document with
  | error fault => simp [Except.mapError, eq_comm]
  | ok c => simp [Except.mapError]

theorem parse_eq_ok_iff (htables : HasTables document) :
    parse text = .ok c ↔ Accepted document ∧ c.Fills document :=
  (parse_eq_ok_iff_ofDocument hparse).trans
    (ofDocument_eq_ok_iff (Toml.wellKeyed_of_parse? hparse) htables)

end parse

/-- A text whose tables are tables is a configuration exactly if all its keys are known and have
what is asked for.  The configuration has what is given and is standard in all else, so that the
order of the keys does not count.  In a text that is none, the fault is the one of the first entry
that has one. -/
theorem parse_exact {text : String} (hparse : Toml.parse? text = some document)
    (htables : HasTables document) :
    ((∃ c, parse text = .ok c) ↔ Accepted document) ∧
    (∀ c, parse text = .ok c ↔ Accepted document ∧ c.Fills document) ∧
    (∀ text' document', Toml.parse? text' = some document' → document.Reordered document' →
      ∀ c, parse text' = .ok c ↔ parse text = .ok c) ∧
    ∀ e, parse text = .error e ↔
      ∃ fault, e = .unfit fault ∧ FirstFault EntryFault document fault := by
  have hkeys := Toml.wellKeyed_of_parse? hparse
  have hok : ∀ c, parse text = .ok c ↔ Accepted document ∧ c.Fills document :=
    fun _ => parse_eq_ok_iff hparse htables
  refine ⟨?_, hok, fun text' document' hparse' horder c => ?_, fun e => ?_⟩
  · rw [← exists_ofDocument_iff hkeys htables]
    exact exists_congr fun c => parse_eq_ok_iff_ofDocument hparse
  · refine (parse_eq_ok_iff hparse' (htables.reorder horder)).trans (Iff.trans ?_ (hok c).symm)
    -- a reordered document is accepted and filled as this one
    constructor
    · rintro ⟨haccepted, hfills⟩
      exact ⟨haccepted.reorder horder.symm, hfills.reorder horder.symm⟩
    · rintro ⟨haccepted, hfills⟩
      exact ⟨haccepted.reorder horder, hfills.reorder horder⟩
  · refine (parse_eq_error_iff_ofDocument hparse).trans (exists_congr fun fault => ?_)
    exact and_congr_right fun _ => ofDocument_eq_error_iff hkeys htables

/-- The slots may come before the kinds, and that the kinds are missing is found before what is
wrong with a later table. -/
theorem parse_of_shuffled_tables :
    parse "catalog=\x7bslots=4,kinds=['A']\x7d" = .ok { catalogTable := some ⟨["A"], 4⟩ } ∧
      parse "catalog=\x7bslots=4\x7d\nschema=\x7bx=1\x7d"
        = .error (.unfit (.missingField "kinds")) := by
  constructor
  · -- the same entries the other way round
    have hordered : Toml.parse? "catalog=\x7bkinds=['A'],slots=4\x7d"
        = some [("catalog", .table [("kinds", .array [.string "A"]), ("slots", .integer 4)])] := by
      decide +kernel
    have hshuffled : Toml.parse? "catalog=\x7bslots=4,kinds=['A']\x7d"
        = some [("catalog", .table [("slots", .integer 4), ("kinds", .array [.string "A"])])] := by
      decide +kernel
    obtain ⟨-, -, hreordered, -⟩ := parse_exact hordered (by simp [HasTables])
    refine (hreordered _ _ hshuffled ⟨_, ?_, List.Perm.refl _⟩ _).2 ?_
    · exact .cons ⟨rfl, .table (.swap _ _ _)⟩ .nil
    · exact (parse_eq_ok_iff_ofDocument hordered).2 rfl
  · have hparse : Toml.parse? "catalog=\x7bslots=4\x7d\nschema=\x7bx=1\x7d"
        = some [("catalog", .table [("slots", .integer 4)]),
          ("schema", .table [("x", .integer 1)])] := by
      decide +kernel
    -- the first table has no entry that is wrong, only none for the kinds
    have hslots : ∀ entry ∈ [("slots", Toml.Value.integer 4)], ∀ f, ¬CatalogEntryFault entry f := by
      intro entry hentry
      obtain rfl := List.mem_singleton.1 hentry
      exact forall_not_catalogEntryFault_iff.2 (Or.inr ⟨4, rfl⟩)
    obtain ⟨-, -, -, herror⟩ := parse_exact hparse (by simp [HasTables])
    exact (herror _).2 ⟨_, rfl, [], _, _, rfl, by simp, .catalog (.missing hslots (by simp))⟩

end Config

end ErrorScaffold
