/-
Drafts have no key twice.

A draft takes an entry only where its key is new, and puts what it changes in its place.

* `Draft.wellKeyed_modifyAt?` — a change at the end of a path keeps all keys of the draft distinct
  if it keeps those of the table that it changes;
* `Draft.wellKeyed_insertAll?`, `Draft.wellKeyed_openTable?`, `Draft.wellKeyed_openElement?` — so
  do all the ways to add to a draft;
* `Draft.WellKeyed.toValue` — the finished value has no key twice either.
-/
import ErrorScaffold.Toml.Draft

namespace ErrorScaffold.Toml

/-! ### Tables whose keys are distinct -/

/-- In every table within the value no key stands twice. -/
inductive Value.WellKeyed : Value → Prop
  | string (text : String) : WellKeyed (.string text)
  | integer (value : Int) : WellKeyed (.integer value)
  | float (value : Decimal.Binary64) : WellKeyed (.float value)
  | boolean (value : Bool) : WellKeyed (.boolean value)
  | dateTime (text : String) : WellKeyed (.dateTime text)
  | array {elements : List Value} (values : ∀ element ∈ elements, element.WellKeyed) :
      WellKeyed (.array elements)
  | table {entries : List (String × Value)} (distinct : (entries.map Prod.fst).Nodup)
      (values : ∀ entry ∈ entries, entry.2.WellKeyed) : WellKeyed (.table entries)

/-- The same of a table while it is read. -/
inductive Draft.WellKeyed : Draft → Prop
  | value {v : Value} (h : v.WellKeyed) : WellKeyed (.value v)
  | table {origin : Origin} {entries : List (String × Draft)}
      (distinct : (entries.map Prod.fst).Nodup) (values : ∀ entry ∈ entries, entry.2.WellKeyed) :
      WellKeyed (.table origin entries)
  | tables {elements : List (List (String × Draft))}
      (tables : ∀ entries ∈ elements, (Draft.table .opened entries).WellKeyed) :
      WellKeyed (.tables elements)

structure Table.WellKeyed (entries : Table) : Prop where
  distinct : (entries.map Prod.fst).Nodup
  values : ∀ entry ∈ entries, entry.2.WellKeyed

namespace Draft

structure Entries.WellKeyed (entries : Entries) : Prop where
  distinct : (entries.map Prod.fst).Nodup
  values : ∀ entry ∈ entries, entry.2.WellKeyed

@[simp] theorem wellKeyed_table_iff {origin : Origin} {entries : Entries} :
    (Draft.table origin entries).WellKeyed ↔ entries.WellKeyed := by
  constructor
  · rintro (_ | ⟨distinct, values⟩ | _)
    exact ⟨distinct, values⟩
  · exact fun h => .table h.distinct h.values

/-- One more table at the end of an array of tables. -/
theorem WellKeyed.tables_concat {elements : List Entries} {entries : Entries}
    (h : ∀ table ∈ elements, (Draft.table .opened table).WellKeyed) (hentries : entries.WellKeyed) :
    (Draft.tables (elements ++ [entries])).WellKeyed := by
  refine .tables fun table htable => ?_
  rcases List.mem_append.1 htable with hold | hnew
  · exact h table hold
  · obtain rfl := List.mem_singleton.1 hnew
    exact wellKeyed_table_iff.2 hentries

/-! ### Changes of a draft -/

namespace Entries.WellKeyed

variable {entries : Entries} {key : String} {draft : Draft}

theorem nil : Entries.WellKeyed [] :=
  ⟨.nil, nofun⟩

theorem of_lookup (h : entries.WellKeyed) (hlookup : entries.lookup key = some draft) :
    draft.WellKeyed := by
  obtain ⟨front, back, rfl, -⟩ := List.lookup_eq_some_iff.1 hlookup
  exact h.values _ (List.mem_append_right _ List.mem_cons_self)

/-- Another draft at a key leaves the keys as they are. -/
theorem replace (h : entries.WellKeyed) (hdraft : draft.WellKeyed) :
    (entries.replace key draft).WellKeyed := by
  have hkeys : (entries.replace key draft).map Prod.fst = entries.map Prod.fst := by
    rw [Entries.replace, List.map_map]
    refine List.map_congr_left fun entry _ => ?_
    by_cases hkey : entry.1 = key <;> simp [hkey]
  refine ⟨hkeys ▸ h.distinct, fun entry hentry => ?_⟩
  obtain ⟨old, hold, rfl⟩ := List.mem_map.1 hentry
  split
  · exact hdraft
  · exact h.values old hold

theorem remove (h : entries.WellKeyed) : (entries.remove key).WellKeyed :=
  ⟨h.distinct.sublist (List.filter_sublist.map _),
    fun entry hentry => h.values entry (List.mem_filter.1 hentry).1⟩

theorem concat (h : entries.WellKeyed) (hkey : key ∉ entries.map Prod.fst)
    (hdraft : draft.WellKeyed) : Entries.WellKeyed (entries ++ [(key, draft)]) := by
  constructor
  · rw [List.map_append]
    refine List.nodup_append.2 ⟨h.distinct, by simp, ?_⟩
    rintro other hother _ hsingle rfl
    obtain rfl := List.mem_singleton.1 hsingle
    exact hkey hother
  · intro entry hentry
    rcases List.mem_append.1 hentry with hold | hnew
    · exact h.values entry hold
    · obtain rfl := List.mem_singleton.1 hnew
      exact hdraft

end Entries.WellKeyed

theorem not_mem_keys_of_lookup {entries : Entries} {key : String}
    (h : entries.lookup key = none) : key ∉ entries.map Prod.fst := by
  rintro hmem
  obtain ⟨entry, hentry, rfl⟩ := List.mem_map.1 hmem
  have hne := List.lookup_eq_none_iff.1 h entry hentry
  simp at hne

theorem not_mem_keys_remove (entries : Entries) (key : String) :
    key ∉ (entries.remove key).map Prod.fst := by
  rintro hmem
  obtain ⟨entry, hentry, rfl⟩ := List.mem_map.1 hmem
  have hne := (List.mem_filter.1 hentry).2
  simp at hne

/-- A fold that may fail keeps what each of its steps keeps. -/
theorem foldlM_invariant {α β : Type} {f : β → α → Option β} {Inv : β → Prop} {items : List α}
    (hstep : ∀ state, ∀ item ∈ items, ∀ next, Inv state → f state item = some next → Inv next)
    {start result : β} (hstart : Inv start) (h : items.foldlM f start = some result) :
    Inv result := by
  induction items generalizing start with
  | nil =>
    cases h
    exact hstart
  | cons item items ih =>
    rw [List.foldlM_cons] at h
    obtain ⟨next, hnext, hrest⟩ := Option.bind_eq_some_iff.1 h
    refine ih (fun state other hother => hstep state other (List.mem_cons_of_mem _ hother)) ?_ hrest
    exact hstep start item List.mem_cons_self next hstart hnext

/-- What a change at the end of a path keeps of the table there, it keeps of the tables on the
way. -/
theorem wellKeyed_modifyAt? {missing : Origin} {change : Origin → Entries → Option Entries}
    (hchange : ∀ origin entries result, entries.WellKeyed → change origin entries = some result →
      result.WellKeyed)
    {path : List String} {here : Origin} {entries result : Entries} (hentries : entries.WellKeyed)
    (h : modifyAt? missing change path here entries = some result) : result.WellKeyed := by
  induction path generalizing here entries result with
  | nil => exact hchange here entries result hentries h
  | cons key path ih =>
    rw [modifyAt?] at h
    split at h
    · next hlookup =>
      -- a new table, with nothing in it but the rest of the path
      obtain ⟨inner, hinner, heq⟩ := Option.bind_eq_some_iff.1 h
      cases heq
      exact hentries.concat (not_mem_keys_of_lookup hlookup)
        (wellKeyed_table_iff.2 (ih .nil hinner))
    · next origin inner hlookup =>
      split at h
      · cases h
      · obtain ⟨changed, hchanged, heq⟩ := Option.bind_eq_some_iff.1 h
        cases heq
        have hinner := wellKeyed_table_iff.1 (hentries.of_lookup hlookup)
        exact hentries.replace (wellKeyed_table_iff.2 (ih hinner hchanged))
    · next elements hlookup =>
      obtain ⟨last, hlast, h⟩ := Option.bind_eq_some_iff.1 h
      obtain ⟨changed, hchanged, heq⟩ := Option.bind_eq_some_iff.1 h
      cases heq
      cases hentries.of_lookup hlookup with
      | tables tables =>
        have hinner := wellKeyed_table_iff.1 (tables last (List.mem_of_getLast? hlast))
        exact hentries.replace (.tables_concat
          (fun table htable => tables table (List.dropLast_subset _ htable)) (ih hinner hchanged))
    · cases h

theorem wellKeyed_insert? {entries result : Entries} {path : List String} {v : Value}
    (hentries : entries.WellKeyed) (hv : v.WellKeyed)
    (h : insert? entries path v = some result) : result.WellKeyed := by
  obtain ⟨key, -, h⟩ := Option.bind_eq_some_iff.1 h
  refine wellKeyed_modifyAt? (fun origin inner changed hinner hchanged => ?_) hentries h
  split at hchanged
  · cases hchanged
  · next hnew =>
    cases hchanged
    rw [Bool.or_eq_true, not_or, Bool.not_eq_true, Bool.not_eq_true, Option.isSome_eq_false_iff,
      Option.isNone_iff_eq_none] at hnew
    exact hinner.concat (not_mem_keys_of_lookup hnew.2) (.value hv)

theorem wellKeyed_insertAll? {entries result : Entries} {pairs : List (List String × Value)}
    (hentries : entries.WellKeyed) (hpairs : ∀ pair ∈ pairs, pair.2.WellKeyed)
    (h : insertAll? entries pairs = some result) : result.WellKeyed :=
  foldlM_invariant (fun _ pair hpair _ hstate hnext =>
    wellKeyed_insert? hstate (hpairs pair hpair) hnext) hentries h

theorem wellKeyed_openTable? {root result : Entries} {path : List String}
    {pairs : List (List String × Value)} (hroot : root.WellKeyed)
    (hpairs : ∀ pair ∈ pairs, pair.2.WellKeyed) (h : openTable? root path pairs = some result) :
    result.WellKeyed := by
  obtain ⟨key, -, h⟩ := Option.bind_eq_some_iff.1 h
  refine wellKeyed_modifyAt? (fun origin neighbours changed hneighbours hchanged => ?_) hroot h
  -- whatever the table had in it before, the pairs are added to it
  have hadded : ∀ before : Entries, before.WellKeyed →
      ((insertAll? before pairs).bind fun entries =>
        some (neighbours.remove key ++ [(key, .table .opened entries)])) = some changed →
      changed.WellKeyed := by
    intro before hbefore hbind
    obtain ⟨entries, hentries, heq⟩ := Option.bind_eq_some_iff.1 hbind
    cases heq
    exact hneighbours.remove.concat (not_mem_keys_remove neighbours key)
      (wellKeyed_table_iff.2 (wellKeyed_insertAll? hbefore hpairs hentries))
  dsimp only at hchanged
  split at hchanged
  · exact hadded [] .nil hchanged
  · next entries hlookup =>
    exact hadded entries (wellKeyed_table_iff.1 (hneighbours.of_lookup hlookup)) hchanged
  · cases hchanged

theorem wellKeyed_openElement? {root result : Entries} {path : List String}
    {pairs : List (List String × Value)} (hroot : root.WellKeyed)
    (hpairs : ∀ pair ∈ pairs, pair.2.WellKeyed) (h : openElement? root path pairs = some result) :
    result.WellKeyed := by
  obtain ⟨key, -, h⟩ := Option.bind_eq_some_iff.1 h
  refine wellKeyed_modifyAt? (fun origin neighbours changed hneighbours hchanged => ?_) hroot h
  obtain ⟨entries, hentries, hchanged⟩ := Option.bind_eq_some_iff.1 hchanged
  have hadded := wellKeyed_insertAll? .nil hpairs hentries
  split at hchanged
  · next hlookup =>
    cases hchanged
    -- the first element makes the array
    have hfirst : (Draft.tables ([] ++ [entries])).WellKeyed := .tables_concat nofun hadded
    exact hneighbours.concat (not_mem_keys_of_lookup hlookup) hfirst
  · next elements hlookup =>
    -- a later one is put behind the others
    cases hchanged
    cases hneighbours.of_lookup hlookup with
    | tables tables => exact hneighbours.replace (.tables_concat tables hadded)
  · cases hchanged

/-! ### The finished table -/

theorem entriesToTable_eq (entries : Entries) :
    entriesToTable entries = entries.map fun entry => (entry.1, entry.2.toValue) := by
  induction entries with
  | nil => rfl
  | cons entry entries ih => rw [entriesToTable, ih, List.map_cons]

theorem elementsToValues_eq (elements : List Entries) :
    elementsToValues elements = elements.map fun entries => .table (entriesToTable entries) := by
  induction elements with
  | nil => rfl
  | cons entries elements ih => rw [elementsToValues, ih, List.map_cons]

@[simp] theorem map_fst_entriesToTable (entries : Entries) :
    (entriesToTable entries).map Prod.fst = entries.map Prod.fst := by
  rw [entriesToTable_eq, List.map_map]
  rfl

theorem WellKeyed.toValue {draft : Draft} (h : draft.WellKeyed) : draft.toValue.WellKeyed := by
  -- along the proof that the keys are distinct, which has a case for each kind of draft
  induction h with
  | value h => exact h
  | @table origin entries distinct _ ih =>
    rw [Draft.toValue]
    refine .table (by rwa [map_fst_entriesToTable]) fun entry hentry => ?_
    rw [entriesToTable_eq] at hentry
    obtain ⟨old, hold, rfl⟩ := List.mem_map.1 hentry
    exact ih old hold
  | @tables elements _ ih =>
    rw [Draft.toValue]
    refine .array fun element helement => ?_
    rw [elementsToValues_eq] at helement
    obtain ⟨entries, hentries, rfl⟩ := List.mem_map.1 helement
    exact ih entries hentries

theorem Entries.WellKeyed.toTable {entries : Entries} (h : entries.WellKeyed) :
    Table.WellKeyed (entriesToTable entries) := by
  have htable : (Draft.table .opened entries).WellKeyed := wellKeyed_table_iff.2 h
  cases htable.toValue with
  | table distinct values => exact ⟨distinct, values⟩

end Draft

end ErrorScaffold.Toml
