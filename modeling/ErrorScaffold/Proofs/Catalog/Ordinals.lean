/-
Ordinals and marker types of a catalog.

The ordinals that are in use are the numbers up to the number of kinds, and each has a marker type
of its own.  The list of entries, the way from an ordinal to its marker type and the way from a
name to its ordinal count on their own; they agree since no two kinds have the same name.

* `getElem?_entries` — the entry at a position is that ordinal with its marker type;
* `marker?_eq_none_iff`, `marker?_eq_kind_iff` — what has a marker type, and which are kinds;
* `ordinalOf?_eq_some_iff` — from a name to its ordinal is the way back from the marker type;
* `ordinals_bijective` — all of this together.
-/
import ErrorScaffold.Proofs.Catalog.Building

namespace ErrorScaffold.Catalog

variable {c : Catalog} {o o' : Ordinal} {name : String}

/-! ### From an ordinal to its marker type -/

@[simp] theorem marker?_succ (c : Catalog) (position : Nat) :
    c.marker? ⟨position + 1⟩ = c.kinds[position]?.map .kind :=
  rfl

/-- Past the last kind there is nothing, and nothing is missing before. -/
@[simp] theorem marker?_eq_none_iff : c.marker? o = none ↔ c.ordinalCount ≤ o.value := by
  rw [ordinalCount, size]
  obtain ⟨_ | position⟩ := o
  · exact ⟨nofun, fun h => absurd h (Nat.not_succ_le_zero _)⟩
  · rw [marker?_succ, Option.map_eq_none_iff, List.getElem?_eq_none_iff]
    exact Nat.succ_le_succ_iff.symm

theorem marker?_eq_kind_iff :
    c.marker? o = some (.kind name) ↔
      ∃ position, o = ⟨position + 1⟩ ∧ c.kinds[position]? = some name := by
  obtain ⟨_ | position⟩ := o
  · exact ⟨nofun, fun ⟨_, heq, _⟩ => nomatch heq⟩
  · rw [marker?_succ, Option.map_eq_some_iff]
    constructor
    · rintro ⟨kind, hkind, heq⟩
      obtain rfl := Marker.kind.inj heq
      exact ⟨position, rfl, hkind⟩
    · rintro ⟨_, heq, hkind⟩
      obtain rfl := Nat.succ.inj (Ordinal.mk.inj heq)
      exact ⟨name, hkind, rfl⟩

/-- A kind has the ordinal that follows its position. -/
theorem exists_kind_of_pos (hpos : 1 ≤ o.value) (hle : o.value ≤ c.size) :
    ∃ name, c.marker? o = some (.kind name) := by
  obtain ⟨_ | position⟩ := o
  · exact absurd hpos (Nat.not_succ_le_zero 0)
  · have hlt : position < c.kinds.length := hle
    refine ⟨c.kinds[position], marker?_eq_kind_iff.2 ⟨position, rfl, ?_⟩⟩
    rw [List.getElem?_eq_getElem hlt]

theorem value_of_marker?_eq_kind (h : c.marker? o = some (.kind name)) :
    1 ≤ o.value ∧ o.value ≤ c.size := by
  obtain ⟨position, rfl, hkind⟩ := marker?_eq_kind_iff.1 h
  have hlt := (List.getElem?_eq_some_iff.1 hkind).1
  exact ⟨Nat.succ_le_succ (Nat.zero_le position), hlt⟩

/-- Two ordinals have different marker types: the sentinel is no kind, and no two kinds have the
same name. -/
theorem marker?_inj (h : o.value ≤ c.size) (heq : c.marker? o = c.marker? o') : o = o' := by
  obtain ⟨_ | position⟩ := o
  · obtain ⟨_ | position'⟩ := o'
    · rfl
    · obtain ⟨_, -, hkind⟩ := Option.map_eq_some_iff.1 heq.symm
      cases hkind
  · obtain ⟨name, hname⟩ := exists_kind_of_pos (Nat.succ_le_succ (Nat.zero_le position)) h
    obtain ⟨_, hposition, hkind⟩ := marker?_eq_kind_iff.1 hname
    obtain ⟨_, rfl, hkind'⟩ := marker?_eq_kind_iff.1 (heq.symm.trans hname)
    rw [hposition, position_unique hkind hkind']

/-! ### From a name to its ordinal -/

/-- The two ways are inverse to each other. -/
@[simp] theorem ordinalOf?_eq_some_iff :
    c.ordinalOf? name = some o ↔ c.marker? o = some (.kind name) := by
  rw [ordinalOf?, Option.map_eq_some_iff, marker?_eq_kind_iff]
  constructor
  · rintro ⟨position, hposition, rfl⟩
    obtain ⟨hlt, hname, -⟩ := List.idxOf?_eq_some_iff.1 hposition
    exact ⟨position, rfl, List.getElem?_eq_some_iff.2 ⟨hlt, hname⟩⟩
  · rintro ⟨position, rfl, hkind⟩
    refine ⟨position, List.idxOf?_eq_some_iff.2 ?_, rfl⟩
    obtain ⟨hlt, hname⟩ := List.getElem?_eq_some_iff.1 hkind
    refine ⟨hlt, hname, fun earlier hearlier heq => ?_⟩
    -- the search stops at the first place, and a name stands at one only
    have hkind' : c.kinds[earlier]? = some name :=
      List.getElem?_eq_some_iff.2 ⟨Nat.lt_trans hearlier hlt, heq⟩
    exact Nat.ne_of_lt hearlier (position_unique hkind' hkind)

@[simp] theorem ordinalOf?_eq_none_iff : c.ordinalOf? name = none ↔ name ∉ c.kinds := by
  rw [ordinalOf?, Option.map_eq_none_iff, List.idxOf?_eq_none_iff]

/-! ### Entries -/

/-- The entries are counted by position. -/
theorem getElem?_entries (c : Catalog) (n : Nat) :
    c.entries[n]? = (c.marker? ⟨n⟩).map fun marker => (⟨n⟩, marker) := by
  cases n with
  | zero => rfl
  | succ n =>
    rw [entries, numberedKinds, List.getElem?_cons_succ, List.getElem?_map, List.getElem?_map,
      List.getElem?_zipIdx, marker?_succ, Nat.add_comm 1 n]
    simp only [Option.map_map]
    rfl

/-- Every ordinal in use is listed with its marker type, in increasing order. -/
theorem entries_eq (c : Catalog) :
    (c.entries.map fun (ordinal, marker) => (ordinal, some marker))
      = (List.range c.ordinalCount).map fun n => (⟨n⟩, c.marker? ⟨n⟩) := by
  refine List.ext_getElem? fun n => ?_
  rw [List.getElem?_map, List.getElem?_map, getElem?_entries]
  by_cases hn : n < c.ordinalCount
  · rw [List.getElem?_range hn]
    cases hmarker : c.marker? ⟨n⟩ with
    | none => exact absurd (marker?_eq_none_iff.1 hmarker) (Nat.not_le.2 hn)
    | some marker => simp [hmarker]
  · have hrange : (List.range c.ordinalCount)[n]? = none := by
      rw [List.getElem?_eq_none_iff, List.length_range]
      exact Nat.not_lt.1 hn
    rw [hrange, marker?_eq_none_iff.2 (Nat.not_lt.1 hn)]
    rfl

/-- **Ordinals and marker types are the same thing seen from two sides.**  The entries list the
ordinals up to the number of kinds with their marker types; beyond there are none, and no two are
equal.  The sentinel has the ordinal 0, and any other ordinal belongs to the kind whose name leads
back to it; a name that no kind has leads nowhere. -/
theorem ordinals_bijective (c : Catalog) :
    ((c.entries.map fun (ordinal, marker) => (ordinal, some marker))
        = (List.range (c.size + 1)).map fun n => (⟨n⟩, c.marker? ⟨n⟩)) ∧
    (∀ o, c.marker? o = none ↔ c.ordinalCount ≤ o.value) ∧
    (∀ o o', o.value ≤ c.size → o'.value ≤ c.size → c.marker? o = c.marker? o' → o = o') ∧
    (∀ o, 1 ≤ o.value → o.value ≤ c.size →
      ∃ name, c.marker? o = some (.kind name) ∧ c.ordinalOf? name = some o) ∧
    (∀ name o, c.ordinalOf? name = some o →
      1 ≤ o.value ∧ o.value ≤ c.size ∧ c.marker? o = some (.kind name)) ∧
    ∀ name, c.ordinalOf? name = none ↔ name ∉ c.kinds := by
  refine ⟨entries_eq c, fun _ => marker?_eq_none_iff, fun _ _ h _ heq => marker?_inj h heq, ?_, ?_,
    fun _ => ordinalOf?_eq_none_iff⟩
  · intro o hpos hle
    obtain ⟨name, hname⟩ := exists_kind_of_pos hpos hle
    exact ⟨name, hname, ordinalOf?_eq_some_iff.2 hname⟩
  · intro name o h
    have hmarker := ordinalOf?_eq_some_iff.1 h
    obtain ⟨hpos, hle⟩ := value_of_marker?_eq_kind hmarker
    exact ⟨hpos, hle, hmarker⟩

/-- The first and the last of the built-in kinds. -/
theorem ordinals_seephit :
    seephit.ordinalOf? "Infinite_loop_in_for_tag" = some ⟨18⟩ ∧
      seephit.marker? ⟨18⟩ = some (.kind "Infinite_loop_in_for_tag") ∧
      seephit.marker? ⟨19⟩ = none ∧
      seephit.marker? ⟨0⟩ ≠ seephit.marker? ⟨18⟩ ∧
      ∃ name, seephit.marker? ⟨1⟩ = some (.kind name) ∧ seephit.ordinalOf? name = some ⟨1⟩ := by
  obtain ⟨-, hnone, hinj, hkind, hback, -⟩ := ordinals_bijective seephit
  have hordinal : seephit.ordinalOf? "Infinite_loop_in_for_tag" = some ⟨18⟩ := by decide +kernel
  refine ⟨hordinal, (hback _ _ hordinal).2.2, (hnone ⟨19⟩).2 (by decide), fun heq => ?_,
    hkind ⟨1⟩ (by decide) (by decide)⟩
  exact absurd (hinj ⟨0⟩ ⟨18⟩ (by decide) (by decide) heq) (by decide)

end ErrorScaffold.Catalog
