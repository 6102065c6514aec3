/-
Names that go together.

Whether there is a header of a list of names is asked of each name and of every two of them, and of
nothing else: a name has to be usable under the schema, and of two names neither may be the other
or its enumerator.  The errors depend on the order of the names, and whether there is one does not.

* `admits_iff` — a list of names has a header if each name stands and every two are apart;
* `admits_iff_pairs` — it has one if every two of its names have, and then so has any list that
  is made from it by leaving names out or changing their order.
-/
import ErrorScaffold.Proofs.Catalog.Admission
import ErrorScaffold.Proofs.Header.Refusal
import Mathlib.Data.List.Pairwise

namespace ErrorScaffold.UsableSchema

open Identifier

variable (u : UsableSchema) (budget : SlotBudget)

/-- The names make a catalog, and the catalog a header. -/
def Admits (names : List String) : Prop :=
  ∃ c h, Catalog.ofNames names = .ok c ∧ u.header c budget = .ok h

/-- The name can be that of a kind, whatever the other kinds are. -/
structure Stands (name : String) : Prop where
  usable : defect? name = none
  enumerator_usable : defect? (u.schema.enumerator name) = none
  ne_enumerator : name ≠ u.schema.enumerator u.schema.sentinel
  not_taken : name ∉ u.schema.taken
  enumerator_not_taken : u.schema.enumerator name ∉ u.schema.taken

/-- Of two names neither is the other or the other's enumerator. -/
structure Apart (name other : String) : Prop where
  ne : name ≠ other
  ne_enumerator : name ≠ u.schema.enumerator other
  enumerator_ne : u.schema.enumerator name ≠ other

instance : Std.Symm u.Apart where
  symm _ _ h := ⟨h.ne.symm, h.enumerator_ne.symm, h.ne_enumerator.symm⟩

variable {u budget} {c : Catalog} {names : List String} {name : String}

/-- A name is never its own enumerator, since the prefix is not empty. -/
theorem enumerator_ne_self : u.schema.enumerator name ≠ name := fun h =>
  u.ordinalPrefix_ne_empty (String.append_eq_right_iff.1 h)

theorem Accepts.stands (h : u.Accepts c) (hname : name ∈ c.kinds) : u.Stands name := by
  obtain ⟨-, hfree, husable⟩ := accepts_iff_compatible.1 h
  exact {
    usable := c.usable name hname
    enumerator_usable := check_eq_ok_iff.1 (husable name hname)
    ne_enumerator := fun heq => h.not_mem_enumerators hname (mem_enumerators.2 (Or.inl heq))
    not_taken := (hfree name hname).1
    enumerator_not_taken := (hfree name hname).2 }

theorem Accepts.ne_enumerator (h : u.Accepts c) {other : String} (hname : name ∈ c.kinds)
    (hother : other ∈ c.kinds) : name ≠ u.schema.enumerator other := fun heq =>
  h.not_mem_enumerators hname (mem_enumerators.2 (Or.inr ⟨other, hother, heq⟩))

theorem Accepts.pairwise_apart (h : u.Accepts c) : c.kinds.Pairwise u.Apart :=
  c.distinct.imp_of_mem fun hname hother hne =>
    ⟨hne, h.ne_enumerator hname hother, (h.ne_enumerator hother hname).symm⟩

theorem accepts_of_pairwise (hstands : ∀ name ∈ c.kinds, u.Stands name)
    (hapart : c.kinds.Pairwise u.Apart) : u.Accepts c := by
  intro name hname
  have hname' := hstands name hname
  rw [kindDefect?_eq_none_iff_not_isFaulty]
  -- the ways to be faulty; only the first involves a second name
  rintro ((henumerator | htaken | htaken) | hunusable)
  · rw [← enumerators_eq] at henumerator
    obtain heq | ⟨other, hother, heq⟩ := mem_enumerators.1 henumerator
    · exact hname'.ne_enumerator heq
    · -- a name may be the other one, and no name is its own enumerator
      by_cases hne : name = other
      · rw [← hne] at heq
        exact enumerator_ne_self heq.symm
      · exact (hapart.forall hname hother hne).ne_enumerator heq
  · exact hname'.not_taken htaken
  · exact hname'.enumerator_not_taken htaken
  · exact hunusable (check_eq_ok_iff.2 hname'.enumerator_usable)

/-- There is a header of the names if each stands by itself and every two are apart. -/
theorem admits_iff :
    u.Admits budget names ↔ (∀ name ∈ names, u.Stands name) ∧ names.Pairwise u.Apart := by
  constructor
  · rintro ⟨c, h, hc, hh⟩
    obtain rfl := Catalog.ofNames_eq_ok_iff.1 hc
    have haccepts := (header_eq_ok_iff.1 hh).1
    exact ⟨fun name hname => haccepts.stands hname, haccepts.pairwise_apart⟩
  · rintro ⟨hstands, hapart⟩
    let c : Catalog :=
      ⟨names, fun name hname => (hstands name hname).usable, hapart.imp fun h => h.ne⟩
    exact ⟨c, .build u.schema c budget, Catalog.ofNames_eq_ok_iff.2 rfl,
      header_of_accepts (accepts_of_pairwise hstands hapart)⟩

theorem Admits.sublist {few : List String} (h : u.Admits budget names) (hfew : few.Sublist names) :
    u.Admits budget few := by
  obtain ⟨hstands, hapart⟩ := admits_iff.1 h
  exact admits_iff.2 ⟨fun name hname => hstands name (hfew.subset hname), hapart.sublist hfew⟩

theorem Admits.perm {other : List String} (h : u.Admits budget names) (hother : other.Perm names) :
    u.Admits budget other := by
  obtain ⟨hstands, hapart⟩ := admits_iff.1 h
  exact admits_iff.2 ⟨fun name hname => hstands name (hother.subset hname),
    (hother.pairwise_iff fun hapart => Std.Symm.symm _ _ hapart).2 hapart⟩

/-- Lists of one and of two names say all that is asked of a longer one. -/
theorem admits_of_pairs (h : ∀ few, few.Sublist names → few.length ≤ 2 → u.Admits budget few) :
    u.Admits budget names := by
  refine admits_iff.2 ⟨fun name hname => ?_, ?_⟩
  · have hone := h [name] (List.singleton_sublist.2 hname) (Nat.le_succ 1)
    exact (admits_iff.1 hone).1 name List.mem_cons_self
  · refine List.pairwise_iff_forall_sublist.2 fun hsublist => ?_
    have htwo := h _ hsublist (Nat.le_refl 2)
    exact List.pairwise_pair.1 (admits_iff.1 htwo).2

variable (u budget names)

/-- **Acceptance is decided by pairs.**  A list of names has a header if and only if every list of
at most two of its names has one.  So neither the order of the names counts nor is a name needed
for another. -/
theorem admits_iff_pairs :
    (u.Admits budget names ↔
      ∀ few, few.Sublist names → few.length ≤ 2 → u.Admits budget few) ∧
    (u.Admits budget names → ∀ other, other.Perm names → u.Admits budget other) ∧
    (u.Admits budget names → ∀ few, few.Sublist names → u.Admits budget few) :=
  ⟨⟨fun h _ hfew _ => h.sublist hfew, admits_of_pairs⟩, fun h _ hother => h.perm hother,
    fun h _ hfew => h.sublist hfew⟩

/-- A kind and its enumerator do not go together, in no list.  The built-in kinds do, in any order
and with any of them left out. -/
theorem admits_pairs_seephit :
    ¬standard.Admits .standard ["Foo", "A", "Error_Foo"] ∧
      standard.Admits .standard Catalog.builtInKinds.reverse ∧
      standard.Admits .standard ["Duplicate_ID_on_tag", "Expecting_a_close_tag"] := by
  have hpair : ¬standard.Admits .standard ["Foo", "Error_Foo"] := by
    intro h
    exact (List.pairwise_pair.1 (admits_iff.1 h).2).enumerator_ne (by decide)
  have hseephit : standard.Admits .standard Catalog.builtInKinds :=
    ⟨.seephit, _, Catalog.ofNames_kinds .seephit, header_seephit⟩
  refine ⟨fun h => hpair ?_, ?_, ?_⟩
  · exact (admits_iff_pairs standard .standard _).1.1 h _ (by decide) (Nat.le_refl 2)
  · exact (admits_iff_pairs standard .standard _).2.1 hseephit _ (List.reverse_perm _)
  · exact (admits_iff_pairs standard .standard _).2.2 hseephit _ (by decide)

end ErrorScaffold.UsableSchema
