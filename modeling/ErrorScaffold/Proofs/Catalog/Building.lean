/-
Building a catalog from its names.

Names that are identifiers and all different are added one after the other (`foldlM_add`), so that
the kinds of a catalog give the catalog again (`ofNames_kinds`).  In a catalog no name stands at two
positions (`position_unique`).
-/
import ErrorScaffold.Catalog

namespace ErrorScaffold.Catalog

theorem ext_kinds {c c' : Catalog} (h : c.kinds = c'.kinds) : c = c' := by
  cases c
  cases c'
  cases h
  rfl

theorem position_unique {c : Catalog} {name : String} {position position' : Nat}
    (h : c.kinds[position]? = some name) (h' : c.kinds[position']? = some name) :
    position = position' := by
  have hlt := (List.getElem?_eq_some_iff.1 h).1
  exact (List.getElem?_inj hlt c.distinct).1 (h.trans h'.symm)

theorem add_of_new {c : Catalog} {name : String} (usable : Identifier.defect? name = none)
    (new : name ∉ c.kinds) : ∃ c', c.add name = .ok c' ∧ c'.kinds = c.kinds ++ [name] := by
  unfold add
  split
  · next defect hdefect =>
    rw [usable] at hdefect
    cases hdefect
  · rw [dif_neg new]
    exact ⟨_, rfl, rfl⟩

theorem foldlM_add {names : List String} {c : Catalog}
    (usable : ∀ name ∈ names, Identifier.defect? name = none)
    (distinct : (c.kinds ++ names).Nodup) :
    ∃ c', names.foldlM add c = .ok c' ∧ c'.kinds = c.kinds ++ names := by
  induction names generalizing c with
  | nil => exact ⟨c, rfl, (List.append_nil _).symm⟩
  | cons name names ih =>
    rw [List.forall_mem_cons] at usable
    have new : name ∉ c.kinds := fun hmem =>
      (List.nodup_append.1 distinct).2.2 name hmem name List.mem_cons_self rfl
    obtain ⟨next, hadd, hkinds⟩ := add_of_new usable.1 new
    have hsplit : c.kinds ++ name :: names = next.kinds ++ names := by
      rw [hkinds, List.append_assoc, List.singleton_append]
    rw [hsplit] at distinct
    obtain ⟨c', hfold, hc'⟩ := ih usable.2 distinct
    exact ⟨c', by rw [List.foldlM_cons, hadd]; exact hfold, hc'.trans hsplit.symm⟩

/-- The kinds of a catalog give it again. -/
@[simp] theorem ofNames_kinds (c : Catalog) : ofNames c.kinds = .ok c := by
  obtain ⟨c', hfold, hkinds⟩ := foldlM_add (c := .empty) c.usable c.distinct
  rw [ofNames, hfold, ext_kinds hkinds]

end ErrorScaffold.Catalog
