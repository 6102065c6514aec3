/-
A tag file is the set of its names.

The tags are strictly increasing, and such a list is known by what is in it.  So neither the order
of the names nor a repetition counts, and the tags of a file give the file again.

* `pairwise_insert`, `pairwise_ofNames` — a name put in where it belongs keeps the tags increasing;
* `tags_eq_of_mem_iff` — no two increasing lists have the same tags in them;
* `ofNames_canonical` — which tags a file has, in which order, and what does not change it.
-/
import ErrorScaffold.Proofs.TagFile.Initializer
import ErrorScaffold.Proofs.Text.ByteOrder

namespace ErrorScaffold.TagFile

open Text

variable {names other more : List String}

/-! ### The order of the tags -/

theorem pairwise_insert {name : String} {tags : List String} (h : tags.Pairwise (· < ·)) :
    (insert name tags).Pairwise (· < ·) := by
  induction tags with
  | nil => exact List.pairwise_singleton _ name
  | cons first tags ih =>
    obtain ⟨hfirst, htags⟩ := List.pairwise_cons.1 h
    rw [insert]
    split
    · next hlt =>
      refine List.pairwise_cons.2 ⟨fun tag htag => ?_, h⟩
      rcases List.mem_cons.1 htag with rfl | htag
      · exact hlt
      · exact hlt.trans (hfirst tag htag)
    · next hge =>
      split
      · exact h
      · next hne =>
        -- the name comes somewhere behind the first tag
        refine List.pairwise_cons.2 ⟨fun tag htag => ?_, ih htags⟩
        rcases mem_insert.1 htag with rfl | htag
        · exact lt_of_le_of_ne (not_lt.1 hge) (Ne.symm hne)
        · exact hfirst tag htag

theorem pairwise_ofNames (names : List String) : (ofNames names).tags.Pairwise (· < ·) := by
  rw [ofNames]
  induction names.filter isTag ++ headings with
  | nil => exact .nil
  | cons name all ih => exact pairwise_insert ih

/-- An increasing list is known by what is in it. -/
theorem tags_eq_of_mem_iff {tags tags' : List String} (h : tags.Pairwise (· < ·))
    (h' : tags'.Pairwise (· < ·)) (hmem : ∀ tag, tag ∈ tags ↔ tag ∈ tags') : tags = tags' := by
  have hperm : tags.Perm tags' :=
    (List.perm_ext_iff_of_nodup (h.imp ne_of_lt) (h'.imp ne_of_lt)).2 hmem
  exact hperm.eq_of_pairwise (fun _ _ _ _ hlt hgt => absurd hgt (lt_asymm hlt)) h h'

/-! ### The names that count -/

@[simp] theorem isTag_iff {name : String} :
    isTag name = true ↔ name ≠ "" ∧ name ≠ headingRange := by
  simp [isTag]

/-- Names that give the same tags give the same file. -/
theorem ofNames_congr
    (h : ∀ tag, isTag tag = true → tag ∉ headings → (tag ∈ names ↔ tag ∈ other)) :
    ofNames names = ofNames other := by
  have htags : (ofNames names).tags = (ofNames other).tags := by
    refine tags_eq_of_mem_iff (pairwise_ofNames names) (pairwise_ofNames other) fun tag => ?_
    rw [mem_ofNames, mem_ofNames]
    by_cases hheading : tag ∈ headings
    · exact iff_of_true (.inr hheading) (.inr hheading)
    · rw [or_iff_left hheading, or_iff_left hheading]
      exact and_congr_left fun htag => h tag htag hheading
  exact congrArg TagFile.mk htags

/-- The tags of a file stand for the names that it was made from. -/
theorem ofNames_tags_append (names more : List String) :
    ofNames ((ofNames names).tags ++ more) = ofNames (names ++ more) := by
  refine ofNames_congr fun tag htag hheading => ?_
  rw [List.mem_append, List.mem_append, mem_ofNames, or_iff_left hheading, and_iff_left htag]

/-- **A tag file is the set of its names.**  Its tags are strictly increasing in the order of their
bytes, and they are the six headings and the names but the empty one and the range; there is no
other such list.  So the same names in another order, or with repetitions, give the same file and
the same header; the tags of a file give it again, also where names are added. -/
theorem ofNames_canonical (names : List String) :
    (ofNames names).tags.Pairwise (fun a b => bytes a < bytes b) ∧
    (∀ tag, tag ∈ (ofNames names).tags ↔
      tag ∈ ["h1", "h2", "h3", "h4", "h5", "h6"] ∨ tag ∈ names ∧ tag ≠ "" ∧ tag ≠ "h1–h6") ∧
    (∀ tags : List String, tags.Pairwise (fun a b => bytes a < bytes b) →
      (∀ tag, tag ∈ tags ↔
        tag ∈ ["h1", "h2", "h3", "h4", "h5", "h6"] ∨ tag ∈ names ∧ tag ≠ "" ∧ tag ≠ "h1–h6") →
      tags = (ofNames names).tags) ∧
    (∀ other : List String, (∀ name, name ∈ names ↔ name ∈ other) →
      ofNames names = ofNames other ∧ (ofNames names).render = (ofNames other).render) ∧
    ofNames (ofNames names).tags = ofNames names ∧
    ∀ more, ofNames (names ++ more) = ofNames ((ofNames names).tags ++ more) := by
  have hmem : ∀ tag, tag ∈ (ofNames names).tags ↔
      tag ∈ headings ∨ tag ∈ names ∧ tag ≠ "" ∧ tag ≠ headingRange := fun tag => by
    rw [mem_ofNames, isTag_iff, or_comm]
  simp only [bytes_lt_iff]
  refine ⟨pairwise_ofNames names, hmem, fun tags hsorted htags => ?_, fun other hother => ?_, ?_,
    fun more => (ofNames_tags_append names more).symm⟩
  · exact tags_eq_of_mem_iff hsorted (pairwise_ofNames names) fun tag =>
      (htags tag).trans (hmem tag).symm
  · have hfile : ofNames names = ofNames other := ofNames_congr fun tag _ _ => hother tag
    exact ⟨hfile, congrArg render hfile⟩
  · have htags := ofNames_tags_append names []
    rwa [List.append_nil, List.append_nil] at htags

/-- The letter `é` takes two bytes and comes last; the range and the empty name are left out. -/
theorem ofNames_of_repeated_names :
    (ofNames ["p", "é", "", "h1–h6", "p"]).tags = ["h1", "h2", "h3", "h4", "h5", "h6", "p", "é"] ∧
      ofNames ["p", "é", "", "h1–h6", "p"] = ofNames ["é", "h1–h6", "é", "p", ""] := by
  obtain ⟨-, -, hunique, hsame, -, -⟩ := ofNames_canonical ["p", "é", "", "h1–h6", "p"]
  refine ⟨(hunique _ ?_ fun tag => ?_).symm, (hsame _ fun name => ?_).1⟩
  · decide +kernel
  · constructor <;> grind
  · grind

end ErrorScaffold.TagFile
