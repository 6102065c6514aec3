/-
Which lists of names make a catalog, and what is said of the others.

Names are added from the front, each to the catalog of those before it, so that a list is refused
at the first name that does not fit what stands in front of it.  A name does not fit if it is no
identifier or is there already, and the first of the two is looked at first.

* `kinds_of_add`, `describes_of_add` — what adding one name gives, and what its refusal says;
* `ofNames_eq_ok_iff` — a catalog comes from its own kinds and from nothing else;
* `exists_of_ofNames_eq_error` — a refusal describes the first fault;
* `ofNames_exact` — which lists are accepted, and what is said of each of the others.
-/
import ErrorScaffold.Proofs.Catalog.Building
import ErrorScaffold.Proofs.Result

namespace ErrorScaffold.Catalog

/-! ### Faults of a list of names -/

/-- The name at the position is no identifier, or it stands at an earlier one as well. -/
def IsFault (names : List String) (position : Nat) : Prop :=
  ∃ name, names[position]? = some name ∧
    (Identifier.defect? name ≠ none ∨ ∃ earlier < position, names[earlier]? = some name)

structure IsFirstFault (names : List String) (position : Nat) : Prop where
  isFault : IsFault names position
  first : ∀ earlier < position, ¬IsFault names earlier

/-- The error says what is wrong with the name at the position.  That it is no identifier counts
before anything else. -/
inductive Describes (names : List String) (position : Nat) : HeaderError → Prop
  | unusable {name : String} {defect : NameDefect} (get : names[position]? = some name)
      (refused : Identifier.defect? name = some defect) :
      Describes names position (.unusableKind name position defect)
  | duplicate {name : String} {earlier : Nat} (get : names[position]? = some name)
      (usable : Identifier.defect? name = none) (lt : earlier < position)
      (get_earlier : names[earlier]? = some name)
      (only : ∀ other < position, names[other]? = some name → other = earlier) :
      Describes names position (.duplicateKind name earlier position)

variable {names front back : List String} {name : String} {position : Nat} {e e' : HeaderError}
  {c c' : Catalog}

theorem IsFirstFault.unique {position' : Nat} (h : IsFirstFault names position)
    (h' : IsFirstFault names position') : position = position' := by
  rcases Nat.lt_trichotomy position position' with hlt | heq | hlt
  · exact absurd h.isFault (h'.first position hlt)
  · exact heq
  · exact absurd h'.isFault (h.first position' hlt)

theorem Describes.isFault (h : Describes names position e) : IsFault names position := by
  cases h with
  | unusable get refused => exact ⟨_, get, Or.inl (by simp [refused])⟩
  | duplicate get _ lt get_earlier _ => exact ⟨_, get, Or.inr ⟨_, lt, get_earlier⟩⟩

/-- One thing at most can be said of a position. -/
theorem Describes.unique (h : Describes names position e) (h' : Describes names position e') :
    e = e' := by
  -- the position gives the name; a refused name is not usable, so the mixed cases are void
  cases h with
  | unusable get refused =>
    cases h' with
    | unusable get' refused' =>
      obtain rfl := Option.some.inj (get.symm.trans get')
      obtain rfl := Option.some.inj (refused.symm.trans refused')
      rfl
    | duplicate get' usable' =>
      obtain rfl := Option.some.inj (get.symm.trans get')
      cases refused.symm.trans usable'
  | duplicate get usable lt get_earlier only =>
    cases h' with
    | unusable get' refused' =>
      obtain rfl := Option.some.inj (get.symm.trans get')
      cases refused'.symm.trans usable
    | duplicate get' usable' lt' get_earlier' only' =>
      obtain rfl := Option.some.inj (get.symm.trans get')
      -- of the positions that hold the name already there is one only
      obtain rfl := only' _ lt get_earlier
      rfl

/-- What a catalog has in front of other names is without fault. -/
theorem not_isFault_kinds (c : Catalog) (rest : List String) (h : position < c.kinds.length) :
    ¬IsFault (c.kinds ++ rest) position := by
  rintro ⟨name, hget, hfault⟩
  rw [List.getElem?_append_left h] at hget
  rcases hfault with hdefect | ⟨earlier, hlt, hearlier⟩
  · exact hdefect (c.usable name (List.mem_of_getElem? hget))
  · rw [List.getElem?_append_left (Nat.lt_trans hlt h)] at hearlier
    exact Nat.ne_of_lt hlt (position_unique hearlier hget)

/-! ### One name -/

theorem kinds_of_add (h : c.add name = .ok c') : c'.kinds = c.kinds ++ [name] := by
  unfold add at h
  split at h
  · cases h
  · split at h
    · cases h
    · cases h
      rfl

/-- Where a name is refused, it is the fault at its position, whatever comes after it. -/
theorem describes_of_add (h : c.add name = .error e) (back : List String) :
    Describes (c.kinds ++ name :: back) c.kinds.length e := by
  have hget : (c.kinds ++ name :: back)[c.kinds.length]? = some name := by
    rw [List.getElem?_append_right (Nat.le_refl _), Nat.sub_self, List.getElem?_cons_zero]
  unfold add at h
  split at h
  · -- the name itself is refused
    next defect hdefect =>
    cases h
    exact .unusable hget hdefect
  · next husable =>
    split at h
    · next hmem =>
      cases h
      -- the name is there already, and `idxOf` finds where
      have hlt : c.kinds.idxOf name < c.kinds.length := List.idxOf_lt_length_iff.2 hmem
      have hearlier : c.kinds[c.kinds.idxOf name]? = some name := by
        rw [List.getElem?_eq_getElem hlt, List.getElem_idxOf hlt]
      refine .duplicate hget husable hlt ?_ fun other hother hget' => ?_
      · rw [List.getElem?_append_left hlt, hearlier]
      · rw [List.getElem?_append_left hother] at hget'
        exact position_unique hget' hearlier
    · cases h

/-! ### A list of names -/

theorem kinds_of_foldlM (h : names.foldlM add c = .ok c') : c'.kinds = c.kinds ++ names := by
  induction names generalizing c with
  | nil =>
    cases h
    exact (List.append_nil _).symm
  | cons name names ih =>
    rw [List.foldlM_cons] at h
    cases hadd : c.add name with
    | error e =>
      rw [hadd] at h
      cases h
    | ok next =>
      rw [hadd] at h
      rw [ih h, kinds_of_add hadd, List.append_assoc, List.singleton_append]

/-- A catalog comes from its own kinds and from no other list. -/
@[simp] theorem ofNames_eq_ok_iff : ofNames names = .ok c ↔ c.kinds = names := by
  constructor
  · exact fun h => kinds_of_foldlM h
  · rintro rfl
    exact ofNames_kinds c

/-- A list is refused at the first name that does not fit the catalog of those before it. -/
theorem exists_of_ofNames_eq_error (h : ofNames names = .error e) :
    ∃ position, IsFirstFault names position ∧ Describes names position e := by
  obtain ⟨front, name, back, c, rfl, hfront, hadd⟩ := exists_of_foldlM_eq_error h
  obtain rfl := ofNames_eq_ok_iff.1 hfront
  have hdescribes := describes_of_add hadd back
  exact ⟨c.kinds.length, ⟨hdescribes.isFault, fun _ hlt => not_isFault_kinds c _ hlt⟩, hdescribes⟩

theorem ofNames_eq_error_iff :
    ofNames names = .error e ↔
      ∃ position, IsFirstFault names position ∧ Describes names position e := by
  refine ⟨exists_of_ofNames_eq_error, ?_⟩
  rintro ⟨position, hfirst, hdescribes⟩
  cases hresult : ofNames names with
  | ok c =>
    -- the names of a catalog have no fault
    obtain rfl := ofNames_eq_ok_iff.1 hresult
    obtain ⟨_, hget, _⟩ := hfirst.isFault
    have hlt := (List.getElem?_eq_some_iff.1 hget).1
    have hnot := not_isFault_kinds c [] hlt
    rw [List.append_nil] at hnot
    exact absurd hfirst.isFault hnot
  | error e' =>
    obtain ⟨position', hfirst', hdescribes'⟩ := exists_of_ofNames_eq_error hresult
    obtain rfl := hfirst.unique hfirst'
    rw [hdescribes.unique hdescribes']

theorem ofNames_append_of_eq_error (h : ofNames names = .error e) (more : List String) :
    ofNames (names ++ more) = .error e := by
  rw [ofNames, List.foldlM_append]
  rw [ofNames] at h
  rw [h]
  rfl

/-- **Which lists make a catalog.**  It takes identifiers that are all different, and they are its
kinds in their order.  Of any other list the first fault is described: a name that is no
identifier, or one that stands at exactly one earlier position.  More names change nothing. -/
theorem ofNames_exact (names : List String) :
    ((∃ c, ofNames names = .ok c) ↔
      (∀ name ∈ names, Identifier.defect? name = none) ∧ names.Nodup) ∧
    (∀ c, ofNames names = .ok c ↔ c.kinds = names) ∧
    (∀ e, ofNames names = .error e ↔
      ∃ position, IsFirstFault names position ∧ Describes names position e) ∧
    ∀ e, ofNames names = .error e → ∀ more, ofNames (names ++ more) = .error e := by
  refine ⟨⟨?_, ?_⟩, fun _ => ofNames_eq_ok_iff, fun _ => ofNames_eq_error_iff,
    fun _ h more => ofNames_append_of_eq_error h more⟩
  · rintro ⟨c, hc⟩
    obtain rfl := ofNames_eq_ok_iff.1 hc
    exact ⟨c.usable, c.distinct⟩
  · rintro ⟨usable, distinct⟩
    exact ⟨⟨names, usable, distinct⟩, ofNames_eq_ok_iff.2 rfl⟩

/-- The second `A` comes before the keyword, and no name after the two changes what is said. -/
theorem ofNames_of_repeated_name :
    let names := ["A", "b", "A", "if"]
    ofNames names = .error (.duplicateKind "A" 0 2) ∧
      (∃ position, IsFirstFault names position ∧
        Describes names position (.duplicateKind "A" 0 2)) ∧
      ofNames (names ++ ["", "b"]) = .error (.duplicateKind "A" 0 2) := by
  intro names
  have hresult : ofNames names = .error (.duplicateKind "A" 0 2) := by rfl
  obtain ⟨-, -, herror, hmore⟩ := ofNames_exact names
  exact ⟨hresult, (herror _).1 hresult, hmore _ hresult ["", "b"]⟩

end ErrorScaffold.Catalog
