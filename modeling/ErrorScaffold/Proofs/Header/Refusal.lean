/-
Which catalogs a schema refuses, and for what.

Whether there is a header is decided kind by kind, each against all enumerators and against the
names that the schema takes.  Taken together these questions ask that all names of the ordinal
table are different, since the enumerators' prefix is never empty, and that none of a kind's names
is taken.

* `accepts_iff_compatible` — a catalog is accepted if and only if its names are `Compatible`;
* `kindDefect?_eq_some_iff` — what is reported of a kind, and which of two causes counts;
* `header_exact` — there is a header, or the first faulty kind is reported.
-/
import ErrorScaffold.Proofs.Header.Acceptance

namespace ErrorScaffold

open Identifier

/-- A search through a numbered list ends at the first item for which something is found. -/
theorem exists_of_findSome?_zipIdx {α β : Type} {f : α × Nat → Option β} {items : List α}
    {found : β} (h : items.zipIdx.findSome? f = some found) :
    ∃ position item, items[position]? = some item ∧ f (item, position) = some found ∧
      ∀ earlier < position, ∀ other, items[earlier]? = some other → f (other, earlier) = none := by
  obtain ⟨front, ⟨item, number⟩, back, hsplit, hfound, hfront⟩ := List.findSome?_eq_some_iff.1 h
  -- the numbers count the items, so the item's own number is the length of what is before it
  have hget : ∀ i : Nat, (front ++ (item, number) :: back)[i]? = items[i]?.map fun a => (a, i) := by
    intro i
    rw [← hsplit, List.getElem?_zipIdx, Nat.zero_add]
  have hitem := hget front.length
  rw [List.getElem?_append_right (Nat.le_refl _), Nat.sub_self, List.getElem?_cons_zero] at hitem
  obtain ⟨a, ha, heq⟩ := Option.map_eq_some_iff.1 hitem.symm
  obtain ⟨rfl, rfl⟩ := Prod.mk.inj heq
  refine ⟨front.length, a, ha, hfound, ?_⟩
  intro earlier hlt other hother
  have hentry := hget earlier
  rw [List.getElem?_append_left hlt, hother] at hentry
  exact hfront _ (List.mem_of_getElem? hentry)

/-- The names that a schema takes at namespace scope. -/
def Schema.taken (s : Schema) : List String :=
  s.takenNames.map Prod.snd

@[simp] theorem Schema.mem_taken_iff {s : Schema} {name : String} :
    name ∈ s.taken ↔ ∃ field ∈ takenFields, s.get field = name := by
  simp [taken, takenNames]

namespace UsableSchema

variable (u : UsableSchema) (c : Catalog)

/-! ### Names and faults -/

/-- The marker types and then the enumerators, the sentinel's first. -/
def tableNames : List String :=
  (u.schema.sentinel :: c.kinds) ++ (u.schema.sentinel :: c.kinds).map u.schema.enumerator

/-- The names of the catalog go together with each other and with those of the schema. -/
structure Compatible : Prop where
  distinct : (u.tableNames c).Nodup
  free : ∀ kind ∈ c.kinds, kind ∉ u.schema.taken ∧ u.schema.enumerator kind ∉ u.schema.taken
  usable : ∀ kind ∈ c.kinds, check (u.schema.enumerator kind) = .ok ()

/-- The kind is called like an enumerator, whosever it is, or it or its own enumerator is called
like something that the schema takes. -/
def Collides (kind : String) : Prop :=
  kind ∈ (u.schema.sentinel :: c.kinds).map u.schema.enumerator ∨ kind ∈ u.schema.taken ∨
    u.schema.enumerator kind ∈ u.schema.taken

instance (kind : String) : Decidable (u.Collides c kind) :=
  inferInstanceAs (Decidable (_ ∨ _ ∨ _))

/-- The kind collides, or its enumerator cannot be used. -/
def IsFaulty (kind : String) : Prop :=
  u.Collides c kind ∨ check (u.schema.enumerator kind) ≠ .ok ()

instance (kind : String) : Decidable (u.IsFaulty c kind) :=
  inferInstanceAs (Decidable (_ ∨ _))

variable {u c}

@[simp] theorem clashes_eq_true_iff {kind : String} :
    u.clashes c kind = true ↔ u.Collides c kind := by
  rw [← not_iff_not, Bool.not_eq_true, clashes_eq_false_iff, Collides, enumerators_eq, not_or,
    not_or, Schema.mem_taken_iff, Schema.mem_taken_iff]
  simp only [not_exists, not_and, ne_eq, forall_and]

/-- A collision counts before whatever is wrong with the enumerator. -/
theorem kindDefect?_eq_some_iff {kind : String} {defect : NameDefect} :
    u.kindDefect? c kind = some defect ↔
      (u.Collides c kind ∧ defect = .taken) ∨
        (¬u.Collides c kind ∧ check (u.schema.enumerator kind) = .error defect) := by
  rw [← clashes_eq_true_iff, kindDefect?, check]
  cases u.clashes c kind with
  | true => simp [eq_comm]
  | false => cases defect? (u.schema.enumerator kind) <;> simp

theorem kindDefect?_eq_none_iff_not_isFaulty {kind : String} :
    u.kindDefect? c kind = none ↔ ¬u.IsFaulty c kind := by
  rw [kindDefect?_eq_none_iff, IsFaulty, ← clashes_eq_true_iff, ← check_eq_ok_iff, not_or,
    Bool.not_eq_true, not_not]

/-! ### Acceptance -/

/-- No name of the ordinal table is there twice when no kind collides: marker types differ, so
their enumerators do, and the sentinel is neither its own enumerator nor that of a kind. -/
theorem Accepts.nodup_tableNames (h : u.Accepts c) : (u.tableNames c).Nodup := by
  have henumerators := h.nodup_enumerators
  rw [enumerators_eq] at henumerators
  refine List.nodup_append.2 ⟨h.nodup_markers, henumerators, ?_⟩
  rintro marker hmarker _ henumerator rfl
  rcases List.mem_cons.1 hmarker with rfl | hkind
  · obtain ⟨other, hother, heq⟩ := List.mem_map.1 henumerator
    rcases List.mem_cons.1 hother with rfl | hother
    · exact u.ordinalPrefix_ne_empty (String.append_eq_right_iff.1 heq)
    · exact h.get_ne_enumerator hother .sentinel (by decide) heq.symm
  · exact h.not_mem_enumerators hkind (by rwa [enumerators_eq])

/-- The questions that are asked of the kinds one by one are about all names together. -/
theorem accepts_iff_compatible : u.Accepts c ↔ u.Compatible c := by
  constructor
  · intro h
    refine ⟨h.nodup_tableNames, fun kind hkind => ?_, fun kind hkind => ?_⟩
    · simp only [Schema.mem_taken_iff, not_exists, not_and]
      exact ⟨fun field hfield => h.get_ne hkind field hfield,
        fun field hfield => h.get_ne_enumerator hkind field hfield⟩
    · exact check_eq_ok_iff.2 (h.defect?_enumerator hkind)
  · rintro ⟨hdistinct, hfree, husable⟩ kind hkind
    -- a kind that is an enumerator is in the table of names twice
    have hmarker : kind ∉ (u.schema.sentinel :: c.kinds).map u.schema.enumerator := by
      intro henumerator
      exact (List.nodup_append.1 hdistinct).2.2 kind (List.mem_cons_of_mem _ hkind) kind
        henumerator rfl
    rw [kindDefect?_eq_none_iff_not_isFaulty]
    rintro ((hcollides | hcollides | hcollides) | hunusable)
    · exact hmarker hcollides
    · exact (hfree kind hkind).1 hcollides
    · exact (hfree kind hkind).2 hcollides
    · exact hunusable (husable kind hkind)

theorem exists_of_kindError? {error : HeaderError} (h : u.kindError? c = some error) :
    ∃ position kind defect, c.kinds[position]? = some kind ∧ u.kindDefect? c kind = some defect ∧
      (∀ earlier < position, ∀ other, c.kinds[earlier]? = some other → ¬u.IsFaulty c other) ∧
      error = .unusableKind kind position defect := by
  obtain ⟨position, kind, hkind, hfound, hearlier⟩ := exists_of_findSome?_zipIdx h
  obtain ⟨defect, hdefect, rfl⟩ := Option.map_eq_some_iff.1 hfound
  refine ⟨position, kind, defect, hkind, hdefect, ?_, rfl⟩
  intro earlier hlt other hother
  exact kindDefect?_eq_none_iff_not_isFaulty.1
    (Option.map_eq_none_iff.1 (hearlier earlier hlt other hother))

/-- **There is a header exactly when the names are compatible.**  Otherwise the first faulty kind
is reported, with its position: as taken where a name collides with another, before or after it in
the catalog, and else for what makes its enumerator no identifier. -/
theorem header_exact (u : UsableSchema) (c : Catalog) (budget : SlotBudget) :
    ((∃ h, u.header c budget = .ok h) ↔ u.Compatible c) ∧
    (¬u.Compatible c →
      ∃ position kind defect, c.kinds[position]? = some kind ∧ u.IsFaulty c kind ∧
        (∀ earlier < position, ∀ other, c.kinds[earlier]? = some other → ¬u.IsFaulty c other) ∧
        (u.Collides c kind → defect = .taken) ∧
        (¬u.Collides c kind → check (u.schema.enumerator kind) = .error defect) ∧
        u.header c budget = .error (.unusableKind kind position defect)) := by
  constructor
  · rw [← accepts_iff_compatible]
    constructor
    · rintro ⟨h, hh⟩
      exact (header_eq_ok_iff.1 hh).1
    · exact fun h => ⟨_, header_of_accepts h⟩
  · rw [← accepts_iff_compatible, ← kindError?_eq_none_iff]
    intro hrefused
    obtain ⟨error, herror⟩ := Option.ne_none_iff_exists'.1 hrefused
    obtain ⟨position, kind, defect, hkind, hdefect, hearlier, rfl⟩ := exists_of_kindError? herror
    -- what is refused first is faulty, and nothing before it is
    have hfaulty : u.IsFaulty c kind := by
      by_contra hsound
      rw [kindDefect?_eq_none_iff_not_isFaulty.2 hsound] at hdefect
      cases hdefect
    have hcause := kindDefect?_eq_some_iff.1 hdefect
    refine ⟨position, kind, defect, hkind, hfaulty, hearlier, ?_, ?_, ?_⟩
    · exact fun hcollides => hcause.elim And.right fun h => absurd hcollides h.1
    · exact fun hfree => hcause.elim (fun h => absurd h.1 hfree) And.right
    · rw [header, herror]

/-- A kind is refused for an enumerator that comes only later, before the unusable enumerator that
stands between them. -/
theorem header_of_late_collision :
    ∃ c : Catalog, c.kinds = ["A", "Error_B", "_c", "B"] ∧ ¬standard.Compatible c ∧
      standard.header c .standard = .error (.unusableKind "Error_B" 1 .taken) := by
  let c : Catalog := ⟨["A", "Error_B", "_c", "B"], by decide +kernel, by decide +kernel⟩
  have hcompatible : ¬standard.Compatible c := by
    intro h
    exact absurd h.distinct (by decide +kernel)
  have hfirst : ¬standard.IsFaulty c "A" := by decide +kernel
  have hsecond : standard.Collides c "Error_B" := by decide +kernel
  refine ⟨c, rfl, hcompatible, ?_⟩
  obtain ⟨position, kind, defect, hkind, hfaulty, hearlier, htaken, -, herror⟩ :=
    (header_exact standard c .standard).2 hcompatible
  -- the first kind has no fault and the second has one, so that it is the second that is reported
  obtain rfl : position = 1 := by
    rcases Nat.lt_trichotomy position 1 with hlt | heq | hgt
    · obtain rfl : position = 0 := by omega
      cases hkind
      exact absurd hfaulty hfirst
    · exact heq
    · exact absurd (Or.inl hsecond) (hearlier 1 hgt "Error_B" rfl)
  cases hkind
  rw [herror, htaken hsecond]

end UsableSchema

end ErrorScaffold
