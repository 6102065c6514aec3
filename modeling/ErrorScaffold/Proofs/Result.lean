/-
Steps that can fail.

A chain of steps ends with its first failure.  Where a step fails because of its item alone,
whatever has come before, so does a fold or a map over items: it fails with the fault of the first
item that has one.

* `exists_of_bind_eq_ok`, `exists_of_foldlM_eq_error` — what went well before a result;
* `FirstFault` — the fault of the first item that has one;
* `findSome?_eq_some_iff`, `foldlM_eq_error_iff`, `mapM_eq_error_iff` — this is the fault that a
  search finds, and that of a fold and of a map.
-/

namespace ErrorScaffold

variable {ε ε' α β : Type}

/-! ### One step after the other -/

theorem exists_of_bind_eq_ok {result : Except ε α} {next : α → Except ε β} {b : β}
    (h : result >>= next = .ok b) : ∃ a, result = .ok a ∧ next a = .ok b := by
  cases result with
  | error e => cases h
  | ok a => exact ⟨a, rfl, h⟩

theorem forall_ne_error_iff {result : Except ε α} :
    (∀ e, result ≠ .error e) ↔ ∃ a, result = .ok a := by
  cases result with
  | error e => exact ⟨fun h => absurd rfl (h e), fun ⟨_, h⟩ => nomatch h⟩
  | ok a => exact ⟨fun _ => ⟨a, rfl⟩, fun _ => nofun⟩

/-- Where two chains fail alike, neither succeeds without the other. -/
theorem exists_ok_congr {result : Except ε α} {result' : Except ε β}
    (h : ∀ e, result = .error e ↔ result' = .error e) :
    (∃ a, result = .ok a) ↔ ∃ b, result' = .ok b := by
  rw [← forall_ne_error_iff, ← forall_ne_error_iff]
  exact forall_congr' fun e => not_congr (h e)

/-- What is made of a result fails only with the result. -/
theorem bind_pure_eq_error_iff {result : Except ε α} {g : α → β} {e : ε} :
    (result >>= fun a => pure (g a)) = .error e ↔ result = .error e := by
  cases result with
  | error e' =>
    show Except.error e' = Except.error e ↔ _
    rw [Except.error.injEq, Except.error.injEq]
  | ok a => exact ⟨nofun, nofun⟩

theorem bind_pure_eq_ok_iff {result : Except ε α} {g : α → β} {b : β} :
    (result >>= fun a => pure (g a)) = .ok b ↔ ∃ a, result = .ok a ∧ b = g a := by
  cases result with
  | error e => exact ⟨nofun, fun ⟨_, h, _⟩ => nomatch h⟩
  | ok a =>
    constructor
    · intro h
      cases h
      exact ⟨a, rfl, rfl⟩
    · rintro ⟨_, ⟨⟩, rfl⟩
      rfl

theorem eq_ok_of_mapError_eq_ok {f : ε → ε'} {result : Except ε α} {a : α}
    (h : result.mapError f = .ok a) : result = .ok a := by
  cases result with
  | error e => cases h
  | ok b =>
    cases h
    rfl

theorem mapError_bind (f : ε → ε') (result : Except ε α) (next : α → Except ε β) :
    (result >>= next).mapError f = result.mapError f >>= fun a => (next a).mapError f := by
  cases result <;> rfl

/-- A fold that fails does so at one of its items, and goes well up to there. -/
theorem exists_of_foldlM_eq_error {f : β → α → Except ε β} {items : List α}
    {start : β} {e : ε} (h : items.foldlM f start = .error e) :
    ∃ front item back state, items = front ++ item :: back ∧
      front.foldlM f start = .ok state ∧ f state item = .error e := by
  induction items generalizing start with
  | nil => cases h
  | cons item items ih =>
    rw [List.foldlM_cons] at h
    cases hstep : f start item with
    -- the fold stops at this item, or it is part of what went well
    | error e' =>
      rw [hstep] at h
      cases h
      exact ⟨[], item, items, start, rfl, rfl, hstep⟩
    | ok next =>
      rw [hstep] at h
      obtain ⟨front, last, back, state, rfl, hfront, hlast⟩ := ih h
      refine ⟨item :: front, last, back, state, rfl, ?_, hlast⟩
      rw [List.foldlM_cons, hstep]
      exact hfront

/-- A map whose steps all go well. -/
theorem mapM_eq_ok {f : α → Except ε β} {g : α → β} {l : List α}
    (h : ∀ a ∈ l, f a = .ok (g a)) : l.mapM f = .ok (l.map g) := by
  induction l with
  | nil => rfl
  | cons a l ih =>
    rw [List.forall_mem_cons] at h
    rw [List.mapM_cons, h.1, ih h.2]
    rfl

/-- A fold over entries with distinct keys in which only the entry at one key touches a part of the
state: that entry decides on the part, and without it the part stays as it was. -/
theorem part_of_foldlM {κ γ : Type} {step : β → κ × α → Except ε β} (part : β → γ) (key : κ)
    (Sets : α → γ → Prop)
    (own : ∀ ⦃state value next⦄, step state (key, value) = .ok next → Sets value (part next))
    (other : ∀ ⦃state entry next⦄, step state entry = .ok next → entry.1 ≠ key →
      part next = part state)
    {entries : List (κ × α)} (distinct : (entries.map Prod.fst).Nodup) {start result : β}
    (h : entries.foldlM step start = .ok result) :
    (∀ value, (key, value) ∈ entries → Sets value (part result)) ∧
      ((∀ value, (key, value) ∉ entries) → part result = part start) := by
  induction entries generalizing start with
  | nil =>
    cases h
    exact ⟨nofun, fun _ => rfl⟩
  | cons entry entries ih =>
    rw [List.foldlM_cons] at h
    obtain ⟨next, hnext, hrest⟩ := exists_of_bind_eq_ok h
    obtain ⟨hfresh, hdistinct⟩ := List.nodup_cons.1 distinct
    obtain ⟨hown, hother⟩ := ih hdistinct hrest
    constructor
    · intro value hvalue
      rcases List.mem_cons.1 hvalue with rfl | hvalue
      · -- no later entry has the key
        rw [hother fun value' hvalue' => hfresh (List.mem_map.2 ⟨_, hvalue', rfl⟩)]
        exact own hnext
      · exact hown value hvalue
    · -- the first entry has another key, and none of the later ones has it
      intro hnone
      obtain ⟨entryKey, value⟩ := entry
      have hne : entryKey ≠ key := fun heq => hnone value (heq ▸ List.mem_cons_self)
      rw [hother fun value hvalue => hnone value (List.mem_cons_of_mem _ hvalue)]
      exact other hnext hne

/-! ### The first fault -/

section first

variable {Bad : α → ε → Prop} {item : α} {items : List α} {fault : ε}

/-- The first item that has a fault has this one. -/
def FirstFault (Bad : α → ε → Prop) (items : List α) (fault : ε) : Prop :=
  ∃ front item back, items = front ++ item :: back ∧ (∀ other ∈ front, ∀ f, ¬Bad other f) ∧
    Bad item fault

@[simp] theorem not_firstFault_nil : ¬FirstFault Bad [] fault := by
  rintro ⟨front, item, back, heq, -⟩
  simp at heq

@[simp] theorem firstFault_cons_iff :
    FirstFault Bad (item :: items) fault ↔
      Bad item fault ∨ (∀ f, ¬Bad item f) ∧ FirstFault Bad items fault := by
  constructor
  · rintro ⟨front, other, back, heq, hfront, hother⟩
    cases front with
    | nil =>
      cases heq
      exact Or.inl hother
    | cons first front =>
      cases heq
      obtain ⟨hfirst, hfront⟩ := List.forall_mem_cons.1 hfront
      exact Or.inr ⟨hfirst, front, other, back, rfl, hfront, hother⟩
  · rintro (hitem | ⟨hitem, front, other, back, rfl, hfront, hother⟩)
    · exact ⟨[], item, items, rfl, nofun, hitem⟩
    · exact ⟨item :: front, other, back, rfl, List.forall_mem_cons.2 ⟨hitem, hfront⟩, hother⟩

@[simp] theorem forall_not_firstFault_iff :
    (∀ fault, ¬FirstFault Bad items fault) ↔ ∀ item ∈ items, ∀ f, ¬Bad item f := by
  induction items with
  | nil => exact ⟨fun _ => nofun, fun _ _ => not_firstFault_nil⟩
  | cons item items ih =>
    rw [List.forall_mem_cons, ← ih]
    simp only [firstFault_cons_iff]
    -- the first item is free of faults before the others are looked at
    constructor
    · intro h
      have hitem : ∀ f, ¬Bad item f := fun f hf => h f (Or.inl hf)
      exact ⟨hitem, fun f hf => h f (Or.inr ⟨hitem, hf⟩)⟩
    · rintro ⟨hitem, hitems⟩ f (hf | ⟨-, hf⟩)
      · exact hitem f hf
      · exact hitems f hf

/-- A search for faults ends with that of the first item that has one. -/
theorem findSome?_eq_some_iff {f : α → Option ε}
    (hf : ∀ item fault, f item = some fault ↔ Bad item fault) :
    items.findSome? f = some fault ↔ FirstFault Bad items fault := by
  have hnone : ∀ item, f item = none ↔ ∀ fault, ¬Bad item fault := by
    intro item
    rw [Option.eq_none_iff_forall_ne_some]
    exact forall_congr' fun fault => not_congr (hf item fault)
  rw [List.findSome?_eq_some_iff, FirstFault]
  simp only [hf, hnone]
  constructor
  · rintro ⟨front, item, back, hitems, hitem, hfront⟩
    exact ⟨front, item, back, hitems, hfront, hitem⟩
  · rintro ⟨front, item, back, hitems, hfront, hitem⟩
    exact ⟨front, item, back, hitems, hitem, hfront⟩

/-- What has been read before does not decide whether a step fails, so a fold fails at the first
item that makes a step fail. -/
theorem foldlM_eq_error_iff {step : β → α → Except ε β}
    (hstep : ∀ item ∈ items, ∀ state fault, step state item = .error fault ↔ Bad item fault)
    (start : β) : items.foldlM step start = .error fault ↔ FirstFault Bad items fault := by
  induction items generalizing start with
  | nil => exact ⟨nofun, fun h => absurd h not_firstFault_nil⟩
  | cons item items ih =>
    obtain ⟨hitem, hitems⟩ := List.forall_mem_cons.1 hstep
    rw [List.foldlM_cons, firstFault_cons_iff, ← hitem start]
    cases hfirst : step start item with
    -- the fold ends here, with the fault of this item
    | error found =>
      have hfound : Bad item found := (hitem start found).1 hfirst
      constructor
      · intro h
        cases h
        exact Or.inl rfl
      · rintro (h | ⟨hnone, -⟩)
        · cases h
          rfl
        · exact absurd hfound (hnone found)
    | ok next =>
      -- the item has no fault, whatever the state, so the rest decides
      have hnone : ∀ f, ¬Bad item f := fun f hf => by
        cases hfirst.symm.trans ((hitem start f).2 hf)
      rw [← ih hitems next]
      exact ⟨fun h => Or.inr ⟨hnone, h⟩, fun h => h.elim nofun And.right⟩

/-- So does a map. -/
theorem mapM_eq_error_iff {f : α → Except ε β}
    (hf : ∀ item ∈ items, ∀ fault, f item = .error fault ↔ Bad item fault) :
    items.mapM f = .error fault ↔ FirstFault Bad items fault := by
  have hstep : ∀ item ∈ items, ∀ (found : List β) (fault : ε),
      (f item >>= fun b => pure (b :: found)) = .error fault ↔ Bad item fault :=
    fun item hitem _ fault => bind_pure_eq_error_iff.trans (hf item hitem fault)
  rw [← foldlM_eq_error_iff hstep [], List.mapM_eq_reverse_foldlM_cons, map_eq_pure_bind,
    bind_pure_eq_error_iff]
  simp only [map_eq_pure_bind]

end first

end ErrorScaffold
