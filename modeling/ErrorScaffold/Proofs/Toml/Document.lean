/-
The keys of a document are distinct.

A scan that gives values is put together from smaller ones, and what holds of all their results
carries over: a rule for each way to combine scans.  Every table that is scanned is a draft that was
finished, and so is the root table.

* `Scan.Gives` — a property of every result of a scan;
* `Scan.gives_value` — whatever value is scanned, its tables have no key twice;
* `wellKeyed_of_parse?` — nor has a document.
-/
import ErrorScaffold.Proofs.Toml.Draft
import ErrorScaffold.Toml.Document

namespace ErrorScaffold.Toml

namespace Scan

/-! ### Results of scans -/

/-- Every result of the scan, on whatever text, has the property. -/
def Gives {α : Type} (p : Scan α) (P : α → Prop) : Prop :=
  ∀ ⦃text a rest⦄, p.run text = some (a, rest) → P a

namespace Gives

variable {α β : Type} {p q : Scan α} {P : α → Prop} {Q : β → Prop}

theorem trivial (p : Scan α) : p.Gives fun _ => True :=
  fun _ _ _ _ => True.intro

theorem pure {a : α} (h : P a) : (Pure.pure a : Scan α).Gives P := by
  intro text b rest hrun
  cases hrun
  exact h

theorem failure : (Alternative.failure : Scan α).Gives P := by
  intro text a rest hrun
  cases hrun

theorem bind {f : α → Scan β} (hp : p.Gives P) (hf : ∀ a, P a → (f a).Gives Q) :
    (p >>= f).Gives Q := by
  intro text b rest hrun
  obtain ⟨⟨a, middle⟩, hfirst, hsecond⟩ := Option.bind_eq_some_iff.1 hrun
  exact hf a (hp hfirst) hsecond

theorem map {f : α → β} (hp : p.Gives P) (hf : ∀ a, P a → Q (f a)) : (f <$> p).Gives Q :=
  bind hp fun a ha => pure (hf a ha)

theorem orElse (hp : p.Gives P) (hq : q.Gives P) : (p <|> q).Gives P := by
  intro text a rest hrun
  have hrun' : (p.run text <|> q.run text) = some (a, rest) := hrun
  cases hfirst : p.run text with
  | none =>
    rw [hfirst] at hrun'
    exact hq hrun'
  | some found =>
    rw [hfirst] at hrun'
    cases hrun'
    exact hp hfirst

theorem seqLeft {other : Scan β} (hp : p.Gives P) : (p <* other).Gives P := by
  show (p >>= fun a => other >>= fun _ => Pure.pure a).Gives P
  exact hp.bind fun a ha => (trivial other).bind fun _ _ => pure ha

theorem seqRight {other : Scan β} (hp : p.Gives P) : (other *> p).Gives P := by
  show (other >>= fun _ => p).Gives P
  exact (trivial other).bind fun _ _ => hp

/-- Items that may be missing altogether. -/
theorem optionalItems {items : Scan (List α)} (h : items.Gives fun found => ∀ a ∈ found, P a) :
    (optional items).Gives fun found => ∀ a ∈ found.getD [], P a :=
  orElse (map h fun _ hfound => hfound) (pure nofun)

/-- Every round of a repetition gives one of its results. -/
theorem forall_mem_manyFrom (hp : p.Gives P) (text : List Char) :
    ∀ a ∈ (manyFrom p text).1, P a := by
  fun_induction manyFrom p text with
  | case1 text hrun => exact nofun
  | case2 text a rest hrun hlt more ih =>
    exact List.forall_mem_cons.2 ⟨hp hrun, ih⟩
  | case3 text a rest hrun hlt =>
    exact List.forall_mem_cons.2 ⟨hp hrun, nofun⟩

theorem many (hp : p.Gives P) : (Scan.many p).Gives fun found => ∀ a ∈ found, P a := by
  intro text found rest hrun
  cases hrun
  exact forall_mem_manyFrom hp text

theorem separatedBy1 {separator : Scan Unit} (hp : p.Gives P) :
    (Scan.separatedBy1 p separator).Gives fun found => ∀ a ∈ found, P a :=
  hp.bind fun _ hfirst => (many hp.seqRight).bind fun _ hothers =>
    pure (List.forall_mem_cons.2 ⟨hfirst, hothers⟩)

end Gives

/-! ### Values -/

theorem gives_fitting (n : Int) : (fitting n).Gives Value.WellKeyed := by
  unfold fitting
  split
  · exact .pure (.integer n)
  · exact .failure

theorem gives_basedInteger (mark : Char) (base : Nat) (isDigit : Char → Bool) :
    (basedInteger mark base isDigit).Gives Value.WellKeyed :=
  (Gives.trivial _).bind fun _ _ => (Gives.trivial _).bind fun _ _ => gives_fitting _

theorem gives_specialFloat (negative : Bool) : (specialFloat negative).Gives Value.WellKeyed :=
  (Gives.pure (.float _)).seqRight.orElse (Gives.pure (.float _)).seqRight

theorem gives_finiteFloat (negative : Bool) (whole fraction : List Char) (power : Int) :
    (finiteFloat negative whole fraction power).Gives Value.WellKeyed := by
  unfold finiteFloat
  split
  · exact .failure
  · exact .pure (.float _)

theorem gives_decimal (negative : Bool) : (decimal negative).Gives Value.WellKeyed := by
  refine (Gives.trivial _).bind fun whole _ => (Gives.trivial _).bind fun places _ =>
    (Gives.trivial _).bind fun power _ => ?_
  split
  · exact gives_fitting _
  · exact gives_finiteFloat _ _ _ _

theorem gives_number : number.Gives Value.WellKeyed := by
  refine (Gives.trivial sign?).bind fun negative? _ => ?_
  cases negative? with
  | some negative => exact (gives_specialFloat negative).orElse (gives_decimal negative)
  | none =>
    exact (gives_basedInteger _ _ _).orElse <| (gives_basedInteger _ _ _).orElse <|
      (gives_basedInteger _ _ _).orElse <| (gives_specialFloat false).orElse (gives_decimal false)

theorem gives_scalar : scalar.Gives Value.WellKeyed := by
  refine (Gives.trivial opensDateTime).bind fun opens _ => ?_
  split
  · exact (Gives.trivial _).bind fun text _ => .pure (.dateTime _)
  · exact ((Gives.trivial string).map fun text _ => .string text).orElse <|
      (Gives.pure (.boolean true)).seqRight.orElse <|
        (Gives.pure (.boolean false)).seqRight.orElse gives_number

variable {element : Scan Value}

theorem gives_arrayOf (h : element.Gives Value.WellKeyed) :
    (arrayOf element).Gives Value.WellKeyed := by
  refine (Gives.trivial _).bind fun _ _ => (Gives.trivial _).bind fun _ _ =>
    (Gives.optionalItems (Gives.separatedBy1 h.seqLeft)).bind fun elements helements => ?_
  have hclose : (char ']' >>= fun _ => pure (Value.array (elements.getD []))).Gives
      Value.WellKeyed :=
    (Gives.trivial _).bind fun _ _ => .pure (.array helements)
  dsimp only
  split
  · exact (Gives.trivial _).bind fun _ _ => hclose
  · exact hclose

theorem gives_pairOf (h : element.Gives Value.WellKeyed) :
    (pairOf element).Gives fun pair => pair.2.WellKeyed :=
  (Gives.trivial _).bind fun _ _ => (Gives.trivial _).bind fun _ _ =>
    (Gives.trivial _).bind fun _ _ => h.bind fun _ hv => .pure hv

theorem gives_tableOf (h : element.Gives Value.WellKeyed) :
    (tableOf element).Gives Value.WellKeyed := by
  refine (Gives.trivial _).bind fun _ _ =>
    (Gives.optionalItems (Gives.separatedBy1 (gives_pairOf h).seqLeft)).bind fun pairs hpairs =>
      (Gives.trivial _).bind fun _ _ => (Gives.trivial _).bind fun _ _ => ?_
  split
  · next entries hentries =>
    have htable := (Draft.wellKeyed_insertAll? .nil hpairs hentries).toTable
    exact .pure (.table htable.distinct htable.values)
  · exact .failure

theorem gives_value (depth : Nat) : (value depth).Gives Value.WellKeyed := by
  induction depth with
  | zero => exact gives_scalar
  | succ depth ih =>
    exact gives_scalar.orElse ((gives_arrayOf ih).orElse (gives_tableOf ih))

end Scan

/-! ### Documents -/

/-- The values of the statement have no key twice. -/
def Statement.WellKeyed : Statement → Prop
  | .pair p => p.2.WellKeyed
  | .tableHeader _ => True
  | .elementHeader _ => True

namespace Scan

theorem gives_statement : statement.Gives Statement.WellKeyed := by
  refine Gives.orElse ?_ (Gives.orElse ?_ ?_)
  · exact (Gives.trivial _).bind fun _ _ => (Gives.trivial _).bind fun _ _ =>
      (Gives.trivial _).bind fun _ _ => .pure True.intro
  · exact (Gives.trivial _).bind fun _ _ => (Gives.trivial _).bind fun _ _ =>
      (Gives.trivial _).bind fun _ _ => .pure True.intro
  · exact (gives_pairOf (gives_value depthLimit)).map fun _ hp => hp

theorem gives_line : line.Gives fun found => ∀ s ∈ found, s.WellKeyed := by
  refine (Gives.trivial _).bind fun _ _ => ?_
  refine Gives.orElse ?_ (Gives.orElse ?_ ?_)
  · exact (Gives.pure nofun).seqRight
  · exact (Gives.pure nofun).seqRight
  · refine gives_statement.bind fun s hs => (Gives.trivial _).bind fun _ _ =>
      (Gives.trivial _).bind fun _ _ => (Gives.trivial _).bind fun _ _ => .pure ?_
    intro found hfound
    cases hfound
    exact hs

theorem gives_document : document.Gives fun statements => ∀ s ∈ statements, s.WellKeyed := by
  refine (Gives.trivial _).bind fun _ _ => (Gives.many gives_line).bind fun lines hlines =>
    (Gives.trivial _).bind fun _ _ => (Gives.trivial _).bind fun _ _ => .pure ?_
  intro s hs
  obtain ⟨found, hfound, heq⟩ := List.mem_filterMap.1 hs
  exact hlines found hfound s heq

end Scan

/-- Sections hold the pairs of the statements. -/
theorem wellKeyed_sections {statements : List Statement} (h : ∀ s ∈ statements, s.WellKeyed) :
    (∀ pair ∈ (Statement.sections statements).1, pair.2.WellKeyed) ∧
      ∀ s ∈ (Statement.sections statements).2, ∀ pair ∈ s.pairs, pair.2.WellKeyed := by
  induction statements with
  | nil => exact ⟨nofun, nofun⟩
  | cons s statements ih =>
    obtain ⟨hs, hrest⟩ := List.forall_mem_cons.1 h
    obtain ⟨hpairs, hsections⟩ := ih hrest
    cases s with
    | pair p => exact ⟨List.forall_mem_cons.2 ⟨hs, hpairs⟩, hsections⟩
    | tableHeader path => exact ⟨nofun, List.forall_mem_cons.2 ⟨hpairs, hsections⟩⟩
    | elementHeader path => exact ⟨nofun, List.forall_mem_cons.2 ⟨hpairs, hsections⟩⟩

theorem wellKeyed_addTo? {root result : Draft.Entries} {s : Section} (hroot : root.WellKeyed)
    (hpairs : ∀ pair ∈ s.pairs, pair.2.WellKeyed) (h : s.addTo? root = some result) :
    result.WellKeyed := by
  unfold Section.addTo? at h
  split at h
  · exact Draft.wellKeyed_openElement? hroot hpairs h
  · exact Draft.wellKeyed_openTable? hroot hpairs h

/-- **No key of a document stands twice**, neither in its root table nor in a table within it. -/
theorem wellKeyed_of_parse? {text : String} {document : Table} (h : parse? text = some document) :
    document.WellKeyed := by
  obtain ⟨⟨statements, rest⟩, hscan, h⟩ := Option.bind_eq_some_iff.1 h
  obtain ⟨hpairs, hsections⟩ := wellKeyed_sections (Scan.gives_document hscan)
  obtain ⟨start, hstart, h⟩ := Option.bind_eq_some_iff.1 h
  obtain ⟨root, hroot, heq⟩ := Option.bind_eq_some_iff.1 h
  cases heq
  refine Draft.Entries.WellKeyed.toTable ?_
  refine Draft.foldlM_invariant (fun state s hs next hstate hnext => ?_)
    (Draft.wellKeyed_insertAll? .nil hpairs hstart) hroot
  exact wellKeyed_addTo? hstate (hsections s hs) hnext

end ErrorScaffold.Toml
