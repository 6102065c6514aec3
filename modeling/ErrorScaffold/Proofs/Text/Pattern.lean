/-
Patterns, tried one way after the other.

A pattern is a list of items.  Each item offers the ways to go on from a place, in the order in
which it prefers them, and the first way counts for which the rest of the pattern finds one too.  A
search takes the leftmost place at which the pattern matches, and goes on behind the match.

* `Pattern.captures` — what the groups of the successive matches hold;
* `first?_run_literal` — a run that cannot go over the character after it has one way only;
* `first?_group_literal` — a group before a literal ends where the literal first stands.
-/
import ErrorScaffold.Proofs.Text.Search
import ErrorScaffold.Text.WordChar

namespace ErrorScaffold.Text

/-- A place in a text: the character before it, if there is one, and the text from there on. -/
structure Place where
  before : Option Char
  rest : List Char

/-- One item of a pattern. -/
inductive Item
  | literal (text : List Char)
  /-- A word character stands on one side of the place and none on the other. -/
  | boundary
  /-- Characters that are allowed, as many as possible. -/
  | run (allowed : Char → Bool)
  /-- Characters that are allowed, as few as possible, which are captured. -/
  | group (allowed : Char → Bool)

abbrev Pattern := List Item

/-- Whether there is a word character. -/
def isWord : Option Char → Bool
  | some c => isWordChar c
  | none => false

/-- The places after allowed characters, the nearest first, each with what lies before it. -/
def reach (allowed : Char → Bool) (before : Option Char) : List Char → List (List Char × Place)
  | [] => [([], ⟨before, []⟩)]
  | c :: rest =>
    ([], ⟨before, c :: rest⟩) ::
      if allowed c then
        (reach allowed (some c) rest).map fun (passed, place) => (c :: passed, place)
      else []

/-- The ways of an item, each with what is captured on it. -/
def Item.ways (place : Place) : Item → List (List Char × Place)
  | literal text =>
    match text.isPrefixOf? place.rest with
    | some after => [([], ⟨text.getLast?.or place.before, after⟩)]
    | none => []
  | boundary => if isWord place.before != isWord place.rest.head? then [([], place)] else []
  | run allowed =>
    (reach allowed place.before place.rest).reverse.map fun (_, next) => ([], next)
  | group allowed => reach allowed place.before place.rest

namespace Pattern

/-- The first match at a place: what is captured, and the place after it. -/
def first? : Pattern → Place → Option (List Char × Place)
  | [], place => some ([], place)
  | item :: items, place =>
    (item.ways place).findSome? fun (captured, next) =>
      (first? items next).map fun (more, last) => (captured ++ more, last)

/-- The leftmost match. -/
def search? (p : Pattern) (before : Option Char) : List Char → Option (List Char × Place)
  | [] => first? p ⟨before, []⟩
  | c :: rest => (first? p ⟨before, c :: rest⟩).or (search? p (some c) rest)

/-- What is captured by the matches of a text, one behind the other.  A match that takes up no
character is the last one. -/
def captures (p : Pattern) (before : Option Char) (text : List Char) : List (List Char) :=
  match search? p before text with
  | none => []
  | some (captured, after) =>
    captured ::
      if after.rest.length < text.length then captures p after.before after.rest else []
termination_by text.length

/-! ### Items in front of a pattern -/

variable {items : Pattern} {before : Option Char} {text : List Char}

@[simp] theorem first?_literal_cons (needle : List Char) :
    first? (.literal needle :: items) ⟨before, text⟩
      = (needle.isPrefixOf? text).bind fun after =>
          first? items ⟨needle.getLast?.or before, after⟩ := by
  rw [first?, Item.ways]
  cases needle.isPrefixOf? text with
  | none => rfl
  | some after => simp

@[simp] theorem first?_boundary_cons :
    first? (.boundary :: items) ⟨before, text⟩
      = if isWord before != isWord text.head? then first? items ⟨before, text⟩ else none := by
  rw [first?, Item.ways]
  split <;> simp

/-! ### Runs and groups, character by character -/

theorem first?_run_eq (allowed : Char → Bool) :
    first? (.run allowed :: items) ⟨before, text⟩
      = (reach allowed before text).reverse.findSome? fun (_, next) => first? items next := by
  rw [first?, Item.ways, List.findSome?_map]
  congr 1
  funext way
  simp

/-- A run rather goes on than stops. -/
theorem first?_run_cons {allowed : Char → Bool} {c : Char} (h : allowed c = true) :
    first? (.run allowed :: items) ⟨before, c :: text⟩
      = (first? (.run allowed :: items) ⟨some c, text⟩).or
          (first? items ⟨before, c :: text⟩) := by
  rw [first?_run_eq, first?_run_eq, reach, if_pos h, List.reverse_cons, List.findSome?_append,
    ← List.map_reverse, List.findSome?_map]
  simp [Function.comp_def]

theorem first?_run_stop {allowed : Char → Bool} (h : ∀ c ∈ text.head?, allowed c = false) :
    first? (.run allowed :: items) ⟨before, text⟩ = first? items ⟨before, text⟩ := by
  cases text with
  | nil => simp [first?_run_eq, reach]
  | cons c text => simp [first?_run_eq, reach, h c rfl]

/-- A group rather stops than goes on. -/
theorem first?_group_cons {allowed : Char → Bool} {c : Char} (h : allowed c = true) :
    first? (.group allowed :: items) ⟨before, c :: text⟩
      = (first? items ⟨before, c :: text⟩).or
          ((first? (.group allowed :: items) ⟨some c, text⟩).map fun (captured, last) =>
            (c :: captured, last)) := by
  rw [first?, first?, Item.ways, Item.ways, reach, if_pos h, List.findSome?_cons,
    List.findSome?_map, List.map_findSome?]
  simp only [Function.comp_def, List.nil_append, List.cons_append, Option.map_map]
  cases first? items ⟨before, c :: text⟩ <;> simp

theorem first?_group_stop {allowed : Char → Bool} (h : ∀ c ∈ text.head?, allowed c = false) :
    first? (.group allowed :: items) ⟨before, text⟩ = first? items ⟨before, text⟩ := by
  cases text with
  | nil => simp [first?, Item.ways, reach]
  | cons c text => simp [first?, Item.ways, reach, h c rfl]

/-! ### Up to a literal -/

/-- A run up to a character that it does not go over: it ends where this character first stands. -/
theorem first?_run_literal (d : Char) :
    first? (.run (fun c => c != d) :: .literal [d] :: items) ⟨before, text⟩
      = (splitAtFirst? [d] text).bind fun (_, after) => first? items ⟨some d, after⟩ := by
  induction text generalizing before with
  | nil =>
    rw [first?_run_stop (by simp), first?_literal_cons]
    rfl
  | cons c text ih =>
    rw [splitAtFirst?]
    by_cases hc : d = c
    · subst hc
      -- the run stops at the character, and the literal takes it
      have hhere : [d].isPrefixOf? (d :: text) = some text := isPrefixOf?_append [d] text
      rw [first?_run_stop (by simp), first?_literal_cons, hhere]
      rfl
    · -- the literal cannot stand here, so the run goes on
      have hstop : [d].isPrefixOf? (c :: text) = none := isPrefixOf?_cons_of_ne hc _ _
      rw [first?_run_cons (by simpa using Ne.symm hc), ih, first?_literal_cons, hstop,
        Option.bind_none, Option.or_none]
      cases splitAtFirst? [d] text <;> rfl

/-- A group of any characters ends where the literal after it first stands. -/
theorem first?_group_literal (needle : List Char) :
    (first? [.group fun _ => true, .literal needle] ⟨before, text⟩).map
        (fun (captured, last) => (captured, last.rest))
      = splitAtFirst? needle text := by
  induction text generalizing before with
  | nil =>
    rw [first?_group_stop (by simp), first?_literal_cons]
    cases needle <;> rfl
  | cons c text ih =>
    rw [first?_group_cons rfl, first?_literal_cons, splitAtFirst?, ← @ih (some c)]
    cases needle.isPrefixOf? (c :: text) with
    | some after => rfl
    | none =>
      rw [Option.bind_none, Option.none_or]
      simp only [Option.map_map]
      rfl

end Pattern

end ErrorScaffold.Text
