/-
Names with a prefix in front.

A prefix is tried with one letter behind it.  If that is a name, then with any name behind it the
prefix is spelled right as well, and what can still go wrong is either that the two are a keyword
together or that they are reserved where they meet.

* `isSetAside_append_iff` — two underscores can only come together at the seam;
* `check_append_exact` — the outcome for every prefix and every name.
-/
import ErrorScaffold.Proofs.Identifier.Grammar

namespace ErrorScaffold.Identifier

/-- The two are reserved where they meet: an underscore at the end of the prefix stands before
another one, or it is all of the prefix and stands before an uppercase letter. -/
def MeetReserved (front name : String) : Prop :=
  (front.toList.getLast? = some '_' ∧ name.toList.head? = some '_') ∨
    (front = "_" ∧ ∃ c ∈ name.toList.head?, Upper c)

/-! ### The seam -/

/-- Two neighbours in a list of two parts are neighbours in one part, or the last of the one and
the first of the other. -/
theorem pair_infix_append_iff {α : Type} {a b : α} {front back : List α} :
    [a, b] <:+: front ++ back ↔
      [a, b] <:+: front ∨ [a, b] <:+: back ∨ (front.getLast? = some a ∧ back.head? = some b) := by
  rw [List.infix_append_iff]
  constructor
  · rintro (h | h | ⟨left, right, hsplit, hleft, hright⟩)
    · exact .inl h
    · exact .inr (.inl h)
    · -- the pair is cut before, between or behind its two members
      obtain _ | ⟨c, _ | ⟨d, left⟩⟩ := left
      · rw [List.nil_append] at hsplit
        exact .inr (.inl (hsplit ▸ hright.isInfix))
      · cases hsplit
        obtain ⟨before, rfl⟩ := hleft
        obtain ⟨after, rfl⟩ := hright
        exact .inr (.inr ⟨List.getLast?_concat, rfl⟩)
      · obtain ⟨rfl, rfl, hnil⟩ : a = c ∧ b = d ∧ [] = left ++ right := by simpa using hsplit
        rw [(List.append_eq_nil_iff.1 hnil.symm).1] at hleft
        exact .inl hleft.isInfix
  · -- the last of the front and the first of the back are next to each other
    rintro (h | h | ⟨hlast, hhead⟩)
    · exact .inl h
    · exact .inr (.inl h)
    · obtain ⟨before, rfl⟩ := List.getLast?_eq_some_iff.1 hlast
      obtain ⟨after, rfl⟩ := List.head?_eq_some_iff.1 hhead
      exact .inr (.inr ⟨[a], [b], rfl, ⟨before, rfl⟩, ⟨after, rfl⟩⟩)

/-- The letter that a prefix is tried with tells of everything but the seam. -/
theorem isSetAside_append_iff {front name : List Char} (hfront : ¬IsSetAside (front ++ ['x']))
    (hname : ¬IsSetAside name) :
    IsSetAside (front ++ name) ↔
      (front.getLast? = some '_' ∧ name.head? = some '_') ∨
        (front = ['_'] ∧ ∃ c ∈ name.head?, Upper c) := by
  rw [IsSetAside, not_or] at hfront hname
  -- the prefix has no pair of its own, for it had none when it was tried
  have hpair : ¬['_', '_'] <:+: front := fun h =>
    hfront.1 (h.trans (List.prefix_append front ['x']).isInfix)
  rw [IsSetAside, pair_infix_append_iff, or_iff_right hpair, or_iff_right hname.1]
  refine or_congr_right ⟨?_, ?_⟩
  · rintro ⟨c, rest, htext, hupper⟩
    obtain _ | ⟨d, _ | ⟨e, front⟩⟩ := front
    · -- without a prefix the name itself starts so
      exact absurd ⟨c, rest, htext, hupper⟩ hname.2
    · obtain ⟨rfl, rfl⟩ := List.cons.inj htext
      exact ⟨rfl, c, rfl, hupper⟩
    · -- both characters are in the prefix, where they were when it was tried
      cases htext
      exact absurd ⟨c, front ++ ['x'], rfl, hupper⟩ hfront.2
  · rintro ⟨rfl, c, hc, hupper⟩
    obtain ⟨rest, rfl⟩ := List.head?_eq_some_iff.1 hc
    exact ⟨c, rest, rfl, hupper⟩

theorem IsSpelled.append {front name : List Char} (hfront : IsSpelled (front ++ ['x']))
    (hname : IsSpelled name) : IsSpelled (front ++ name) := by
  cases front with
  | nil => exact hname
  | cons c front =>
    obtain ⟨first, rest, htext, hfirst, hrest⟩ := hfront
    obtain ⟨first', rest', rfl, hfirst', hrest'⟩ := hname
    rw [List.cons_append] at htext
    obtain ⟨rfl, rfl⟩ := List.cons.inj htext
    rw [List.forall_mem_append] at hrest
    refine ⟨c, front ++ first' :: rest', rfl, hfirst, List.forall_mem_append.2 ⟨hrest.1, ?_⟩⟩
    exact List.forall_mem_cons.2 ⟨.inl hfirst', hrest'⟩

/-! ### The outcomes -/

theorem not_isSetAside_of_keyword {name : String} (h : name ∈ keywords) :
    ¬IsSetAside name.toList := by
  have hkeywords : ∀ keyword ∈ keywords, isReserved keyword.toList = false := by
    decide +kernel
  rw [← isReserved_iff, hkeywords name h]
  exact Bool.false_ne_true

theorem check_of_isSpelled {name : String} (h : IsSpelled name.toList) :
    check name
      = if name ∈ keywords then .error .keyword
        else if isReserved name.toList then .error .reserved else .ok () := by
  rw [check, defect?_of_isSpelled h]
  by_cases hkeyword : name ∈ keywords
  · rw [if_pos hkeyword, if_pos hkeyword]
  · rw [if_neg hkeyword, if_neg hkeyword]
    cases isReserved name.toList <;> rfl

/-- **What a prefix and a name can be together.**  Where the prefix makes a name with one letter
behind it, it makes one with every name, unless the two together are a keyword or are reserved
where they meet. -/
theorem check_append_exact {front name : String} (hfront : check (front ++ "x") = .ok ())
    (hname : check name = .ok ()) :
    check (front ++ name) ≠ .error .empty ∧ check (front ++ name) ≠ .error .illegalStart ∧
      (∀ c, check (front ++ name) ≠ .error (.illegalCharacter c)) ∧
      (check (front ++ name) = .error .keyword ↔ front ++ name ∈ keywords) ∧
      (check (front ++ name) = .error .reserved ↔ MeetReserved front name) ∧
      (check (front ++ name) = .ok () ↔
        front ++ name ∉ keywords ∧ ¬MeetReserved front name) := by
  rw [check_eq_ok_iff_isUsable] at hfront hname
  have htried : (front ++ "x").toList = front.toList ++ ['x'] := String.toList_append
  -- what is spelled right on both sides is spelled right together
  have hspelled : IsSpelled (front ++ name).toList := by
    have h := hfront.spelled
    rw [htried] at h
    rw [String.toList_append]
    exact h.append hname.spelled
  have hreserved : isReserved (front ++ name).toList = true ↔ MeetReserved front name := by
    have h := hfront.not_setAside
    rw [htried] at h
    have hunderscore : front = "_" ↔ front.toList = ['_'] := String.toList_inj.symm
    rw [isReserved_iff, String.toList_append, isSetAside_append_iff h hname.not_setAside,
      MeetReserved, hunderscore]
  have hkeyword : front ++ name ∈ keywords → ¬MeetReserved front name := fun h hmeet =>
    not_isSetAside_of_keyword h (isReserved_iff.1 (hreserved.2 hmeet))
  -- the outcomes in the order in which they are looked for
  by_cases hk : front ++ name ∈ keywords
  · have hcheck : check (front ++ name) = .error .keyword := by
      rw [check_of_isSpelled hspelled, if_pos hk]
    simp [hcheck, hk, hkeyword hk]
  · by_cases hmeet : MeetReserved front name
    · have hcheck : check (front ++ name) = .error .reserved := by
        rw [check_of_isSpelled hspelled, if_neg hk, if_pos (hreserved.2 hmeet)]
      simp [hcheck, hk, hmeet]
    · have hcheck : check (front ++ name) = .ok () := by
        rw [check_of_isSpelled hspelled, if_neg hk, if_neg (mt hreserved.1 hmeet)]
      simp [hcheck, hk, hmeet]

/-- The three ways in which two texts that pass go wrong together: a keyword, two underscores, and
an underscore that is the whole prefix. -/
theorem check_append_of_bad_seams :
    (check ("co_" ++ "x") = .ok () ∧ check "await" = .ok () ∧
      check ("co_" ++ "await") = .error .keyword) ∧
    (check ("Error_" ++ "x") = .ok () ∧ check "_note" = .ok () ∧
      check ("Error_" ++ "_note") = .error .reserved) ∧
    (check ("_" ++ "x") = .ok () ∧ check "Note" = .ok () ∧
      check ("_" ++ "Note") = .error .reserved) := by
  have hco : check ("co_" ++ "x") = .ok () := rfl
  have herror : check ("Error_" ++ "x") = .ok () := rfl
  have hunderscore : check ("_" ++ "x") = .ok () := rfl
  have hawait : check "await" = .ok () := rfl
  have hlower : check "_note" = .ok () := rfl
  have hupper : check "Note" = .ok () := rfl
  obtain ⟨-, -, -, hkeyword, -, -⟩ := check_append_exact hco hawait
  obtain ⟨-, -, -, -, hdouble, -⟩ := check_append_exact herror hlower
  obtain ⟨-, -, -, -, hwhole, -⟩ := check_append_exact hunderscore hupper
  exact ⟨⟨hco, hawait, hkeyword.2 (by decide +kernel)⟩,
    ⟨herror, hlower, hdouble.2 (.inl ⟨rfl, rfl⟩)⟩,
    ⟨hunderscore, hupper, hwhole.2 (.inr ⟨rfl, 'N', rfl, by decide, by decide⟩)⟩⟩

end ErrorScaffold.Identifier
