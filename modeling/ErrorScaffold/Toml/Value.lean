/-
Values of a TOML document.

A table is the list of its entries in the order in which they were written, each key once.
-/
import ErrorScaffold.Decimal.Binary64

namespace ErrorScaffold.Toml

/-- A value of a document. -/
inductive Value
  | string (text : String)
  | integer (value : Int)
  | float (value : Decimal.Binary64)
  | boolean (value : Bool)
  /-- A date, a time or both, as it was written. -/
  | dateTime (text : String)
  | array (elements : List Value)
  | table (entries : List (String × Value))

namespace Value

mutual

/-- Values are compared part by part. -/
def decEq (v w : Value) : Decidable (v = w) :=
  if h : v.ctorIdx = w.ctorIdx then
    match v, w, h with
    | .string s, .string t, _ => decidable_of_iff (s = t) ⟨congrArg string, string.inj⟩
    | .integer m, .integer n, _ => decidable_of_iff (m = n) ⟨congrArg integer, integer.inj⟩
    | .float x, .float y, _ => decidable_of_iff (x = y) ⟨congrArg float, float.inj⟩
    | .boolean a, .boolean b, _ => decidable_of_iff (a = b) ⟨congrArg boolean, boolean.inj⟩
    | .dateTime s, .dateTime t, _ => decidable_of_iff (s = t) ⟨congrArg dateTime, dateTime.inj⟩
    | .array vs, .array ws, _ =>
      have := decEqElements vs ws
      decidable_of_iff (vs = ws) ⟨congrArg array, array.inj⟩
    | .table vs, .table ws, _ =>
      have := decEqEntries vs ws
      decidable_of_iff (vs = ws) ⟨congrArg table, table.inj⟩
  else isFalse fun heq => h (congrArg Value.ctorIdx heq)

/-- Elements of arrays are compared in order. -/
def decEqElements : (vs ws : List Value) → Decidable (vs = ws)
  | [], [] => isTrue rfl
  | [], _ :: _ => isFalse nofun
  | _ :: _, [] => isFalse nofun
  | v :: vs, w :: ws =>
    have := decEq v w
    have := decEqElements vs ws
    decidable_of_iff (v = w ∧ vs = ws) List.cons_eq_cons.symm

/-- So are the entries of tables, with their keys. -/
def decEqEntries : (vs ws : List (String × Value)) → Decidable (vs = ws)
  | [], [] => isTrue rfl
  | [], _ :: _ => isFalse nofun
  | _ :: _, [] => isFalse nofun
  | (key, v) :: vs, (key', w) :: ws =>
    have := decEq v w
    have := decEqEntries vs ws
    decidable_of_iff ((key = key' ∧ v = w) ∧ vs = ws) (by simp)

end

instance : DecidableEq Value := decEq

end Value

/-- The entries of a document's root table. -/
abbrev Table := List (String × Value)

end ErrorScaffold.Toml
