/-
  SqlClauses.Column — columns, with or without the table they belong to.

  A reference names a table and a key in it. A column is what a caller wrote: a bare key,
  which belongs to whichever table the clause says, or a reference. A written key with a
  dot in it is a reference, split at the first dot.

  Main statements: `ofText_eq_bare_iff` and `ofText_eq_qualified_iff`, what a text is read
  as; `text_ofText`, a column read from a text is written as that text.
-/

import SqlClauses.Identifier

namespace SqlClauses

/-- A key of a table. -/
structure Reference where
  table : String
  key : String
  deriving DecidableEq, Repr

/-- A column as written by the caller. -/
inductive Column where
  | bare (key : String)
  | qualified (ref : Reference)
  deriving DecidableEq, Repr

namespace Reference

/-- Split at the first dot, if there is one. -/
def ofText? (s : String) : Option Reference :=
  (Text.cut? '.' s.toList).map fun p => ⟨String.ofList p.1, String.ofList p.2⟩

def text (r : Reference) : String := r.table ++ "." ++ r.key

/-- As written in SQL. -/
def quoted (r : Reference) : String := Identifier.quote r.table ++ "." ++ Identifier.quote r.key

end Reference

namespace Column

def ofText (s : String) : Column :=
  match Reference.ofText? s with
  | some r => .qualified r
  | none => .bare s

def text : Column → String
  | .bare key => key
  | .qualified r => r.text

/-- A bare column belongs to `table`; a reference keeps its own. -/
def qualify (table : String) : Column → Reference
  | .bare key => ⟨table, key⟩
  | .qualified r => r

/-- As written in SQL, a bare column without any table. -/
def quoted : Column → String
  | .bare key => Identifier.quote key
  | .qualified r => r.quoted

/-- Some part of the column is the empty text. White space is not empty. -/
def Partial : Column → Prop
  | .bare key => key = ""
  | .qualified r => r.table = "" ∨ r.key = ""

instance : (c : Column) → Decidable c.Partial
  | .bare key => inferInstanceAs (Decidable (key = ""))
  | .qualified r => inferInstanceAs (Decidable (r.table = "" ∨ r.key = ""))

end Column

/-! ## Reading a column -/

namespace Reference

theorem ofText?_eq_none_iff {s : String} : ofText? s = none ↔ '.' ∉ s.toList := by
  simp [ofText?, Text.cut?_eq_none_iff]

theorem toList_text (r : Reference) : r.text.toList = r.table.toList ++ '.' :: r.key.toList := by simp [text]

theorem ofText?_eq_some_iff {s : String} {r : Reference} :
    ofText? s = some r ↔ r.text = s ∧ '.' ∉ r.table.toList := by
  rw [ofText?, Option.map_eq_some_iff, ← String.toList_inj, toList_text]
  constructor
  · intro ⟨⟨a, b⟩, hcut, hr⟩
    obtain ⟨hs, ha⟩ := Text.cut?_eq_some_iff.mp hcut
    subst hr
    simp only [String.toList_ofList]
    exact ⟨hs.symm, ha⟩
  · intro ⟨hs, ht⟩
    exact ⟨(r.table.toList, r.key.toList), Text.cut?_eq_some_iff.mpr ⟨hs.symm, ht⟩, by simp⟩

end Reference

namespace Column

theorem ofText_eq_bare_iff {s key : String} : ofText s = .bare key ↔ s = key ∧ '.' ∉ key.toList := by
  rw [← Reference.ofText?_eq_none_iff, ofText]
  split
  · next r h =>
    simp only [reduceCtorEq, false_iff]
    rintro ⟨rfl, hk⟩
    rw [h] at hk
    cases hk
  · next h =>
    rw [bare.injEq]
    exact ⟨fun hk => ⟨hk, hk ▸ h⟩, And.left⟩

theorem ofText_eq_qualified_iff {s : String} {r : Reference} :
    ofText s = .qualified r ↔ r.text = s ∧ '.' ∉ r.table.toList := by
  rw [← Reference.ofText?_eq_some_iff, ofText]
  split
  · next r' h => rw [h, qualified.injEq, Option.some_inj]
  · next h => simp [h]

theorem text_ofText (s : String) : (ofText s).text = s := by
  cases h : ofText s with
  | bare key => exact (ofText_eq_bare_iff.mp h).1.symm
  | qualified r => exact (ofText_eq_qualified_iff.mp h).1

end Column

end SqlClauses
