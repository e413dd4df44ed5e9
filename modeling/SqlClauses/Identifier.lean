/-
  SqlClauses.Identifier — names of tables, columns and results as they are written in SQL.

  A name is a path: its segments stand between dots, and each is written between
  backticks, a backtick inside written twice. A segment that comes wrapped in backticks
  already is read back first, so writing a written name changes nothing.

  Main statements: `undouble_double`, reading back undoes the doubling; `content_wrap`, a
  written segment stands for what it was written from.
-/

import SqlClauses.Text.Split

namespace SqlClauses.Identifier

def tick : Char := '\x60'

/-- Every backtick twice. -/
def double (s : List Char) : List Char := s.flatMap fun c => if c = tick then [tick, tick] else [c]

/-- Every two backticks in a row, found from the left, as one. -/
def undouble : List Char → List Char
  | [] => []
  | [c] => [c]
  | c :: d :: r => if c = tick ∧ d = tick then tick :: undouble r else c :: undouble (d :: r)

/-- What stands between a backtick at the front and another one at the end. -/
def unwrap? : List Char → Option (List Char)
  | [] => none
  | c :: r => if c = tick ∧ r.getLast? = some tick then some r.dropLast else none

/-- What a segment stands for: itself, or what is written between its wrapping backticks. -/
def content (s : List Char) : List Char :=
  match unwrap? s with
  | some inner => undouble inner
  | none => s

/-- A text as one quoted segment. -/
def wrap (s : List Char) : List Char := tick :: double s ++ [tick]

def quoteChars (name : List Char) : List Char :=
  List.intercalate ['.'] ((Text.split '.' name).map fun s => wrap (content s))

/-- A name as written in SQL. -/
def quote (name : String) : String := String.ofList (quoteChars name.toList)

/-! ## Reading a segment back -/

@[simp] theorem double_nil : double [] = [] := rfl

theorem double_cons_tick (r : List Char) : double (tick :: r) = tick :: tick :: double r := rfl

theorem double_cons {c : Char} (h : c ≠ tick) (r : List Char) : double (c :: r) = c :: double r := by
  simp [double, h]

theorem undouble_cons {c : Char} (h : c ≠ tick) (r : List Char) : undouble (c :: r) = c :: undouble r := by
  cases r <;> simp [undouble, h]

theorem undouble_pair (r : List Char) : undouble (tick :: tick :: r) = tick :: undouble r := if_pos ⟨rfl, rfl⟩

theorem undouble_single {r : List Char} (h : r.head? ≠ some tick) : undouble (tick :: r) = tick :: undouble r := by
  cases r with
  | nil => rfl
  | cons d r => exact if_neg fun hd => h (congrArg some hd.2)

theorem undouble_double (s : List Char) : undouble (double s) = s := by
  induction s with
  | nil => rfl
  | cons c r ih =>
    by_cases h : c = tick
    · rw [h, double_cons_tick, undouble_pair, ih]
    · rw [double_cons h, undouble_cons h, ih]

theorem unwrap?_wrapped (s : List Char) : unwrap? (tick :: s ++ [tick]) = some s := by
  simp [unwrap?]

theorem content_wrap (s : List Char) : content (wrap s) = s := by
  simp only [content, wrap, unwrap?_wrapped, undouble_double]

end SqlClauses.Identifier
