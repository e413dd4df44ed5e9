/-
  SqlClauses.Proofs.Formula — conditions, how they are written, and what they come to.

  A condition is put together from predicates by AND, OR and parentheses, and is true, false
  or unknown. It is written as a row of marks. A server reads such a row with AND binding
  tighter than OR: as a formula in which an OR that stands beneath an AND is in parentheses.
  There can be several such formulas for one row, since `a AND b AND c` does not say which AND
  comes first; all of them have one value.

  Main statements: `total_scan_marks`, the value of a formula from its marks alone, read from
  left to right; `value_eq_of_marks_eq`, a row of marks has one value.
-/

namespace SqlClauses

/-- A truth value of SQL. -/
inductive Truth where
  | false
  | unknown
  | true
  deriving DecidableEq, Repr

namespace Truth

def and : Truth → Truth → Truth
  | .true, y => y
  | .false, _ => .false
  | .unknown, .false => .false
  | .unknown, _ => .unknown

def or : Truth → Truth → Truth
  | .false, y => y
  | .true, _ => .true
  | .unknown, .true => .true
  | .unknown, _ => .unknown

theorem false_or (x : Truth) : Truth.false.or x = x := rfl

theorem and_assoc (x y z : Truth) : (x.and y).and z = x.and (y.and z) := by cases x <;> cases y <;> cases z <;> rfl

theorem or_assoc (x y z : Truth) : (x.or y).or z = x.or (y.or z) := by cases x <;> cases y <;> cases z <;> rfl

end Truth

/-! ## Formulas and their marks -/

/-- `α` is what stands in the places of predicates. -/
inductive Formula (α : Type) where
  | atom (a : α)
  | group (f : Formula α)
  | and (f g : Formula α)
  | or (f g : Formula α)

inductive Mark (α : Type) where
  | opening
  | closing
  | and
  | or
  | atom (a : α)

variable {α : Type}

namespace Mark

/-- As written in SQL, a predicate as `w` has it. -/
def sql (w : α → String) : Mark α → String
  | .opening => "("
  | .closing => ")"
  | .and => " AND "
  | .or => " OR "
  | .atom a => w a

def text (w : α → String) : List (Mark α) → String
  | [] => ""
  | m :: ms => m.sql w ++ text w ms

def atom? : Mark α → Option α
  | .atom a => some a
  | .opening | .closing | .and | .or => none

theorem text_append (w : α → String) (ms ns : List (Mark α)) : text w (ms ++ ns) = text w ms ++ text w ns := by
  induction ms with
  | nil => rw [List.nil_append, text, String.empty_append]
  | cons m ms ih => rw [List.cons_append, text, text, ih, String.append_assoc]

end Mark

namespace Formula

def marks : Formula α → List (Mark α)
  | .atom a => [.atom a]
  | .group f => [.opening] ++ f.marks ++ [.closing]
  | .and f g => f.marks ++ [.and] ++ g.marks
  | .or f g => f.marks ++ [.or] ++ g.marks

/-- What the formula comes to, when its predicates come to what `v` says. -/
def value (v : α → Truth) : Formula α → Truth
  | .atom a => v a
  | .group f => f.value v
  | .and f g => (f.value v).and (g.value v)
  | .or f g => (f.value v).or (g.value v)

def IsOr : Formula α → Prop
  | .or _ _ => True
  | .atom _ | .group _ | .and _ _ => False

/-- AND binds tighter than OR: beneath an AND there is no OR but in parentheses. -/
def Tight : Formula α → Prop
  | .atom _ => True
  | .group f => f.Tight
  | .and f g => f.Tight ∧ ¬ f.IsOr ∧ g.Tight ∧ ¬ g.IsOr
  | .or f g => f.Tight ∧ g.Tight

end Formula

/-! ## From left to right -/

/-- A condition of which a part has been read: what its closed runs of AND come to, and what the
run does that is still open. -/
structure Tally where
  closed : Truth
  run : Truth
  deriving DecidableEq, Repr

namespace Tally

/-- Nothing has been read. -/
def start : Tally := ⟨.false, .true⟩

def total (t : Tally) : Truth := t.closed.or t.run

def conjoin (t : Tally) (x : Truth) : Tally := { t with run := t.run.and x }

/-- One mark more, where the second part is what was read before each parenthesis that is open. -/
def scan (v : α → Truth) : Tally × List Tally → Mark α → Tally × List Tally
  | (t, ts), .atom a => (t.conjoin (v a), ts)
  | (t, ts), .and => (t, ts)
  | (t, ts), .or => (⟨t.total, .true⟩, ts)
  | (t, ts), .opening => (start, t :: ts)
  | (t, u :: ts), .closing => (u.conjoin t.total, ts)
  | (t, []), .closing => (t, [])

end Tally

namespace Formula

open Tally

variable {v : α → Truth} {f g : Formula α}

/-- Wherever it stands, the formula is one more operand of the run that is open. -/
def ReadsAsOperand (v : α → Truth) (f : Formula α) : Prop :=
  ∀ t ts, f.marks.foldl (scan v) (t, ts) = (t.conjoin (f.value v), ts)

/-- At the start of a run the formula is read whole, with the runs that it closes. -/
def ReadsFromStart (v : α → Truth) (f : Formula α) : Prop :=
  ∀ c ts, ∃ t, f.marks.foldl (scan v) (⟨c, .true⟩, ts) = (t, ts) ∧ t.total = c.or (f.value v)

theorem ReadsAsOperand.fromStart (h : f.ReadsAsOperand v) : f.ReadsFromStart v := fun _ ts => ⟨_, h _ ts, rfl⟩

theorem readsAsOperand_group (h : f.ReadsFromStart v) : (group f).ReadsAsOperand v := by
  intro t ts
  obtain ⟨u, hu, htotal⟩ := h .false (t :: ts)
  have hopen : [Mark.opening].foldl (scan v) (t, ts) = (⟨.false, .true⟩, t :: ts) := rfl
  rw [marks, List.foldl_append, List.foldl_append, hopen, hu]
  show (t.conjoin u.total, ts) = _
  rw [htotal]
  rfl

theorem readsAsOperand_and (hf : f.ReadsAsOperand v) (hg : g.ReadsAsOperand v) : (and f g).ReadsAsOperand v := by
  intro t ts
  rw [marks, List.foldl_append, List.foldl_append, hf]
  show g.marks.foldl (scan v) (t.conjoin (f.value v), ts) = _
  rw [hg, conjoin, conjoin, Truth.and_assoc]
  rfl

theorem readsFromStart_or (hf : f.ReadsFromStart v) (hg : g.ReadsFromStart v) : (or f g).ReadsFromStart v := by
  intro c ts
  obtain ⟨t, ht, htotal⟩ := hf c ts
  obtain ⟨u, hu, hutotal⟩ := hg t.total ts
  refine ⟨u, ?_, ?_⟩
  · rw [marks, List.foldl_append, List.foldl_append, ht]
    exact hu
  · rw [hutotal, htotal, Truth.or_assoc]
    rfl

theorem reads_of_tight (hf : f.Tight) : (¬ f.IsOr → f.ReadsAsOperand v) ∧ f.ReadsFromStart v := by
  induction f with
  | atom a =>
    have h : (atom a).ReadsAsOperand v := fun _ _ => rfl
    exact ⟨fun _ => h, h.fromStart⟩
  | group f ih =>
    have h := readsAsOperand_group (ih hf).2
    exact ⟨fun _ => h, h.fromStart⟩
  | and f g ihf ihg =>
    obtain ⟨hf, hnf, hg, hng⟩ := hf
    have h := readsAsOperand_and ((ihf hf).1 hnf) ((ihg hg).1 hng)
    exact ⟨fun _ => h, h.fromStart⟩
  | or f g ihf ihg => exact ⟨fun h => absurd trivial h, readsFromStart_or (ihf hf.1).2 (ihg hf.2).2⟩

theorem total_scan_marks (v : α → Truth) (hf : f.Tight) :
    (f.marks.foldl (scan v) (start, [])).1.total = f.value v := by
  obtain ⟨t, ht, htotal⟩ := (reads_of_tight hf).2 .false []
  have hscan : f.marks.foldl (scan v) (start, []) = (t, []) := ht
  rw [hscan, htotal, Truth.false_or]

/-- However a row of marks is read, it comes to the same. -/
theorem value_eq_of_marks_eq (v : α → Truth) (hf : f.Tight) (hg : g.Tight) (h : f.marks = g.marks) :
    f.value v = g.value v := by
  rw [← total_scan_marks v hf, ← total_scan_marks v hg, h]

end Formula

end SqlClauses
