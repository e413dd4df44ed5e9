/-
  SqlClauses.Error — why a clause was refused, a query could not be rendered or a
  statement did not run.

  Each cause is a constructor with what its message names. A cause belongs to one of
  three sides: building and rendering (`IsValidation`), running (`IsExecution`), or the
  connection settings (`settings`, on neither of the first two).

  Main statements: `isValidation_iff`, every cause is on one of the three sides;
  `not_isSettings_of_isExecution`, and on no two of them; `bind_eq_ok_iff` and
  `bind_eq_error_iff`, how two pieces of work in a row end.
-/

namespace SqlClauses

inductive Error where
  /-- Two parallel lists differ in length. -/
  | arityMismatch (expected found : Nat)
  | noInitialFilter
  | duplicateInitialFilter
  | emptyRange (min max : Int64)
  | noStatement
  | amountWithoutOffset
  | offsetWithoutAmount
  | zeroAmount
  | unequalKeysAndValues (keys values : Nat)
  | noAssignments
  | unknownOperator (text : String)
  /-- A name is blank, or a part of a column is empty; `part` says which of a clause's names. -/
  | emptyIdentifier (part : String)
  | statementConflict (current table requested : String)
  | selectOnly (feature : String)
  | driver (text : String)
  | connection (text : String)
  | settings (text : String)
  | pool (text : String)
  deriving DecidableEq, Repr

namespace Error

def message : Error → String
  | .arityMismatch e f => "Arity mismatch: expected " ++ toString e ++ " items, found " ++ toString f
  | .noInitialFilter => "There was no initial where clause found"
  | .duplicateInitialFilter => "There already was an initial where clause"
  | .emptyRange lo hi =>
    "Invalid range: min (" ++ toString lo.toInt ++ ") must be less than max (" ++ toString hi.toInt ++ ")"
  | .noStatement => "Unknown query type: no statement was set"
  | .amountWithoutOffset => "You can't set an amount without an offset"
  | .offsetWithoutAmount => "You can't set an offset without an amount"
  | .zeroAmount => "Invalid limit: amount must be at least 1"
  | .unequalKeysAndValues k v =>
    "Expected equal amount of keys and values: " ++ toString k ++ " keys, " ++ toString v ++ " values"
  | .noAssignments => "An update needs at least one key to set"
  | .unknownOperator text => "Invalid comparison operator: '" ++ text ++ "'"
  | .emptyIdentifier part => "Empty identifier: " ++ part
  | .statementConflict current table requested =>
    "Statement conflict: builder is already a " ++ current ++ " on \x60" ++ table ++ "\x60, cannot add " ++ requested
  | .selectOnly feature => feature ++ " is only available for SELECT queries"
  | .driver text => "Query error: " ++ text
  | .connection text => "Connection error: " ++ text
  | .settings text => "Configuration error: " ++ text
  | .pool text => "Pool error: " ++ text

/-- The statement was sent, and did not run. -/
def IsExecution : Error → Prop
  | .driver _ | .connection _ | .pool _ => True
  | _ => False

instance : DecidablePred IsExecution := fun e => by cases e <;> unfold IsExecution <;> infer_instance

def IsSettings : Error → Prop
  | .settings _ => True
  | _ => False

instance : DecidablePred IsSettings := fun e => by cases e <;> unfold IsSettings <;> infer_instance

/-- The query is at fault: a clause call or rendering refused it. -/
def IsValidation (e : Error) : Prop := ¬ e.IsExecution ∧ ¬ e.IsSettings

instance : DecidablePred IsValidation := fun e => inferInstanceAs (Decidable (¬ e.IsExecution ∧ ¬ e.IsSettings))

theorem isValidation_iff {e : Error} : e.IsValidation ↔ ¬ (e.IsExecution ∨ e.IsSettings) := not_or.symm

theorem not_isSettings_of_isExecution {e : Error} (h : e.IsExecution) : ¬ e.IsSettings := by
  cases e <;> simp_all [IsExecution, IsSettings]

end Error

/-! ## Work that can fail -/

theorem bind_eq_ok_iff {α β : Type} {x : Except Error α} {f : α → Except Error β} {b : β} :
    (x >>= f) = .ok b ↔ ∃ a, x = .ok a ∧ f a = .ok b := by
  cases x with
  | error e => simp [bind, Except.bind]
  | ok a => simp [bind, Except.bind]

theorem bind_eq_error_iff {α β : Type} {x : Except Error α} {f : α → Except Error β} {e : Error} :
    (x >>= f) = .error e ↔ x = .error e ∨ ∃ a, x = .ok a ∧ f a = .error e := by
  cases x with
  | error e' => simp [bind, Except.bind]
  | ok a => simp [bind, Except.bind]

end SqlClauses
