/-
  SqlClauses.Operator — comparison operators.

  Against null, `=` and `!=` never hold in SQL; `IS` and `IS NOT` are written in their
  place. Every other operator is written as it is.

  Main statement: `ofText?_sql`, the written form of an operator reads back.
-/

import SqlClauses.Error
import SqlClauses.Text.Blank

namespace SqlClauses

inductive Operator where
  | eq
  | lt
  | gt
  | lte
  | gte
  | ne
  | notEq
  | nullSafeEq
  | like
  | notLike
  deriving DecidableEq, Repr

namespace Operator

def all : List Operator := [.eq, .lt, .gt, .lte, .gte, .ne, .notEq, .nullSafeEq, .like, .notLike]

def sql : Operator → String
  | .eq => "="
  | .lt => "<"
  | .gt => ">"
  | .lte => "<="
  | .gte => ">="
  | .ne => "!="
  | .notEq => "<>"
  | .nullSafeEq => "<=>"
  | .like => "LIKE"
  | .notLike => "NOT LIKE"

/-- What is written when the right-hand side is null. -/
def sqlForNull : Operator → String
  | .eq => "IS"
  | .ne => "IS NOT"
  | op => op.sql

/-- Read an operator, white space around it aside and ASCII letters of either case. -/
def ofText? (s : String) : Option Operator :=
  all.find? fun op => op.sql.toList == (Text.trim s).toList.map Char.toUpper

def ofText (s : String) : Except Error Operator :=
  match ofText? s with
  | some op => .ok op
  | none => .error (.unknownOperator (Text.trim s))

theorem mem_all (op : Operator) : op ∈ all := by cases op <;> decide

theorem ofText?_sql (op : Operator) : ofText? op.sql = some op := by cases op <;> decide +kernel

example : ofText? " not like\t" = some .notLike := by decide +kernel

end Operator

end SqlClauses
