/-
  SqlClauses.Search — fulltext search.

  A search matches the columns of a fulltext index against a text. The index stands in
  the statement as given, since it may name several columns (`title,body`); the text is a
  literal.
-/

import SqlClauses.Literal

namespace SqlClauses

inductive SearchMode where
  | naturalLanguage
  | boolean
  deriving DecidableEq, Repr

def SearchMode.all : List SearchMode := [.naturalLanguage, .boolean]

def SearchMode.sql : SearchMode → String
  | .naturalLanguage => "IN NATURAL LANGUAGE MODE"
  | .boolean => "IN BOOLEAN MODE"

structure Search where
  index : String
  against : String
  mode : SearchMode := .naturalLanguage
  deriving DecidableEq, Repr

def Search.sql (s : Search) : String :=
  "MATCH (" ++ s.index ++ ") AGAINST " ++ Literal.quote s.against ++ " " ++ s.mode.sql

end SqlClauses
