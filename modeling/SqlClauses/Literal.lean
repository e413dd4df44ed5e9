/-
  SqlClauses.Literal — string literals of SQL.

  A text stands between single quotes. Inside, a quote and a backslash are written
  twice, everything else once.

  Main statement: `toList_quote`, what a literal is made of.
-/

namespace SqlClauses.Literal

/-- What a character becomes inside a literal. -/
def charText (c : Char) : List Char :=
  if c = '\'' then ['\'', '\''] else if c = '\\' then ['\\', '\\'] else [c]

def body (s : List Char) : List Char := s.flatMap charText

/-- A text as a string literal. -/
def quote (s : String) : String := String.ofList ('\'' :: body s.toList ++ ['\''])

@[simp] theorem body_nil : body [] = [] := rfl

@[simp] theorem body_cons (c : Char) (s : List Char) : body (c :: s) = charText c ++ body s := rfl

@[simp] theorem toList_quote (s : String) : (quote s).toList = '\'' :: body s.toList ++ ['\''] := by
  simp [quote]

end SqlClauses.Literal
