/-
  SqlClauses.Proofs.Tokens — the tokens that a query stands for.

  They are read off the query, clause by clause, without any text in between: keywords and
  punctuation, one identifier for each segment of a name, one string for each text, one
  number for each number. Only raw SQL and the index of a search are texts of their own;
  they are taken to be letters, digits, underscores and commas (`Plain`), and give the words
  and numbers between the commas.

  Main definitions: `Query.tokens`; `Query.Plain`, what is asked of the texts that are
  written as they are.
-/

import SqlClauses.Proofs.Lexer
import SqlClauses.Query.Basic

namespace SqlClauses

/-! ## Names -/

/-- What the parts of a name between its dots stand for: a part that comes wrapped in backticks
stands for what it quotes, where two backticks are one. -/
def Identifier.segments (name : String) : List String :=
  (Text.split '.' name.toList).map fun s => String.ofList (Identifier.content s)

def Reference.path (r : Reference) : List String := Identifier.segments r.table ++ Identifier.segments r.key

def Column.path : Column → List String
  | .bare key => Identifier.segments key
  | .qualified r => r.path

namespace Token

def ofPath (path : List String) : List Token :=
  List.intercalate [symbol "."] (path.map fun s => [identifier s])

/-- With a comma between them. -/
def commas (items : List (List Token)) : List Token := List.intercalate [symbol ","] items

/-- A run of letters, digits and underscores. -/
def ofRun (cs : List Char) : List Token :=
  if cs = [] then [] else if cs.all Char.isDigit then [number (String.ofList cs)] else [word (String.ofList cs)]

/-- What is between the commas of a text, and the commas. -/
def ofPlain (s : String) : List Token := commas ((Text.split ',' s.toList).map ofRun)

end Token

open Token

/-- The text after AS. -/
def nameTokens (name : String) : List Token := [word "AS"] ++ ofPath (Identifier.segments name)

/-! ## Clauses -/

def Value.tokens : Value → List Token
  | .null => [word "NULL"]
  | .bool b => [word (if b then "TRUE" else "FALSE")]
  | .int n => [number (toString n.toInt)]
  | .uint n => [number (toString n.toNat)]
  | .float x => if x.isFinite then [number x.text] else [word "NULL"]
  | .text s => [string s]
  | .raw sql => ofPlain sql

def Operator.tokens : Operator → List Token
  | .like => [word "LIKE"]
  | .notLike => [word "NOT", word "LIKE"]
  | op => [symbol op.sql]

/-- What stands before null. -/
def Operator.tokensForNull : Operator → List Token
  | .eq => [word "IS"]
  | .ne => [word "IS", word "NOT"]
  | op => op.tokens

def SearchMode.tokens : SearchMode → List Token
  | .naturalLanguage => [word "IN", word "NATURAL", word "LANGUAGE", word "MODE"]
  | .boolean => [word "IN", word "BOOLEAN", word "MODE"]

def Search.tokens (s : Search) : List Token :=
  [word "MATCH", symbol "("] ++ ofPlain s.index ++ [symbol ")", word "AGAINST"] ++ [string s.against] ++ s.mode.tokens

def Predicate.tokens : Predicate → List Token
  | .compare column operator value =>
    ofPath column.path ++ (if value.isNull then operator.tokensForNull else operator.tokens) ++ value.tokens
  | .between column lo hi =>
    ofPath column.path ++ [word "BETWEEN"] ++ [number (toString lo.toInt)] ++ [word "AND"] ++
      [number (toString hi.toInt)]
  | .search s => s.tokens

namespace Filter

/-- What stands before a filter: the start of the clause or of another group, or the connective
within a group. -/
def linkTokens : Link → List Token
  | .first => [word "WHERE", symbol "("]
  | .or => [symbol ")", word "OR", symbol "("]
  | .and => [word "AND"]

def tokens (f : Filter) : List Token := linkTokens f.link ++ f.predicate.tokens

def clauseTokens (fs : List Filter) : List Token := if fs.isEmpty then [] else fs.flatMap tokens ++ [symbol ")"]

end Filter

namespace Join

def tokens (base : String) (j : Join) : List Token :=
  [word j.side.sql] ++ [word "JOIN"] ++ ofPath (Identifier.segments j.table) ++ [word "ON"] ++
    ofPath (j.column.qualify j.table).path ++ j.operator.tokens ++ ofPath (j.target.qualify base).path

def clauseTokens (base : String) (js : List Join) : List Token := js.flatMap (tokens base)

end Join

namespace Order

def termTokens (t : Column × Direction) : List Token := ofPath t.1.path ++ [word t.2.sql]

def clauseTokens (os : List Order) : List Token :=
  let terms := os.flatMap (·.terms)
  if terms.isEmpty then [] else [word "ORDER", word "BY"] ++ commas (terms.map termTokens)

end Order

def Limit.clauseTokens : Option Limit → List Token
  | some ⟨some offset, some amount⟩ =>
    [word "LIMIT"] ++ [number (toString offset.toNat)] ++ [symbol ","] ++ [number (toString amount.toNat)]
  | _ => []

/-! ## Statements -/

mutual

def Key.tokens : Key → List Token
  | .column ref name => ofPath ref.path ++ (name.map nameTokens).getD []
  | .aggregate f ref name => [word f.sql] ++ [symbol "("] ++ ofPath ref.path ++ [symbol ")"] ++ nameTokens name
  | .fulltext s name => s.tokens ++ nameTokens name
  | .subquery query name => [symbol "("] ++ query.tokens ++ [symbol ")"] ++ nameTokens name

def Key.tokensAll : List Key → List (List Token)
  | [] => []
  | key :: keys => key.tokens :: Key.tokensAll keys

def Statement.tokens : Statement → List Token
  | .select table keys =>
    [word "SELECT"] ++ (if keys.isEmpty then [symbol "*"] else commas (Key.tokensAll keys)) ++ [word "FROM"] ++
      ofPath (Identifier.segments table)
  | .insert table columns values =>
    [word "INSERT", word "INTO"] ++ ofPath (Identifier.segments table) ++ [symbol "("] ++
      commas (columns.map fun c => ofPath c.path) ++ [symbol ")", word "VALUES", symbol "("] ++
      commas (values.map Value.tokens) ++ [symbol ")"]
  | .update table assignments =>
    [word "UPDATE"] ++ ofPath (Identifier.segments table) ++ [word "SET"] ++
      commas (assignments.map fun a => ofPath a.1.path ++ [symbol "="] ++ a.2.tokens)
  | .delete table => [word "DELETE", word "FROM"] ++ ofPath (Identifier.segments table)
  | .truncate table => [word "TRUNCATE"] ++ ofPath (Identifier.segments table)

/-- The tokens of the five stages, one after the other. -/
def Query.tokens : Query → List Token
  | ⟨none, _, _, _, _, _⟩ => []
  | ⟨some statement, filters, joins, orders, limit, _⟩ =>
    statement.tokens ++ Join.clauseTokens statement.table joins ++ Filter.clauseTokens filters ++
      Order.clauseTokens orders ++ Limit.clauseTokens limit

end

theorem Key.tokensAll_eq_map (keys : List Key) : Key.tokensAll keys = keys.map Key.tokens := by
  induction keys with
  | nil => rfl
  | cons key keys ih => rw [tokensAll, ih, List.map_cons]

/-! ## Texts that are written as they are -/

/-- Letters, digits, underscores and commas. -/
def IsPlainText (s : String) : Prop := ∀ c ∈ s.toList, Lexer.isWordChar c = true ∨ c = ','

instance (s : String) : Decidable (IsPlainText s) :=
  decidable_of_iff (s.toList.all fun c => Lexer.isWordChar c || c == ',') (by simp [IsPlainText])

def Predicate.values : Predicate → List Value
  | .compare _ _ value => [value]
  | .between .. | .search _ => []

def Predicate.searches : Predicate → List Search
  | .search s => [s]
  | .compare .. | .between .. => []

def Key.searches : Key → List Search
  | .fulltext s _ => [s]
  | .column .. | .aggregate .. | .subquery .. => []

def Statement.values : Statement → List Value
  | .insert _ _ values => values
  | .update _ assignments => assignments.map (·.2)
  | .select .. | .delete _ | .truncate _ => []

namespace Query

/-- The values in the statement and the filters of the query itself. -/
def values (q : Query) : List Value :=
  (q.statement.map Statement.values).getD [] ++ q.filters.flatMap (·.predicate.values)

/-- The searches in the select list and the filters of the query itself. -/
def searches (q : Query) : List Search := q.keys.flatMap Key.searches ++ q.filters.flatMap (·.predicate.searches)

/-- Whatever is written as it is holds nothing but letters, digits, underscores and commas. -/
structure Plain (q : Query) : Prop where
  raw : ∀ sql, Value.raw sql ∈ q.values → IsPlainText sql
  index : ∀ s ∈ q.searches, IsPlainText s.index

end Query

end SqlClauses
