/-
  SqlClauses.Proofs.Grammar — the statements that a server takes.

  A phrase is a list of tokens that makes up a whole of some category: a column, a condition, a
  clause, a statement of one kind. The productions are those of MySQL for the statements that
  are written here, clause by clause. A join belongs to a select only; an update and a delete
  take a WHERE, an ORDER BY and a LIMIT that is one number; an insert and a truncate take
  nothing after their heads. What is embedded in a select list is a select. A table has a name
  of at most two parts and a column one of at most three; a result is renamed to one identifier.
  The text of a search stands in parentheses. What is left out no query writes: hints, aliases
  of tables, expressions of more than one operand. What the names stand for is not a matter of
  the grammar, and neither is which characters they have and how many.

  A few words mark what is in a phrase: the first words of the clauses, and of the statements
  that are not selects. A phrase has no marks but those of its category, however deep. And the
  word or sign before a name tells how many parts it may have, so that tokens can be looked
  through from left to right (`Fits`): a phrase never has more parts than there is room for.

  Main statements: `Phrase.marked`, the marks in a phrase; `Phrase.head_statement`, its first
  token tells the kind of a statement; `Phrase.ends_with_count`, the only LIMIT that an update
  and a delete have; `Phrase.fits`, the length of the names in a phrase.
-/

import SqlClauses.Proofs.Peeling

namespace SqlClauses

open Token

inductive Category where
  | table
  | column
  | operand
  | comparison
  | search
  | condition
  | join
  | joins
  | filter
  | term
  | order
  | count
  | page
  | assignment
  | label
  | item
  | items
  | statement (kind : StatementKind)
  | list (c : Category)
  | optional (c : Category)

namespace Grammar

/-- Words that are values by themselves. -/
def constants : List String :=
  ["NULL", "TRUE", "FALSE", "CURRENT_DATE", "CURRENT_TIME", "CURRENT_TIMESTAMP", "CURRENT_USER", "LOCALTIME",
    "LOCALTIMESTAMP", "UTC_DATE", "UTC_TIME", "UTC_TIMESTAMP"]

/-- Words that have a meaning of their own in these statements. -/
def keywords : List String :=
  ["SELECT", "FROM", "AS", "INSERT", "INTO", "VALUES", "UPDATE", "SET", "DELETE", "TRUNCATE", "LEFT", "RIGHT", "INNER",
    "JOIN", "ON", "WHERE", "AND", "OR", "NOT", "IN", "NATURAL", "IS", "LIKE", "BETWEEN", "MATCH", "ORDER", "BY", "ASC",
    "DESC", "LIMIT"]

/-- The other words that a server reserves. -/
def reserved : List String :=
  ["ACCESSIBLE", "ADD", "ALL", "ALTER", "ANALYZE", "ASENSITIVE", "BEFORE", "BIGINT", "BINARY", "BLOB", "BOTH", "CALL",
    "CASCADE", "CASE", "CHANGE", "CHAR", "CHARACTER", "CHECK", "COLLATE", "COLUMN", "CONDITION", "CONSTRAINT",
    "CONTINUE", "CONVERT", "CREATE", "CROSS", "CUBE", "CUME_DIST", "CURSOR", "DATABASE", "DATABASES", "DAY_HOUR",
    "DAY_MICROSECOND", "DAY_MINUTE", "DAY_SECOND", "DEC", "DECIMAL", "DECLARE", "DEFAULT", "DELAYED", "DENSE_RANK",
    "DESCRIBE", "DETERMINISTIC", "DISTINCT", "DISTINCTROW", "DIV", "DOUBLE", "DROP", "DUAL", "EACH", "ELSE", "ELSEIF",
    "EMPTY", "ENCLOSED", "ESCAPED", "EXCEPT", "EXISTS", "EXIT", "EXPLAIN", "FETCH", "FIRST_VALUE", "FLOAT", "FLOAT4",
    "FLOAT8", "FOR", "FORCE", "FOREIGN", "FULLTEXT", "FUNCTION", "GENERATED", "GET", "GRANT", "GROUP", "GROUPING",
    "GROUPS", "HAVING", "HIGH_PRIORITY", "HOUR_MICROSECOND", "HOUR_MINUTE", "HOUR_SECOND", "IF", "IGNORE", "INDEX",
    "INFILE", "INOUT", "INSENSITIVE", "INT", "INT1", "INT2", "INT3", "INT4", "INT8", "INTEGER", "INTERSECT", "INTERVAL",
    "IO_AFTER_GTIDS", "IO_BEFORE_GTIDS", "ITERATE", "JSON_TABLE", "KEY", "KEYS", "KILL", "LAG", "LAST_VALUE", "LATERAL",
    "LEAD", "LEADING", "LEAVE", "LINEAR", "LINES", "LOAD", "LOCK", "LONG", "LONGBLOB", "LONGTEXT", "LOOP",
    "LOW_PRIORITY", "MANUAL", "MASTER_BIND", "MASTER_SSL_VERIFY_SERVER_CERT", "MAXVALUE", "MEDIUMBLOB", "MEDIUMINT",
    "MEDIUMTEXT", "MIDDLEINT", "MINUTE_MICROSECOND", "MINUTE_SECOND", "MOD", "MODIFIES", "NO_WRITE_TO_BINLOG",
    "NTH_VALUE", "NTILE", "NUMERIC", "OF", "OPTIMIZE", "OPTIMIZER_COSTS", "OPTION", "OPTIONALLY", "OUT", "OUTER",
    "OUTFILE", "OVER", "PARALLEL", "PARTITION", "PERCENT_RANK", "PRECISION", "PRIMARY", "PROCEDURE", "PURGE", "QUALIFY",
    "RANGE", "RANK", "READ", "READS", "READ_WRITE", "REAL", "RECURSIVE", "REFERENCES", "REGEXP", "RELEASE", "RENAME",
    "REPEAT", "REPLACE", "REQUIRE", "RESIGNAL", "RESTRICT", "RETURN", "REVOKE", "RLIKE", "ROW", "ROWS", "ROW_NUMBER",
    "SCHEMA", "SCHEMAS", "SECOND_MICROSECOND", "SENSITIVE", "SEPARATOR", "SHOW", "SIGNAL", "SMALLINT", "SPATIAL",
    "SPECIFIC", "SQL", "SQLEXCEPTION", "SQLSTATE", "SQLWARNING", "SQL_BIG_RESULT", "SQL_CALC_FOUND_ROWS",
    "SQL_SMALL_RESULT", "SSL", "STARTING", "STORED", "STRAIGHT_JOIN", "SYSTEM", "TABLE", "TABLESAMPLE", "TERMINATED",
    "THEN", "TINYBLOB", "TINYINT", "TINYTEXT", "TO", "TRAILING", "TRIGGER", "UNDO", "UNION", "UNIQUE", "UNLOCK",
    "UNSIGNED", "USAGE", "USE", "USING", "VARBINARY", "VARCHAR", "VARCHARACTER", "VARYING", "VIRTUAL", "WHEN", "WHILE",
    "WINDOW", "WITH", "WRITE", "XOR", "YEAR_MONTH", "ZEROFILL"]

def comparisons : List String := ["=", "<", ">", "<=", ">=", "!=", "<>", "<=>"]

def sides : List String := ["LEFT", "RIGHT", "INNER"]

def directions : List String := ["ASC", "DESC"]

def aggregates : List String := ["COUNT", "AVG", "SUM"]

/-- Words are the same whatever the case of their letters. -/
def upper (w : String) : String := String.ofList (w.toList.map Char.toUpper)

/-- A word that can be a column without backticks around it. It begins with a letter: with a digit it might be a
number, and with an underscore the name of a character set. -/
structure IsBare (w : String) : Prop where
  letter : w.toList.head?.any Char.isAlpha = true
  constant : upper w ∉ constants
  keyword : upper w ∉ keywords
  reserved : upper w ∉ reserved

end Grammar

open Grammar

inductive Phrase : Category → List Token → Prop
  -- several of a category
  | one {c ts} : Phrase c ts → Phrase (.list c) ts
  | more {c ts us} : Phrase c ts → Phrase (.list c) us → Phrase (.list c) (ts ++ [symbol ","] ++ us)
  | absent {c} : Phrase (.optional c) []
  | present {c ts} : Phrase c ts → Phrase (.optional c) ts
  -- names and operands
  | table {path : List String} : path ≠ [] → path.length ≤ 2 → Phrase .table (ofPath path)
  | path {path : List String} : path ≠ [] → path.length ≤ 3 → Phrase .column (ofPath path)
  | bare {w} : IsBare w → Phrase .column [word w]
  | numeral {n} : Lexer.IsNumeral n.toList → Phrase .operand [number n]
  | literal (s) : Phrase .operand [string s]
  | constant {w} : upper w ∈ constants → Phrase .operand [word w]
  | ofColumn {ts} : Phrase .column ts → Phrase .operand ts
  -- conditions
  | sign {s} : s ∈ comparisons → Phrase .comparison [symbol s]
  | like : Phrase .comparison [word "LIKE"]
  | notLike : Phrase .comparison [word "NOT", word "LIKE"]
  | search {columns} (text) (mode : SearchMode) : Phrase (.list .column) columns → Phrase .search
      ([word "MATCH", symbol "("] ++ columns ++ [symbol ")", word "AGAINST", symbol "("] ++ [string text] ++
        mode.tokens ++ [symbol ")"])
  | compare {name sign value} : Phrase .column name → Phrase .comparison sign → Phrase .operand value →
      Phrase .condition (name ++ sign ++ value)
  | isNull {name} : Phrase .column name → Phrase .condition (name ++ [word "IS"] ++ [word "NULL"])
  | isNotNull {name} : Phrase .column name → Phrase .condition (name ++ [word "IS", word "NOT"] ++ [word "NULL"])
  | between {name lo hi} : Phrase .column name → Phrase .operand lo → Phrase .operand hi →
      Phrase .condition (name ++ [word "BETWEEN"] ++ lo ++ [word "AND"] ++ hi)
  | found {ts} : Phrase .search ts → Phrase .condition ts
  | group {ts} : Phrase .condition ts → Phrase .condition ([symbol "("] ++ ts ++ [symbol ")"])
  | and {ts us} : Phrase .condition ts → Phrase .condition us → Phrase .condition (ts ++ [word "AND"] ++ us)
  | or {ts us} : Phrase .condition ts → Phrase .condition us → Phrase .condition (ts ++ [word "OR"] ++ us)
  -- clauses
  | join {side table left sign right} : side ∈ sides → Phrase .table table → Phrase .column left →
      Phrase .comparison sign → Phrase .column right →
      Phrase .join ([word side] ++ [word "JOIN"] ++ table ++ [word "ON"] ++ left ++ sign ++ right)
  | noJoin : Phrase .joins []
  | anotherJoin {ts us} : Phrase .join ts → Phrase .joins us → Phrase .joins (ts ++ us)
  | filter {ts} : Phrase .condition ts → Phrase .filter ([word "WHERE"] ++ ts)
  | term {name direction} : Phrase .column name → direction ∈ directions → Phrase .term (name ++ [word direction])
  | order {ts} : Phrase (.list .term) ts → Phrase .order ([word "ORDER", word "BY"] ++ ts)
  | count (amount : UInt64) : Phrase .count ([word "LIMIT"] ++ [number (toString amount.toNat)])
  | fromFirst {ts} : Phrase .count ts → Phrase .page ts
  | page (offset amount : UInt64) : Phrase .page
      ([word "LIMIT"] ++ [number (toString offset.toNat)] ++ [symbol ","] ++ [number (toString amount.toNat)])
  | assignment {name value} : Phrase .column name → Phrase .operand value →
      Phrase .assignment (name ++ [symbol "="] ++ value)
  -- select lists
  | label (name) : Phrase .label [word "AS", identifier name]
  | column {name label} : Phrase .column name → Phrase (.optional .label) label → Phrase .item (name ++ label)
  | aggregate {f name label} : f ∈ aggregates → Phrase .column name → Phrase (.optional .label) label →
      Phrase .item ([word f] ++ [symbol "("] ++ name ++ [symbol ")"] ++ label)
  | score {ts label} : Phrase .search ts → Phrase (.optional .label) label → Phrase .item (ts ++ label)
  | nested {ts label} : Phrase (.statement .select) ts → Phrase (.optional .label) label →
      Phrase .item ([symbol "("] ++ ts ++ [symbol ")"] ++ label)
  | all : Phrase .items [symbol "*"]
  | listed {ts} : Phrase (.list .item) ts → Phrase .items ts
  -- statements
  | select {items table joins filter order page} : Phrase .items items → Phrase .table table →
      Phrase .joins joins → Phrase (.optional .filter) filter → Phrase (.optional .order) order →
      Phrase (.optional .page) page → Phrase (.statement .select)
        ([word "SELECT"] ++ items ++ [word "FROM"] ++ table ++ joins ++ filter ++ order ++ page)
  | insert {table columns values} : Phrase .table table → Phrase (.optional (.list .column)) columns →
      Phrase (.optional (.list .operand)) values → Phrase (.statement .insert)
        ([word "INSERT", word "INTO"] ++ table ++ [symbol "("] ++ columns ++ [symbol ")", word "VALUES", symbol "("] ++
          values ++ [symbol ")"])
  | update {table assignments filter order count} : Phrase .table table → Phrase (.list .assignment) assignments →
      Phrase (.optional .filter) filter → Phrase (.optional .order) order → Phrase (.optional .count) count →
      Phrase (.statement .update)
        ([word "UPDATE"] ++ table ++ [word "SET"] ++ assignments ++ filter ++ order ++ count)
  | delete {table filter order count} : Phrase .table table → Phrase (.optional .filter) filter →
      Phrase (.optional .order) order → Phrase (.optional .count) count → Phrase (.statement .delete)
        ([word "DELETE", word "FROM"] ++ table ++ filter ++ order ++ count)
  | truncate {table} : Phrase .table table → Phrase (.statement .truncate) ([word "TRUNCATE"] ++ table)

/-! ## Marks -/

namespace Grammar

/-- The first words of the clauses, and of the statements other than a select. -/
def marks : List String := ["JOIN", "WHERE", "ORDER", "LIMIT", "INSERT", "UPDATE", "DELETE", "TRUNCATE"]

end Grammar

def Category.marks : Category → List String
  | .join | .joins => ["JOIN"]
  | .filter => ["WHERE"]
  | .order => ["ORDER"]
  | .count | .page => ["LIMIT"]
  | .item | .items | .statement .select => ["JOIN", "WHERE", "ORDER", "LIMIT"]
  | .statement .insert => ["INSERT"]
  | .statement .update => ["UPDATE", "WHERE", "ORDER", "LIMIT"]
  | .statement .delete => ["DELETE", "WHERE", "ORDER", "LIMIT"]
  | .statement .truncate => ["TRUNCATE"]
  | .list c | .optional c => c.marks
  | .table | .column | .operand | .comparison | .search | .condition | .term | .assignment | .label => []

/-- No marks but these. -/
def Marked (ws : List String) (ts : List Token) : Prop := ∀ w ∈ marks, word w ∈ ts → w ∈ ws

instance (ws : List String) (ts : List Token) : Decidable (Marked ws ts) :=
  inferInstanceAs (Decidable (∀ w ∈ marks, word w ∈ ts → w ∈ ws))

section Marked

variable {ws vs : List String} {ts us : List Token}

theorem Marked.mono (h : Marked ws ts) (hv : ∀ w ∈ ws, w ∈ vs) : Marked vs ts := fun w hw ht => hv w (h w hw ht)

theorem Marked.of_unmarked (h : Marked [] ts) : Marked ws ts := h.mono (List.forall_mem_nil _)

theorem Marked.append (ht : Marked ws ts) (hu : Marked ws us) : Marked ws (ts ++ us) :=
  fun w hw h => (List.mem_append.mp h).elim (ht w hw) (hu w hw)

theorem Marked.union (ht : Marked ws ts) (hu : Marked vs us) : Marked (ws ++ vs) (ts ++ us) :=
  (ht.mono fun _ => List.mem_append_left vs).append (hu.mono fun _ => List.mem_append_right ws)

theorem marked_of_no_word (h : ∀ w, word w ∉ ts) : Marked ws ts := fun w _ ht => absurd ht (h w)

theorem marked_nil : Marked ws [] := marked_of_no_word fun _ => List.not_mem_nil

theorem marked_symbol (s : String) : Marked ws [symbol s] := marked_of_no_word (by simp)

theorem marked_number (n : String) : Marked ws [number n] := marked_of_no_word (by simp)

theorem marked_string (s : String) : Marked ws [string s] := marked_of_no_word (by simp)

theorem marked_word {w : String} (h : w ∉ marks) : Marked ws [word w] := by
  intro v hv ht
  cases List.mem_singleton.mp ht
  exact absurd hv h

theorem marked_ofPath {path : List String} (hp : path ≠ []) : Marked ws (ofPath path) := by
  refine marked_of_no_word fun w hw => ?_
  obtain ⟨name, path, rfl⟩ := List.exists_cons_of_ne_nil hp
  rw [ofPath_cons] at hw
  simp at hw

theorem marked_searchMode (mode : SearchMode) : Marked ws mode.tokens := by
  refine Marked.of_unmarked ?_
  cases mode <;> decide

/-- A word that is one of a few, none of which is a mark. -/
theorem marked_word_of_mem {w : String} (hw : w ∈ vs) (h : ∀ v ∈ vs, v ∉ marks) : Marked ws [word w] :=
  marked_word (h w hw)

theorem marked_update (ht : Marked [] ts) (hu : Marked [] us) :
    Marked ["UPDATE"] ([word "UPDATE"] ++ ts ++ [word "SET"] ++ us) := by
  have hupdate : Marked ["UPDATE"] [word "UPDATE"] := by decide
  exact ((hupdate.append ht.of_unmarked).append (marked_word (by decide))).append hu.of_unmarked

theorem marked_delete (ht : Marked [] ts) : Marked ["DELETE"] ([word "DELETE", word "FROM"] ++ ts) := by
  have hdelete : Marked ["DELETE"] [word "DELETE", word "FROM"] := by decide
  exact hdelete.append ht.of_unmarked

end Marked

theorem Phrase.marked {c : Category} {ts : List Token} (h : Phrase c ts) : Marked c.marks ts := by
  -- by the production: a mark comes in where its clause does, and everything else hands on what its parts have
  induction h with
  | one _ ih | present _ ih | ofColumn _ ih | found _ ih | fromFirst _ ih | listed _ ih => exact ih
  | more _ _ ih ihs => exact (ih.append (marked_symbol _)).append ihs
  | absent | noJoin => exact marked_nil
  | anotherJoin _ _ ih ihs => exact ih.append ihs
  | table hp | path hp => exact marked_ofPath hp
  | bare hw =>
    have hmarks : ∀ w ∈ marks, upper w ∈ keywords := by decide
    exact marked_word fun h => hw.keyword (hmarks _ h)
  | numeral _ => exact marked_number _
  | literal s => exact marked_string s
  | constant hw =>
    have hmarks : ∀ w ∈ marks, upper w ∉ constants := by decide
    exact marked_word fun h => hmarks _ h hw
  | sign => exact marked_symbol _
  | like | notLike => decide
  | search text mode _ ih =>
    have hmatch : Marked [] [word "MATCH", symbol "("] := by decide
    have hagainst : Marked [] [symbol ")", word "AGAINST", symbol "("] := by decide
    have htext := ((hmatch.append ih).append hagainst).append (marked_string text)
    exact (htext.append (marked_searchMode mode)).append (marked_symbol ")")
  | compare _ _ _ ihn ihs ihv => exact (ihn.append ihs).append ihv
  | isNull _ ih => exact (ih.append (by decide)).append (by decide)
  | isNotNull _ ih => exact (ih.append (by decide)).append (by decide)
  | between _ _ _ ihn ihlo ihhi =>
    have hand : Marked [] [word "AND"] := by decide
    have hbetween : Marked [] [word "BETWEEN"] := by decide
    exact (((ihn.append hbetween).append ihlo).append hand).append ihhi
  | group _ ih => exact ((marked_symbol _).append ih).append (marked_symbol _)
  | and _ _ ih ih' => exact (ih.append (marked_word (by decide))).append ih'
  | or _ _ ih ih' => exact (ih.append (marked_word (by decide))).append ih'
  | join hside _ _ _ _ iht ihl ihs ihr =>
    have hjoin : Marked ["JOIN"] [word "JOIN"] := by decide
    have hhead := (marked_word_of_mem hside (by decide)).append hjoin
    have htable := (hhead.append iht.of_unmarked).append (marked_word (w := "ON") (by decide))
    exact ((htable.append ihl.of_unmarked).append ihs.of_unmarked).append ihr.of_unmarked
  | filter _ ih =>
    have hwhere : Marked ["WHERE"] [word "WHERE"] := by decide
    exact hwhere.append ih.of_unmarked
  | term _ hd ih => exact ih.append (marked_word_of_mem hd (by decide))
  | order _ ih =>
    have horder : Marked ["ORDER"] [word "ORDER", word "BY"] := by decide
    exact horder.append ih.of_unmarked
  | count amount =>
    have hlimit : Marked ["LIMIT"] [word "LIMIT"] := by decide
    exact hlimit.append (marked_number _)
  | page offset amount =>
    have hlimit : Marked ["LIMIT"] [word "LIMIT"] := by decide
    exact ((hlimit.append (marked_number _)).append (marked_symbol _)).append (marked_number _)
  | assignment _ _ ihn ihv => exact (ihn.append (marked_symbol _)).append ihv
  | label name =>
    have hname : Marked [] [identifier name] := marked_of_no_word (by simp)
    exact (marked_word (w := "AS") (by decide)).append hname
  | column _ _ ihn iha => exact ihn.of_unmarked.append iha.of_unmarked
  | aggregate hf _ _ ihn iha =>
    have hword : Marked Category.item.marks [word _] := marked_word_of_mem hf (by decide)
    exact (((hword.append (marked_symbol _)).append ihn.of_unmarked).append (marked_symbol _)).append iha.of_unmarked
  | score _ _ ihs iha => exact ihs.of_unmarked.append iha.of_unmarked
  | nested _ _ ih iha => exact (((marked_symbol _).append ih).append (marked_symbol _)).append iha.of_unmarked
  | all => exact marked_symbol _
  | select _ _ _ _ _ _ ihi iht ihj ihf iho ihp =>
    have hselect : Marked (Category.statement .select).marks [word "SELECT"] := by decide
    have hfrom := (hselect.append ihi).append (marked_word (w := "FROM") (by decide))
    have hjoins := (hfrom.append iht.of_unmarked).append (ihj.mono (by decide))
    exact ((hjoins.append (ihf.mono (by decide))).append (iho.mono (by decide))).append (ihp.mono (by decide))
  | insert _ _ _ iht ihc ihv =>
    have hinsert : Marked ["INSERT"] [word "INSERT", word "INTO"] := by decide
    have hvalues : Marked ["INSERT"] [symbol ")", word "VALUES", symbol "("] := by decide
    have hcolumns := ((hinsert.append iht.of_unmarked).append (marked_symbol "(")).append ihc.of_unmarked
    exact ((hcolumns.append hvalues).append ihv.of_unmarked).append (marked_symbol _)
  | update _ _ _ _ _ iht iha ihf iho ihc => exact (((marked_update iht iha).union ihf).union iho).union ihc
  | delete _ _ _ _ iht ihf iho ihc => exact (((marked_delete iht).union ihf).union iho).union ihc
  | truncate _ ih =>
    have htruncate : Marked ["TRUNCATE"] [word "TRUNCATE"] := by decide
    exact htruncate.append ih.of_unmarked

/-! ## Parts of names -/

namespace Token

/-- The words before the name of a table. -/
def tableWords : List String := ["FROM", "INTO", "UPDATE", "JOIN", "TRUNCATE"]

/-- How many parts a name may have after a word. After AGAINST nothing comes but a parenthesis. -/
def wordRoom (w : String) : Nat :=
  if w = "AGAINST" then 0 else if w = "AS" then 1 else if w ∈ tableWords then 2 else 3

/-- How many parts a name may have after a token, or may still have if the token is a part of it, when
there was room for `n` of them before. -/
def room (n : Nat) : Token → Nat
  | word w => wordRoom w
  | identifier _ => n - 1
  | symbol s => if s = "." then n else 3
  | number _ | string _ => 3

/-- A part of a name takes up room, and so does a text, which comes after no word that leaves none. -/
def takesRoom : Token → Bool
  | identifier _ | string _ => true
  | word _ | number _ | symbol _ => false

/-- There is room for all tokens, one after the other, if there is room for `n` parts at first. -/
def Fits : Nat → List Token → Prop
  | _, [] => True
  | n, t :: ts => (t.takesRoom = true → 0 < n) ∧ Fits (t.room n) ts

instance decidableFits : (n : Nat) → (ts : List Token) → Decidable (Fits n ts)
  | _, [] => .isTrue trivial
  | n, t :: ts => @instDecidableAnd _ _ inferInstance (decidableFits (t.room n) ts)

/-- A table in a database, and a column of it; but a new name has one part. -/
example : Fits 0 [word "FROM", identifier "d", symbol ".", identifier "t"] ∧
    Fits 3 [identifier "d", symbol ".", identifier "t", symbol ".", identifier "c"] ∧
    ¬ Fits 3 [word "AS", identifier "a", symbol ".", identifier "b"] := by decide

section Fits

variable {n m : Nat} {t : Token} {ts us : List Token} {w s : String}

theorem wordRoom_le (w : String) : wordRoom w ≤ 3 := by
  unfold wordRoom
  split
  · decide
  · split
    · decide
    · split <;> decide

theorem room_le (h : n ≤ 3) (t : Token) : t.room n ≤ 3 := by
  cases t with
  | word w => exact wordRoom_le w
  | identifier _ => exact Nat.le_trans (Nat.sub_le ..) h
  | symbol s =>
    by_cases hs : s = "."
    · rwa [room, if_pos hs]
    · exact Nat.le_of_eq (if_neg hs)
  | number _ | string _ => exact Nat.le_refl _

theorem room_mono (h : n ≤ m) (t : Token) : t.room n ≤ t.room m := by
  cases t with
  | identifier _ => exact Nat.sub_le_sub_right h 1
  | symbol s =>
    by_cases hs : s = "."
    · simpa only [room, if_pos hs] using h
    · simp only [room, if_neg hs, Nat.le_refl]
  | word _ | number _ | string _ => exact Nat.le_refl _

theorem Fits.mono (hf : Fits n ts) (h : n ≤ m) : Fits m ts := by
  induction ts generalizing n m with
  | nil => trivial
  | cons t ts ih => exact ⟨fun ht => Nat.lt_of_lt_of_le (hf.1 ht) h, ih hf.2 (room_mono h t)⟩

/-- What comes after some tokens fits into the room that they leave. -/
theorem fits_append_iff : Fits n (ts ++ us) ↔ Fits n ts ∧ Fits (ts.foldl room n) us := by
  induction ts generalizing n with
  | nil => exact (iff_of_eq (true_and _)).symm
  | cons t ts ih =>
    rw [List.cons_append, Fits, Fits, ih, List.foldl_cons, and_assoc]

theorem Fits.append (ht : Fits n ts) (hu : Fits 0 us) : Fits n (ts ++ us) :=
  fits_append_iff.mpr ⟨ht, hu.mono (Nat.zero_le _)⟩

theorem foldl_room_le (h : n ≤ 3) (ts : List Token) : ts.foldl room n ≤ 3 := by
  induction ts generalizing n with
  | nil => exact h
  | cons t ts ih => exact ih (room_le h t)

/-- There is never more room than at first, so whatever stands in the middle fits on its own. -/
theorem Fits.middle (h : Fits 3 us) (hts : ts <:+: us) : Fits 3 ts := by
  obtain ⟨lead, rest, rfl⟩ := hts
  have hmiddle := (fits_append_iff.mp (fits_append_iff.mp h).1).2
  exact hmiddle.mono (foldl_room_le (Nat.le_refl 3) lead)

theorem fits_word (m : Nat) (hw : m ≤ wordRoom w) (h : Fits m ts) : Fits n (word w :: ts) := ⟨nofun, h.mono hw⟩

theorem fits_symbol (hs : s ≠ ".") (h : Fits 3 ts) : Fits n (symbol s :: ts) := by
  refine ⟨nofun, ?_⟩
  rwa [room, if_neg hs]

theorem fits_number (h : Fits 3 ts) : Fits n (number s :: ts) := ⟨nofun, h⟩

theorem fits_string (hn : 0 < n) (h : Fits 3 ts) : Fits n (string s :: ts) := ⟨fun _ => hn, h⟩

theorem fits_identifier_iff : Fits n (identifier s :: ts) ↔ 0 < n ∧ Fits (n - 1) ts :=
  ⟨fun h => ⟨h.1 rfl, h.2⟩, fun h => ⟨fun _ => h.1, h.2⟩⟩

theorem fits_dot_iff : Fits n (symbol "." :: ts) ↔ Fits n ts := ⟨fun h => h.2, fun h => ⟨nofun, h⟩⟩

theorem fits_dotted_iff {path : List String} :
    Fits n (path.flatMap fun s => [symbol ".", identifier s]) ↔ path.length ≤ n := by
  induction path generalizing n with
  | nil => exact iff_of_true trivial (Nat.zero_le n)
  | cons s path ih =>
    rw [List.flatMap_cons, List.cons_append, List.singleton_append, fits_dot_iff, fits_identifier_iff, ih,
      List.length_cons]
    omega

/-- A name fits if it has no more parts than there is room for. -/
theorem fits_ofPath_iff {path : List String} : Fits n (ofPath path) ↔ path.length ≤ n := by
  cases path with
  | nil => exact iff_of_true trivial (Nat.zero_le n)
  | cons s path =>
    rw [ofPath_cons, fits_identifier_iff, fits_dotted_iff, List.length_cons]
    omega

theorem fits_searchMode (mode : SearchMode) : Fits n mode.tokens := by
  cases mode <;> simp [SearchMode.tokens, Fits, room, takesRoom]

end Fits

end Token

/-- The room that a phrase of a category asks for; none, if it begins with a word of its own. -/
def Category.room : Category → Nat
  | .table => 2
  | .column | .operand | .condition | .term | .assignment | .item | .items => 3
  | .list c | .optional c => c.room
  | .comparison | .search | .join | .joins | .filter | .order | .count | .page | .label | .statement _ => 0

theorem Category.room_le (c : Category) : c.room ≤ 3 := by
  induction c with
  | list c ih | optional c ih => exact ih
  | statement kind => exact Nat.zero_le _
  | _ => decide

/-- After a comparison there may be any name. -/
theorem Phrase.fits_comparison {n : Nat} {ts us : List Token} (h : Phrase .comparison ts) (hu : Fits 3 us) :
    Fits n (ts ++ us) := by
  cases h with
  | sign hs =>
    have hdot : ∀ s ∈ comparisons, s ≠ "." := by decide
    exact fits_symbol (hdot _ hs) hu
  | like => exact fits_word 3 (by decide) hu
  | notLike => exact fits_word 0 (by decide) (fits_word 3 (by decide) hu)

theorem Phrase.fits {c : Category} {ts : List Token} (h : Phrase c ts) : Fits c.room ts := by
  -- by the production: its parts are looked through from the left, and what comes before a name leaves room for it
  induction h with
  | one _ ih | present _ ih | ofColumn _ ih | listed _ ih => exact ih
  | found _ ih | fromFirst _ ih => exact ih.mono (Nat.zero_le _)
  | absent | noJoin => trivial
  | more _ _ ih ihs =>
    rw [List.append_assoc]
    exact ih.append (fits_symbol (by decide) (ihs.mono (Category.room_le _)))
  | anotherJoin _ _ ih ihs => exact ih.append ihs
  | table hp hl | path hp hl => exact fits_ofPath_iff.mpr hl
  | bare _ | constant _ => exact fits_word 0 (Nat.zero_le _) trivial
  | numeral _ => exact fits_number trivial
  | literal s => exact fits_string (by decide) trivial
  | sign hs => exact fits_comparison (.sign hs) (trivial : Fits 3 [])
  | like => exact fits_comparison .like (trivial : Fits 3 [])
  | notLike => exact fits_comparison .notLike (trivial : Fits 3 [])
  | search text mode _ ih =>
    simp only [List.append_assoc, List.cons_append, List.nil_append]
    have hmode : Fits 3 (mode.tokens ++ [symbol ")"]) :=
      (fits_searchMode mode).append (fits_symbol (by decide) trivial)
    -- the parenthesis after AGAINST makes room for the text
    have hagainst : Fits 3 (word "AGAINST" :: symbol "(" :: string text :: (mode.tokens ++ [symbol ")"])) :=
      fits_word 0 (by decide) (fits_symbol (by decide) (fits_string (by decide) hmode))
    exact fits_word 0 (by decide) (fits_symbol (by decide) (ih.append (fits_symbol (by decide) hagainst)))
  | compare _ hs _ ihn _ ihv =>
    rw [List.append_assoc]
    exact ihn.append (hs.fits_comparison ihv)
  | isNull _ ih =>
    rw [List.append_assoc]
    exact ih.append (by decide)
  | isNotNull _ ih =>
    rw [List.append_assoc]
    exact ih.append (by decide)
  | between _ _ _ ihn ihlo ihhi =>
    simp only [List.append_assoc, List.cons_append, List.nil_append]
    exact ihn.append (fits_word 3 (by decide) (ihlo.append (fits_word 3 (by decide) ihhi)))
  | group _ ih => exact fits_symbol (by decide) (ih.append (fits_symbol (by decide) trivial))
  | and _ _ ih ih' | or _ _ ih ih' =>
    rw [List.append_assoc]
    exact ih.append (fits_word 3 (by decide) ih')
  | join hside _ _ hs _ iht ihl _ ihr =>
    simp only [List.append_assoc, List.cons_append, List.nil_append]
    exact fits_word 0 (Nat.zero_le _) (fits_word 2 (by decide) (iht.append (fits_word 3 (by decide)
      (ihl.append (hs.fits_comparison ihr)))))
  | filter _ ih => exact fits_word 3 (by decide) ih
  | term _ hd ih => exact ih.append (fits_word 0 (Nat.zero_le _) trivial)
  | order _ ih => exact fits_word 0 (by decide) (fits_word 3 (by decide) ih)
  | count amount => exact fits_word 0 (by decide) (fits_number trivial)
  | page offset amount =>
    exact fits_word 0 (by decide) (fits_number (fits_symbol (by decide) (fits_number trivial)))
  | assignment _ _ ihn ihv =>
    rw [List.append_assoc]
    exact ihn.append (fits_symbol (by decide) ihv)
  | label name => exact fits_word 1 (by decide) (fits_identifier_iff.mpr ⟨by decide, trivial⟩)
  | column _ _ ihn iha => exact ihn.append iha
  | aggregate hf _ _ ihn iha =>
    simp only [List.append_assoc, List.cons_append, List.nil_append]
    exact fits_word 0 (Nat.zero_le _) (fits_symbol (by decide) (ihn.append (fits_symbol (by decide) (iha.mono (by decide)))))
  | score _ _ ihs iha => exact (ihs.append iha).mono (by decide)
  | nested _ _ ih iha =>
    simp only [List.append_assoc, List.cons_append, List.nil_append]
    exact fits_symbol (by decide) ((ih.append (fits_symbol (by decide) (iha.mono (by decide)))).mono (by decide))
  | all => exact fits_symbol (by decide) trivial
  | select _ _ _ _ _ _ ihi iht ihj ihf iho ihp =>
    simp only [List.append_assoc, List.cons_append, List.nil_append]
    exact fits_word 3 (by decide) (ihi.append (fits_word 2 (by decide) (iht.append
      (ihj.append (ihf.append (iho.append ihp))))))
  | insert _ _ _ iht ihc ihv =>
    simp only [List.append_assoc, List.cons_append, List.nil_append]
    exact fits_word 0 (by decide) (fits_word 2 (by decide) (iht.append (fits_symbol (by decide) (ihc.append
      (fits_symbol (by decide) (fits_word 0 (by decide) (fits_symbol (by decide) (ihv.append
        (fits_symbol (by decide) trivial)))))))))
  | update _ _ _ _ _ iht iha ihf iho ihc =>
    simp only [List.append_assoc, List.cons_append, List.nil_append]
    exact fits_word 2 (by decide) (iht.append (fits_word 3 (by decide) (iha.append (ihf.append (iho.append ihc)))))
  | delete _ _ _ _ iht ihf iho ihc =>
    simp only [List.append_assoc, List.cons_append, List.nil_append]
    exact fits_word 0 (by decide) (fits_word 2 (by decide) (iht.append (ihf.append (iho.append ihc))))
  | truncate _ ih => exact fits_word 2 (by decide) ih

/-! ## Statements -/

theorem Phrase.head_statement {kind : StatementKind} {ts : List Token} (h : Phrase (.statement kind) ts) :
    ts.head? = some (word kind.text) := by
  cases h <;> rfl

/-- A LIMIT that stands in no front part is the clause at the end. -/
theorem exists_append_count {ws : List String} {front count : List Token} (hfront : Marked ws front) (hw : "LIMIT" ∉ ws)
    (hcount : Phrase (.optional .count) count) (hl : word "LIMIT" ∈ front ++ count) :
    ∃ us n, front ++ count = us ++ [word "LIMIT", number n] := by
  rcases List.mem_append.mp hl with hl | hl
  · exact absurd (hfront "LIMIT" (by decide) hl) hw
  · cases hcount with
    | absent => cases hl
    | present h =>
      cases h with
      | count amount => exact ⟨front, _, rfl⟩

theorem Phrase.ends_with_count {kind : StatementKind} (hk : kind = .update ∨ kind = .delete) {ts : List Token}
    (h : Phrase (.statement kind) ts) (hl : word "LIMIT" ∈ ts) : ∃ us n, ts = us ++ [word "LIMIT", number n] := by
  cases h with
  | update ht ha hf ho hc =>
    have hfront := ((marked_update ht.marked ha.marked).union hf.marked).union ho.marked
    exact exists_append_count hfront (by decide) hc hl
  | delete ht hf ho hc =>
    have hfront := ((marked_delete ht.marked).union hf.marked).union ho.marked
    exact exists_append_count hfront (by decide) hc hl
  | select | insert | truncate => rcases hk with hk | hk <;> cases hk

end SqlClauses
