/-
  SqlClauses.Proofs.Lexer — how a server cuts a statement into tokens.

  The lexer knows nothing of how statements are written. A backtick opens an identifier
  that ends at the first backtick that is not doubled; a single quote opens a string in
  which two quotes stand for one and a backslash for the character after it. What is left
  is words, numbers and symbols, the longest that fits, with spaces between them. Any
  other character fails, and so does a quote that is never closed.

  A token ends where the text after it cannot be part of it. The laws here say so for each
  kind of token and any text after it: `readIdentifier_double`, `readString_body`,
  `next_word` and `next_numeral`.

  Main statement: `lexChars_cons`, one token after the other.
-/

import SqlClauses.Identifier
import SqlClauses.Literal

namespace SqlClauses

inductive Token where
  | word (s : String)
  | number (s : String)
  | identifier (s : String)
  | string (s : String)
  | symbol (s : String)
  deriving DecidableEq, Repr

namespace Lexer

open Identifier (tick double)

/-- What is left of an identifier after its opening backtick: the name, and the text after it. -/
def readIdentifier : List Char → Option (List Char × List Char)
  | [] => none
  | [c] => if c = tick then some ([], []) else none
  | c :: d :: r =>
    if c = tick then
      if d = tick then (readIdentifier r).map fun p => (tick :: p.1, p.2) else some ([], d :: r)
    else (readIdentifier (d :: r)).map fun p => (c :: p.1, p.2)

/-- What is left of a string after its opening quote: the text it stands for, and the text after it. -/
def readString : List Char → Option (List Char × List Char)
  | [] => none
  | [c] => if c = '\'' then some ([], []) else none
  | c :: d :: r =>
    if c = '\\' then (readString r).map fun p => (d :: p.1, p.2)
    else if c = '\'' then
      if d = '\'' then (readString r).map fun p => ('\'' :: p.1, p.2) else some ([], d :: r)
    else (readString (d :: r)).map fun p => (c :: p.1, p.2)

def isWordChar (c : Char) : Bool := c.isAlphanum || c == '_'

/-- Digits, and a fraction if a point with a digit after it follows. -/
def readNumber (cs : List Char) : List Char × List Char :=
  match cs.dropWhile Char.isDigit with
  | '.' :: d :: r =>
    if d.isDigit then (cs.takeWhile Char.isDigit ++ '.' :: (d :: r).takeWhile Char.isDigit, (d :: r).dropWhile Char.isDigit)
    else (cs.takeWhile Char.isDigit, '.' :: d :: r)
  | r => (cs.takeWhile Char.isDigit, r)

/-- The longest symbol that fits. -/
def readSymbol : List Char → Option (String × List Char)
  | '<' :: '=' :: '>' :: r => some ("<=>", r)
  | '<' :: '=' :: r => some ("<=", r)
  | '<' :: '>' :: r => some ("<>", r)
  | '<' :: r => some ("<", r)
  | '>' :: '=' :: r => some (">=", r)
  | '>' :: r => some (">", r)
  | '!' :: '=' :: r => some ("!=", r)
  | '=' :: r => some ("=", r)
  | '(' :: r => some ("(", r)
  | ')' :: r => some (")", r)
  | ',' :: r => some (",", r)
  | '.' :: r => some (".", r)
  | '*' :: r => some ("*", r)
  | _ => none

/-- The token that starts with the character, and the text after it. -/
def next (c : Char) (r : List Char) : Option (Token × List Char) :=
  if c = tick then (readIdentifier r).map fun p => (.identifier (String.ofList p.1), p.2)
  else if c = '\'' then (readString r).map fun p => (.string (String.ofList p.1), p.2)
  else if isWordChar c then
    -- a run of letters and digits is a number only if there is no letter in it
    if ((c :: r).takeWhile isWordChar).all Char.isDigit then
      some (.number (String.ofList (readNumber (c :: r)).1), (readNumber (c :: r)).2)
    else some (.word (String.ofList ((c :: r).takeWhile isWordChar)), (c :: r).dropWhile isWordChar)
  else if c = '-' then
    if r.head?.any Char.isDigit then
      some (.number (String.ofList ('-' :: (readNumber r).1)), (readNumber r).2)
    else none
  else (readSymbol (c :: r)).map fun p => (.symbol p.1, p.2)

/-! ## Every token takes up text -/

theorem length_readIdentifier {cs s r : List Char} (h : readIdentifier cs = some (s, r)) : r.length < cs.length := by
  induction cs using readIdentifier.induct generalizing s r with
  | case1 => cases h
  | case2 =>
    simp only [readIdentifier, if_true, Option.some.injEq, Prod.mk.injEq] at h
    simp [← h.2]
  | case3 c hc => simp [readIdentifier, hc] at h
  | case4 r' ih =>
    simp only [readIdentifier, if_true, Option.map_eq_some_iff, Prod.exists, Prod.mk.injEq] at h
    obtain ⟨s', r'', hr, -, rfl⟩ := h
    have := ih hr
    simp only [List.length_cons]
    omega
  | case5 d r' hd =>
    simp only [readIdentifier, if_true, hd, if_false, Option.some.injEq, Prod.mk.injEq] at h
    simp [← h.2]
  | case6 c d r' hc ih =>
    simp only [readIdentifier, hc, if_false, Option.map_eq_some_iff, Prod.exists, Prod.mk.injEq] at h
    obtain ⟨s', r'', hr, -, rfl⟩ := h
    have := ih hr
    simp only [List.length_cons] at *
    omega

theorem length_readString {cs s r : List Char} (h : readString cs = some (s, r)) : r.length < cs.length := by
  induction cs using readString.induct generalizing s r with
  | case1 => cases h
  | case2 =>
    simp only [readString, if_true, Option.some.injEq, Prod.mk.injEq] at h
    simp [← h.2]
  | case3 c hc => simp [readString, hc] at h
  | case4 d r' ih =>
    simp only [readString, if_true, Option.map_eq_some_iff, Prod.exists, Prod.mk.injEq] at h
    obtain ⟨s', r'', hr, -, rfl⟩ := h
    have := ih hr
    simp only [List.length_cons]
    omega
  | case5 r' hq ih =>
    simp only [readString, hq, if_true, if_false, Option.map_eq_some_iff, Prod.exists, Prod.mk.injEq] at h
    obtain ⟨s', r'', hr, -, rfl⟩ := h
    have := ih hr
    simp only [List.length_cons]
    omega
  | case6 d r' hq hd =>
    simp only [readString, hq, hd, if_true, if_false, Option.some.injEq, Prod.mk.injEq] at h
    simp [← h.2]
  | case7 c d r' hb hq ih =>
    simp only [readString, hb, hq, if_false, Option.map_eq_some_iff, Prod.exists, Prod.mk.injEq] at h
    obtain ⟨s', r'', hr, -, rfl⟩ := h
    have := ih hr
    simp only [List.length_cons] at *
    omega

theorem length_dropWhile_le {p : Char → Bool} (cs : List Char) : (cs.dropWhile p).length ≤ cs.length :=
  (List.dropWhile_suffix p).length_le

theorem length_readNumber {c : Char} (r : List Char) (h : c.isDigit = true) :
    (readNumber (c :: r)).2.length < (c :: r).length := by
  have hd : ((c :: r).dropWhile Char.isDigit).length < (c :: r).length := by
    rw [List.dropWhile_cons_of_pos h]
    exact Nat.lt_succ_of_le (length_dropWhile_le r)
  unfold readNumber
  split
  · next d r' hr =>
    rw [hr] at hd
    split
    · have := length_dropWhile_le (p := Char.isDigit) (d :: r')
      simp only [List.length_cons] at *
      omega
    · exact hd
  · exact hd

theorem length_readSymbol {cs r : List Char} {s : String} (h : readSymbol cs = some (s, r)) : r.length < cs.length := by
  unfold readSymbol at h
  split at h <;> cases h <;> simp only [List.length_cons] <;> omega

theorem length_next {c : Char} {r r' : List Char} {t : Token} (h : next c r = some (t, r')) :
    r'.length < (c :: r).length := by
  unfold next at h
  split at h
  · obtain ⟨p, hp, he⟩ := Option.map_eq_some_iff.mp h
    cases he
    exact Nat.lt_succ_of_lt (length_readIdentifier hp)
  split at h
  · obtain ⟨p, hp, he⟩ := Option.map_eq_some_iff.mp h
    cases he
    exact Nat.lt_succ_of_lt (length_readString hp)
  split at h
  · next hw =>
    split at h
    · next hd =>
      cases h
      rw [List.takeWhile_cons_of_pos hw, List.all_cons, Bool.and_eq_true] at hd
      exact length_readNumber r hd.1
    · cases h
      rw [List.dropWhile_cons_of_pos hw]
      exact Nat.lt_succ_of_le (length_dropWhile_le r)
  split at h
  · split at h
    · next hd =>
      cases h
      cases r with
      | nil => cases hd
      | cons d r => exact Nat.lt_succ_of_lt (length_readNumber r hd)
    · cases h
  · obtain ⟨p, hp, he⟩ := Option.map_eq_some_iff.mp h
    cases he
    exact length_readSymbol hp

/-! ## The lexer -/

/-- The tokens of a text, if all of it can be read. -/
def lexChars (cs : List Char) : Option (List Token) :=
  match cs with
  | [] => some []
  | c :: r =>
    if c = ' ' then lexChars r
    else
      match _h : next c r with
      | none => none
      | some (t, r') => (lexChars r').map (t :: ·)
termination_by cs.length
decreasing_by
  · exact Nat.lt_succ_self _
  · exact length_next ‹_›

def lex (sql : String) : Option (List Token) := lexChars sql.toList

@[simp] theorem lexChars_nil : lexChars [] = some [] := by
  rw [lexChars]

theorem lexChars_space (r : List Char) : lexChars (' ' :: r) = lexChars r := by
  rw [lexChars]
  exact if_pos rfl

theorem lexChars_cons {c : Char} {r r' : List Char} {t : Token} (hc : c ≠ ' ') (h : next c r = some (t, r')) :
    lexChars (c :: r) = (lexChars r').map (t :: ·) := by
  rw [lexChars, if_neg hc]
  split
  · next hn =>
    rw [h] at hn
    cases hn
  · next t' r'' hs =>
    rw [h] at hs
    cases hs
    rfl

/-! ## Where quoted texts end -/

theorem readIdentifier_cons {c : Char} (hc : c ≠ tick) {cs : List Char} (hcs : cs ≠ []) :
    readIdentifier (c :: cs) = (readIdentifier cs).map fun p => (c :: p.1, p.2) := by
  obtain ⟨d, r, rfl⟩ := List.exists_cons_of_ne_nil hcs
  rw [readIdentifier, if_neg hc]

theorem readIdentifier_double (s : List Char) {r : List Char} (hr : r.head? ≠ some tick) :
    readIdentifier (double s ++ tick :: r) = some (s, r) := by
  induction s with
  | nil =>
    cases r with
    | nil => rfl
    | cons d r =>
      have hd : d ≠ tick := by simpa using hr
      simp [readIdentifier, hd]
  | cons c s ih =>
    by_cases hc : c = tick
    · subst hc
      simp [Identifier.double_cons_tick, readIdentifier, ih]
    · rw [Identifier.double_cons hc, List.cons_append, readIdentifier_cons hc (by simp), ih]
      rfl

theorem readString_cons {c : Char} (hb : c ≠ '\\') (hq : c ≠ '\'') (cs : List Char) :
    readString (c :: cs) = (readString cs).map fun p => (c :: p.1, p.2) := by
  cases cs with
  | nil => exact if_neg hq
  | cons d r => rw [readString, if_neg hb, if_neg hq]

/-- The text of a literal is read character by character, and then what follows as if it stood there alone. -/
theorem readString_body_append (s cs : List Char) :
    readString (Literal.body s ++ cs) = (readString cs).map fun p => (s ++ p.1, p.2) := by
  induction s with
  | nil => exact Option.map_id'.symm
  | cons c s ih =>
    rw [Literal.body_cons, List.append_assoc]
    unfold Literal.charText
    split
    · next hq =>
      subst hq
      simp [readString, ih, Function.comp_def]
    · next hq =>
      split
      · next hb =>
        subst hb
        simp [readString, ih, Function.comp_def]
      · next hb =>
        rw [List.singleton_append, readString_cons hb hq, ih, Option.map_map]
        rfl

/-- A quote ends the string unless another one follows. -/
theorem readString_quote_iff {r : List Char} : readString ('\'' :: r) = some ([], r) ↔ r.head? ≠ some '\'' := by
  cases r with
  | nil => simp [readString]
  | cons d r =>
    by_cases hd : d = '\''
    · simp [readString, hd]
    · simp [readString, hd]

theorem readString_body (s : List Char) {r : List Char} (hr : r.head? ≠ some '\'') :
    readString (Literal.body s ++ '\'' :: r) = some (s, r) := by
  rw [readString_body_append, readString_quote_iff.mpr hr, Option.map_some, List.append_nil]

/-! ## Where words and numbers end -/

section Runs

variable {α : Type} {p : α → Bool} {cs r : List α}

theorem takeWhile_append_exact (h : ∀ c ∈ cs, p c = true) (hr : ∀ c, r.head? = some c → p c = false) :
    (cs ++ r).takeWhile p = cs := by
  rw [List.takeWhile_append_of_pos h]
  cases r with
  | nil => simp
  | cons c r => simp [hr c rfl]

theorem dropWhile_append_exact (h : ∀ c ∈ cs, p c = true) (hr : ∀ c, r.head? = some c → p c = false) :
    (cs ++ r).dropWhile p = r := by
  rw [List.dropWhile_append_of_pos h]
  cases r with
  | nil => rfl
  | cons c r => simp [hr c rfl]

end Runs

/-- A number as it is written without a sign: digits, and maybe a point and more digits. -/
structure IsUnsigned (cs : List Char) : Prop where
  parts : ∃ ds f, cs = ds ++ f ∧ ds ≠ [] ∧ (∀ d ∈ ds, d.isDigit = true) ∧
    (f = [] ∨ ∃ fs, f = '.' :: fs ∧ fs ≠ [] ∧ ∀ d ∈ fs, d.isDigit = true)

/-- The same with or without a minus sign. -/
def IsNumeral (cs : List Char) : Prop := IsUnsigned cs ∨ ∃ u, cs = '-' :: u ∧ IsUnsigned u

/-- Characters that no token goes on with. -/
def breakChars : List Char := [' ', ',', ')', '(']

/-- The text is at its end, or goes on with such a character. -/
def Breaks (r : List Char) : Prop := ∀ c, r.head? = some c → c ∈ breakChars

theorem of_mem_breakChars {c : Char} (h : c ∈ breakChars) :
    isWordChar c = false ∧ c.isDigit = false ∧ c ≠ '.' ∧ c ≠ tick ∧ c ≠ '\'' := by
  simp only [breakChars, List.mem_cons, List.not_mem_nil, or_false] at h
  rcases h with rfl | rfl | rfl | rfl <;> decide

theorem isWordChar_of_isDigit {c : Char} (h : c.isDigit = true) : isWordChar c = true := by
  simp [isWordChar, Char.isAlphanum, h]

theorem ne_of_isWordChar {c : Char} (h : isWordChar c = true) : c ≠ ' ' ∧ c ≠ tick ∧ c ≠ '\'' := by
  refine ⟨?_, ?_, ?_⟩ <;>
  · intro hc
    subst hc
    revert h
    decide

theorem readNumber_append {cs r : List Char} (h : IsUnsigned cs) (hr : Breaks r) : readNumber (cs ++ r) = (cs, r) := by
  have hdr (c : Char) (hc : r.head? = some c) : c.isDigit = false := (of_mem_breakChars (hr c hc)).2.1
  obtain ⟨ds, f, rfl, -, hd, rfl | ⟨fs, rfl, hne, hf⟩⟩ := h.parts
  · rw [List.append_nil]
    unfold readNumber
    rw [takeWhile_append_exact hd hdr, dropWhile_append_exact hd hdr]
    split
    · next d r' =>
      exact absurd rfl (of_mem_breakChars (hr '.' rfl)).2.2.1
    · rfl
  · obtain ⟨d, fs, rfl⟩ := List.exists_cons_of_ne_nil hne
    have hpoint : ∀ c, ('.' :: d :: fs ++ r).head? = some c → c.isDigit = false := by
      intro c hc
      cases hc
      rfl
    unfold readNumber
    rw [List.append_assoc, takeWhile_append_exact hd hpoint, dropWhile_append_exact hd hpoint]
    show (if d.isDigit then (ds ++ '.' :: (d :: fs ++ r).takeWhile Char.isDigit, (d :: fs ++ r).dropWhile Char.isDigit)
      else _) = _
    rw [if_pos (hf d (List.mem_cons_self ..)), takeWhile_append_exact hf hdr, dropWhile_append_exact hf hdr]

/-! ## One token before a break -/

theorem lexChars_word {w r : List Char} (hne : w ≠ []) (hw : ∀ c ∈ w, isWordChar c = true)
    (hd : w.all Char.isDigit = false) (hr : Breaks r) :
    lexChars (w ++ r) = (lexChars r).map (.word (String.ofList w) :: ·) := by
  have hwr (c : Char) (hc : r.head? = some c) : isWordChar c = false := (of_mem_breakChars (hr c hc)).1
  obtain ⟨c, w, rfl⟩ := List.exists_cons_of_ne_nil hne
  have hc := hw c (List.mem_cons_self ..)
  obtain ⟨hs, ht, hq⟩ := ne_of_isWordChar hc
  rw [List.cons_append]
  refine lexChars_cons hs ?_
  unfold next
  rw [if_neg ht, if_neg hq, if_pos hc, ← List.cons_append, takeWhile_append_exact hw hwr,
    dropWhile_append_exact hw hwr, if_neg (by simp [hd])]

theorem lexChars_unsigned {cs r : List Char} (h : IsUnsigned cs) (hr : Breaks r) :
    lexChars (cs ++ r) = (lexChars r).map (.number (String.ofList cs) :: ·) := by
  have hread := readNumber_append h hr
  have hdigits : ((cs ++ r).takeWhile isWordChar).all Char.isDigit = true := by
    obtain ⟨ds, f, rfl, -, hd, hf⟩ := h.parts
    have hb : ∀ c, (f ++ r).head? = some c → isWordChar c = false := by
      intro c hc
      rcases hf with rfl | ⟨fs, rfl, -, -⟩
      · exact (of_mem_breakChars (hr c hc)).1
      · cases hc
        rfl
    rw [List.append_assoc, takeWhile_append_exact (fun d hm => isWordChar_of_isDigit (hd d hm)) hb]
    exact List.all_eq_true.mpr hd
  obtain ⟨ds, f, rfl, hne, hd, -⟩ := h.parts
  obtain ⟨c, ds, rfl⟩ := List.exists_cons_of_ne_nil hne
  have hc := isWordChar_of_isDigit (hd c (List.mem_cons_self ..))
  obtain ⟨hs, ht, hq⟩ := ne_of_isWordChar hc
  simp only [List.cons_append] at hread hdigits ⊢
  refine lexChars_cons hs ?_
  unfold next
  rw [if_neg ht, if_neg hq, if_pos hc, if_pos hdigits, hread]

theorem lexChars_numeral {cs r : List Char} (h : IsNumeral cs) (hr : Breaks r) :
    lexChars (cs ++ r) = (lexChars r).map (.number (String.ofList cs) :: ·) := by
  rcases h with h | ⟨u, rfl, h⟩
  · exact lexChars_unsigned h hr
  · rw [List.cons_append]
    refine lexChars_cons (by decide) ?_
    have hdigit : (u ++ r).head?.any Char.isDigit = true := by
      obtain ⟨ds, f, rfl, hne, hd, -⟩ := h.parts
      obtain ⟨c, ds, rfl⟩ := List.exists_cons_of_ne_nil hne
      exact hd c (List.mem_cons_self ..)
    unfold next
    rw [if_neg (by decide), if_neg (by decide), if_neg (by decide), if_pos rfl, if_pos hdigit, readNumber_append h hr]

theorem lexChars_identifier (s : List Char) {r : List Char} (hr : r.head? ≠ some tick) :
    lexChars (Identifier.wrap s ++ r) = (lexChars r).map (.identifier (String.ofList s) :: ·) := by
  rw [Identifier.wrap, List.append_assoc, List.cons_append, List.singleton_append]
  refine lexChars_cons (by decide) ?_
  unfold next
  rw [if_pos rfl, readIdentifier_double s hr]
  rfl

theorem lexChars_string (s : List Char) {r : List Char} (hr : r.head? ≠ some '\'') :
    lexChars ('\'' :: Literal.body s ++ ['\''] ++ r) = (lexChars r).map (.string (String.ofList s) :: ·) := by
  rw [List.append_assoc, List.cons_append, List.singleton_append]
  refine lexChars_cons (by decide) ?_
  unfold next
  rw [if_neg (by decide), if_pos rfl, readString_body s hr]
  rfl

theorem head_of_readSymbol {c : Char} {cs : List Char} {p : String × List Char} (h : readSymbol (c :: cs) = some p) :
    c ≠ ' ' ∧ c ≠ tick ∧ c ≠ '\'' ∧ isWordChar c = false ∧ c ≠ '-' := by
  unfold readSymbol at h
  split at h
  case h_14 => cases h
  all_goals
    next hc =>
      cases hc
      decide

theorem lexChars_of_readSymbol {cs r : List Char} {s : String} (h : readSymbol cs = some (s, r)) :
    lexChars cs = (lexChars r).map (.symbol s :: ·) := by
  cases cs with
  | nil => cases h
  | cons c cs =>
    obtain ⟨hs, ht, hq, hw, hm⟩ := head_of_readSymbol h
    refine lexChars_cons hs ?_
    unfold next
    rw [if_neg ht, if_neg hq, if_neg (by simp [hw]), if_neg hm, h]
    rfl

end Lexer

end SqlClauses
