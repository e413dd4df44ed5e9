/-
  SqlClauses.Proofs.Reading — texts that read as tokens whatever comes after them.

  A piece of a statement reads as some tokens if the lexer, started at it, gives those
  tokens and then those of the text after the piece. For most pieces the text after it must
  begin with a character that ends a token (`Breaks`); for a name it only must not begin with
  a backtick (`NoTick`); a piece that ends in a space, a comma or a parenthesis is `Closed`,
  and anything may follow. Pieces are put together by these conditions alone, without looking
  into them again.

  Main statements: `Reads.append` and `Closed.append`, one piece after another;
  `Reads.intercalate`, pieces between separators; `Reads.lex`, a whole text.
-/

import Mathlib.Data.List.Forall2
import SqlClauses.Proofs.Lexer

namespace SqlClauses.Lexer

/-- `s` reads as `ts` before any text with the property `F`. -/
def Reads (F : List Char → Prop) (s : String) (ts : List Token) : Prop :=
  ∀ r, F r → lexChars (s.toList ++ r) = (lexChars r).map (ts ++ ·)

/-- `s` reads as `ts` before any text at all. -/
def Closed (s : String) (ts : List Token) : Prop := Reads (fun _ => True) s ts

/-- The text does not go on with a backtick. -/
def NoTick (r : List Char) : Prop := r.head? ≠ some Identifier.tick

def startsWithBreak (s : String) : Bool := s.toList.head?.any fun c => breakChars.contains c

variable {F G : List Char → Prop} {s s' : String} {ts ts' : List Token}

/-! ## Lists between separators -/

theorem intercalate_append_of_ne_nil {α : Type} {sep : List α} {l m : List (List α)} (hl : l ≠ []) (hm : m ≠ []) :
    sep.intercalate (l ++ m) = sep.intercalate l ++ sep ++ sep.intercalate m := by
  induction l with
  | nil => exact absurd rfl hl
  | cons a l ih =>
    cases l with
    | nil => rw [List.singleton_append, List.intercalate_cons_of_ne_nil hm, List.intercalate_singleton, List.append_assoc]
    | cons b l =>
      rw [List.cons_append, List.intercalate_cons_of_ne_nil (by simp), ih (by simp),
        List.intercalate_cons_of_ne_nil (l := a) (by simp)]
      simp only [List.append_assoc]

theorem intercalate_nil_eq_flatten {α : Type} (ls : List (List α)) : List.intercalate [] ls = ls.flatten := by
  induction ls with
  | nil => rfl
  | cons l ls ih =>
    cases ls with
    | nil => simp
    | cons m ls => rw [List.intercalate_cons_cons, List.append_nil, ih, ← List.flatten_cons]

theorem infix_intercalate {α : Type} {sep l : List α} {ls : List (List α)} (hl : l ∈ ls) :
    l <:+: sep.intercalate ls := by
  induction ls with
  | nil => cases hl
  | cons m ls ih =>
    cases ls with
    | nil =>
      refine ⟨[], [], ?_⟩
      rw [List.nil_append, List.append_nil, List.mem_singleton.mp hl, List.intercalate_singleton]
    | cons m' ls =>
      rw [List.intercalate_cons_cons]
      rcases List.mem_cons.mp hl with rfl | hl
      · exact List.infix_append_of_infix_left List.infix_append_left
      · exact List.infix_append_of_infix_right (ih hl)

/-! ## What may follow -/

theorem breaks_nil : Breaks [] := fun _ h => by cases h

theorem Breaks.noTick {r : List Char} (h : Breaks r) : NoTick r :=
  fun ht => (of_mem_breakChars (h _ ht)).2.2.2.1 rfl

theorem breaks_append (h : startsWithBreak s = true) (r : List Char) : Breaks (s.toList ++ r) := by
  unfold startsWithBreak at h
  cases hs : s.toList with
  | nil =>
    rw [hs] at h
    cases h
  | cons c cs =>
    rw [hs] at h
    intro d hd
    cases hd
    exact List.contains_iff_mem.mp h

/-! ## Pieces in a row -/

theorem Reads.mono (h : Reads F s ts) (hF : ∀ r, G r → F r) : Reads G s ts := fun r hr => h r (hF r hr)

theorem Reads.beforeBreak (h : Reads NoTick s ts) : Reads Breaks s ts := h.mono fun _ => Breaks.noTick

theorem Closed.reads (h : Closed s ts) : Reads F s ts := h.mono fun _ _ => trivial

theorem reads_empty : Reads F "" [] := by
  intro r _
  cases h : lexChars r <;> simp [h]

theorem Reads.append (h : Reads F s ts) (h' : Reads G s' ts') (hF : ∀ r, G r → F (s'.toList ++ r)) :
    Reads G (s ++ s') (ts ++ ts') := by
  intro r hr
  rw [String.toList_append, List.append_assoc, h _ (hF r hr), h' r hr, Option.map_map]
  congr 1
  funext us
  exact (List.append_assoc ..).symm

theorem Closed.append (h : Closed s ts) (h' : Reads G s' ts') : Reads G (s ++ s') (ts ++ ts') :=
  Reads.append h h' fun _ _ => trivial

/-- A closed piece that begins with a break may follow anything. -/
theorem Reads.append_closed (h : Reads Breaks s ts) (h' : Closed s' ts') (hb : startsWithBreak s' = true) :
    Closed (s ++ s') (ts ++ ts') :=
  Reads.append h h' fun r _ => breaks_append hb r

theorem Reads.lex (h : Reads Breaks s ts) : lex s = some ts := by
  have hs := h [] breaks_nil
  rw [List.append_nil] at hs
  rw [Lexer.lex, hs]
  simp

/-- Nothing reads as nothing else. -/
theorem Reads.eq_nil (h : Reads Breaks "" ts) : ts = [] := by
  have hs := h.lex
  rw [Lexer.lex] at hs
  simpa using hs.symm

theorem Reads.intercalate {sep : String} {st : List Token} (hsep : Closed sep st) (hF : ∀ r, F (sep.toList ++ r))
    {ss : List String} {tss : List (List Token)} (h : List.Forall₂ (Reads F) ss tss) :
    Reads F (sep.intercalate ss) (List.intercalate st tss) := by
  induction h with
  | nil => exact reads_empty
  | @cons s ts ss tss hs hss ih =>
    cases hss with
    | nil => simpa using hs
    | cons =>
      rw [String.intercalate_cons_cons, List.intercalate_cons_cons, List.append_assoc, String.append_assoc]
      refine hs.append (hsep.append ih) fun r _ => ?_
      rw [String.toList_append, List.append_assoc]
      exact hF _

theorem Reads.intercalate_map {sep : String} {st : List Token} (hsep : Closed sep st)
    (hF : ∀ r, F (sep.toList ++ r)) {α : Type} {f : α → String} {t : α → List Token} {l : List α}
    (h : ∀ a ∈ l, Reads F (f a) (t a)) : Reads F (sep.intercalate (l.map f)) (List.intercalate st (l.map t)) := by
  refine Reads.intercalate hsep hF ?_
  rw [List.forall₂_map_left_iff, List.forall₂_map_right_iff, List.forall₂_same]
  exact h

/-! ## Words, spaces and symbols -/

/-- A word that is not a number. -/
def isKeyword (w : String) : Bool :=
  !w.toList.isEmpty && w.toList.all isWordChar && !w.toList.all Char.isDigit

theorem reads_word {w : String} (h : isKeyword w = true) : Reads Breaks w [.word w] := by
  intro r hr
  simp only [isKeyword, Bool.and_eq_true, Bool.not_eq_true', List.isEmpty_eq_false_iff, List.all_eq_true] at h
  obtain ⟨⟨hne, hw⟩, hd⟩ := h
  rw [lexChars_word hne hw hd hr, String.ofList_toList]
  rfl

theorem closed_space : Closed " " [] := by
  intro r _
  show lexChars (' ' :: r) = _
  rw [lexChars_space]
  simp

theorem closed_word {w : String} (h : isKeyword w = true) : Closed (w ++ " ") [.word w] :=
  (reads_word h).append_closed closed_space rfl

/-- A word between spaces. -/
theorem closed_keyword {w : String} (h : isKeyword w = true) : Closed (" " ++ (w ++ " ")) [.word w] :=
  closed_space.append (closed_word h)

theorem closed_symbol {s : String} (h : ∀ r, readSymbol (s.toList ++ r) = some (s, r)) : Closed s [.symbol s] := by
  intro r _
  rw [lexChars_of_readSymbol (h r)]
  rfl

theorem closed_comma : Closed "," [.symbol ","] := closed_symbol fun _ => rfl

theorem closed_dot : Closed "." [.symbol "."] := closed_symbol fun _ => rfl

theorem closed_equals : Closed "=" [.symbol "="] := closed_symbol fun _ => rfl

theorem closed_open : Closed "(" [.symbol "("] := closed_symbol fun _ => rfl

theorem closed_close : Closed ")" [.symbol ")"] := closed_symbol fun _ => rfl

/-! ## Numbers and quoted texts -/

theorem reads_numeral {n : String} (h : IsNumeral n.toList) : Reads Breaks n [.number n] := by
  intro r hr
  rw [lexChars_numeral h hr, String.ofList_toList]
  rfl

theorem reads_wrap (s : List Char) :
    Reads NoTick (String.ofList (Identifier.wrap s)) [.identifier (String.ofList s)] := by
  intro r hr
  rw [String.toList_ofList, lexChars_identifier s hr]
  rfl

theorem reads_literal (s : String) : Reads Breaks (Literal.quote s) [.string s] := by
  intro r hr
  rw [Literal.toList_quote, lexChars_string, String.ofList_toList]
  · rfl
  · intro hq
    exact (of_mem_breakChars (hr _ hq)).2.2.2.2 rfl

end SqlClauses.Lexer
