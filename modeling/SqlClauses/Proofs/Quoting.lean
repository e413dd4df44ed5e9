/-
  SqlClauses.Proofs.Quoting — names and texts between quotes.

  A quoted path is a row of segments with dots between them, each between backticks, where
  backticks inside stand in even numbers: so they can be read two by two. Quoting a name makes
  one of it, with a segment for each part between its dots. A part that comes wrapped in
  backticks is read first, and reading halves every run of backticks inside, an odd one
  upwards (`Halved`). So quoting leaves alone what is a quoted path, and nothing else.

  A literal needs no end mark but its own: whatever comes after it, unless that begins with a
  quote, a lexer reads the text it was made of and stops there. So two literals are told
  apart, and from what is behind them.

  Main statements: `double_undouble_eq_iff`, which texts come back when they are read and
  written; `halved_iff`, what reading makes of runs; `quote_normalises`, all of quoting names;
  `readString_body_append`, a literal's text is read character by character;
  `quote_self_delimiting`, all of quoting texts.
-/

import SqlClauses.Proofs.Lexer
import Mathlib.Data.List.Forall2
import Mathlib.Data.Nat.Init

namespace SqlClauses

namespace Identifier

/-! ## Backticks in a row -/

/-- Backticks that stand in a row, with no backtick on either side, are even in number. -/
def EvenRuns (s : List Char) : Prop :=
  ∀ lead n rest, s = lead ++ List.replicate n tick ++ rest → lead.getLast? ≠ some tick → rest.head? ≠ some tick →
    n % 2 = 0

/-- The second text is the first with each row of backticks half as long, an odd one rounded up. -/
inductive Halved : List Char → List Char → Prop
  | nil : Halved [] []
  | other {c : Char} {s t : List Char} : c ≠ tick → Halved s t → Halved (c :: s) (c :: t)
  | run (n : Nat) {s t : List Char} : s.head? ≠ some tick → Halved s t →
      Halved (List.replicate (n + 1) tick ++ s) (List.replicate ((n + 2) / 2) tick ++ t)

variable {c : Char} {s t : List Char}

theorem getLast?_cons_eq_tick_iff (hc : c ≠ tick) : (c :: s).getLast? = some tick ↔ s.getLast? = some tick := by
  cases s with
  | nil => simp [hc]
  | cons d s => rw [List.getLast?_cons_cons]

theorem evenRuns_nil : EvenRuns [] := by
  intro lead n rest h _ _
  cases n with
  | zero => rfl
  | succ n => simp [List.replicate_succ] at h

theorem evenRuns_cons (hc : c ≠ tick) : EvenRuns (c :: s) ↔ EvenRuns s := by
  constructor
  · intro h lead n rest hs hlead hrest
    subst hs
    exact h (c :: lead) n rest rfl (mt (getLast?_cons_eq_tick_iff hc).mp hlead) hrest
  · intro h lead n rest hs hlead hrest
    cases lead with
    | nil =>
      cases n with
      | zero => rfl
      | succ n => exact absurd (List.cons.inj hs).1 hc
    | cons d lead =>
      cases hs
      exact h lead n rest rfl (mt (getLast?_cons_eq_tick_iff hc).mpr hlead) hrest

theorem evenRuns_pair : EvenRuns (tick :: tick :: s) ↔ EvenRuns s := by
  constructor
  · intro h lead n rest hs hlead hrest
    subst hs
    cases lead with
    | nil =>
      have := h [] (n + 2) rest rfl nofun hrest
      omega
    | cons d lead => exact h (tick :: tick :: d :: lead) n rest rfl hlead hrest
  · intro h lead n rest hs hlead hrest
    rcases lead with _ | ⟨d, _ | ⟨e, lead⟩⟩
    · rcases n with _ | _ | n
      · rfl
      · exact absurd (congrArg List.head? (List.cons.inj hs).2).symm hrest
      · have := h [] n rest (List.cons.inj (List.cons.inj hs).2).2 nofun hrest
        omega
    · exact absurd (congrArg some (List.cons.inj hs).1.symm) hlead
    · cases hs
      refine h lead n rest rfl (fun hl => hlead ?_) hrest
      cases lead with
      | nil => cases hl
      | cons f lead => exact hl

theorem not_evenRuns_single (hs : s.head? ≠ some tick) : ¬ EvenRuns (tick :: s) := fun h =>
  absurd (h [] 1 s rfl nofun hs) (by decide)

/-- Backticks are read from the left, two at a time as long as there are two. -/
theorem induct_ticks {P : List Char → Prop} (nil : P []) (other : ∀ c s, c ≠ tick → P s → P (c :: s))
    (single : ∀ s, s.head? ≠ some tick → P s → P (tick :: s)) (pair : ∀ s, P s → P (tick :: tick :: s))
    (s : List Char) : P s := by
  induction s using undouble.induct with
  | case1 => exact nil
  | case2 c =>
    by_cases hc : c = tick
    · rw [hc]
      exact single [] nofun nil
    · exact other c [] hc nil
  | case3 c d s h ih =>
    rw [h.1, h.2]
    exact pair s ih
  | case4 c d s h ih =>
    by_cases hc : c = tick
    · subst hc
      exact single (d :: s) (fun hd => h ⟨rfl, Option.some.inj hd⟩) ih
    · exact other c (d :: s) hc ih

/-- What is read and written again comes back exactly where all backticks can be read two by two. -/
theorem double_undouble_eq_iff : double (undouble s) = s ↔ EvenRuns s := by
  induction s using induct_ticks with
  | nil => exact iff_of_true rfl evenRuns_nil
  | other c s hc ih => rw [undouble_cons hc, double_cons hc, evenRuns_cons hc, List.cons_inj_right, ih]
  | single s hs ih =>
    -- the one backtick comes back as two, and there is only one
    rw [undouble_single hs, double_cons_tick, List.cons_inj_right]
    refine iff_of_false (fun he => hs ?_) (not_evenRuns_single hs)
    rw [← he]
    rfl
  | pair s ih => rw [undouble_pair, double_cons_tick, evenRuns_pair, List.cons_inj_right, List.cons_inj_right, ih]

theorem evenRuns_double (s : List Char) : EvenRuns (double s) := by
  rw [← double_undouble_eq_iff, undouble_double]

theorem Halved.pair (h : Halved s t) : Halved (tick :: tick :: s) (tick :: t) := by
  cases h with
  | nil => exact .run 1 nofun .nil
  | other hc h => exact .run 1 (by simpa using hc) (.other hc h)
  | run n hs h =>
    have hrun := Halved.run (n + 2) hs h
    rwa [show (n + 2 + 2) / 2 = (n + 2) / 2 + 1 by omega, List.replicate_succ] at hrun

theorem halved_undouble (s : List Char) : Halved s (undouble s) := by
  induction s using induct_ticks with
  | nil => exact .nil
  | other c s hc ih =>
    rw [undouble_cons hc]
    exact .other hc ih
  | single s hs ih =>
    rw [undouble_single hs]
    exact .run 0 hs ih
  | pair s ih =>
    rw [undouble_pair]
    exact ih.pair

theorem undouble_replicate (n : Nat) (hs : s.head? ≠ some tick) :
    undouble (List.replicate n tick ++ s) = List.replicate ((n + 1) / 2) tick ++ undouble s := by
  induction n using Nat.twoStepInduction with
  | zero => rfl
  | one => exact undouble_single hs
  | more n ih _ =>
    have hhalf : (n + 2 + 1) / 2 = (n + 1) / 2 + 1 := by omega
    rw [hhalf]
    exact (undouble_pair _).trans (congrArg (tick :: ·) ih)

/-- Reading does what `Halved` says. -/
theorem halved_iff : Halved s t ↔ t = undouble s := by
  constructor
  · intro h
    induction h with
    | nil => rfl
    | other hc _ ih => rw [undouble_cons hc, ih]
    | run n hs _ ih => rw [undouble_replicate (n + 1) hs, ih]
  · intro h
    rw [h]
    exact halved_undouble s

/-! ## Quoted paths -/

def QuotedSegment (seg : List Char) : Prop :=
  ∃ inner, seg = tick :: inner ++ [tick] ∧ '.' ∉ inner ∧ EvenRuns inner

def QuotedPath (s : List Char) : Prop :=
  ∃ segs, segs ≠ [] ∧ (∀ seg ∈ segs, QuotedSegment seg) ∧ s = List.intercalate ['.'] segs

/-- A part of a name stands for itself, unless it is wrapped. -/
inductive StandsFor : List Char → List Char → Prop
  | wrapped {inner text : List Char} : Halved inner text → StandsFor (tick :: inner ++ [tick]) text
  | bare {part : List Char} : (∀ inner, part ≠ tick :: inner ++ [tick]) → StandsFor part part

theorem unwrap?_eq_some_iff {inner : List Char} : unwrap? s = some inner ↔ s = tick :: inner ++ [tick] := by
  constructor
  · intro h
    cases s with
    | nil => cases h
    | cons c r =>
      simp only [unwrap?, Option.ite_none_right_eq_some, Option.some.injEq] at h
      obtain ⟨⟨rfl, hlast⟩, rfl⟩ := h
      rw [List.cons_append, List.dropLast_append_getLast? _ hlast]
  · intro h
    rw [h]
    exact unwrap?_wrapped inner

theorem standsFor_iff {part text : List Char} : StandsFor part text ↔ text = content part := by
  unfold content
  constructor
  · intro h
    cases h with
    | wrapped hh =>
      rw [unwrap?_wrapped]
      exact halved_iff.mp hh
    | bare hb =>
      split
      · next inner hw => exact absurd (unwrap?_eq_some_iff.mp hw) (hb inner)
      · rfl
  · intro h
    rw [h]
    split
    · next inner hw =>
      rw [unwrap?_eq_some_iff.mp hw]
      exact .wrapped (halved_undouble inner)
    · next hw =>
      refine .bare fun inner hp => ?_
      rw [unwrap?_eq_some_iff.mpr hp] at hw
      cases hw

theorem mem_double_iff : c ∈ double s ↔ c ∈ s := by
  induction s with
  | nil => rfl
  | cons d s ih =>
    by_cases hd : d = tick
    · rw [hd, double_cons_tick, List.mem_cons, List.mem_cons, List.mem_cons, ih, or_self_left]
    · rw [double_cons hd, List.mem_cons, List.mem_cons, ih]

theorem undouble_subset (s : List Char) : undouble s ⊆ s := by
  induction s using induct_ticks with
  | nil => exact List.Subset.refl []
  | other c s hc ih =>
    rw [undouble_cons hc]
    exact List.cons_subset_cons c ih
  | single s hs ih =>
    rw [undouble_single hs]
    exact List.cons_subset_cons tick ih
  | pair s ih =>
    rw [undouble_pair]
    exact List.cons_subset_cons tick (List.subset_cons_of_subset tick ih)

theorem content_subset (s : List Char) : content s ⊆ s := by
  unfold content
  split
  · next inner hw =>
    rw [unwrap?_eq_some_iff.mp hw]
    exact fun c hc => List.mem_append_left _ (List.mem_cons_of_mem _ (undouble_subset inner hc))
  · exact List.Subset.refl s

theorem quotedSegment_wrap (h : '.' ∉ s) : QuotedSegment (wrap s) :=
  ⟨double s, rfl, mt mem_double_iff.mp h, evenRuns_double s⟩

/-- A part of a name is written as a segment. -/
theorem quotedSegment_content {part : List Char} (h : part ∈ Text.split '.' s) : QuotedSegment (wrap (content part)) :=
  quotedSegment_wrap fun hdot => Text.not_mem_of_mem_split h (content_subset part hdot)

theorem QuotedSegment.dot_not_mem {seg : List Char} (h : QuotedSegment seg) : '.' ∉ seg := by
  obtain ⟨inner, rfl, hdot, -⟩ := h
  simpa [show '.' ≠ tick by decide] using hdot

theorem QuotedSegment.wrap_content {seg : List Char} (h : QuotedSegment seg) : wrap (content seg) = seg := by
  obtain ⟨inner, rfl, -, heven⟩ := h
  rw [content, unwrap?_wrapped, wrap, double_undouble_eq_iff.mpr heven]

theorem quotedPath_iff : QuotedPath s ↔ ∀ seg ∈ Text.split '.' s, QuotedSegment seg := by
  constructor
  · intro h
    obtain ⟨segs, hne, hsegs, rfl⟩ := h
    rwa [Text.split_intercalate hne fun seg hseg => (hsegs seg hseg).dot_not_mem]
  · intro h
    exact ⟨_, Text.split_ne_nil '.' s, h, (Text.intercalate_split '.' s).symm⟩

/-! ## Quoting names -/

theorem split_quoteChars (name : List Char) :
    Text.split '.' (quoteChars name) = (Text.split '.' name).map fun part => wrap (content part) := by
  refine Text.split_intercalate (by simpa using Text.split_ne_nil '.' name) ?_
  rw [List.forall_mem_map]
  intro part hpart
  exact (quotedSegment_content hpart).dot_not_mem

theorem quotedPath_quoteChars (name : List Char) : QuotedPath (quoteChars name) := by
  rw [quotedPath_iff, split_quoteChars, List.forall_mem_map]
  intro part hpart
  exact quotedSegment_content hpart

theorem quoteChars_of_quotedPath {name : List Char} (h : QuotedPath name) : quoteChars name = name := by
  have hparts : (Text.split '.' name).map (fun part => wrap (content part)) = Text.split '.' name :=
    (List.map_congr_left fun part hpart => (quotedPath_iff.mp h part hpart).wrap_content).trans (List.map_id' _)
  rw [quoteChars, hparts, Text.intercalate_split]

theorem quoteChars_eq_self_iff {name : List Char} : quoteChars name = name ↔ QuotedPath name :=
  ⟨fun h => h ▸ quotedPath_quoteChars name, quoteChars_of_quotedPath⟩

instance : DecidablePred QuotedPath := fun _ => decidable_of_iff _ quoteChars_eq_self_iff

theorem lexChars_wrap (s : List Char) : Lexer.lexChars (wrap s) = some [.identifier (String.ofList s)] := by
  have h := Lexer.lexChars_identifier s (r := []) nofun
  rwa [List.append_nil, Lexer.lexChars_nil] at h

/-- The segments of a quoted name are read as what the parts of the name stand for, one by one. -/
theorem forall₂_split_quoteChars (name : List Char) :
    List.Forall₂ (fun seg part => ∃ text, StandsFor part text ∧
      Lexer.lexChars seg = some [.identifier (String.ofList text)])
      (Text.split '.' (quoteChars name)) (Text.split '.' name) := by
  rw [split_quoteChars, List.forall₂_map_left_iff, List.forall₂_same]
  intro part _
  exact ⟨content part, standsFor_iff.mpr rfl, lexChars_wrap _⟩

/-- Quoting makes a quoted path of any name, leaves alone what is one already, and nothing else. There
is a segment for each part of the name, and it is read as what that part stands for. -/
theorem quote_normalises (name : String) :
    (quote name = name ↔ QuotedPath name.toList) ∧ QuotedPath (quote name).toList ∧
      (Text.split '.' (quote name).toList).length = name.toList.count '.' + 1 ∧
      List.Forall₂ (fun seg part => ∃ text, StandsFor part text ∧
        Lexer.lexChars seg = some [.identifier (String.ofList text)])
        (Text.split '.' (quote name).toList) (Text.split '.' name.toList) ∧
      quote (quote name) = quote name := by
  have htoList (s : String) : (quote s).toList = quoteChars s.toList := String.toList_ofList
  refine ⟨?_, ?_, ?_, ?_, ?_⟩
  · rw [← String.toList_inj, htoList, quoteChars_eq_self_iff]
  · rw [htoList]
    exact quotedPath_quoteChars _
  · rw [htoList, split_quoteChars, List.length_map, Text.length_split]
  · rw [htoList]
    exact forall₂_split_quoteChars _
  · rw [← String.toList_inj, htoList, htoList, quoteChars_eq_self_iff]
    exact quotedPath_quoteChars _

/-- Two backticks hold nothing, one is no pair, and of three in a row inside one stands alone. -/
example : QuotedPath "\x60\x60".toList ∧ quote "\x60" = "\x60\x60\x60\x60" ∧
    ¬ QuotedPath "\x60a\x60\x60\x60b\x60".toList := by
  decide +kernel

end Identifier

/-! ## Quoting texts -/

namespace Lexer

/-- A string literal at the front: the text it stands for, and what is left. -/
def readLiteral : List Char → Option (List Char × List Char)
  | [] => none
  | c :: r => if c = '\'' then readString r else none

/-- A literal is read as its text exactly if no quote follows it. -/
theorem readLiteral_quote_iff (s r : String) :
    readLiteral (Literal.quote s ++ r).toList = some (s.toList, r.toList) ↔ r.toList.head? ≠ some '\'' := by
  rw [← readString_quote_iff, String.toList_append, Literal.toList_quote, List.append_assoc, List.cons_append,
    List.singleton_append, readLiteral, if_pos rfl, readString_body_append, Option.map_eq_some_iff]
  constructor
  · intro h
    obtain ⟨⟨more, rest⟩, hread, hp⟩ := h
    obtain ⟨htext, rfl⟩ := Prod.mk.inj hp
    have hmore : more = [] := List.append_right_eq_self.mp htext
    rw [hread, hmore]
  · intro hread
    exact ⟨([], r.toList), hread, by rw [List.append_nil]⟩

end Lexer

namespace Literal

/-- What a lexer reads from the front tells the text and what follows. -/
theorem quote_append_inj {s t r u : String} (hr : r.toList.head? ≠ some '\'') (hu : u.toList.head? ≠ some '\'')
    (h : quote s ++ r = quote t ++ u) : s = t ∧ r = u := by
  have hs := (Lexer.readLiteral_quote_iff s r).mpr hr
  rw [h, (Lexer.readLiteral_quote_iff t u).mpr hu] at hs
  obtain ⟨htext, hrest⟩ := Prod.mk.inj (Option.some.inj hs)
  exact ⟨String.toList_inj.mp htext.symm, String.toList_inj.mp hrest.symm⟩

/-- A literal, and whatever follows it that does not begin with a quote, is read as the text and what
follows. So it tells both: no other text has this literal, and no other literal ends so. -/
theorem quote_self_delimiting :
    (∀ s r : String, Lexer.readLiteral (quote s ++ r).toList = some (s.toList, r.toList) ↔
        r.toList.head? ≠ some '\'') ∧
      Function.Injective quote ∧
      ∀ s t r u : String, r.toList.head? ≠ some '\'' → u.toList.head? ≠ some '\'' →
        (quote s ++ r = quote t ++ u ↔ s = t ∧ r = u) := by
  refine ⟨Lexer.readLiteral_quote_iff, fun s t h => ?_, fun s t r u hr hu => ⟨quote_append_inj hr hu, ?_⟩⟩
  · exact (quote_append_inj (r := "") (u := "") nofun nofun (congrArg (· ++ "") h)).1
  · intro h
    rw [h.1, h.2]

/-- Texts that end in a backslash, and in a quote after it. -/
theorem quote_self_delimiting_backslash :
    Lexer.readLiteral (quote "a\\" ++ ", 'b'").toList = some ("a\\".toList, ", 'b'".toList) ∧
      quote "a\\" ++ ", 'b'" ≠ quote "a\\'" ++ ")" := by
  obtain ⟨hread, -, hinj⟩ := quote_self_delimiting
  refine ⟨(hread _ _).mpr (by decide), fun h => ?_⟩
  exact absurd ((hinj _ _ _ _ (by decide) (by decide)).mp h).1 (by decide)

end Literal

end SqlClauses
