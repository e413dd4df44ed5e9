/-
  SqlClauses.Text.Split — texts cut at a separator.

  Main statements: `intercalate_split`, the parts with separators between them are the
  text again; `not_mem_of_mem_split`, no part holds a separator; `length_split`, there is
  one part more than there are separators; `split_append`, on both sides of a separator the
  text is split on its own; `split_intercalate`, there is no other way to split a text into
  such parts; `cut?_eq_none_iff` and `cut?_eq_some_iff`, what a cut at the first separator
  gives.
-/

namespace SqlClauses.Text

/-- The parts between the separators, in order. -/
def split (sep : Char) : List Char → List (List Char)
  | [] => [[]]
  | c :: cs =>
    if c = sep then [] :: split sep cs
    else
      match split sep cs with
      | s :: ss => (c :: s) :: ss
      | [] => [[c]]

/-- What stands before the first separator, and what after it. -/
def cut? (sep : Char) : List Char → Option (List Char × List Char)
  | [] => none
  | c :: cs => if c = sep then some ([], cs) else (cut? sep cs).map fun p => (c :: p.1, p.2)

variable {sep : Char} {cs : List Char}

/-! ## Parts -/

theorem split_ne_nil (sep : Char) (cs : List Char) : split sep cs ≠ [] := by
  cases cs with
  | nil => simp [split]
  | cons c cs =>
    simp only [split]
    split
    · simp
    · split <;> simp

theorem length_split (sep : Char) (cs : List Char) : (split sep cs).length = cs.count sep + 1 := by
  induction cs with
  | nil => rfl
  | cons c cs ih =>
    have := split_ne_nil sep cs
    by_cases h : c = sep
    · simp [split, h, ih]
    · cases hs : split sep cs with
      | nil => contradiction
      | cons s ss => simp_all [split]

theorem not_mem_of_mem_split {s : List Char} (h : s ∈ split sep cs) : sep ∉ s := by
  induction cs generalizing s with
  | nil => simp_all [split]
  | cons c cs ih =>
    by_cases hc : c = sep
    · simp only [split, hc, if_true, List.mem_cons] at h
      rcases h with rfl | h
      · simp
      · exact ih h
    · cases hs : split sep cs with
      | nil => exact absurd hs (split_ne_nil sep cs)
      | cons a as =>
        rw [hs] at ih
        simp only [split, hc, if_false, hs, List.mem_cons] at h
        rcases h with rfl | h
        · simp [Ne.symm hc, ih (List.mem_cons_self ..)]
        · exact ih (List.mem_cons_of_mem _ h)

theorem intercalate_split (sep : Char) (cs : List Char) : List.intercalate [sep] (split sep cs) = cs := by
  induction cs with
  | nil => rfl
  | cons c cs ih =>
    cases hs : split sep cs with
    | nil => exact absurd hs (split_ne_nil sep cs)
    | cons s ss =>
      rw [hs] at ih
      by_cases hc : c = sep
      · simp only [split, hc, if_true, hs]
        rw [← ih]
        simp [List.intercalate]
      · simp only [split, hc, if_false, hs]
        rw [← ih]
        cases ss <;> simp [List.intercalate]

theorem split_of_not_mem (h : sep ∉ cs) : split sep cs = [cs] := by
  have hlength : (split sep cs).length = 1 := by rw [length_split, List.count_eq_zero.mpr h]
  obtain ⟨part, hpart⟩ := List.length_eq_one_iff.mp hlength
  have hjoin := intercalate_split sep cs
  rw [hpart, List.intercalate_singleton] at hjoin
  rw [hpart, hjoin]

/-- A text with a separator in it is split where that stands, and then on either side. -/
theorem split_append (sep : Char) (s cs : List Char) :
    split sep (s ++ sep :: cs) = split sep s ++ split sep cs := by
  induction s with
  | nil => simp [split]
  | cons c s ih =>
    by_cases hc : c = sep
    · rw [List.cons_append, split, split, if_pos hc, if_pos hc, ih, List.cons_append]
    · obtain ⟨part, parts, hs⟩ := List.exists_cons_of_ne_nil (split_ne_nil sep s)
      simp only [List.cons_append, split, if_neg hc, ih, hs]

/-- Parts without separators are what their text is split into. -/
theorem split_intercalate {parts : List (List Char)} (hne : parts ≠ []) (h : ∀ s ∈ parts, sep ∉ s) :
    split sep (List.intercalate [sep] parts) = parts := by
  induction parts with
  | nil => contradiction
  | cons s parts ih =>
    obtain ⟨hs, hparts⟩ := List.forall_mem_cons.mp h
    cases parts with
    | nil => rw [List.intercalate_singleton, split_of_not_mem hs]
    | cons t parts =>
      rw [List.intercalate_cons_cons, List.append_assoc, List.singleton_append, split_append, split_of_not_mem hs,
        ih (List.cons_ne_nil _ _) hparts, List.singleton_append]

/-! ## The first separator -/

theorem cut?_eq_none_iff : cut? sep cs = none ↔ sep ∉ cs := by
  induction cs with
  | nil => simp [cut?]
  | cons c cs ih =>
    by_cases h : c = sep
    · simp [cut?, h]
    · simp [cut?, h, ih, Ne.symm h]

theorem cut?_eq_some_iff {a b : List Char} : cut? sep cs = some (a, b) ↔ cs = a ++ sep :: b ∧ sep ∉ a := by
  induction cs generalizing a with
  | nil => simp [cut?]
  | cons c cs ih =>
    by_cases h : c = sep
    · subst h
      cases a with
      | nil => simp [cut?]
      | cons d a => simp +contextual [cut?, eq_comm]
    · cases a with
      | nil => simp [cut?, h]
      | cons d a =>
        simp only [cut?, h, if_false, Option.map_eq_some_iff, Prod.exists, Prod.mk.injEq, List.cons.injEq,
          List.cons_append, List.mem_cons, not_or]
        constructor
        · rintro ⟨x, y, hxy, ⟨rfl, rfl⟩, rfl⟩
          obtain ⟨rfl, hn⟩ := ih.mp hxy
          exact ⟨⟨rfl, rfl⟩, Ne.symm h, hn⟩
        · rintro ⟨⟨rfl, rfl⟩, _, hn⟩
          exact ⟨a, b, ih.mpr ⟨rfl, hn⟩, ⟨rfl, rfl⟩, rfl⟩

end SqlClauses.Text
