/-
  SqlClauses.Text.Clip — a text cut to a number of bytes.

  Lengths are UTF-8 bytes, but a text can only be cut where a character begins. So a text
  that is too long is cut at the limit if a character begins there, and else as few bytes
  before it as it takes to come to one.

  Main statements: `isBoundary_iff` and `before?_eq_some_iff`, where a text can be cut;
  `isBoundary_backOff` and `le_backOff`, going back ends at the last such place;
  `isSome_clip?`, so the cut is always possible.
-/

namespace SqlClauses.Text

/-- A character begins at this byte, or the text ends there. -/
def isBoundary (s : String) (i : Nat) : Bool := String.Pos.Raw.isValid s ⟨i⟩

/-- From byte `i` back to where a character begins, one byte at a time. -/
def backOff (s : String) : Nat → Nat
  | 0 => 0
  | i + 1 => if isBoundary s (i + 1) then i + 1 else backOff s i

/-- The text before byte `i`; none if that is inside a character or behind the end. -/
def before? (s : String) (i : Nat) : Option String :=
  if h : String.Pos.Raw.IsValid s ⟨i⟩ then some (s.sliceTo (s.pos ⟨i⟩ h)).copy else none

/-- The text itself if it has at most `n` bytes, else what stands before the place that going back
from byte `n` comes to. -/
def clip? (n : Nat) (s : String) : Option String :=
  if s.utf8ByteSize ≤ n then some s else before? s (backOff s n)

/-! ## Where a text can be cut -/

theorem isBoundary_iff {s : String} {i : Nat} :
    isBoundary s i = true ↔ ∃ t rest, s = t ++ rest ∧ t.utf8ByteSize = i := by
  rw [isBoundary, String.Pos.Raw.isValid_eq_true_iff, String.Pos.Raw.isValid_iff_exists_append]
  simp only [String.Pos.Raw.ext_iff, String.byteIdx_rawEndPos, eq_comm]

theorem isBoundary_zero (s : String) : isBoundary s 0 = true :=
  isBoundary_iff.mpr ⟨"", s, String.empty_append.symm, rfl⟩

theorem isSome_before? {s : String} {i : Nat} : (before? s i).isSome = isBoundary s i := by
  by_cases h : String.Pos.Raw.IsValid s ⟨i⟩ <;> simp [before?, isBoundary, h]

theorem before?_eq_some_iff {s t : String} {i : Nat} :
    before? s i = some t ↔ (∃ rest, s = t ++ rest) ∧ t.utf8ByteSize = i := by
  unfold before?
  constructor
  · intro h
    split at h
    · next hv =>
      obtain ⟨happend, hoffset⟩ := (s.pos ⟨i⟩ hv).splits
      cases h
      exact ⟨⟨_, happend⟩, congrArg String.Pos.Raw.byteIdx hoffset.symm⟩
    · cases h
  · intro h
    obtain ⟨⟨rest, hs⟩, rfl⟩ := h
    have hv : String.Pos.Raw.IsValid s ⟨t.utf8ByteSize⟩ :=
      String.Pos.Raw.isValid_iff_exists_append.mpr ⟨t, rest, hs, rfl⟩
    have hsplits : (s.pos _ hv).Splits t rest := ⟨hs, rfl⟩
    rw [dif_pos hv]
    exact congrArg some ((s.pos _ hv).splits.eq_left hsplits)

/-! ## Going back -/

theorem isBoundary_backOff (s : String) (n : Nat) : isBoundary s (backOff s n) = true := by
  induction n with
  | zero => exact isBoundary_zero s
  | succ n ih =>
    rw [backOff]
    split
    · assumption
    · exact ih

theorem backOff_le (s : String) (n : Nat) : backOff s n ≤ n := by
  induction n with
  | zero => exact Nat.le_refl 0
  | succ n ih =>
    rw [backOff]
    split <;> omega

/-- No place where a character begins is passed over. -/
theorem le_backOff {s : String} {i n : Nat} (h : isBoundary s i = true) (hi : i ≤ n) : i ≤ backOff s n := by
  induction n with
  | zero => exact hi
  | succ n ih =>
    rw [backOff]
    split
    · exact hi
    · next hn =>
      have hne : i ≠ n + 1 := fun he => hn (he ▸ h)
      exact ih (by omega)

theorem isSome_clip? (n : Nat) (s : String) : (clip? n s).isSome = true := by
  unfold clip?
  split
  · rfl
  · rw [isSome_before?, isBoundary_backOff]

/-! ## What is shown of a text -/

/-- The whole characters from the front that fit into `n` bytes. -/
def clip (n : Nat) (s : String) : String := (clip? n s).get (isSome_clip? n s)

/-- The text itself if it has at most `n` bytes, else what fits and three dots; with no limit, the text itself. -/
def shorten (limit : Option Nat) (s : String) : String :=
  match limit with
  | some n => if n < s.utf8ByteSize then clip n s ++ "..." else s
  | none => s

theorem clip?_eq_some_clip (n : Nat) (s : String) : clip? n s = some (clip n s) := (Option.some_get _).symm

theorem clip_of_le {n : Nat} {s : String} (h : s.utf8ByteSize ≤ n) : clip n s = s :=
  Option.some.inj ((clip?_eq_some_clip n s).symm.trans (if_pos h))

/-- What is kept of a longer text is the text before the place that going back comes to. -/
theorem clip_of_lt {n : Nat} {s : String} (h : n < s.utf8ByteSize) :
    (∃ rest, s = clip n s ++ rest) ∧ (clip n s).utf8ByteSize = backOff s n := by
  have hclip : before? s (backOff s n) = some (clip n s) := by
    rw [← clip?_eq_some_clip, clip?, if_neg (Nat.not_le.mpr h)]
  exact before?_eq_some_iff.mp hclip

theorem shorten_none (s : String) : shorten none s = s := rfl

theorem shorten_of_le {n : Nat} {s : String} (h : s.utf8ByteSize ≤ n) : shorten (some n) s = s := by
  simp [shorten, Nat.not_lt.mpr h]

theorem shorten_of_lt {n : Nat} {s : String} (h : n < s.utf8ByteSize) : shorten (some n) s = clip n s ++ "..." := by
  simp [shorten, h]

end SqlClauses.Text
