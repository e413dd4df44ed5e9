/-
  SqlClauses.Text.Quoted — texts shown between double quotes.

  A shown text has no line break, and nothing in it that cannot be seen or that changes
  how its neighbour looks. Shown by their code points are control characters, format
  characters, private use characters, every space but U+0020, letters without ink,
  characters that extend the one before them, and code points that are no characters.
  The halfwidth sound marks extend too, but take a place of their own, and so are shown as
  they are.

  Main statement: `isUnseen_eq_false_of_mem_quoted`, nothing in a shown text is unseen.
-/

import SqlClauses.Text.Extending
import SqlClauses.Text.Unassigned

namespace SqlClauses.Text

/-- The characters without a shape of their own, as inclusive ranges of code points: the Unicode
categories Cc, Cf, Co, Zl and Zp, and Zs without the ordinary space. -/
def shapelessRanges : List (Nat × Nat) :=
  [(0x00, 0x1F), (0x7F, 0xA0), (0xAD, 0xAD), (0x600, 0x605), (0x61C, 0x61C), (0x6DD, 0x6DD), (0x70F, 0x70F),
   (0x890, 0x891), (0x8E2, 0x8E2), (0x1680, 0x1680), (0x180E, 0x180E), (0x2000, 0x200F), (0x2028, 0x202F),
   (0x205F, 0x2064), (0x2066, 0x206F), (0x3000, 0x3000), (0xE000, 0xF8FF), (0xFEFF, 0xFEFF), (0xFFF9, 0xFFFB),
   (0x110BD, 0x110BD), (0x110CD, 0x110CD), (0x13430, 0x1343F), (0x1BCA0, 0x1BCA3), (0x1D173, 0x1D17A),
   (0xE0001, 0xE0001), (0xE0020, 0xE007F), (0xF0000, 0xFFFFD), (0x100000, 0x10FFFD)]

/-- The Hangul fillers: letters that stand where no letter is. -/
def inklessRanges : List (Nat × Nat) := [(0x115F, 0x1160), (0x3164, 0x3164), (0xFFA0, 0xFFA0)]

/-- The halfwidth voiced and semi-voiced sound marks of katakana: letters as wide as others. -/
def soundMarkRanges : List (Nat × Nat) := [(0xFF9E, 0xFF9F)]

/-- A character that a reader does not see as itself. -/
def isUnseen (c : Char) : Bool :=
  covers shapelessRanges c || covers inklessRanges c || (isExtending c && !covers soundMarkRanges c) ||
    isUnassigned c

def shownCodePoint (c : Char) : List Char := ['\\', 'u', '\x7b'] ++ Nat.toDigits 16 c.toNat ++ ['\x7d']

def shownChar (c : Char) : List Char :=
  if c = '"' ∨ c = '\\' then ['\\', c]
  else if c = '\n' then ['\\', 'n']
  else if c = '\t' then ['\\', 't']
  else if c = '\r' then ['\\', 'r']
  else if c = '\x00' then ['\\', '0']
  else if isUnseen c then shownCodePoint c
  else [c]

def quoted (s : String) : String := String.ofList ('"' :: s.toList.flatMap shownChar ++ ['"'])

/-! ## What is seen -/

/-- What ASCII prints is seen. -/
theorem isUnseen_eq_false_of_printable {c : Char} (hl : 0x20 ≤ c.toNat) (hh : c.toNat ≤ 0x7E) :
    isUnseen c = false := by
  simp only [isUnseen, isExtending, isUnassigned, Bool.or_eq_false_iff, Bool.and_eq_false_iff]
  refine ⟨⟨⟨?_, ?_⟩, .inl ?_⟩, ?_⟩ <;> exact covers_eq_false_of_gap (by decide +kernel) hl hh

theorem isUnseen_eq_false_of_mem_toDigits {n : Nat} {d : Char} (h : d ∈ Nat.toDigits 16 n) : isUnseen d = false := by
  have digit : ∀ k < 16, 0x20 ≤ k.digitChar.toNat ∧ k.digitChar.toNat ≤ 0x7E := by decide
  have seen (k : Nat) (hk : k < 16) := isUnseen_eq_false_of_printable (digit k hk).1 (digit k hk).2
  induction n using Nat.strongRecOn with
  | ind n ih =>
    rw [Nat.toDigits_eq_if (by decide)] at h
    split at h
    · next hn => rw [List.mem_singleton.1 h]; exact seen n hn
    · next hn =>
      rcases List.mem_append.1 h with h | h
      · exact ih (n / 16) (by omega) h
      · rw [List.mem_singleton.1 h]; exact seen _ (Nat.mod_lt _ (by decide))

theorem isUnseen_eq_false_of_mem_shownCodePoint {c d : Char} (h : d ∈ shownCodePoint c) : isUnseen d = false := by
  simp only [shownCodePoint, List.mem_append, List.mem_cons, List.not_mem_nil, or_false] at h
  rcases h with ((rfl | rfl | rfl) | h) | rfl
  case inl.inr => exact isUnseen_eq_false_of_mem_toDigits h
  all_goals exact isUnseen_eq_false_of_printable (by decide) (by decide)

theorem isUnseen_eq_false_of_mem_shownChar {c d : Char} (h : d ∈ shownChar c) : isUnseen d = false := by
  have short (x : Char) (hx : x ∈ ['"', '\\', 'n', 't', 'r', '0']) : isUnseen x = false := by
    simp only [List.mem_cons, List.not_mem_nil, or_false] at hx
    rcases hx with rfl | rfl | rfl | rfl | rfl | rfl <;> exact isUnseen_eq_false_of_printable (by decide) (by decide)
  unfold shownChar at h
  iterate 5 (split at h; · exact short d (by grind))
  split at h
  · exact isUnseen_eq_false_of_mem_shownCodePoint h
  · next hc => simpa [List.mem_singleton.1 h] using hc

/-- Whatever the text, all of its shown form is seen. -/
theorem isUnseen_eq_false_of_mem_quoted {s : String} {d : Char} (h : d ∈ (quoted s).toList) : isUnseen d = false := by
  have quote : isUnseen '"' = false := isUnseen_eq_false_of_printable (by decide) (by decide)
  simp only [quoted, String.toList_ofList, List.mem_append, List.mem_cons, List.mem_flatMap, List.not_mem_nil,
    or_false] at h
  rcases h with (rfl | ⟨c, _, hd⟩) | rfl
  · exact quote
  · exact isUnseen_eq_false_of_mem_shownChar hd
  · exact quote

example : ascending shapelessRanges ∧ ascending inklessRanges := by decide

example : quoted "a\"b\u200b" = "\"a\\\"b\\u\x7b200b\x7d\"" := by decide +kernel

/-- A letter and its accent, the filler of an initial consonant, a noncharacter. -/
example : quoted "e\u0301\u115f\uffff" = "\"e\\u\x7b301\x7d\\u\x7b115f\x7d\\u\x7bffff\x7d\"" := by decide +kernel

/-- A halfwidth sound mark and the combining one of the same sound. -/
example : quoted "\uff8a\uff9f\u309a" = "\"\uff8a\uff9f\\u\x7b309a\x7d\"" := by decide +kernel

end SqlClauses.Text
