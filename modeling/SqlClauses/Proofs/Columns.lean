/-
  SqlClauses.Proofs.Columns — the text of a column, and what is written of it.

  A text becomes a column by one cut, at its first dot. When it is quoted it is cut at every
  dot, and a reference is quoted in two halves, its table and its key. The two ways agree,
  because what stands on one side of a dot is cut without regard to the other. So what is
  written of a column depends on its text alone: not on where the text was cut, nor on whether
  it was cut at all. The column itself comes back from its text only if nothing before its own
  cut has a dot.

  Main statements: `Identifier.quote_append`, the halves of a name; `quoted_eq_quote_text`, a
  column is written as its text is; `ofText_text_iff`, which columns come back;
  `quoted_by_text`, all of it.
-/

import SqlClauses.Column
import SqlClauses.Proofs.Reading

namespace SqlClauses

/-! ## Names with a dot in them -/

namespace Identifier

theorem quoteChars_append (s t : List Char) : quoteChars (s ++ '.' :: t) = quoteChars s ++ '.' :: quoteChars t := by
  have hne (s : List Char) : (Text.split '.' s).map (fun part => wrap (content part)) ≠ [] := by
    simpa using Text.split_ne_nil '.' s
  simp only [quoteChars, Text.split_append, List.map_append]
  rw [Lexer.intercalate_append_of_ne_nil (hne s) (hne t), List.append_assoc, List.singleton_append]

theorem quote_append (a b : String) : quote (a ++ "." ++ b) = quote a ++ "." ++ quote b := by
  apply String.toList_inj.mp
  simp [quote, quoteChars_append]

end Identifier

/-! ## Columns -/

theorem Reference.quoted_eq_quote_text (r : Reference) : r.quoted = Identifier.quote r.text :=
  (Identifier.quote_append r.table r.key).symm

namespace Column

theorem quoted_eq_quote_text (c : Column) : c.quoted = Identifier.quote c.text := by
  cases c with
  | bare key => rfl
  | qualified r => exact r.quoted_eq_quote_text

theorem quoted_ofText (s : String) : (ofText s).quoted = Identifier.quote s := by
  rw [quoted_eq_quote_text, text_ofText]

/-- A column is read from its own text if it has no dot before the one that it would be cut at. -/
theorem ofText_text_iff {c : Column} :
    ofText c.text = c ↔
      (∃ key, c = .bare key ∧ '.' ∉ key.toList) ∨ ∃ r, c = .qualified r ∧ '.' ∉ r.table.toList := by
  cases c with
  | bare key => simp [ofText_eq_bare_iff, text]
  | qualified r => simp [ofText_eq_qualified_iff, text]

/-- A column is written as the name that its text is, and so is what is read from that text, whether
or not it is the same column. What a text is read as has that text again, and is written as it. -/
theorem quoted_by_text :
    (∀ c : Column, c.quoted = Identifier.quote c.text ∧ (ofText c.text).quoted = c.quoted) ∧
      (∀ s, (ofText s).text = s ∧ (ofText s).quoted = Identifier.quote s) ∧
      ∀ c : Column, ofText c.text = c ↔
        (∃ key, c = .bare key ∧ '.' ∉ key.toList) ∨ ∃ r, c = .qualified r ∧ '.' ∉ r.table.toList := by
  refine ⟨fun c => ⟨c.quoted_eq_quote_text, ?_⟩, fun s => ⟨text_ofText s, quoted_ofText s⟩, fun c => ofText_text_iff⟩
  rw [quoted_ofText, ← quoted_eq_quote_text]

/-- The dot before which the text is cut is not the one that the column was made with, but what is
written is the same, empty parts and wrapped ones included. -/
example :
    ofText (qualified ⟨"a.", "\x60k"⟩).text = qualified ⟨"a", ".\x60k"⟩ ∧
      (qualified ⟨"a.", "\x60k"⟩).quoted = "\x60a\x60.\x60\x60.\x60\x60\x60k\x60" ∧
      (qualified ⟨"a", ".\x60k"⟩).quoted = "\x60a\x60.\x60\x60.\x60\x60\x60k\x60" := by
  decide +kernel

end Column

end SqlClauses
