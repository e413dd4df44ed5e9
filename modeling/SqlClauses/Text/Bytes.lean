/-
  SqlClauses.Text.Bytes — texts as bytes in UTF-8.

  Every text has bytes, but not all bytes are those of a text. `readable` makes a text of
  any bytes: it puts the replacement character U+FFFD once for every character that is
  broken off, however many of its bytes there are, and once for every byte that begins
  none.

  Main statements: `ofUtf8?_eq_some_iff`, a text is read from its own bytes only;
  `readable_of_ofUtf8?`, bytes of a text are readable as that text.
-/

namespace SqlClauses.Text

def utf8Bytes (cs : List Char) : List UInt8 := cs.flatMap String.utf8EncodeChar

/-- The text that has these bytes. -/
def ofUtf8? (bs : List UInt8) : Option String := String.fromUTF8? bs.toByteArray

/-- The character that the bytes begin with. -/
def firstChar? (bs : List UInt8) : Option Char := (bs.take 4).toByteArray.utf8DecodeChar? 0

def isTail (b : UInt8) : Bool := 0x80 ≤ b && b ≤ 0xBF

/-- Some character of three or four bytes has these as the first two. -/
def beginsLong (a b : UInt8) : Bool :=
  if a = 0xE0 then 0xA0 ≤ b && b ≤ 0xBF
  else if a = 0xED then 0x80 ≤ b && b ≤ 0x9F
  else if a = 0xF0 then 0x90 ≤ b && b ≤ 0xBF
  else if a = 0xF4 then 0x80 ≤ b && b ≤ 0x8F
  else 0xE1 ≤ a && a ≤ 0xF3 && isTail b

/-- How many bytes at the front stand for one broken character, when no whole one does. -/
def brokenLength : List UInt8 → Nat
  | a :: b :: r =>
    if !beginsLong a b then 1
    else if 0xF0 ≤ a ∧ r.head?.any isTail then 3
    else 2
  | _ => 1

def readChars : List UInt8 → List Char
  | [] => []
  | b :: r =>
    match firstChar? (b :: r) with
    | some c => c :: readChars (r.drop (c.utf8Size - 1))
    | none => '\ufffd' :: readChars (r.drop (brokenLength (b :: r) - 1))
  termination_by bs => bs.length

def readable (bs : List UInt8) : String := String.ofList (readChars bs)

/-! ## Bytes of a text -/

theorem firstChar?_append (c : Char) (bs : List UInt8) : firstChar? (String.utf8EncodeChar c ++ bs) = some c := by
  have h : (String.utf8EncodeChar c).length ≤ 4 := by
    rw [String.length_utf8EncodeChar]; exact c.utf8Size_le_four
  rw [firstChar?, List.take_append, List.take_of_length_le h, List.toByteArray_append]
  exact ByteArray.utf8DecodeChar?_utf8EncodeChar_append

theorem readChars_append (c : Char) (bs : List UInt8) :
    readChars (String.utf8EncodeChar c ++ bs) = c :: readChars bs := by
  have h := firstChar?_append c bs
  have hl := String.length_utf8EncodeChar c
  cases he : String.utf8EncodeChar c with
  | nil => exact absurd he String.utf8EncodeChar_ne_nil
  | cons b r =>
    rw [he] at h hl
    rw [List.cons_append, readChars, ← List.cons_append, h]
    simp [← hl]

theorem readChars_utf8Bytes (cs : List Char) : readChars (utf8Bytes cs) = cs := by
  induction cs with
  | nil => simp [utf8Bytes, readChars]
  | cons c cs ih => rw [utf8Bytes, List.flatMap_cons, readChars_append]; exact congrArg _ ih

theorem ofUtf8?_eq_some_iff {bs : List UInt8} {s : String} : ofUtf8? bs = some s ↔ bs = utf8Bytes s.toList := by
  have bytes (t : String) : t.toByteArray = (utf8Bytes t.toList).toByteArray := String.utf8Encode_toList.symm
  rw [← List.toByteArray_inj, ← bytes, ofUtf8?, String.fromUTF8?]
  split
  · next h => rw [Option.some_inj, ← String.toByteArray_inj]; rfl
  · next h => exact ⟨nofun, fun he => absurd (he ▸ s.isValidUTF8) h⟩

theorem readable_of_ofUtf8? {bs : List UInt8} {s : String} (h : ofUtf8? bs = some s) : readable bs = s := by
  rw [ofUtf8?_eq_some_iff.1 h, readable, readChars_utf8Bytes, String.ofList_toList]

/-! ## Other bytes -/

/-- Bytes that no character has, and a character with too many. -/
example : readable [0xFF, 0x61, 0xC0, 0x80] = "\ufffda\ufffd\ufffd" := by decide +kernel

/-- Characters broken off after one, two and three bytes. -/
example : readable [0xE2, 0x82, 0x20, 0xF0, 0x9F, 0x98, 0xC3] = "\ufffd \ufffd\ufffd" := by decide +kernel

/-- What would be a surrogate. -/
example : readable [0xED, 0xA0, 0x80] = "\ufffd\ufffd\ufffd" := by decide +kernel

end SqlClauses.Text
