/-
  SqlClauses.Proofs.Peeling — pieces taken off the front of a list of tokens.

  If two lists of tokens are the same and both start with a piece of one kind, the pieces
  are the same and so is what follows them, as long as what follows cannot be part of a
  piece. For most pieces it is enough to know the token that comes next: one that is not of
  a class (`Avoids`), or one of a few (`Starts`).

  Main statements: `run_append_inj`, a run of tokens of one class; `flatMap_append_inj`,
  items in a row; `commas_append_inj`, items between commas; `ofPath_append_inj`, names;
  `ofPlain_append_inj`, plain texts in parentheses.
-/

import SqlClauses.Proofs.Tokens

namespace SqlClauses.Token

/-- The first token, if there is one, is not of this class. -/
def Avoids (p : Token → Bool) (ts : List Token) : Prop := ts.head?.any p = false

/-- A name does not go on. -/
abbrev NoDot (ts : List Token) : Prop := Avoids (· == symbol ".") ts

/-- The first token, if there is one, is one of these. -/
def Starts (ws ts : List Token) : Prop := ∀ t, ts.head? = some t → t ∈ ws

/-! ## What comes first -/

section First

variable {p : Token → Bool} {ws vs ts : List Token} {t : Token}

theorem Avoids.head (h : Avoids p ts) (t : Token) (ht : ts.head? = some t) : p t = false := by
  rw [Avoids, ht] at h
  exact h

theorem starts_cons (h : t ∈ ws) : Starts ws (t :: ts) := by
  intro u hu
  cases hu
  exact h

theorem not_starts_cons (h : t ∉ ws) : ¬ Starts ws (t :: ts) := fun hs => h (hs t rfl)

theorem Starts.ne_cons (h : Starts ws ts) (ht : t ∉ ws) {us : List Token} : ts ≠ t :: us := by
  intro hu
  rw [hu] at h
  exact not_starts_cons ht h

theorem ne_cons_of_not_starts (h : ¬ Starts [t] ts) {us : List Token} : ts ≠ t :: us := by
  intro hu
  rw [hu] at h
  exact h (starts_cons (List.mem_singleton_self t))

theorem Starts.mono (h : Starts ws ts) (hv : ∀ t ∈ ws, t ∈ vs) : Starts vs ts := fun t ht => hv t (h t ht)

theorem Starts.avoids (h : Starts ws ts) (hp : ws.any p = false) : Avoids p ts := by
  cases ts with
  | nil => rfl
  | cons t ts =>
    show p t = false
    simpa using List.any_eq_false.mp hp t (h t rfl)

/-- A clause that may be left out: its first word, or what may come after it. -/
theorem Starts.append {us : List Token} (hu : us = [] ∨ us.head? = some t) (h : Starts ws ts) :
    Starts (t :: ws) (us ++ ts) := by
  rcases hu with rfl | hu
  · exact h.mono fun _ => List.mem_cons_of_mem _
  · intro v hv
    rw [List.head?_append, hu] at hv
    cases hv
    exact List.mem_cons_self ..

end First

/-! ## Runs and lists -/

/-- A run of tokens of one class, up to where the class ends. -/
theorem run_append_inj {p : Token → Bool} {u v r s : List Token} (hu : ∀ t ∈ u, p t = true) (hv : ∀ t ∈ v, p t = true)
    (hr : Avoids p r) (hs : Avoids p s) (h : u ++ r = v ++ s) : u = v ∧ r = s := by
  constructor
  · rw [← Lexer.takeWhile_append_exact hu hr.head, h, Lexer.takeWhile_append_exact hv hs.head]
  · rw [← Lexer.dropWhile_append_exact hu hr.head, h, Lexer.dropWhile_append_exact hv hs.head]

theorem intercalate_cons_eq_flatMap {α : Type} (sep : α) (l : List α) (ls : List (List α)) :
    List.intercalate [sep] (l :: ls) = l ++ ls.flatMap (sep :: ·) := by
  induction ls generalizing l with
  | nil => simp
  | cons m ls ih => rw [List.intercalate_cons_cons, ih, List.flatMap_cons, List.append_assoc, List.singleton_append,
      List.cons_append]

theorem commas_cons (l : List Token) (ls : List (List Token)) :
    commas (l :: ls) = l ++ ls.flatMap (symbol "," :: ·) :=
  intercalate_cons_eq_flatMap _ l ls

section Lists

variable {α β : Type} {F E : List Token → Prop} {T U : α → List Token} {N M : α → β} {as bs : List α}
  {r s : List Token}

/-- What follows an item is another item, or the end. -/
theorem follows_flatMap (hEF : ∀ r, E r → F r) (ha : ∀ a ∈ as, ∀ r, F (T a ++ r)) (hr : E r) :
    F (as.flatMap T ++ r) := by
  cases as with
  | nil => exact hEF r hr
  | cons a as =>
    rw [List.flatMap_cons, List.append_assoc]
    exact ha a (List.mem_cons_self ..) _

/-- Items in a row, where `F` is what may follow an item and `E` is what may follow the last of
them, which no item looks like. -/
theorem flatMap_append_inj (hEF : ∀ r, E r → F r) (ha : ∀ a ∈ as, ∀ r, F (T a ++ r) ∧ ¬ E (T a ++ r))
    (hb : ∀ b ∈ bs, ∀ r, F (U b ++ r) ∧ ¬ E (U b ++ r))
    (item : ∀ a ∈ as, ∀ b ∈ bs, ∀ r s, F r → F s → T a ++ r = U b ++ s → N a = M b ∧ r = s)
    (hr : E r) (hs : E s) (h : as.flatMap T ++ r = bs.flatMap U ++ s) : as.map N = bs.map M ∧ r = s := by
  induction as generalizing bs with
  | nil =>
    cases bs with
    | nil => exact ⟨rfl, h⟩
    | cons b bs =>
      rw [List.flatMap_cons, List.append_assoc] at h
      have hr : E (U b ++ (bs.flatMap U ++ s)) := h ▸ hr
      exact absurd hr (hb b (List.mem_cons_self ..) _).2
  | cons a as ih =>
    rw [List.flatMap_cons, List.append_assoc] at h
    cases bs with
    | nil =>
      have hs : E (T a ++ (as.flatMap T ++ r)) := h ▸ hs
      exact absurd hs (ha a (List.mem_cons_self ..) _).2
    | cons b bs =>
      rw [List.flatMap_cons, List.append_assoc] at h
      have hfr : F (as.flatMap T ++ r) :=
        follows_flatMap hEF (fun a ha' r => (ha a (List.mem_cons_of_mem _ ha') r).1) hr
      have hfs : F (bs.flatMap U ++ s) :=
        follows_flatMap hEF (fun b hb' s => (hb b (List.mem_cons_of_mem _ hb') s).1) hs
      obtain ⟨hab, h⟩ := item a (List.mem_cons_self ..) b (List.mem_cons_self ..) _ _ hfr hfs h
      obtain ⟨hmap, hrs⟩ := ih (fun a ha' => ha a (List.mem_cons_of_mem _ ha'))
        (fun b hb' => hb b (List.mem_cons_of_mem _ hb'))
        (fun a ha' b hb' => item a (List.mem_cons_of_mem _ ha') b (List.mem_cons_of_mem _ hb')) h
      exact ⟨by rw [List.map_cons, List.map_cons, hab, hmap], hrs⟩

/-- Items between commas, with one of `ws` after the last, and no item that starts with one of them. -/
theorem commas_append_inj {ws : List Token} (hws : symbol "," ∉ ws) (ha : ∀ a ∈ as, ∀ r, ¬ Starts ws (T a ++ r))
    (hb : ∀ b ∈ bs, ∀ r, ¬ Starts ws (T b ++ r))
    (item : ∀ a ∈ as, ∀ b ∈ bs, ∀ r s, Starts (symbol "," :: ws) r → Starts (symbol "," :: ws) s →
      T a ++ r = T b ++ s → N a = N b ∧ r = s)
    (hr : Starts ws r) (hs : Starts ws s) (h : commas (as.map T) ++ r = commas (bs.map T) ++ s) :
    as.map N = bs.map N ∧ r = s := by
  have hmono {r : List Token} (hr : Starts ws r) : Starts (symbol "," :: ws) r := hr.mono fun _ => List.mem_cons_of_mem _
  have hsep (a : α) (r : List Token) : Starts (symbol "," :: ws) (symbol "," :: T a ++ r) ∧
      ¬ Starts ws (symbol "," :: T a ++ r) := ⟨starts_cons (List.mem_cons_self ..), not_starts_cons hws⟩
  cases as with
  | nil =>
    cases bs with
    | nil => exact ⟨rfl, h⟩
    | cons b bs =>
      rw [List.map_cons, commas_cons, List.append_assoc] at h
      have hr : Starts ws (T b ++ ((bs.map T).flatMap (symbol "," :: ·) ++ s)) := h ▸ hr
      exact absurd hr (hb b (List.mem_cons_self ..) _)
  | cons a as =>
    rw [List.map_cons, commas_cons, List.append_assoc] at h
    cases bs with
    | nil =>
      have hs : Starts ws (T a ++ ((as.map T).flatMap (symbol "," :: ·) ++ r)) := h ▸ hs
      exact absurd hs (ha a (List.mem_cons_self ..) _)
    | cons b bs =>
      rw [List.map_cons, commas_cons, List.append_assoc] at h
      simp only [List.flatMap_map] at h
      obtain ⟨hab, h⟩ := item a (List.mem_cons_self ..) b (List.mem_cons_self ..) _ _
        (follows_flatMap (fun _ => hmono) (fun a _ r => (hsep a r).1) hr)
        (follows_flatMap (fun _ => hmono) (fun b _ s => (hsep b s).1) hs) h
      obtain ⟨hmap, hrs⟩ := flatMap_append_inj (T := fun a => symbol "," :: T a)
        (U := fun b => symbol "," :: T b) (N := N) (M := N) (fun _ => hmono) (fun a _ => hsep a) (fun b _ => hsep b)
        (fun a ha' b hb' r s hr hs h => item a (List.mem_cons_of_mem _ ha') b (List.mem_cons_of_mem _ hb') r s hr hs
          (List.cons.inj h).2) hr hs h
      exact ⟨by rw [List.map_cons, List.map_cons, hab, hmap], hrs⟩

end Lists

/-! ## Names -/

theorem ofPath_cons (name : String) (path : List String) :
    ofPath (name :: path) = identifier name :: path.flatMap fun s => [symbol ".", identifier s] := by
  rw [ofPath, List.map_cons, intercalate_cons_eq_flatMap, List.flatMap_map]
  rfl

theorem ofPath_append_inj {u v : List String} {r s : List Token} (hu : u ≠ []) (hv : v ≠ [])
    (hr : NoDot r) (hs : NoDot s) (h : ofPath u ++ r = ofPath v ++ s) :
    u = v ∧ r = s := by
  obtain ⟨a, u, rfl⟩ := List.exists_cons_of_ne_nil hu
  obtain ⟨b, v, rfl⟩ := List.exists_cons_of_ne_nil hv
  rw [ofPath_cons, ofPath_cons] at h
  obtain ⟨hab, h⟩ := List.cons.inj h
  have hdot (c : String) (r : List Token) : True ∧ ¬ NoDot ([symbol ".", identifier c] ++ r) :=
    ⟨trivial, fun hc => by cases hc⟩
  obtain ⟨huv, hrs⟩ := flatMap_append_inj (F := fun _ => True) (N := id) (M := id) (fun _ _ => trivial)
    (fun c _ => hdot c) (fun c _ => hdot c) (fun c _ d _ r s _ _ h => by simpa using h) hr hs h
  rw [List.map_id, List.map_id] at huv
  exact ⟨by rw [Token.identifier.inj hab, huv], hrs⟩

/-! ## Plain texts -/

def chars : Token → List Char
  | word s | number s | identifier s | string s | symbol s => s.toList

theorem flatMap_chars_ofRun (cs : List Char) : (ofRun cs).flatMap chars = cs := by
  unfold ofRun
  split
  · next h => exact h.symm
  · split <;> simp [chars]

/-- A plain text is its tokens, one after the other. -/
theorem flatMap_chars_ofPlain (s : String) : (ofPlain s).flatMap chars = s.toList := by
  have hchars (ls : List (List Char)) :
      (commas (ls.map ofRun)).flatMap chars = List.intercalate [','] ls := by
    cases ls with
    | nil => rfl
    | cons l ls =>
      rw [List.map_cons, commas_cons, intercalate_cons_eq_flatMap, List.flatMap_append, flatMap_chars_ofRun,
        List.flatMap_map, List.flatMap_assoc]
      simp only [List.flatMap_cons, flatMap_chars_ofRun]
      rfl
  rw [ofPlain, hchars, Text.intercalate_split]

theorem ne_close_of_mem_ofPlain {s : String} {t : Token} (h : t ∈ ofPlain s) : (t != symbol ")") = true := by
  have hrun (cs : List Char) (ht : t ∈ ofRun cs) : (t != symbol ")") = true := by
    unfold ofRun at ht
    split at ht
    · cases ht
    · split at ht
      · rw [List.mem_singleton.mp ht]
        rfl
      · rw [List.mem_singleton.mp ht]
        rfl
  obtain ⟨l, ls, hl⟩ := List.exists_cons_of_ne_nil (Text.split_ne_nil ',' s.toList)
  rw [ofPlain, hl, List.map_cons, commas_cons, List.flatMap_map] at h
  rcases List.mem_append.mp h with h | h
  · exact hrun l h
  · obtain ⟨m, -, h⟩ := List.mem_flatMap.mp h
    rcases List.mem_cons.mp h with rfl | h
    · rfl
    · exact hrun m h

/-- A plain text ends at the parenthesis after it. -/
theorem ofPlain_append_inj {a b : String} {r s : List Token}
    (h : ofPlain a ++ symbol ")" :: r = ofPlain b ++ symbol ")" :: s) : a = b ∧ r = s := by
  have hclose (r : List Token) : Avoids (· != symbol ")") (symbol ")" :: r) := rfl
  obtain ⟨hab, hrs⟩ := run_append_inj (fun _ => ne_close_of_mem_ofPlain) (fun _ => ne_close_of_mem_ofPlain)
    (hclose r) (hclose s) h
  refine ⟨String.toList_inj.mp ?_, (List.cons.inj hrs).2⟩
  rw [← flatMap_chars_ofPlain, hab, flatMap_chars_ofPlain]

end SqlClauses.Token
