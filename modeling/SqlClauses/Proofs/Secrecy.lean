/-
  SqlClauses.Proofs.Secrecy — what reading settings makes of a URL and a password.

  Of a password it is only known whether it is set, and of a URL whether it is blank. Hiding
  the rest of them in the variables and then reading gives the same as reading and then hiding
  it in the settings (`ofLookup_hideSecrets`), and the line for a log is the same for hidden
  settings (`shown_hidden`). So variables that differ in secrets only are read to the same
  error, or to settings that differ in these secrets and look alike in a log. Beside a URL,
  no variable matters but the size of the pool.

  Main statements: `ofLookup_congr_of_url`, the URL comes first; `ofLookup_hideSecrets`, hiding
  before and after reading; `ofLookup_keeps_secrets`, both as laws on two readings.
-/

import SqlClauses.Proofs.Environment
import SqlClauses.Settings.Shown

namespace SqlClauses.Settings

open Text (Blank)

variable {lookup other : String → Option String} {s s' : Settings}

/-! ## What a variable is read for -/

theorem numberIn_congr {variableName kind : String} {bound standard : Nat}
    (h : lookup variableName = other variableName) :
    numberIn lookup variableName kind bound standard = numberIn other variableName kind bound standard := by
  rw [numberIn, numberIn, h]

theorem ofLookup_congr_of_url {url : String} (h : lookup urlVariable = some url) (h' : other urlVariable = some url)
    (hsize : lookup poolSizeVariable = other poolSizeVariable) : ofLookup lookup = ofLookup other := by
  rw [ofLookup, ofLookup, addressOf_of_url h, addressOf_of_url h']
  simp only [numberIn_congr hsize]

/-! ## Hiding secrets -/

/-- A blank URL is an error and no secret. -/
def hideUrl (url : String) : String := if Blank url then url else "<redacted>"

def hidePassword (_ : String) : String := "<redacted>"

/-- The settings without their secrets. -/
def hidden (s : Settings) : Settings := { s with url := s.url.map hideUrl, password := s.password.map hidePassword }

/-- The variables without their secrets. -/
def hideSecrets (lookup : String → Option String) (name : String) : Option String :=
  if name = urlVariable then (lookup name).map hideUrl
  else if name = passwordVariable then (lookup name).map hidePassword
  else lookup name

theorem hideUrl_of_not_blank {url : String} (h : ¬ Blank url) : hideUrl url = "<redacted>" := if_neg h

theorem blank_hideUrl_iff {url : String} : Blank (hideUrl url) ↔ Blank url := by
  by_cases h : Blank url
  · rw [hideUrl, if_pos h]
  · rw [hideUrl_of_not_blank h]
    exact iff_of_false (by decide) h

theorem hideSecrets_url : hideSecrets lookup urlVariable = (lookup urlVariable).map hideUrl := if_pos rfl

theorem hideSecrets_password : hideSecrets lookup passwordVariable = (lookup passwordVariable).map hidePassword := by
  rw [hideSecrets, if_neg (by decide), if_pos rfl]

theorem hideSecrets_of_ne {name : String} (hurl : name ≠ urlVariable) (hpassword : name ≠ passwordVariable) :
    hideSecrets lookup name = lookup name := by
  rw [hideSecrets, if_neg hurl, if_neg hpassword]

theorem fault?_hidden : s.hidden.fault? = s.fault? := by
  unfold fault? hidden
  cases s.url with
  | none => rfl
  | some url => simp only [Option.map_some, blank_hideUrl_iff]

theorem validate_hidden : s.hidden.validate = s.validate := by rw [validate, validate, fault?_hidden]

theorem shownSecret_map {secret : Option String} {hide : String → String} :
    shownSecret (secret.map hide) = shownSecret secret := by
  rw [shownSecret, shownSecret, Option.map_map]
  rfl

theorem shownFields_hidden : s.hidden.shownFields = s.shownFields := by
  have hurl : shownSecret s.hidden.url = shownSecret s.url := shownSecret_map
  have hpassword : shownSecret s.hidden.password = shownSecret s.password := shownSecret_map
  unfold shownFields
  rw [hurl, hpassword]
  rfl

theorem shown_hidden : s.hidden.shown = s.shown := by
  unfold shown
  rw [shownFields_hidden]

/-! ## Hiding before and after reading -/

theorem ofVariables_hideSecrets {port : UInt16} :
    ofVariables (hideSecrets lookup) port = (ofVariables lookup port).hidden := by
  have hhost : hideSecrets lookup hostVariable = lookup hostVariable := hideSecrets_of_ne (by decide) (by decide)
  have huser : hideSecrets lookup userVariable = lookup userVariable := hideSecrets_of_ne (by decide) (by decide)
  have hdatabase : hideSecrets lookup databaseVariable = lookup databaseVariable :=
    hideSecrets_of_ne (by decide) (by decide)
  rw [ofVariables, hhost, huser, hdatabase, hideSecrets_password]
  rfl

theorem addressOf_hideSecrets : addressOf (hideSecrets lookup) = (addressOf lookup).map hidden := by
  cases h : lookup urlVariable with
  | some url =>
    have hhidden : hideSecrets lookup urlVariable = some (hideUrl url) := by
      rw [hideSecrets_url, h]
      rfl
    rw [addressOf_of_url h, addressOf_of_url hhidden]
    rfl
  | none =>
    have hhidden : hideSecrets lookup urlVariable = none := by
      rw [hideSecrets_url, h]
      rfl
    rw [addressOf_of_no_url h, addressOf_of_no_url hhidden,
      numberIn_congr (hideSecrets_of_ne (by decide) (by decide))]
    cases numberIn lookup portVariable "port" UInt16.size 5432 with
    | error e => rfl
    | ok port => exact congrArg Except.ok ofVariables_hideSecrets

/-- To hide the secrets before reading is to hide them after it. -/
theorem ofLookup_hideSecrets : ofLookup (hideSecrets lookup) = (ofLookup lookup).map hidden := by
  have hsize : hideSecrets lookup poolSizeVariable = lookup poolSizeVariable :=
    hideSecrets_of_ne (by decide) (by decide)
  -- a step that fails quotes no secret: the same error stands on both sides
  unfold ofLookup
  rw [addressOf_hideSecrets]
  cases addressOf lookup with
  | error e => rfl
  | ok address =>
    change (numberIn (hideSecrets lookup) poolSizeVariable _ _ address.poolSize.toNat >>= _) =
      (numberIn lookup poolSizeVariable _ _ address.poolSize.toNat >>= _).map hidden
    rw [numberIn_congr hsize]
    cases numberIn lookup poolSizeVariable "number" UInt64.size address.poolSize.toNat with
    | error e => rfl
    | ok size =>
      let settings : Settings := { address with poolSize := size.toUInt64 }
      change (settings.hidden.validate >>= fun _ => pure settings.hidden) =
        (settings.validate >>= fun _ => pure settings).map hidden
      rw [validate_hidden]
      cases settings.validate with
      | error e => rfl
      | ok => rfl

/-! ## Two readings -/

/-- The variables are the same but for what a password is, and for what a URL that is not blank is. -/
structure SameButSecrets (lookup other : String → Option String) : Prop where
  others : ∀ name, name ≠ "DATABASE_URL" → name ≠ "FLUENTQL_PASSWORD" → lookup name = other name
  password : (lookup "FLUENTQL_PASSWORD").isSome = (other "FLUENTQL_PASSWORD").isSome
  url : lookup "DATABASE_URL" = other "DATABASE_URL" ∨
    ∃ url url', lookup "DATABASE_URL" = some url ∧ other "DATABASE_URL" = some url' ∧ ¬ Blank url ∧ ¬ Blank url'

theorem map_hidePassword_congr {p p' : Option String} (h : p.isSome = p'.isSome) :
    p.map hidePassword = p'.map hidePassword := by
  cases p with
  | none =>
    cases p' with
    | none => rfl
    | some q => cases h
  | some q =>
    cases p' with
    | none => cases h
    | some q' => rfl

theorem SameButSecrets.hideSecrets_eq (h : SameButSecrets lookup other) : hideSecrets lookup = hideSecrets other := by
  funext name
  by_cases hurl : name = urlVariable
  · rw [hurl, hideSecrets_url, hideSecrets_url]
    rcases h.url with heq | ⟨url, url', hl, hl', hbl, hbl'⟩
    · exact congrArg _ heq
    · rw [urlVariable, hl, hl', Option.map_some, Option.map_some, hideUrl_of_not_blank hbl, hideUrl_of_not_blank hbl']
  by_cases hpassword : name = passwordVariable
  · rw [hpassword, hideSecrets_password, hideSecrets_password]
    exact map_hidePassword_congr h.password
  · rw [hideSecrets_of_ne hurl hpassword, hideSecrets_of_ne hurl hpassword]
    exact h.others name hurl hpassword

theorem SameButSecrets.isSome_url (h : SameButSecrets lookup other) :
    (lookup urlVariable).isSome = (other urlVariable).isSome := by
  rcases h.url with heq | ⟨url, url', hl, hl', -, -⟩
  · exact congrArg _ heq
  · rw [urlVariable, hl, hl']
    rfl

/-- What comes of two readings is alike once the secrets are hidden. -/
theorem map_hidden_congr (h : SameButSecrets lookup other) :
    (ofLookup lookup).map hidden = (ofLookup other).map hidden :=
  calc (ofLookup lookup).map hidden
      = ofLookup (hideSecrets lookup) := ofLookup_hideSecrets.symm
    _ = ofLookup (hideSecrets other) := by rw [h.hideSecrets_eq]
    _ = (ofLookup other).map hidden := ofLookup_hideSecrets

theorem error_or_ok_of_map_eq {α β : Type} {f : α → β} {x y : Except Error α} (h : x.map f = y.map f) :
    (∃ e, x = .error e ∧ y = .error e) ∨ ∃ a b, x = .ok a ∧ y = .ok b ∧ f a = f b := by
  cases x with
  | error e =>
    cases y with
    | error e' => exact .inl ⟨e, rfl, congrArg Except.error (Except.error.inj h).symm⟩
    | ok b => cases h
  | ok a =>
    cases y with
    | error e => cases h
    | ok b => exact .inr ⟨a, b, rfl, rfl, Except.ok.inj h⟩

theorem eq_of_hidden_eq (h : s.hidden = s'.hidden) : s' = { s with url := s'.url, password := s'.password } := by
  cases s
  cases s'
  simp only [hidden, mk.injEq] at h
  obtain ⟨-, rfl, rfl, rfl, -, rfl, rfl, rfl⟩ := h
  rfl

theorem shown_eq_of_hidden_eq (h : s.hidden = s'.hidden) : s.shown = s'.shown := by
  rw [← shown_hidden, h, shown_hidden]

theorem url_of_ofLookup (h : ofLookup lookup = .ok s) : s.url = lookup urlVariable := by
  cases ofLookup_eq_ok_iff.mp h with
  | url hurl => exact hurl.symm
  | parts hurl => exact hurl.symm

theorem password_of_ofLookup (h : ofLookup lookup = .ok s) :
    s.password = if (lookup urlVariable).isSome then none else lookup passwordVariable := by
  cases ofLookup_eq_ok_iff.mp h with
  | url hurl =>
    rw [urlVariable, hurl]
    rfl
  | parts hurl =>
    rw [urlVariable, hurl]
    rfl

/-- Beside a URL the other variables of the address do not matter. Variables that are the same
but for secrets are read to one error, or to settings that are the same but for these secrets
and have the same line in a log. -/
theorem ofLookup_keeps_secrets (lookup other : String → Option String) :
    (∀ url, lookup "DATABASE_URL" = some url → other "DATABASE_URL" = some url →
        lookup "FLUENTQL_POOL_SIZE" = other "FLUENTQL_POOL_SIZE" → ofLookup lookup = ofLookup other) ∧
      (SameButSecrets lookup other →
        (∃ e, ofLookup lookup = .error e ∧ ofLookup other = .error e) ∨
          ∃ s s', ofLookup lookup = .ok s ∧ ofLookup other = .ok s' ∧
            s' = { s with url := s'.url, password := s'.password } ∧
            (lookup "DATABASE_URL" = other "DATABASE_URL" → s.url = s'.url) ∧
            (lookup "FLUENTQL_PASSWORD" = other "FLUENTQL_PASSWORD" → s.password = s'.password) ∧
            s.shown = s'.shown) := by
  refine ⟨fun url h h' hsize => ofLookup_congr_of_url h h' hsize, fun hsame => ?_⟩
  rcases error_or_ok_of_map_eq (map_hidden_congr hsame) with hfails | ⟨s, s', hs, hs', heq⟩
  · exact .inl hfails
  · refine .inr ⟨s, s', hs, hs', eq_of_hidden_eq heq, fun hurl => ?_, fun hpassword => ?_,
      shown_eq_of_hidden_eq heq⟩
    · calc s.url
          = lookup urlVariable := url_of_ofLookup hs
        _ = other urlVariable := hurl
        _ = s'.url := (url_of_ofLookup hs').symm
    · rw [password_of_ofLookup hs, password_of_ofLookup hs', hsame.isSome_url, passwordVariable, hpassword]

/-- A URL, and a port beside it. -/
def withUrl (url port name : String) : Option String :=
  if name = urlVariable then some url else if name = portVariable then some port else none

/-- Settings without a URL that can be used with any password. -/
def withPassword (password name : String) : Option String :=
  if name = passwordVariable then some password
  else List.lookup name [(userVariable, "ada"), (databaseVariable, "shop")]

theorem ofLookup_keeps_two_passwords :
    ofLookup (withUrl "postgres://db/shop" "http") = ofLookup (withUrl "postgres://db/shop" "70000") ∧
      ∃ s s', ofLookup (withPassword "first") = .ok s ∧ ofLookup (withPassword "second") = .ok s' ∧
        s.password ≠ s'.password ∧ s.shown = s'.shown := by
  constructor
  · exact (ofLookup_keeps_secrets (withUrl _ "http") (withUrl _ "70000")).1 "postgres://db/shop" rfl rfl rfl
  · have hsame : SameButSecrets (withPassword "first") (withPassword "second") :=
      ⟨fun name _ h => (if_neg h).trans (if_neg h).symm, rfl, .inl rfl⟩
    rcases (ofLookup_keeps_secrets _ _).2 hsame with ⟨e, h, -⟩ | ⟨s, s', hs, hs', -, -, -, hshown⟩
    · cases h
    · have hp : s.password = some "first" := password_of_ofLookup hs
      have hp' : s'.password = some "second" := password_of_ofLookup hs'
      refine ⟨s, s', hs, hs', ?_, hshown⟩
      rw [hp, hp']
      decide

end SqlClauses.Settings
