/-
  SqlClauses.Proofs.Environment — which variables give settings, and which settings they give.

  The URL decides how the other variables are read. If it is set, it must not be blank, and no
  variable but the size of the pool is looked at. If it is not set, a host that is set must not
  be blank, a user and a database must be set and not blank, and a port that is set must be a
  number below 65536. Either way a size that is set must be a number that fits, and not zero.
  `GivenBy` says so of the variables alone, with the settings that come of them; reading does
  nothing else. What is read is valid, and without a URL a driver can always be given a target,
  whatever it makes of URLs.

  Main statements: `numberIn_eq_ok_iff`, numbers in variables; `addressOf_eq_ok_iff`, the
  address; `ofLookup_eq_ok_iff`, the settings; `exists_fault_of_ofLookup`, all that can go
  wrong; `ofLookup_accepts_exactly`, all of it.
-/

import SqlClauses.Settings.Environment
import SqlClauses.Settings.Target

namespace SqlClauses

open Text (Blank Spells)

theorem SettingsFault.not_isValidation (f : SettingsFault) : ¬ f.error.IsValidation := fun h => h.2 trivial

theorem SettingsFault.not_isExecution (f : SettingsFault) : ¬ f.error.IsExecution := id

namespace Settings

variable {lookup : String → Option String} {s address : Settings} {e : Error}

/-! ## What variables may hold -/

/-- A variable that is not set stands for `standard`, and one that is set for the number in it. -/
def HoldsNumber (bound standard : Nat) (value : Option String) (n : Nat) : Prop :=
  match value with
  | none => n = standard
  | some text => Spells bound text n

/-- The variables can be used, and these are the settings that they give. -/
inductive GivenBy (lookup : String → Option String) : Settings → Prop
  | url {url : String} {size : UInt64} :
      lookup "DATABASE_URL" = some url → ¬ Blank url →
      HoldsNumber UInt64.size 16 (lookup "FLUENTQL_POOL_SIZE") size.toNat → 1 ≤ size.toNat →
      GivenBy lookup
        { url := some url, host := "localhost", port := 5432, user := "", password := none, database := "",
          applicationName := none, poolSize := size }
  | parts {user database : String} {port : UInt16} {size : UInt64} :
      lookup "DATABASE_URL" = none → (∀ host, lookup "FLUENTQL_HOST" = some host → ¬ Blank host) →
      lookup "FLUENTQL_USER" = some user → ¬ Blank user →
      lookup "FLUENTQL_DATABASE" = some database → ¬ Blank database →
      HoldsNumber UInt16.size 5432 (lookup "FLUENTQL_PORT") port.toNat →
      HoldsNumber UInt64.size 16 (lookup "FLUENTQL_POOL_SIZE") size.toNat → 1 ≤ size.toNat →
      GivenBy lookup
        { url := none, host := (lookup "FLUENTQL_HOST").getD "localhost", port, user,
          password := lookup "FLUENTQL_PASSWORD", database, applicationName := none, poolSize := size }

/-! ## Numbers -/

theorem numberIn_eq_ok_iff {variableName kind : String} {bound standard n : Nat} :
    numberIn lookup variableName kind bound standard = .ok n ↔ HoldsNumber bound standard (lookup variableName) n := by
  unfold numberIn HoldsNumber
  cases lookup variableName with
  | none => exact ⟨fun h => (Except.ok.inj h).symm, fun h => congrArg Except.ok h.symm⟩
  | some text =>
    simp only [← Text.readUnsigned?_eq_some_iff]
    cases Text.readUnsigned? bound text.toList with
    | none => simp
    | some m => simp

theorem HoldsNumber.lt {bound standard n : Nat} {value : Option String} (h : HoldsNumber bound standard value n)
    (hs : standard < bound) : n < bound := by
  cases value with
  | none => exact (show n = standard from h) ▸ hs
  | some text => exact h.1

/-- A number of a sized type is read as its value, from a variable and back. -/
theorem exists_number_iff {β : Type} {toNat : β → Nat} {ofNat : Nat → β} {variableName : String} (kind : String)
    {bound standard : Nat} (hs : standard < bound) (hnat : ∀ n < bound, toNat (ofNat n) = n)
    (hround : ∀ b, ofNat (toNat b) = b) {p : β → Prop} :
    (∃ n, numberIn lookup variableName kind bound standard = .ok n ∧ p (ofNat n)) ↔
      ∃ b, HoldsNumber bound standard (lookup variableName) (toNat b) ∧ p b := by
  simp only [numberIn_eq_ok_iff]
  constructor
  · intro ⟨n, hn, hp⟩
    exact ⟨ofNat n, (hnat n (hn.lt hs)).symm ▸ hn, hp⟩
  · intro ⟨b, hb, hp⟩
    exact ⟨toNat b, hb, (hround b).symm ▸ hp⟩

/-! ## The address -/

/-- The address without a URL. -/
def ofVariables (lookup : String → Option String) (port : UInt16) : Settings :=
  { host := (lookup hostVariable).getD "localhost", port, user := (lookup userVariable).getD "",
    password := lookup passwordVariable, database := (lookup databaseVariable).getD "" }

theorem addressOf_of_url {url : String} (h : lookup urlVariable = some url) : addressOf lookup = .ok (ofUrl url) := by
  rw [addressOf, h]

theorem addressOf_of_no_url (h : lookup urlVariable = none) :
    addressOf lookup =
      numberIn lookup portVariable "port" UInt16.size 5432 >>= fun port => .ok (ofVariables lookup port.toUInt16) := by
  rw [addressOf, h]
  rfl

theorem addressOf_eq_ok_iff :
    addressOf lookup = .ok address ↔
      (∃ url, lookup urlVariable = some url ∧ ofUrl url = address) ∨
        lookup urlVariable = none ∧ ∃ port : UInt16,
          HoldsNumber UInt16.size 5432 (lookup portVariable) port.toNat ∧ ofVariables lookup port = address := by
  cases h : lookup urlVariable with
  | some url => simp [addressOf_of_url h]
  | none =>
    rw [addressOf_of_no_url h, bind_eq_ok_iff,
      ← exists_number_iff "port" (by decide) (fun n => UInt16.toNat_ofNat_of_lt') (fun b => UInt16.ofNat_toNat)]
    simp

theorem poolSize_of_addressOf (h : addressOf lookup = .ok address) : address.poolSize = 16 := by
  rcases addressOf_eq_ok_iff.mp h with ⟨url, -, rfl⟩ | ⟨-, port, -, rfl⟩
  · rfl
  · rfl

/-! ## Settings -/

theorem validate_return_eq_ok_iff {t : Settings} :
    (s.validate >>= fun _ => pure s) = .ok t ↔ s.poolSize ≠ 0 ∧ s.Addresses ∧ s = t := by
  rw [bind_eq_ok_iff, ← and_assoc, ← validate_eq_ok_iff]
  exact ⟨fun ⟨(), hs, ht⟩ => ⟨hs, Except.ok.inj ht⟩, fun ⟨hs, ht⟩ => ⟨(), hs, congrArg Except.ok ht⟩⟩

/-- What is read is an address and the size of the pool, if the two are valid together. -/
theorem exists_address_iff :
    ofLookup lookup = .ok s ↔ ∃ address, addressOf lookup = .ok address ∧ ∃ size : UInt64,
      HoldsNumber UInt64.size 16 (lookup poolSizeVariable) size.toNat ∧ size ≠ 0 ∧
        { address with poolSize := size }.Addresses ∧ { address with poolSize := size } = s := by
  unfold ofLookup
  rw [bind_eq_ok_iff]
  refine exists_congr fun address => and_congr_right fun haddress => ?_
  rw [bind_eq_ok_iff, poolSize_of_addressOf haddress,
    ← exists_number_iff "number" (by decide) (fun n => UInt64.toNat_ofNat_of_lt') (fun b => UInt64.ofNat_toNat)]
  exact exists_congr fun n => and_congr_right fun _ => validate_return_eq_ok_iff

theorem one_le_toNat_iff {size : UInt64} : 1 ≤ size.toNat ↔ size ≠ 0 := by
  rw [Nat.one_le_iff_ne_zero, ne_eq, ne_eq, ← UInt64.toNat_inj]
  rfl

theorem not_blank_host_iff {host : Option String} :
    ¬ Blank (host.getD "localhost") ↔ ∀ h, host = some h → ¬ Blank h := by
  cases host with
  | none => exact iff_of_true (by decide) (by simp)
  | some h => simp

theorem exists_of_not_blank {value : Option String} (h : ¬ Blank (value.getD "")) :
    ∃ s, value = some s ∧ ¬ Blank s := by
  cases value with
  | none => exact absurd (by decide) h
  | some s => exact ⟨s, rfl, h⟩

theorem ofVariables_eq {user database : String} {port : UInt16} (huser : lookup userVariable = some user)
    (hdatabase : lookup databaseVariable = some database) :
    ofVariables lookup port =
      { url := none, host := (lookup hostVariable).getD "localhost", port, user, password := lookup passwordVariable,
        database, applicationName := none, poolSize := 16 } := by
  rw [ofVariables, huser, hdatabase]
  rfl

theorem ofLookup_eq_ok_iff : ofLookup lookup = .ok s ↔ GivenBy lookup s := by
  rw [exists_address_iff]
  constructor
  · rintro ⟨address, haddress, size, hsize, hpos, hvalid, rfl⟩
    rcases addressOf_eq_ok_iff.mp haddress with ⟨url, hurl, rfl⟩ | ⟨hurl, port, hport, rfl⟩
    · exact .url hurl hvalid hsize (one_le_toNat_iff.mpr hpos)
    · obtain ⟨hhost, huser, hdatabase⟩ := hvalid
      obtain ⟨user, huser, hubl⟩ := exists_of_not_blank huser
      obtain ⟨database, hdatabase, hdbl⟩ := exists_of_not_blank hdatabase
      -- validity has shown that the two variables are set, so no default is left but the host's
      rw [ofVariables_eq huser hdatabase] at hhost ⊢
      exact .parts hurl (not_blank_host_iff.mp hhost) huser hubl hdatabase hdbl hport hsize
        (one_le_toNat_iff.mpr hpos)
  · rintro (⟨hurl, hbl, hsize, hpos⟩ | ⟨hurl, hhost, huser, hubl, hdatabase, hdbl, hport, hsize, hpos⟩)
    · exact ⟨_, addressOf_eq_ok_iff.mpr (.inl ⟨_, hurl, rfl⟩), _, hsize, one_le_toNat_iff.mp hpos, hbl, rfl⟩
    · exact ⟨_, addressOf_eq_ok_iff.mpr (.inr ⟨hurl, _, hport, ofVariables_eq huser hdatabase⟩), _, hsize,
        one_le_toNat_iff.mp hpos, ⟨not_blank_host_iff.mpr hhost, hubl, hdbl⟩, rfl⟩

/-! ## Refusals -/

theorem exists_fault_of_numberIn {variableName kind : String} {bound standard : Nat}
    (h : numberIn lookup variableName kind bound standard = .error e) : ∃ f : SettingsFault, e = f.error := by
  unfold numberIn at h
  split at h
  · cases h
  · next text _ =>
    split at h
    · cases h
    · exact ⟨.malformedNumber variableName kind text, (Except.error.inj h).symm⟩

theorem exists_fault_of_validate (h : s.validate = .error e) : ∃ f : SettingsFault, e = f.error := by
  unfold validate at h
  split at h
  · next f _ => exact ⟨f, (Except.error.inj h).symm⟩
  · cases h

theorem exists_fault_of_addressOf (h : addressOf lookup = .error e) : ∃ f : SettingsFault, e = f.error := by
  cases hurl : lookup urlVariable with
  | some url =>
    rw [addressOf_of_url hurl] at h
    cases h
  | none =>
    rw [addressOf_of_no_url hurl, bind_eq_error_iff] at h
    rcases h with hport | ⟨port, -, h⟩
    · exact exists_fault_of_numberIn hport
    · cases h

theorem exists_fault_of_ofLookup (h : ofLookup lookup = .error e) : ∃ f : SettingsFault, e = f.error := by
  unfold ofLookup at h
  rcases bind_eq_error_iff.mp h with haddress | ⟨address, -, h⟩
  · exact exists_fault_of_addressOf haddress
  rcases bind_eq_error_iff.mp h with hsize | ⟨size, -, h⟩
  · exact exists_fault_of_numberIn hsize
  rcases bind_eq_error_iff.mp h with hvalid | ⟨_, -, h⟩
  · exact exists_fault_of_validate hvalid
  · cases h

/-! ## What settings that were read are good for -/

theorem validate_of_ofLookup (h : ofLookup lookup = .ok s) : s.validate = .ok () := by
  obtain ⟨address, -, size, -, hpos, hvalid, rfl⟩ := exists_address_iff.mp h
  exact validate_eq_ok_iff.mpr ⟨hpos, hvalid⟩

theorem target_of_validate (hvalid : s.validate = .ok ()) (hurl : s.url = none) (readUrl : String → Option Target) :
    s.target readUrl = .ok { s.ownTarget with applicationName := s.applicationName } := by
  rw [target, hvalid, hurl]
  change Except.ok { s.ownTarget with applicationName := s.applicationName.or none } = _
  rw [Option.or_none]

theorem GivenBy.applicationName (h : GivenBy lookup s) : s.applicationName = none := by
  cases h with
  | url => rfl
  | parts => rfl

/-- Settings are read exactly when the variables can be used, and then they are the ones that
the variables give. They are valid, and without a URL they lead to a target, however the driver
reads URLs. Variables that cannot be used are refused for a fault of the settings. -/
theorem ofLookup_accepts_exactly (lookup : String → Option String) :
    (∀ s, ofLookup lookup = .ok s ↔ GivenBy lookup s) ∧
      (∀ s, GivenBy lookup s →
        s.validate = .ok () ∧ (s.url = none → ∀ readUrl, s.target readUrl = .ok s.ownTarget)) ∧
      ((¬ ∃ s, GivenBy lookup s) →
        ∃ f : SettingsFault, ofLookup lookup = .error f.error ∧ ¬ f.error.IsValidation ∧ ¬ f.error.IsExecution) := by
  refine ⟨fun s => ofLookup_eq_ok_iff, fun s hs => ?_, fun hnone => ?_⟩
  · have hvalid : s.validate = .ok () := validate_of_ofLookup (ofLookup_eq_ok_iff.mpr hs)
    refine ⟨hvalid, fun hurl readUrl => ?_⟩
    rw [target_of_validate hvalid hurl readUrl, hs.applicationName]
    rfl
  · cases h : ofLookup lookup with
    | ok s => exact absurd ⟨s, ofLookup_eq_ok_iff.mp h⟩ hnone
    | error e =>
      obtain ⟨f, rfl⟩ := exists_fault_of_ofLookup h
      exact ⟨f, rfl, f.not_isValidation, f.not_isExecution⟩

/-- Variables of which all but the port can be used. -/
def withPort (port : String) (name : String) : Option String :=
  List.lookup name
    [(hostVariable, "db"), (portVariable, port), (userVariable, "ada"), (databaseVariable, "shop"),
     (poolSizeVariable, "+001")]

theorem ofLookup_accepts_greatest_port :
    (∃ s, GivenBy (withPort "+0065535") s ∧ s.port = 65535 ∧ s.validate = .ok () ∧
        ∀ readUrl, s.target readUrl = .ok s.ownTarget) ∧
      ∃ f : SettingsFault, ofLookup (withPort "65536") = .error f.error ∧ ¬ f.error.IsExecution := by
  obtain ⟨hok, hvalid, -⟩ := ofLookup_accepts_exactly (withPort "+0065535")
  obtain ⟨hnot, -, hfault⟩ := ofLookup_accepts_exactly (withPort "65536")
  have hgiven : GivenBy (withPort "+0065535")
      { host := "db", port := 65535, user := "ada", database := "shop", poolSize := 1 } := (hok _).mp rfl
  have hnone : ¬ ∃ s, GivenBy (withPort "65536") s := by
    intro ⟨s, hs⟩
    have h := (hnot s).mpr hs
    have herror : ofLookup (withPort "65536") = .error (.settings "FLUENTQL_PORT is not a port: 65536") := rfl
    rw [herror] at h
    cases h
  obtain ⟨f, hf, -, hexec⟩ := hfault hnone
  exact ⟨⟨_, hgiven, rfl, (hvalid _ hgiven).1, (hvalid _ hgiven).2 rfl⟩, f, hf, hexec⟩

end Settings

end SqlClauses
