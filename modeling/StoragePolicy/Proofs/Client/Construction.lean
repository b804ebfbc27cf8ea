import StoragePolicy.Proofs.Client.Calls
import StoragePolicy.Proofs.Config
import StoragePolicy.Proofs.Names.Addresses

/-!
# Making a Client

A client is made of a configuration and a signer, and the configuration may have
come from anywhere: it need not have been loaded, so it is checked again. What is
checked can be said without the check. Five conditions concern the configuration
alone, and `Sound` lists them for the operator that the account spells. The sixth
is that the signer is this operator, which is a matter of octets and not of how
the account is written.

Where several of the conditions fail, the first decides. `Unsound` says which that
is: each of its reasons supposes the conditions before its own, so that no two
reasons can be given for one configuration.

The account is read twice, by the check and for the operator. The readings cannot
disagree, because a condition on the account is a condition on its text, and that
is all that either of them looks at.

## Main definitions

* `Config.Visible`: A text with something to be seen in it.
* `Config.Reachable`: What is looked at before the account.
* `Config.Sound`: What a client can work with.
* `Config.Unsound`: Why a configuration is refused.

## Theorems

* `Config.sound_or_unsound`: There is no third case.
* `Config.check_eq_ok_iff`, `Config.check_eq_error_iff`: What the check finds.
* `Client.new_eq_error_iff`: Why no client is made.
* `Client.made_if_sound`: What making a client is.
-/

namespace StoragePolicy

open Text

namespace Config

/-- Some character is no white space. -/
def Visible (s : String) : Prop := ∃ c ∈ s.toList, isWhiteSpace c = false

/-- What is looked at before the account. -/
structure Reachable (c : Config) : Prop where
  version : c.version = 1
  chainId : Visible c.chain.chainId
  endpoints : Visible c.chain.rpcAddr ∧ Visible c.chain.grpcAddr

/-- A client can work with the configuration, as this operator. -/
structure Sound (c : Config) (operator : Address) : Prop extends Reachable c where
  account : operator.Spells c.account.address.toList
  limit : 1 ≤ c.permission.maxStatements.toNat ∧ c.permission.maxStatements.toNat ≤ 64

/-- Why no client can work with the configuration. Each reason supposes that
    those before it do not apply. -/
inductive Unsound (c : Config) : Fault → Prop where
  | version (version : c.version ≠ 1) : Unsound c .unsupportedVersion
  | chainId (version : c.version = 1) (chainId : ¬ Visible c.chain.chainId) :
    Unsound c .emptyChainId
  | endpoints (version : c.version = 1) (chainId : Visible c.chain.chainId)
    (endpoints : ¬ (Visible c.chain.rpcAddr ∧ Visible c.chain.grpcAddr)) :
    Unsound c .emptyEndpoint
  | account (reachable : Reachable c) {cause : AddressFault}
    (account : Address.Refused c.account.address.toList cause) :
    Unsound c (.badOperator c.account.address cause)
  | limit (reachable : Reachable c) {operator : Address}
    (account : operator.Spells c.account.address.toList)
    (limit : ¬ (1 ≤ c.permission.maxStatements.toNat ∧
      c.permission.maxStatements.toNat ≤ 64)) : Unsound c .badStatementLimit

theorem visible_iff {s : String} : Visible s ↔ isBlank s = false := isBlank_eq_false_iff.symm

theorem not_visible_iff {s : String} : ¬ Visible s ↔ isBlank s = true := by
  rw [visible_iff, Bool.not_eq_false]

theorem endpoints_iff {s t : String} :
    (Visible s ∧ Visible t) ↔ (isBlank s || isBlank t) = false := by
  rw [visible_iff, visible_iff, Bool.or_eq_false_iff]

/-- The account is the operator that its text spells. -/
theorem operator_eq_ok_iff {c : Config} {operator : Address} :
    c.operator = .ok operator ↔ operator.Spells c.account.address.toList := by
  rw [Config.operator, AccountSection.operator, mapError_eq_ok_iff, Address.read_eq_ok_iff]

/-- It is no operator for the reason that its text is no address. -/
theorem operator_eq_error_iff {c : Config} {f : Fault} :
    c.operator = .error f ↔
      ∃ cause, Address.Refused c.account.address.toList cause ∧
        f = .badOperator c.account.address cause := by
  rw [Config.operator, AccountSection.operator, mapError_eq_error_iff]
  simp only [Address.read_eq_error_iff]

/-- The limit is compared as a number of the field; the bounds are those numbers. -/
theorem limit_iff {n : UInt64} : (1 ≤ n ∧ n ≤ 64) ↔ 1 ≤ n.toNat ∧ n.toNat ≤ 64 := by
  rw [UInt64.le_iff_toNat_le, UInt64.le_iff_toNat_le]
  rfl

/-- There is no third case: either a client can work with the configuration, or
    one of the listed reasons speaks against it. The reasons are gone through in
    the order of the check, each under the assumption that those before it do not
    hold. -/
theorem sound_or_unsound (c : Config) : (∃ operator, c.Sound operator) ∨ ∃ f, c.Unsound f := by
  -- One condition after the other, since a reason supposes those before it.
  by_cases hversion : c.version = 1
  · by_cases hchain : Visible c.chain.chainId
    · by_cases hendpoints : Visible c.chain.rpcAddr ∧ Visible c.chain.grpcAddr
      · have hreachable : Reachable c := ⟨hversion, hchain, hendpoints⟩
        cases hoperator : c.operator with
        | error f =>
            rcases operator_eq_error_iff.mp hoperator with ⟨cause, hcause, -⟩
            exact Or.inr ⟨_, .account hreachable hcause⟩
        | ok operator =>
            have haccount := operator_eq_ok_iff.mp hoperator
            by_cases hlimit : 1 ≤ c.permission.maxStatements.toNat ∧
                c.permission.maxStatements.toNat ≤ 64
            · exact Or.inl ⟨operator, hreachable, haccount, hlimit⟩
            · exact Or.inr ⟨_, .limit hreachable haccount hlimit⟩
      · exact Or.inr ⟨_, .endpoints hversion hchain hendpoints⟩
    · exact Or.inr ⟨_, .chainId hversion hchain⟩
  · exact Or.inr ⟨_, .version hversion⟩

/-- In a configuration that is sound up to the account, the account and the limit
    are what is left to be checked. -/
theorem Reachable.check_eq {c : Config} (h : Reachable c) :
    c.check = granting [faultOf? c.operator,
      if 1 ≤ c.permission.maxStatements.toNat ∧ c.permission.maxStatements.toNat ≤ 64 then none
      else some .badStatementLimit] () := by
  rw [Config.check_eq, faults, if_pos h.version, visible_iff.mp h.chainId,
    endpoints_iff.mp h.endpoints]
  simp only [limit_iff, Bool.false_eq_true, if_false, granting_none]

/-- A sound configuration passes the check. -/
theorem check_of_sound {c : Config} {operator : Address} (h : c.Sound operator) :
    c.check = .ok () := by
  rw [h.toReachable.check_eq, operator_eq_ok_iff.mpr h.account, if_pos h.limit]
  rfl

/-- Whatever is the reason against a configuration is the fault that is reported,
    because the faults are looked for in the order of the reasons. -/
theorem check_of_unsound {c : Config} {f : Fault} (h : c.Unsound f) : c.check = .error f := by
  -- What a reason supposes makes the earlier faults of the row disappear.
  cases h with
  | version hversion => rw [check_eq, faults, if_neg hversion, granting_some]
  | chainId hversion hchain =>
      rw [check_eq, faults, if_pos hversion, if_pos (not_visible_iff.mp hchain)]
      rfl
  | endpoints hversion hchain hendpoints =>
      rw [endpoints_iff, Bool.not_eq_false] at hendpoints
      rw [check_eq, faults, if_pos hversion, visible_iff.mp hchain, if_pos hendpoints]
      rfl
  | account hreachable haccount =>
      rw [hreachable.check_eq, operator_eq_error_iff.mpr ⟨_, haccount, rfl⟩]
      rfl
  | limit hreachable haccount hlimit =>
      rw [hreachable.check_eq, operator_eq_ok_iff.mpr haccount, if_neg hlimit]
      rfl

/-- The check is passed by the sound configurations, which are those that have an
    account for their operator and every other field in order. -/
theorem check_eq_ok_iff {c : Config} : c.check = .ok () ↔ ∃ operator, c.Sound operator := by
  constructor
  · intro h
    -- Not by taking the check apart: it would have failed for any reason against it.
    rcases c.sound_or_unsound with hsound | ⟨f, hunsound⟩
    · exact hsound
    · rw [check_of_unsound hunsound] at h
      injection h
  · rintro ⟨operator, hsound⟩
    exact check_of_sound hsound

/-- The check reports the reason that there is. As a reason says that all before
    it do not hold, there is only one, so nothing has to be said of which of
    several is reported. -/
theorem check_eq_error_iff {c : Config} {f : Fault} : c.check = .error f ↔ c.Unsound f := by
  constructor
  · intro h
    rcases c.sound_or_unsound with ⟨operator, hsound⟩ | ⟨f', hunsound⟩
    · rw [check_of_sound hsound] at h
      injection h
    · have hsame := check_of_unsound hunsound
      rw [h] at hsame
      injection hsame with hsame
      rw [hsame]
      exact hunsound
  · exact check_of_unsound

/-- How the letters of the account are written does not matter. -/
theorem Sound.of_toLower {c : Config} {operator : Address} {address : String}
    (h : c.Sound operator) (hcase : c.account.address.toLower = address.toLower) :
    { c with account := ⟨address⟩ : Config }.Sound operator := by
  refine ⟨⟨h.version, h.chainId, h.endpoints⟩, h.account.of_map_toLower ?_, h.limit⟩
  rw [← toList_toLower, ← toList_toLower, hcase]

end Config

namespace Client

/-- A client is made exactly of a sound configuration and its operator's signer. -/
theorem new_eq_ok_iff_sound {c : Config} {signer : Signer} {client : Client} :
    new c signer = .ok client ↔
      c.Sound signer.address ∧ client = ⟨c, signer.address, signer⟩ := by
  rw [new_eq_ok_iff]
  constructor
  · rintro ⟨hcheck, hoperator, hclient⟩
    -- What the check has read and what the client reads is one account.
    rcases Config.check_eq_ok_iff.mp hcheck with ⟨operator, hsound⟩
    have hread := Config.operator_eq_ok_iff.mpr hsound.account
    rw [hoperator] at hread
    injection hread with hsame
    rw [hsame] at hclient ⊢
    exact ⟨hsound, hclient⟩
  · rintro ⟨hsound, hclient⟩
    exact ⟨Config.check_of_sound hsound, Config.operator_eq_ok_iff.mpr hsound.account, hclient⟩

/-- Anyone else's signer is refused. -/
theorem new_of_other {c : Config} {operator : Address} {signer : Signer}
    (h : c.Sound operator) (hother : signer.address ≠ operator) :
    new c signer = .error (.signerMismatch signer.address.text operator.text) := by
  rw [new, bind_eq_error_iff]
  -- The signer is looked at last, behind a check that is passed.
  refine Or.inr ⟨(), Config.check_of_sound h, bind_eq_error_iff.mpr (Or.inr ⟨operator,
    Config.operator_eq_ok_iff.mpr h.account, ?_⟩)⟩
  rw [if_pos hother]
  rfl

/-- Why no client is made: a reason against the configuration or, if there is none,
    a signer for another account. -/
theorem new_eq_error_iff {c : Config} {signer : Signer} {f : Fault} :
    new c signer = .error f ↔
      c.Unsound f ∨ ∃ operator, c.Sound operator ∧ signer.address ≠ operator ∧
        f = .signerMismatch signer.address.text operator.text := by
  have hunsound : ∀ {f'}, c.Unsound f' → new c signer = .error f' := by
    intro f' h
    rw [new, bind_eq_error_iff]
    exact Or.inl (Config.check_eq_error_iff.mpr h)
  constructor
  · intro h
    -- Sound or not, and with its own signer or with another.
    rcases c.sound_or_unsound with ⟨operator, hsound⟩ | ⟨f', hf'⟩
    · by_cases hother : signer.address = operator
      · subst hother
        rw [new_eq_ok_iff_sound.mpr ⟨hsound, rfl⟩] at h
        injection h
      · rw [new_of_other hsound hother] at h
        injection h with h
        exact Or.inr ⟨operator, hsound, hother, h.symm⟩
    · rw [hunsound hf'] at h
      injection h with h
      exact Or.inl (h ▸ hf')
  · rintro (h | ⟨operator, hsound, hother, rfl⟩)
    · exact hunsound h
    · exact new_of_other hsound hother

/-- What making a client is. A client is made exactly of a sound configuration
    and its operator's signer, whichever case the account is written in. Else the
    first condition that fails is reported, that on the signer last. What passes
    the check has an operator; a bad account is reported by both in the same
    words; and of a configuration that was loaded, only the wrong signer makes no
    client. -/
theorem made_if_sound :
    (∀ c signer client, new c signer = .ok client ↔
      c.Sound signer.address ∧ client = ⟨c, signer.address, signer⟩) ∧
    (∀ c signer f, new c signer = .error f ↔
      c.Unsound f ∨ ∃ operator, c.Sound operator ∧ signer.address ≠ operator ∧
        f = .signerMismatch signer.address.text operator.text) ∧
    (∀ (c : Config) (address : String) (signer : Signer),
      c.account.address.toLower = address.toLower →
      (∃ client, new c signer = .ok client) →
        ∃ client, new { c with account := ⟨address⟩ } signer = .ok client) ∧
    (∀ c : Config, c.check = .ok () → ∃ operator, c.operator = .ok operator) ∧
    (∀ c : Config, c.Reachable → (∀ a : Address, ¬ a.Spells c.account.address.toList) →
      ∃ cause, Address.Refused c.account.address.toList cause ∧
        c.operator = .error (.badOperator c.account.address cause) ∧
        c.check = .error (.badOperator c.account.address cause)) ∧
    ∀ text c signer, Config.load text = .ok c → ∃ operator, c.operator = .ok operator ∧
      (signer.address = operator → new c signer = .ok ⟨c, operator, signer⟩) ∧
      (signer.address ≠ operator →
        new c signer = .error (.signerMismatch signer.address.text operator.text)) := by
  refine ⟨fun c signer client => new_eq_ok_iff_sound, fun c signer f => new_eq_error_iff,
    fun c address signer hcase => ?_, fun c => Config.operator_of_check,
    fun c hreachable haccount => ?_, fun text c signer hload => ?_⟩
  · rintro ⟨client, hclient⟩
    have hsound := (new_eq_ok_iff_sound.mp hclient).1
    exact ⟨_, new_eq_ok_iff_sound.mpr ⟨hsound.of_toLower hcase, rfl⟩⟩
  -- The account is read on its own here, and as one of the faults in the check.
  · cases hoperator : c.operator with
    | ok operator => exact absurd (Config.operator_eq_ok_iff.mp hoperator) (haccount operator)
    | error f =>
        rcases Config.operator_eq_error_iff.mp hoperator with ⟨cause, hcause, rfl⟩
        exact ⟨cause, hcause, rfl, Config.check_of_unsound (.account hreachable hcause)⟩
  · rcases Config.check_eq_ok_iff.mp (Config.check_of_load hload) with ⟨operator, hsound⟩
    refine ⟨operator, Config.operator_eq_ok_iff.mpr hsound.account, ?_, new_of_other hsound⟩
    rintro rfl
    exact new_eq_ok_iff_sound.mpr ⟨hsound, rfl⟩

/-- An account in letters of both cases, with its own signer and with another, in
    lower case, as it is loaded and cut short, and a configuration with three faults,
    of which the blank address is the first. -/
theorem made_if_sound_mixed :
    let digits := (List.replicate 10 ['A', 'b', 'a', 'B']).flatten
    let account := String.ofList ('0' :: 'X' :: digits)
    let lower := String.ofList ('0' :: 'x' :: digits.map Char.toLower)
    let a : Address := ⟨List.replicate 20 0xAB, rfl⟩
    let b : Address := ⟨List.replicate 20 0, rfl⟩
    let c : Config := ⟨1, ⟨"here", ChainSection.usualRpcAddr, ChainSection.usualGrpcAddr⟩,
      ⟨account⟩, .usual⟩
    let short : Config := { c with account := ⟨"0x12"⟩ }
    let faulty : Config := ⟨1, ⟨"here", "r", "\u3000\u2003"⟩, ⟨"0x12"⟩, ⟨0, 0⟩⟩
    let text := "version: 1\nchain:\n  chain_id: here\naccount:\n  address: '" ++ account ++ "'\n"
    new c (.silent a) = .ok ⟨c, a, .silent a⟩ ∧
      (∃ client, new { c with account := ⟨lower⟩ } (.silent a) = .ok client) ∧
      (∃ cause, short.operator = .error (.badOperator "0x12" cause) ∧
        short.check = .error (.badOperator "0x12" cause)) ∧
      new faulty (.silent a) = .error .emptyEndpoint ∧ Config.load text = .ok c ∧
      new c (.silent b) = .error (.signerMismatch b.text a.text) := by
  intro digits account lower a b c short faulty text
  rcases made_if_sound with ⟨hok, herror, hcase, -, hbad, hloaded⟩
  have hreachable : c.Reachable :=
    ⟨rfl, Config.visible_iff.mpr (by decide +kernel), Config.visible_iff.mpr (by decide +kernel),
      Config.visible_iff.mpr (by decide +kernel)⟩
  have hspells : a.Spells account.toList := Address.read_eq_ok_iff.mp (by decide +kernel)
  have hnew : new c (.silent a) = .ok ⟨c, a, .silent a⟩ :=
    (hok c (.silent a) _).mpr ⟨⟨hreachable, hspells, by decide +kernel⟩, rfl⟩
  have hlower : account.toLower = lower.toLower := by
    refine String.toList_inj.mp ((toList_toLower _).trans (Eq.trans ?_ (toList_toLower _).symm))
    decide +kernel
  have hshort : ∀ a' : Address, ¬ a'.Spells "0x12".toList := by
    intro a' h
    have hread : Address.read "0x12".toList = .error .wrongLength := by decide +kernel
    rw [Address.read_eq_ok_iff.mpr h] at hread
    injection hread
  have hblank : ¬ Config.Visible "\u3000\u2003" :=
    Config.not_visible_iff.mpr (by decide +kernel)
  have hunsound : faulty.Unsound .emptyEndpoint :=
    .endpoints rfl hreachable.chainId fun h => hblank h.2
  have hload : Config.load text = .ok c := by decide +kernel
  have hother : b ≠ a := by decide +kernel
  rcases hbad short ⟨hreachable.version, hreachable.chainId, hreachable.endpoints⟩ hshort with
    ⟨cause, -, hoperator, hcheck⟩
  rcases hloaded text c (.silent b) hload with ⟨operator, hread, -, hmismatch⟩
  have hsame : operator = a := by
    have hthis : c.operator = .ok a := Config.operator_eq_ok_iff.mpr hspells
    exact Except.ok.inj (hread.symm.trans hthis)
  subst hsame
  exact ⟨hnew, hcase c lower (.silent _) hlower ⟨_, hnew⟩, ⟨cause, hoperator, hcheck⟩,
    (herror faulty (.silent _) _).mpr (Or.inl hunsound), hload, hmismatch hother⟩

end Client

end StoragePolicy
