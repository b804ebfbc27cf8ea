import StoragePolicy.Config.Reading
import StoragePolicy.Proofs.FirstFault

/-!
# What Can Be Wrong with a Configuration

The check of a configuration goes through four sections, and two of them look at
more than one thing. Put in a row, there are five faults that it can report, and
it reports the first of them. The row also says what a checked configuration can
be relied on for: above all, its operator is an account, so that the address
that is read again for a client is not refused there.

Every fault of a configuration is one of its own kind. Whoever loads one is told
that the configuration is at fault or that its version is not known, never that
a principal is, although it may be an address that could not be read.

## Main definitions

* `Config.faults`: What the check can report, in its order.

## Theorems

* `Config.check_eq`: What the check comes to.
* `Config.operator_of_check`: A checked configuration has an operator.
* `Config.check_of_load`, `Config.code_of_load`: What is loaded has been
  checked, and what is refused is refused as a configuration.
-/

namespace StoragePolicy

open Text

namespace Config

/-- What the check can report, in the order in which it is looked for. -/
def faults (c : Config) : List (Option Fault) :=
  [if c.version = 1 then none else some .unsupportedVersion,
    if isBlank c.chain.chainId then some .emptyChainId else none,
    if isBlank c.chain.rpcAddr || isBlank c.chain.grpcAddr then some .emptyEndpoint else none,
    faultOf? c.operator,
    if 1 ≤ c.permission.maxStatements ∧ c.permission.maxStatements ≤ 64 then none
    else some .badStatementLimit]

/-- What the check of a chain comes to. Two fields of one section share a fault,
    so the section has two faults for its three fields. -/
theorem chain_check_eq (s : ChainSection) :
    s.check = granting
      [if isBlank s.chainId then some .emptyChainId else none,
        if isBlank s.rpcAddr || isBlank s.grpcAddr then some .emptyEndpoint else none] () := by
  unfold ChainSection.check
  by_cases hid : isBlank s.chainId = true
  · simp only [hid, if_true, granting_some]
  · by_cases hendpoint : (isBlank s.rpcAddr || isBlank s.grpcAddr) = true
    · simp only [hid, hendpoint, if_true, if_false, granting_none, granting_some,
        Bool.false_eq_true]
    · simp only [hid, hendpoint, if_false, granting_none, granting_nil, Bool.false_eq_true]

theorem account_check_eq (s : AccountSection) :
    s.check = granting [faultOf? s.operator] () := by
  refine eq_granting_of_faultOf? ?_
  unfold AccountSection.check
  cases s.operator with
  | error f => rfl
  | ok a => rfl

theorem permission_check_eq (s : PermissionSection) :
    s.check = granting
      [if 1 ≤ s.maxStatements ∧ s.maxStatements ≤ 64 then none else some .badStatementLimit]
      () := by
  unfold PermissionSection.check
  by_cases hlimit : 1 ≤ s.maxStatements ∧ s.maxStatements ≤ 64
  · simp only [hlimit, and_self, if_true, granting_none, granting_nil]
  · simp only [hlimit, if_false, granting_some]

/-- What the check comes to. The sections are checked one after another, so the
    row of the whole is made of their rows, with that of the version in front. -/
theorem check_eq (c : Config) : c.check = granting c.faults () := by
  have hrow : c.check =
      granting [if c.version = 1 then none else some .unsupportedVersion] () >>= fun _ =>
        c.chain.check >>= fun _ => c.account.check >>= fun _ => c.permission.check := by
    by_cases hversion : c.version = 1
    · simp only [check, hversion, ne_eq, not_true, if_true, if_false]
      rfl
    · simp only [check, hversion, ne_eq, not_false_eq_true, if_true, if_false]
      rfl
  -- Each section takes its share off the front of the row.
  rw [hrow]
  refine granting_bind [_] [_, _, _, _] _ _ _ fun _ => ?_
  rw [chain_check_eq]
  refine granting_bind [_, _] [_, _] _ _ _ fun _ => ?_
  rw [account_check_eq]
  exact granting_bind [_] [_] _ _ _ fun _ => permission_check_eq _

/-- A checked configuration has an operator. It is read once more when a client is
    made, and this is why that second reading cannot fail. -/
theorem operator_of_check {c : Config} (h : c.check = .ok ()) : ∃ a, c.operator = .ok a := by
  rw [check_eq, granting_eq_ok_iff, firstFault_eq_none_iff] at h
  -- The reading of the address is one of the faults that were not found.
  have hnone : faultOf? c.operator = none := h.1 _ (by simp only [faults, List.mem_cons, true_or,
    or_true])
  exact faultOf?_eq_none_iff.mp hnone

/-- An address that cannot be read is reported as a fault of the configuration. -/
theorem code_of_operator {c : Config} {f : Fault} (h : c.operator = .error f) :
    f.code = .invalidConfig := by
  rcases mapError_eq_error_iff.mp h with ⟨cause, -, rfl⟩
  rfl

/-- The check reports faults of configurations and nothing else. -/
theorem code_of_check {c : Config} {f : Fault} (h : c.check = .error f) :
    f.code = .invalidConfig ∨ f.code = .unsupportedVersion := by
  rw [check_eq, granting_eq_error_iff] at h
  have hmem := mem_of_firstFault h
  simp only [faults, List.mem_cons, List.not_mem_nil, or_false] at hmem
  -- Five faults, and only that of the version has a code of its own.
  rcases hmem with hf | hf | hf | hf | hf
  · rcases Option.ite_none_left_eq_some.mp hf.symm with ⟨-, hversion⟩
    exact Or.inr (Option.some.inj hversion ▸ rfl)
  · rcases Option.ite_none_right_eq_some.mp hf.symm with ⟨-, hid⟩
    exact Or.inl (Option.some.inj hid ▸ rfl)
  · rcases Option.ite_none_right_eq_some.mp hf.symm with ⟨-, hendpoint⟩
    exact Or.inl (Option.some.inj hendpoint ▸ rfl)
  · exact Or.inl (code_of_operator (faultOf?_eq_some_iff.mp hf.symm))
  · rcases Option.ite_none_left_eq_some.mp hf.symm with ⟨-, hlimit⟩
    exact Or.inl (Option.some.inj hlimit ▸ rfl)

/-- What a text is loaded as, if it can be read at all, is checked. -/
theorem load_eq (text : String) :
    load text = match (Yaml.Document.ofText? text).bind ofDocument? with
      | none => .error .badYaml
      | some c => c.check >>= fun _ => .ok c := by
  unfold load
  cases Yaml.Document.ofText? text with
  | none => rfl
  | some d => rfl

theorem check_of_load {text : String} {c : Config} (h : load text = .ok c) :
    c.check = .ok () := by
  rw [load_eq] at h
  -- What cannot be read at all is not loaded.
  cases hread : (Yaml.Document.ofText? text).bind ofDocument? with
  | none => simp only [hread, reduceCtorEq] at h
  | some c' =>
      simp only [hread] at h
      rcases bind_eq_ok_iff.mp h with ⟨_, hcheck, h⟩
      injection h with h
      rw [← h]
      exact hcheck

/-- What is not loaded is refused as a configuration. The only other code is that of
    a version which is not supported. -/
theorem code_of_load {text : String} {f : Fault} (h : load text = .error f) :
    f.code = .invalidConfig ∨ f.code = .unsupportedVersion := by
  rw [load_eq] at h
  cases hread : (Yaml.Document.ofText? text).bind ofDocument? with
  | none =>
      simp only [hread, Except.error.injEq] at h
      exact Or.inl (h ▸ rfl)
  | some c =>
      simp only [hread] at h
      rcases bind_eq_error_iff.mp h with hcheck | ⟨_, -, h⟩
      · exact code_of_check hcheck
      · injection h

end Config

end StoragePolicy
