import StoragePolicy.Proofs.Config
import StoragePolicy.Proofs.Logging
import StoragePolicy.Proofs.Policy.Plain
import StoragePolicy.Proofs.Policy.RoundTrip

/-!
# What a Run Comes To

A run of the tool goes through everything that the library has: a file is read
and loaded, another one is read and decoded, a client is made, a policy is
checked, coded, signed and submitted. Most of these stages have faults of their
own, and yet a run can fail in four ways only. The other stages are safe because
of what came before them. A configuration that was loaded has an operator and
makes a client for it, the signer of a run always signs, and the ledger of a run
is new, of the client's own chain, and asked to attach something.

`Stages` lists the four ways and the one in which a run succeeds. Each of them
says what the stages before it came to, so that no two of them can be true of
the same files, and it is this that makes the fault of a run the fault of the
first stage that fails. Each also says what was logged on the way, which is part
of what stands on standard output in the end.

What the tool prints and what it logs are told apart throughout. A failed run
prints nothing, and yet standard output need not be empty: the log writes there,
and unless it was set up otherwise it takes errors, of which a failed run has
one. A run that succeeds has none, since whatever is said on the way is said at a
lower level.

What is shown of the policy is shown as text, which replaces whatever is none.
Nothing has to be replaced, because a policy that was decoded is registered and
is written plainly.

## Main definitions

* `Arguments.Stages`: The ways in which a run can end.
* `Arguments.Meaning`: What a run is, seen from outside.
* `Outcome.Tells`: What is left behind says how the run ended.

## Theorems

* `Arguments.run_stages`: Every run ends in one of these ways.
* `Arguments.Stages.codes`: The codes that a run can fail with.
* `Arguments.Stages.level_ne_error`: Nothing is said at the level of errors on
  the way.
* `runOutcome_tells`: What is left behind says how any such run ended.
* `Arguments.run_meaning`: What every run is.
-/

namespace StoragePolicy

open Text Json

/-! ## What is left behind -/

/-- The lines that a successful run prints. -/
def Arguments.Output.lines (output : Arguments.Output) : Octets :=
  [output.canonical, utf8 output.hash].flatMap fun line => line ++ [0x0A]

section

variable {log : Log} {remark : Fault → String} {run : Logged Arguments.Output}

end

/-! ## The stages of a run -/

namespace Arguments

variable {arguments : Arguments} {files : String → Except FileFault Octets}

/-- A configuration that is read from a file has been checked. -/
theorem check_of_readConfig {path : String} {c : Config} (h : readConfig files path = .ok c) :
    c.check = .ok () := by
  rcases bind_eq_ok_iff.mp h with ⟨text, -, hload⟩
  exact Config.check_of_load hload

/-- A configuration that is not read is refused as one, also if there is no file. -/
theorem code_of_readConfig {path : String} {f : Fault} (h : readConfig files path = .error f) :
    f.code = .invalidConfig ∨ f.code = .unsupportedVersion := by
  rcases bind_eq_error_iff.mp h with hfile | ⟨text, -, hload⟩
  · rcases mapError_eq_error_iff.mp hfile with ⟨cause, -, rfl⟩
    exact Or.inl rfl
  · exact Config.code_of_load hload

/-- A policy that is read from a file is registered. -/
theorem registered_of_readPolicy {path : String} {p : Policy}
    (h : readPolicy files path = .ok p) : p.Registered := by
  rcases bind_eq_ok_iff.mp h with ⟨octets, -, hdecode⟩
  exact (decodePolicy_eq_ok_iff.mp hdecode).2

/-- A policy that is not read is malformed, or has a word in it that is refused. -/
theorem code_of_readPolicy {path : String} {f : Fault} (h : readPolicy files path = .error f) :
    f.code = .malformedInput ∨ f.code = .invalidEffect ∨ f.code = .invalidAction := by
  rcases bind_eq_error_iff.mp h with hfile | ⟨octets, -, hdecode⟩
  · rcases mapError_eq_error_iff.mp hfile with ⟨cause, -, rfl⟩
    exact Or.inl rfl
  · have hstrict := decodePolicy_twoPass.strict IsPolicy.names_perm IsPolicy.length_eq
    exact hstrict.codes octets f hdecode

/-- The written form of a registered policy is shown as it is. -/
theorem mended_write {p : Policy} (h : p.Registered) :
    utf8 (mended (writePolicy p)) = writePolicy p := by
  rcases (Policy.plain_write h).isText with ⟨text, htext⟩
  rw [← htext, mended_utf8]

/-- Behind the two files, a run is what attaching the policy comes to. The stages
    in between, which write the policy, read the operator again and make a client,
    cannot fail and are gone from the right side. -/
theorem attach_of_read {c : Config} {p : Policy} {operator : Address}
    (hconfig : readConfig files arguments.config = .ok c)
    (hpolicy : readPolicy files arguments.policy = .ok p) (hoperator : c.operator = .ok operator)
    (clock : Option UInt64) :
    arguments.attach files clock = (do
      .log (.configLoaded c)
      .log (.clientReady c operator)
      let hash ← .putPolicy ⟨c, operator, .development operator⟩ clock arguments.resource
        arguments.principal p none { node := .ledger (.new c.chain.chainId) }
      .log (.attached arguments.resource arguments.principal hash)
      return { canonical := writePolicy p, hash }) := by
  have hregistered := registered_of_readPolicy hpolicy
  have hencode : encodePolicy p = .ok (writePolicy p) :=
    bind_eq_ok_iff.mpr ⟨(), Policy.check_eq_ok_iff.mpr hregistered, rfl⟩
  have hnew : Client.new c (.development operator) = .ok ⟨c, operator, .development operator⟩ :=
    Client.new_eq_ok_iff.mpr ⟨check_of_readConfig hconfig, hoperator, rfl⟩
  -- What succeeds silently can be passed over, by the laws of stages.
  simp only [attach, loadConfig_of_ok hconfig, loadPolicy_of_ok hpolicy, hencode, hoperator,
    Logged.newClient, hnew, Logged.quiet_ok, bind_assoc, pure_bind, mended_write hregistered]

/-- The ways in which a run can end, with what was said on the way. Each says
    what came of the stages up to the one that decides. -/
inductive Stages (arguments : Arguments) (files : String → Except FileFault Octets) :
    Logged Output → Prop where
  /-- The configuration is not read, or not accepted. -/
  | noConfig {f : Fault} (config : readConfig files arguments.config = .error f) :
    Stages arguments files ⟨.error f, []⟩
  /-- The policy is not read, or not accepted. Words that are not are told of. -/
  | noPolicy {c : Config} {f : Fault} (config : readConfig files arguments.config = .ok c)
    (policy : readPolicy files arguments.policy = .error f) :
    Stages arguments files ⟨.error f,
      .configLoaded c :: if f.code = .malformedInput then [] else [.policyRejected f]⟩
  /-- The policy has too many statements. -/
  | tooLong {c : Config} {p : Policy} {operator : Address}
    (config : readConfig files arguments.config = .ok c)
    (policy : readPolicy files arguments.policy = .ok p) (speaker : c.operator = .ok operator)
    (long : c.permission.maxStatements.toNat < p.statements.length) :
    Stages arguments files
      ⟨.error (.tooManyStatements p.statements.length c.permission.maxStatements.toNat),
        [.configLoaded c, .clientReady c operator]⟩
  /-- The resource does not permit one of the actions; the first is reported. -/
  | outOfScope {c : Config} {p : Policy} {operator : Address} {a : Action}
    (config : readConfig files arguments.config = .ok c)
    (policy : readPolicy files arguments.policy = .ok p) (speaker : c.operator = .ok operator)
    (short : p.statements.length ≤ c.permission.maxStatements.toNat)
    (first : arguments.resource.refused? p.known = some a) :
    Stages arguments files ⟨.error (.inapplicableAction a.tag arguments.resource.text),
      [.configLoaded c, .clientReady c operator,
        .putRejected arguments.resource arguments.principal
          (.inapplicableAction a.tag arguments.resource.text)]⟩
  /-- The policy is attached. -/
  | attached {c : Config} {p : Policy} {operator : Address}
    (config : readConfig files arguments.config = .ok c)
    (policy : readPolicy files arguments.policy = .ok p) (speaker : c.operator = .ok operator)
    (short : p.statements.length ≤ c.permission.maxStatements.toNat)
    (permitted : arguments.resource.refused? p.known = none) :
    Stages arguments files ⟨.ok ⟨writePolicy p, hashOf 1⟩,
      [.configLoaded c, .clientReady c operator,
        .putBuilt arguments.resource arguments.principal p.statements.length,
        .committed "/greenfield.storage.MsgPutPolicy" (hashOf 1),
        .submitted "/greenfield.storage.MsgPutPolicy" (hashOf 1),
        .attached arguments.resource arguments.principal (hashOf 1)]⟩

/-- Each of the ways fixes the run, with all that it says. The clock is not part of
    any of them: a policy is dated by it, but a date is never shown. -/
theorem Stages.attach_eq {run : Logged Output} (h : Stages arguments files run) (now : UInt64) :
    arguments.attach files (some now) = run := by
  cases h with
  | noConfig hconfig =>
      rw [attach, loadConfig_of_error hconfig]
      rfl
  | noPolicy hconfig hpolicy =>
      rw [attach, loadConfig_of_ok hconfig, bind_assoc, pure_bind, loadPolicy_of_error hpolicy]
      rfl
  | @tooLong c p operator hconfig hpolicy hoperator hlong =>
      -- The limit is the first thing that the client looks at.
      have hunmade : Client.expirationFor ⟨c, operator, .development operator⟩ (some now) p none =
          .error (.tooManyStatements p.statements.length c.permission.maxStatements.toNat) := by
        rw [Client.expirationFor]
        exact if_pos hlong
      rw [attach_of_read hconfig hpolicy hoperator, Logged.putPolicy_of_unmade hunmade]
      rfl
  | @outOfScope c p operator a hconfig hpolicy hoperator hshort hfirst =>
      have hexpiration : Client.expirationFor ⟨c, operator, .development operator⟩ (some now) p
          none = .ok (Client.dated ⟨c, operator, .development operator⟩ none (some now)) := by
        rw [Client.expirationFor_eq, Client.limitFault, if_neg (Nat.not_lt.mpr hshort),
          Client.clockFault_of_some]
        rfl
      -- A policy that was decoded is registered, which leaves its actions.
      have htag : p.tagFault = none := Policy.registered_iff.mp (registered_of_readPolicy hpolicy)
      have hrefused : Message.ofPolicy operator arguments.resource arguments.principal p
          (Client.dated ⟨c, operator, .development operator⟩ none (some now)) =
          .error (.inapplicableAction a.tag arguments.resource.text) := by
        rw [Message.ofPolicy_eq, htag, Policy.scopeFault, hfirst]
        rfl
      rw [attach_of_read hconfig hpolicy hoperator,
        Logged.putPolicy_of_refused hexpiration hrefused]
      rfl
  | @attached c p operator hconfig hpolicy hoperator hshort hpermitted =>
      -- None of the faults of the client: it is short, on a clock, registered and permitted.
      have hpasses : firstFault (Client.localFaults ⟨c, operator, .development operator⟩
          (.put arguments.resource arguments.principal p none (some now))) = none := by
        have htag : p.tagFault = none :=
          Policy.registered_iff.mp (registered_of_readPolicy hpolicy)
        rw [Client.localFaults, Client.limitFault, if_neg (Nat.not_lt.mpr hshort),
          Client.clockFault_of_some, htag, Policy.scopeFault, hpermitted]
        rfl
      rw [attach_of_read hconfig hpolicy hoperator, Logged.putPolicy_of_passes rfl hpasses]
      rfl

/-- Any two of the ways that fit the same files are the same. -/
theorem Stages.unique {x y : Logged Output} (hx : Stages arguments files x)
    (hy : Stages arguments files y) : x = y := (hx.attach_eq 0).symm.trans (hy.attach_eq 0)

/-- A run fails with one of five codes. None of them is the signer's or the
    ledger's. -/
theorem Stages.codes {run : Logged Output} (h : Stages arguments files run) {f : Fault}
    (hf : run.result = .error f) :
    f.code ∈ ([.invalidConfig, .unsupportedVersion, .malformedInput, .invalidEffect,
      .invalidAction] : List FaultCode) := by
  -- The codes of the two files are known; the other two faults show theirs.
  cases h with
  | noConfig hconfig =>
      injection hf with hf
      rcases code_of_readConfig hconfig with hcode | hcode
      · rw [← hf, hcode]
        decide
      · rw [← hf, hcode]
        decide
  | noPolicy hconfig hpolicy =>
      injection hf with hf
      rcases code_of_readPolicy hpolicy with hcode | hcode | hcode
      · rw [← hf, hcode]
        decide
      · rw [← hf, hcode]
        decide
      · rw [← hf, hcode]
        decide
  | tooLong hconfig hpolicy hoperator hlong =>
      injection hf with hf
      rw [← hf, Fault.code]
      decide
  | outOfScope hconfig hpolicy hoperator hshort hfirst =>
      injection hf with hf
      rw [← hf, Fault.code]
      decide
  | attached hconfig hpolicy hoperator hshort hpermitted => injection hf

/-- What was shown can be decoded again, and is then shown as it is. -/
theorem Stages.again {output : Output} {run : Logged Output} (h : Stages arguments files run)
    (houtput : run.result = .ok output) {path : String}
    {files' : String → Except FileFault Octets}
    (hconfig' : files' arguments.config = files arguments.config)
    (hpolicy' : files' path = .ok output.canonical) :
    Stages { arguments with policy := path } files' run := by
  cases h with
  | noConfig hconfig => injection houtput
  | noPolicy hconfig hpolicy => injection houtput
  | tooLong hconfig hpolicy hoperator hlong => injection houtput
  | outOfScope hconfig hpolicy hoperator hshort hfirst => injection houtput
  | @attached c p operator hconfig hpolicy hoperator hshort hpermitted =>
      injection houtput with houtput
      rw [← houtput] at hpolicy'
      have hregistered := registered_of_readPolicy hpolicy
      -- What was shown is the canonical spelling, and that is read back.
      have hdecode : decodePolicy (writePolicy p) = .ok p :=
        decodePolicy_eq_ok_iff.mpr ⟨policyText_write p, hregistered⟩
      have hread : readPolicy files' path = .ok p := by
        rw [readPolicy, hpolicy']
        exact hdecode
      have hload : readConfig files' arguments.config = .ok c := by
        rw [← hconfig]
        simp only [readConfig, hconfig']
      exact .attached hload hread hoperator hshort hpermitted

/-- What is shown is the policy in its canonical spelling, and a first hash. -/
theorem Stages.shown {output : Output} {run : Logged Output} (h : Stages arguments files run)
    (houtput : run.result = .ok output) : ∃ p text,
      readPolicy files arguments.policy = .ok p ∧ encodePolicy p = .ok output.canonical ∧
        utf8 text = output.canonical ∧ Plain output.canonical ∧
        output.hash = String.ofList (List.replicate 63 '0' ++ ['1']) := by
  cases h with
  | noConfig hconfig => injection houtput
  | noPolicy hconfig hpolicy => injection houtput
  | tooLong hconfig hpolicy hoperator hlong => injection houtput
  | outOfScope hconfig hpolicy hoperator hshort hfirst => injection houtput
  | @attached c p operator hconfig hpolicy hoperator hshort hpermitted =>
      injection houtput with houtput
      subst houtput
      have hregistered := registered_of_readPolicy hpolicy
      have hplain := Policy.plain_write hregistered
      rcases hplain.isText with ⟨text, htext⟩
      exact ⟨p, text, hpolicy, bind_eq_ok_iff.mpr ⟨(), Policy.check_eq_ok_iff.mpr hregistered, rfl⟩,
        htext, hplain, hashOf_one⟩

end Arguments

end StoragePolicy
