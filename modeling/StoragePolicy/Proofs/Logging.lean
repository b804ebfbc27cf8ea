import StoragePolicy.CommandLine
import StoragePolicy.Proofs.Client.Calls
import StoragePolicy.Proofs.Policy.Decoding

/-!
# What a Run Says

The stages of a run with the events that each of them adds. A stage is described
by what it comes to, as everywhere else, and its events follow: which of a
stage's faults was found is enough to tell whether anything was said of it.

For documents this is not obvious, since the same stage refuses shapes silently
and words audibly. The two can be told apart by their codes, because what is
wrong with a shape is malformed and what is wrong with a word never is.

Whatever is said, it has no part in what a run comes to. `Arguments.run_eq` is
the run without its events, as a row of the library's own stages.

## Theorems

* `Client.development_send`: What a client's own signer and ledger answer.
* `Client.development_answer`: A client on a new ledger of its chain fails only
  for what it finds itself.
* `Logged.putPolicy_of_unmade`, `Logged.putPolicy_of_refused`,
  `Logged.putPolicy_of_passes`: What attaching a policy says.
* `Arguments.run_eq`: Events change nothing in what a run comes to.
* `Arguments.loadPolicy_of_error`: What a policy document that is refused says.
-/

namespace StoragePolicy

open Text Json

/-! ## Development runs -/

theorem hashOf_one : hashOf 1 = String.ofList (List.replicate 63 '0' ++ ['1']) := by
  decide +kernel

theorem Signature.Key.sign_ne_nil (key : Signature.Key) (payload : Octets) :
    key.sign payload ≠ [] := List.ne_nil_of_length_eq_add_one (key.sign_length payload)

namespace Client

variable {client : Client} {address : Address} {r : Resource} {q : Principal} {p : Policy}
  {asked clock : Option UInt64}

/-- A signer that always signs, and a new ledger of the client's chain, have the
    client's message recorded as the first. -/
theorem development_send (hsigner : client.signer = .development address)
    (hpasses : firstFault (client.localFaults (.put r q p asked clock)) = none) :
    ∃ signature node,
      client.send (client.message (.put r q p asked clock))
          { node := .ledger (.new client.config.chain.chainId) } =
        (.ok (hashOf 1), {
          journal := [.signing (client.payload (.put r q p asked clock)) (.ok signature),
            .submission (client.signed (.put r q p asked clock) signature) (.ok (hashOf 1))]
          node }) := by
  have hends := client.perform_ends (.put r q p asked clock)
    { node := .ledger (.new client.config.chain.chainId) }
  rw [perform_of_passes hpasses] at hends
  generalize client.send _ _ = result at hends ⊢
  cases hends with
  | refused hfault =>
      rw [hpasses] at hfault
      injection hfault
  | unsigned _ hanswer =>
      rw [hsigner] at hanswer
      injection hanswer
  | @rejected signature f _ hanswer hfault =>
      rw [hsigner] at hanswer
      injection hanswer with hanswer
      have hsigned : signature ≠ [] := hanswer ▸ Signature.Key.sign_ne_nil _ _
      -- The chain is the ledger's own, there is a signature, and nothing is to be detached.
      have hnone := (Ledger.faults_eq_none_iff (.new client.config.chain.chainId)
        (client.signed (.put r q p asked clock) signature)).mpr
          ⟨rfl, hsigned, fun target htarget => Message.noConfusion htarget⟩
      have hsome : firstFault (Ledger.faults (.new client.config.chain.chainId)
        (client.signed (.put r q p asked clock) signature)) = some f := hfault
      rw [hnone] at hsome
      injection hsome
  | @accepted signature ledger _ _ hnode _ =>
      injection hnode with hnode
      subst hnode
      exact ⟨signature, _, rfl⟩

end Client

/-! ## Stages -/

namespace Logged

variable {client : Client} {clock asked : Option UInt64} {r : Resource} {q : Principal}
  {p : Policy} {session : Session} {f : Fault} {address : Address}

/-- Nothing is said of a policy that is too long, or that cannot be dated. Both
    are found before the first event. -/
theorem putPolicy_of_unmade (h : client.expirationFor clock p asked = .error f) :
    putPolicy client clock r q p asked session = ⟨.error f, []⟩ := by
  rw [putPolicy, h]
  rfl

/-- A policy that makes no message for its resource is told of, with the fault
    that the caller gets as well. -/
theorem putPolicy_of_refused {expiration : Option UInt64}
    (h : client.expirationFor clock p asked = .ok expiration)
    (hm : Message.ofPolicy client.operator r q p expiration = .error f) :
    putPolicy client clock r q p asked session = ⟨.error f, [.putRejected r q f]⟩ := by
  have hlogged : orLog (Message.ofPolicy client.operator r q p expiration) (.putRejected r q) =
      ⟨.error f, [.putRejected r q f]⟩ := by
    rw [hm]
    rfl
  rw [putPolicy, h, bind_of_ok (result_quiet _), hlogged]
  rfl

/-- A policy that passes is told of when it has become a message, when it is
    recorded, and when that is known. -/
theorem putPolicy_of_passes (hsigner : client.signer = .development address)
    (hpasses : firstFault (client.localFaults (.put r q p asked clock)) = none) :
    putPolicy client clock r q p asked
        { node := .ledger (.new client.config.chain.chainId) } =
      ⟨.ok (hashOf 1), [.putBuilt r q p.statements.length,
        .committed (client.message (.put r q p asked clock)).typeUrl (hashOf 1),
        .submitted (client.message (.put r q p asked clock)).typeUrl (hashOf 1)]⟩ := by
  have hsplit : firstFault [client.limitFault p, client.clockFault asked clock] = none ∧
      firstFault [p.tagFault, p.scopeFault r] = none := by
    have happend : client.localFaults (.put r q p asked clock) =
        [client.limitFault p, client.clockFault asked clock] ++ [p.tagFault, p.scopeFault r] := rfl
    rwa [happend, firstFault_append, Option.or_eq_none_iff] at hpasses
  have hexpiration : client.expirationFor clock p asked = .ok (client.dated asked clock) := by
    rw [Client.expirationFor_eq, granting_of_none hsplit.1]
  have hm : Message.ofPolicy client.operator r q p (client.dated asked clock) =
      .ok (client.message (.put r q p asked clock)) := by
    rw [Message.ofPolicy_eq, granting_of_none hsplit.2]
    rfl
  have hlogged : orLog (Message.ofPolicy client.operator r q p (client.dated asked clock))
      (.putRejected r q) = quiet (.ok (client.message (.put r q p asked clock))) := by
    rw [hm]
    rfl
  rcases Client.development_send hsigner hpasses with ⟨signature, node, hsend⟩
  rw [putPolicy, hexpiration, bind_of_ok (result_quiet _), hlogged,
    bind_of_ok (result_quiet _), bind_of_ok (result_log _), send, hsend]
  rfl

end Logged

namespace Arguments

variable {arguments : Arguments} {files : String → Except FileFault Octets} {path : String}
  {c : Config} {p : Policy} {f : Fault} {operator : Address} {clock : Option UInt64}

theorem loadConfig_result (files : String → Except FileFault Octets) (path : String) :
    (loadConfig files path).result = readConfig files path := by
  simp only [loadConfig, Logged.result_bind, Logged.result_quiet, Logged.result_log,
    Logged.result_pure]
  cases readConfig files path with
  | ok c => rfl
  | error f => rfl

theorem loadPolicy_result (files : String → Except FileFault Octets) (path : String) :
    (loadPolicy files path).result = readPolicy files path := by
  simp only [loadPolicy, Logged.result_bind, Logged.result_quiet, Logged.decodePolicy_result,
    readPolicy]

/-- Events change nothing in what a run comes to. It comes to what its stages do,
    one behind the other, without a word being said. -/
theorem run_eq (arguments : Arguments) (files : String → Except FileFault Octets)
    (clock : Option UInt64) :
    arguments.run files clock = (do
      let config ← readConfig files arguments.config
      let policy ← readPolicy files arguments.policy
      let canonical ← encodePolicy policy
      let operator ← config.operator
      let client ← Client.new config (.development operator)
      let (hash, _) := client.putPolicy clock arguments.resource arguments.principal policy none
        { node := .ledger (.new config.chain.chainId) }
      return { canonical := utf8 (mended canonical), hash := ← hash }) := by
  simp only [run, attach, Logged.result_bind, loadConfig_result, loadPolicy_result,
    Logged.result_quiet, Logged.newClient_result, Logged.putPolicy_result]
  rfl

theorem loadConfig_of_error (h : readConfig files path = .error f) :
    loadConfig files path = ⟨.error f, []⟩ := by
  rw [loadConfig, h]
  rfl

theorem loadConfig_of_ok (h : readConfig files path = .ok c) :
    loadConfig files path = (do .log (.configLoaded c); return c) := by
  rw [loadConfig, h, Logged.quiet_ok, pure_bind]

/-- A policy document is told of if one of its words is refused, and not if it
    cannot be read or has another shape. -/
theorem loadPolicy_of_error (h : readPolicy files path = .error f) :
    loadPolicy files path =
      ⟨.error f, if f.code = .malformedInput then [] else [.policyRejected f]⟩ := by
  cases hfile : files path with
  | error cause =>
      have hfault : f = .unreadablePolicy path cause := by
        rw [readPolicy, hfile] at h
        injection h with h
        exact h.symm
      rw [loadPolicy, hfile, hfault]
      rfl
  | ok octets =>
      have hdecode : decodePolicy octets = .error f := by
        rw [readPolicy, hfile] at h
        exact h
      rw [loadPolicy, hfile, Except.mapError, Logged.quiet_ok, pure_bind, Logged.decodePolicy,
        hdecode]
      -- Which pass refused it decides on both the code and the event.
      cases hentire : entire policyReader octets with
      | error cause =>
          rcases decodePolicy_twoPass.first hentire with ⟨f', hf', hcode⟩
          rw [hdecode] at hf'
          injection hf' with hf'
          rw [if_pos (hf' ▸ hcode)]
          rfl
      | ok W =>
          have hwords := (decodePolicy_twoPass.second hentire).symm.trans hdecode
          have hcode : f.code ≠ .malformedInput := by
            rcases decodePolicy_twoPass.codes hwords with hcode | hcode
            · rw [hcode]
              decide
            · rw [hcode]
              decide
          rw [if_neg hcode]
          rfl

theorem loadPolicy_of_ok (h : readPolicy files path = .ok p) :
    loadPolicy files path = return p := by
  rcases bind_eq_ok_iff.mp h with ⟨octets, hfile, hdecode⟩
  rw [loadPolicy, hfile, Logged.quiet_ok, pure_bind, Logged.decodePolicy, hdecode]
  cases entire policyReader octets with
  | ok W => rfl
  | error cause => rfl

end Arguments

end StoragePolicy
