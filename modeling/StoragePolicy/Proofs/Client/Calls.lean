import StoragePolicy.Client
import StoragePolicy.Proofs.Coding
import StoragePolicy.Proofs.Ledger.Submitting

/-!
# Calls

What one call of a client does, said once for everything that is proved about
runs of calls. There are four ways in which a call can end: it is refused
before anybody is asked, the signer does not sign, the node does not accept, or
the transaction is recorded. Each way fixes the answer, what was asked on the
way, and the node that is left.

Each way is also a place in one row of faults. The checks of the client come
first, then the signer, then the node with its own row, and the answer is the
first fault of them all. A message is needed to say what is signed and
submitted, so it is defined for every request, also for those that are never
sent.

## Main definitions

* `Request`, `Client.perform`: A call with its arguments, and its doing.
* `Client.localFaults`, `Client.faults`: What a call can be refused for.
* `Client.message`, `Client.payload`, `Client.signed`: What a call sends.
* `Client.Ends`: The four ways in which a call can end.

## Theorems

* `ChainNode.submit_of_refused`, `ChainNode.submit_of_accepted`: What handing
  over a transaction comes to.
* `Client.new_eq_ok_iff`: What a client is made of.
* `Client.prepare_eq`: What preparing a policy comes to.
* `Client.perform_ends`: Every call ends in one of the four ways.
* `Client.perform_node_cases`: Of these, the node sees two.
* `Client.faultOf?_perform`: The fault of a call is the first in the row.
-/

namespace StoragePolicy

open Text

/-- What a client is asked to do. A policy comes with the expiration that it
    names, if it does, and with what the clock shows. -/
inductive Request where
  | put (resource : Resource) (principal : Principal) (policy : Policy)
    (asked clock : Option UInt64)
  | delete (resource : Resource) (principal : Principal)

namespace Request

/-- The resource that a policy is attached to or detached from. -/
def resource : Request → Resource
  | .put resource _ _ _ _ => resource
  | .delete resource _ => resource

/-- The principal that it is attached for. -/
def principal : Request → Principal
  | .put _ principal _ _ _ => principal
  | .delete _ principal => principal

end Request

namespace ChainNode

/-- The faults that a transaction may meet. -/
def faults (node : ChainNode) (tx : Transaction) : List (Option Fault) :=
  match node with
  | .down fault => [some (fault tx)]
  | .ledger l => l.faults tx

/-- A refusal leaves the node as it was, whether it is a ledger that refuses or a
    node that is down. -/
theorem submit_of_refused {node : ChainNode} {tx : Transaction} {f : Fault}
    (h : firstFault (node.faults tx) = some f) : node.submit tx = (.error f, node) := by
  cases node with
  | down fault =>
      rw [faults, firstFault_singleton] at h
      -- A node that is down has this one fault in its row.
      injection h with h
      rw [← h]
      rfl
  | ledger l => rw [submit, Ledger.serve_of_refused h]

/-- Only a ledger accepts, so a node that does is one, and the hash it answers
    with is that of the number its ledger has next. What the ledger becomes is
    given as well, since every statement on runs goes on from there. -/
theorem submit_of_accepted {node : ChainNode} {tx : Transaction}
    (h : firstFault (node.faults tx) = none) :
    ∃ l, node = .ledger l ∧ firstFault (l.faults tx) = none ∧
      node.submit tx = (.ok (hashOf l.next), .ledger (l.accepted tx)) := by
  cases node with
  | down fault =>
      rw [faults, firstFault_singleton] at h
      injection h
  | ledger l => exact ⟨l, rfl, h, by rw [submit, Ledger.serve_of_accepted h]⟩

end ChainNode

namespace Client

/-- A client speaks for the operator of a checked configuration, and the signer it
    gets has to be of that address. Nothing else is asked of either. -/
theorem new_eq_ok_iff {config : Config} {signer : Signer} {client : Client} :
    new config signer = .ok client ↔
      config.check = .ok () ∧ config.operator = .ok signer.address ∧
        client = ⟨config, signer.address, signer⟩ := by
  rw [new, bind_eq_ok_iff]
  constructor
  · rintro ⟨_, hcheck, h⟩
    rcases bind_eq_ok_iff.mp h with ⟨operator, hoperator, h⟩
    -- The address that was read and the signer's own are compared last.
    by_cases haddress : signer.address = operator
    · subst haddress
      simp only [ne_eq, not_true, if_false] at h
      injection h with h
      exact ⟨hcheck, hoperator, h.symm⟩
    · simp only [ne_eq, haddress, not_false_eq_true, if_true] at h
      injection h
  · rintro ⟨hcheck, hoperator, rfl⟩
    refine ⟨(), hcheck, bind_eq_ok_iff.mpr ⟨_, hoperator, ?_⟩⟩
    simp only [ne_eq, not_true, if_false]
    rfl

/-- Carries out a request. -/
def perform (client : Client) (request : Request) (session : Session) :
    Except Fault String × Session :=
  match request with
  | .put r q p asked clock => client.putPolicy clock r q p asked session
  | .delete r q => client.deletePolicy r q session

/-- The fault of a policy with too many statements. -/
def limitFault (client : Client) (p : Policy) : Option Fault :=
  let limit := client.config.permission.maxStatements.toNat
  if limit < p.statements.length then some (.tooManyStatements p.statements.length limit)
  else none

/-- The fault of a clock that is needed and stands before the epoch. -/
def clockFault (client : Client) (asked clock : Option UInt64) : Option Fault :=
  if asked = none ∧ client.config.permission.defaultExpiration ≠ 0 ∧ clock = none then
    some .clockBeforeEpoch
  else none

/-- What a request can be refused for before anybody is asked, in the order in
    which it is looked for. -/
def localFaults (client : Client) : Request → List (Option Fault)
  | .put r _ p asked clock =>
    [client.limitFault p, client.clockFault asked clock, p.tagFault, p.scopeFault r]
  | .delete _ _ => []

/-- The expiration that is sent, if the clock can be read. -/
def dated (client : Client) (asked clock : Option UInt64) : Option UInt64 :=
  match asked with
  | some time => some time
  | none => clock.bind client.defaultExpiration

/-- The message that is sent, if the request is not refused before. -/
def message (client : Client) : Request → Message
  | .put r q p asked clock =>
    .put (.ofRequest client.operator r q) p.coded (client.dated asked clock)
  | .delete r q => .ofRemoval client.operator r q

/-- What the signer is asked to sign. -/
def payload (client : Client) (request : Request) : Octets :=
  (client.message request).signBytes client.config.chain.chainId

/-- What is handed to the node once it is signed. -/
def signed (client : Client) (request : Request) (signature : Octets) : Transaction where
  chainId := client.config.chain.chainId
  message := client.message request
  payload := client.payload request
  signer := client.operator
  signature

/-- A clock that can be read is no fault. -/
theorem clockFault_of_some (client : Client) (asked : Option UInt64) (now : UInt64) :
    client.clockFault asked (some now) = none := by
  simp only [clockFault, reduceCtorEq, and_false, if_false]

/-- What the expiration of a policy comes to. The clock is only looked at for a
    policy that names none, and only if there is a time to be added to it. -/
theorem expiration_eq (client : Client) (asked clock : Option UInt64) :
    client.expiration clock asked =
      granting [client.clockFault asked clock] (client.dated asked clock) := by
  cases asked with
  | some time => simp only [expiration, clockFault, dated, reduceCtorEq, false_and, if_false,
      granting_none, granting_nil]
  | none =>
      by_cases hnever : client.config.permission.defaultExpiration = 0
      · have hdated : client.dated none clock = none := by
          cases clock with
          | none => rfl
          | some now => simp only [dated, Option.bind_some, defaultExpiration, hnever, if_true]
        -- Without a time to add, even a clock that cannot be read is no fault.
        simp only [expiration, clockFault, hdated, hnever, ne_eq, not_true, if_true, false_and,
          and_false, if_false, granting_none, granting_nil]
      · cases clock with
        | none => simp only [expiration, clockFault, hnever, ne_eq, not_false_eq_true, and_self,
            if_true, if_false, granting_some]
        | some now => simp only [expiration, clockFault, dated, Option.bind_some, hnever,
            reduceCtorEq, and_false, if_false, granting_none, granting_nil]

/-- What looking for an expiration comes to: the limit comes before the clock, so
    a policy that is too long is refused as such on any clock. -/
theorem expirationFor_eq (client : Client) (p : Policy) (asked clock : Option UInt64) :
    client.expirationFor clock p asked =
      granting [client.limitFault p, client.clockFault asked clock]
        (client.dated asked clock) := by
  have hlimit : client.expirationFor clock p asked =
      granting [client.limitFault p] () >>= fun _ => client.expiration clock asked := by
    by_cases hlong : client.config.permission.maxStatements.toNat < p.statements.length
    · simp only [expirationFor, limitFault, hlong, if_true]
      rfl
    · simp only [expirationFor, limitFault, hlong, if_false]
      rfl
  rw [hlimit]
  exact granting_bind _ [_] _ _ _ fun _ => client.expiration_eq asked clock

/-- What preparing a policy comes to. The checks of the client and those of the
    message are one row, and what passes them all is the message that `message`
    gives for the request. -/
theorem prepare_eq (client : Client) (r : Resource) (q : Principal) (p : Policy)
    (asked clock : Option UInt64) :
    client.prepare clock r q p asked =
      granting (client.localFaults (.put r q p asked clock))
        (client.message (.put r q p asked clock)) := by
  rw [prepare, expirationFor_eq]
  -- The two faults found by the client stand before the two of the message.
  exact granting_bind [_, _] [_, _] _ _ _ fun _ => Message.ofPolicy_eq _ _ _ _ _

/-- A request that meets a fault of the client's own leaves no trace at all. -/
theorem perform_of_refused {client : Client} {request : Request} {f : Fault}
    (h : firstFault (client.localFaults request) = some f) (session : Session) :
    client.perform request session = (.error f, session) := by
  cases request with
  | put r q p asked clock => rw [perform, putPolicy, prepare_eq, granting_of_some h]
  | delete r q => injection h

/-- Any other request is sent, whoever refuses it then. -/
theorem perform_of_passes {client : Client} {request : Request}
    (h : firstFault (client.localFaults request) = none) (session : Session) :
    client.perform request session = client.send (client.message request) session := by
  cases request with
  | put r q p asked clock => rw [perform, putPolicy, prepare_eq, granting_of_none h]
  | delete r q => rfl

/-! ## The ways in which a call can end -/

/-- The four ways in which a call can end, each with its answer and what it
    leaves. -/
inductive Ends (client : Client) (request : Request) (session : Session) :
    Except Fault String × Session → Prop where
  /-- Nobody was asked. -/
  | refused {f : Fault} (fault : firstFault (client.localFaults request) = some f) :
    Ends client request session (.error f, session)
  /-- The signer was asked and did not sign. -/
  | unsigned {f : Fault} (passes : firstFault (client.localFaults request) = none)
    (answer : client.signer.sign (client.payload request) session.signCalls = .error f) :
    Ends client request session
      (.error f, { session with
        journal := session.journal ++ [.signing (client.payload request) (.error f)] })
  /-- The node was handed what was signed and did not accept. -/
  | rejected {signature : Octets} {f : Fault}
    (passes : firstFault (client.localFaults request) = none)
    (answer : client.signer.sign (client.payload request) session.signCalls = .ok signature)
    (fault : firstFault (session.node.faults (client.signed request signature)) = some f) :
    Ends client request session
      (.error f, { session with
        journal := session.journal ++ [.signing (client.payload request) (.ok signature),
          .submission (client.signed request signature) (.error f)] })
  /-- The node recorded what was signed. -/
  | accepted {signature : Octets} {ledger : Ledger}
    (passes : firstFault (client.localFaults request) = none)
    (answer : client.signer.sign (client.payload request) session.signCalls = .ok signature)
    (node : session.node = .ledger ledger)
    (faultless : firstFault (ledger.faults (client.signed request signature)) = none) :
    Ends client request session
      (.ok (hashOf ledger.next), {
        journal := session.journal ++ [.signing (client.payload request) (.ok signature),
          .submission (client.signed request signature) (.ok (hashOf ledger.next))]
        node := .ledger (ledger.accepted (client.signed request signature)) })

/-- Every call ends in one of the four ways. All that is proved of calls goes over
    these and not over the code of a client. A change to the code would therefore
    be felt here, and in nothing that is said of runs. -/
theorem perform_ends (client : Client) (request : Request) (session : Session) :
    Ends client request session (client.perform request session) := by
  -- One case for each party that can refuse, in the order in which they are asked.
  cases hlocal : firstFault (client.localFaults request) with
  | some f =>
      rw [perform_of_refused hlocal]
      exact .refused hlocal
  | none =>
      rw [perform_of_passes hlocal]
      cases hanswer : client.signer.sign (client.payload request) session.signCalls with
      | error f =>
          have hsend : client.send (client.message request) session =
              (.error f, { session with
                journal :=
                  session.journal ++ [.signing (client.payload request) (.error f)] }) := by
            -- What the signer was asked is the payload, only not by that name.
            unfold payload at hanswer ⊢
            simp only [send, Session.sign, hanswer]
          rw [hsend]
          exact .unsigned hlocal hanswer
      | ok signature =>
          have hsend : client.send (client.message request) session =
              Session.submit (client.signed request signature) { session with
                journal := session.journal ++
                  [.signing (client.payload request) (.ok signature)] } := by
            unfold signed payload at *
            simp only [send, Session.sign, hanswer]
          rw [hsend, Session.submit]
          -- The signing stands in the journal by now, whatever the node answers.
          cases hnode : firstFault (session.node.faults (client.signed request signature)) with
          | some f =>
              rw [ChainNode.submit_of_refused hnode]
              simp only [List.append_assoc, List.cons_append, List.nil_append]
              exact .rejected hlocal hanswer hnode
          | none =>
              rcases ChainNode.submit_of_accepted hnode with ⟨ledger, hledger, hfaults, hsubmit⟩
              rw [hsubmit]
              simp only [List.append_assoc, List.cons_append, List.nil_append]
              exact .accepted hlocal hanswer hledger hfaults

/-- Seen from the node, a call fails and does nothing, or it records what was
    signed. Of the four ways in which a call can end, three look alike from there. -/
theorem perform_node_cases (client : Client) (request : Request) (session : Session) :
    (∃ f, (client.perform request session).1 = .error f ∧
      (client.perform request session).2.node = session.node) ∨
    ∃ signature ledger, firstFault (client.localFaults request) = none ∧
      client.signer.sign (client.payload request) session.signCalls = .ok signature ∧
      session.node = .ledger ledger ∧
      firstFault (ledger.faults (client.signed request signature)) = none ∧
      (client.perform request session).1 = .ok (hashOf ledger.next) ∧
      (client.perform request session).2.node =
        .ledger (ledger.accepted (client.signed request signature)) := by
  have hends := client.perform_ends request session
  -- Answer and session are told together, so they are cased on together.
  generalize client.perform request session = result at hends ⊢
  cases hends with
  | refused hfault => exact Or.inl ⟨_, rfl, rfl⟩
  | unsigned hpasses hanswer => exact Or.inl ⟨_, rfl, rfl⟩
  | rejected hpasses hanswer hfault => exact Or.inl ⟨_, rfl, rfl⟩
  | accepted hpasses hanswer hnode hfaultless =>
      exact Or.inr ⟨_, _, hpasses, hanswer, hnode, hfaultless, rfl, rfl⟩

/-- What a call can be refused for, in the order in which it is looked for. -/
def faults (client : Client) (request : Request) (session : Session) : List (Option Fault) :=
  client.localFaults request ++
    match client.signer.sign (client.payload request) session.signCalls with
    | .error f => [some f]
    | .ok signature => session.node.faults (client.signed request signature)

/-- The fault of a call is the first in the row. With this, whatever is known of
    first faults is known of calls, and no call has to be taken apart again to
    see which of two faults it reports. -/
theorem faultOf?_perform (client : Client) (request : Request) (session : Session) :
    faultOf? (client.perform request session).1 =
      firstFault (client.faults request session) := by
  have hends := client.perform_ends request session
  rw [faults, firstFault_append]
  generalize client.perform request session = result at hends ⊢
  -- In each way of ending, all that stands earlier in the row is no fault.
  cases hends with
  | refused hfault => rw [hfault]; rfl
  | unsigned hpasses hanswer => rw [hpasses, hanswer]; rfl
  | rejected hpasses hanswer hfault => rw [hpasses, hanswer, hfault]; rfl
  | accepted hpasses hanswer hnode hfaults =>
      rw [hpasses, hanswer, hnode]
      exact hfaults.symm

end Client

end StoragePolicy
