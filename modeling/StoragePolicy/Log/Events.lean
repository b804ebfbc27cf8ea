import StoragePolicy.Client
import StoragePolicy.Log.Basic
import StoragePolicy.Policy.Document

/-!
# The Events of a Run

The stages that have something to say, and what they say. Each stage here is
one of the library's own with its events beside it: the result is the library's,
and a theorem says so.

A stage that succeeds tells what it has made. Of those that fail, only three
tell of it themselves: a policy whose words are refused, a request that makes no
message, and a transaction that is not accepted. Everything else that fails is
left to the end of the run, which tells of every failure. So a failure may be
told twice, but at the highest level only once and last.

## Main definitions

* `LogEvent.configLoaded` and the others: What there is to be said.
* `Event.logged`: What is said of an answer of the signer or the node.
* `Logged.decodePolicy`, `Logged.newClient`, `Logged.putPolicy`: The stages.

## Theorems

* `Logged.decodePolicy_result`, `Logged.newClient_result`,
  `Logged.putPolicy_result`: What they come to is what the library's come to.
-/

namespace StoragePolicy

open Text Json

namespace LogEvent

/-- How a fault is shown among the values of an event. What the reader of a
    document adds in its own words stands behind the message. -/
def faultFields (fault : Fault) (remark : String := "") : List (String × String) :=
  [("code", fault.code.name), ("error", fault.message ++ remark)]

/-- A configuration has been read and checked. -/
def configLoaded (config : Config) : LogEvent where
  level := .debug
  text := "config loaded"
  fields := [("chain_id", config.chain.chainId), ("operator", config.account.address)]

/-- A word of a policy document has been refused. -/
def policyRejected (fault : Fault) : LogEvent where
  level := .debug
  text := "policy rejected"
  fields := faultFields fault

/-- A client has been made that speaks for this operator. -/
def clientReady (config : Config) (operator : Address) : LogEvent where
  level := .info
  text := "permission client ready"
  fields := [("chain_id", config.chain.chainId), ("operator", operator.text)]

/-- A policy does not make a message for its resource. -/
def putRejected (resource : Resource) (principal : Principal) (fault : Fault) : LogEvent where
  level := .warning
  text := "put_policy rejected"
  fields := ("resource", resource.text) :: ("principal", principal.text) :: faultFields fault

/-- A policy of so many statements has become a message. -/
def putBuilt (resource : Resource) (principal : Principal) (count : Nat) : LogEvent where
  level := .debug
  text := "put_policy built"
  fields := [("resource", resource.text), ("principal", principal.text),
    ("statements", toString count)]

/-- The ledger has recorded a message of some type. -/
def committed (typeUrl hash : String) : LogEvent where
  level := .debug
  text := "local tx committed"
  fields := [("tx_hash", hash), ("msg", typeUrl)]

/-- The client has heard of it. -/
def submitted (typeUrl hash : String) : LogEvent where
  level := .info
  text := "tx submitted"
  fields := [("tx_hash", hash), ("msg", typeUrl)]

/-- A message has not been accepted. -/
def submissionFailed (typeUrl : String) (fault : Fault) : LogEvent where
  level := .warning
  text := "tx submission failed"
  fields := [("msg", typeUrl), ("error", fault.message)]

/-- The run has attached its policy. -/
def attached (resource : Resource) (principal : Principal) (hash : String) : LogEvent where
  level := .info
  text := "policy attached"
  fields := [("resource", resource.text), ("principal", principal.text), ("tx_hash", hash)]

/-- The run has failed. -/
def failed (fault : Fault) (remark : String) : LogEvent where
  level := .error
  text := "gnfd-policy failed"
  fields := faultFields fault remark

end LogEvent

/-- What is said of an answer. Signatures are not spoken of, and what a node says of
    a message stands in front of what the client does. -/
def Event.logged : Event → List LogEvent
  | .signing _ _ => []
  | .submission tx (.ok hash) =>
    [.committed tx.message.typeUrl hash, .submitted tx.message.typeUrl hash]
  | .submission tx (.error fault) => [.submissionFailed tx.message.typeUrl fault]

namespace Logged

/-- Reads a policy document. Only what is wrong with its words is told, and not
    what is wrong with its shape. -/
def decodePolicy (octets : Octets) : Logged Policy :=
  match entire policyReader octets with
  | .ok _ => orLog (StoragePolicy.decodePolicy octets) .policyRejected
  | .error _ => quiet (StoragePolicy.decodePolicy octets)

theorem decodePolicy_result (octets : Octets) :
    (decodePolicy octets).result = StoragePolicy.decodePolicy octets := by
  unfold decodePolicy
  cases entire policyReader octets with
  | ok statements => exact result_orLog _ _
  | error cause => rfl

/-- Makes a client. -/
def newClient (config : Config) (signer : Signer) : Logged Client := do
  let client ← quiet (Client.new config signer)
  log (.clientReady client.config client.operator)
  return client

theorem newClient_result (config : Config) (signer : Signer) :
    (newClient config signer).result = Client.new config signer := by
  simp only [newClient, result_bind, result_quiet, result_log, result_pure]
  cases Client.new config signer with
  | ok client => rfl
  | error fault => rfl

/-- Has a message signed and submitted. What is told of it is what the journal
    has gained. -/
def send (client : Client) (m : Message) (session : Session) : Logged String :=
  let (answer, later) := client.send m session
  ⟨answer, (later.journal.drop session.journal.length).flatMap Event.logged⟩

/-- Attaches a policy. A policy that is too long, and a clock that cannot be
    read, are not spoken of. -/
def putPolicy (client : Client) (clock : Option UInt64) (resource : Resource)
    (principal : Principal) (policy : Policy) (asked : Option UInt64) (session : Session) :
    Logged String := do
  let expiration ← quiet (client.expirationFor clock policy asked)
  let m ← orLog (Message.ofPolicy client.operator resource principal policy expiration)
    (.putRejected resource principal)
  log (.putBuilt resource principal policy.statements.length)
  send client m session

theorem putPolicy_result (client : Client) (clock : Option UInt64) (r : Resource)
    (q : Principal) (p : Policy) (asked : Option UInt64) (session : Session) :
    (putPolicy client clock r q p asked session).result =
      (client.putPolicy clock r q p asked session).1 := by
  simp only [putPolicy, result_bind, result_quiet, result_orLog, result_log, Client.putPolicy,
    Client.prepare]
  cases client.expirationFor clock p asked with
  | error fault => rfl
  | ok expiration =>
      cases hm : Message.ofPolicy client.operator r q p expiration with
      | error fault => simp only [bind, Except.bind, hm]
      | ok m => simp only [bind, Except.bind, hm, send]

end Logged

end StoragePolicy
