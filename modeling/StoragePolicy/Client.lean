import StoragePolicy.Config.Basic
import StoragePolicy.Ledger
import StoragePolicy.Signature.Ed25519

/-!
# Clients

A client takes a request through all its stages: it is checked and coded,
dated, written for signing, signed and submitted. Everything that can be
refused locally is refused before the signer is asked, and nothing is submitted
that was not signed.

The signer and the node are the two things a client depends on and does not
own. A signer is an account with a function from octets to a signature; since
it may answer differently when asked again, its answers are counted. A node is
a local ledger, or one that refuses everything, each transaction with a fault of
the node's choice. What changes over a run is kept
apart from the client in a `Session`: the node, and a journal of what the two
were asked and what they answered.

The clock is an argument, in seconds since the epoch; a clock that stands before
the epoch has no such number. It is read only for a policy that names no
expiration while the configuration has a default, and the sum stops at the last
representable second.

## Main definitions

* `Signer`: An account that can sign; `Signer.ofSeed`, `Signer.silent` and
  `Signer.locked` are those that work, answer nothing and refuse.
* `ChainNode`: Where transactions are submitted; `ChainNode.offline` is a node
  that is down.
* `Client`, `Client.new`: A checked configuration with its operator and signer.
* `Event`, `Session`: What signer and node were asked, and what a run changes.
* `Client.putPolicy`, `Client.deletePolicy`: The two requests.
-/

namespace StoragePolicy

open Text

/-- An account that can sign. -/
structure Signer where
  address : Address
  /-- The answer for a payload, after so many others. -/
  sign (payload : Octets) (before : Nat := 0) : Except Fault Octets

namespace Signer

/-- The seed that everybody knows, for signatures that protect nothing. -/
def openSeed : Octets := List.replicate 32 7

/-- A signer with a key of its own. -/
def ofKey (address : Address) (key : Signature.Key) : Signer where
  address
  sign payload _ := .ok (key.sign payload)

/-- A signer with the key of a seed. -/
def ofSeed (address : Address) (seed : Octets) : Signer := ofKey address (.ofSeed seed)

/-- The signer that local runs use. -/
def development (address : Address) : Signer := ofSeed address openSeed

/-- A signer whose signatures are empty. -/
def silent (address : Address) : Signer where
  address
  sign _ _ := .ok []

/-- A signer that refuses to sign. -/
def locked (address : Address) : Signer where
  address
  sign _ _ := .error .lockedKeyStore

end Signer

/-- Where transactions are submitted. A node that is down answers each of them
    with a fault, and may have a different one for each. -/
inductive ChainNode where
  | ledger (ledger : Ledger)
  | down (fault : Transaction → Fault)

namespace ChainNode

/-- A node that is down and tells which type of message it was handed. -/
def offline : ChainNode := .down fun tx => .nodeDown tx.message.typeUrl

/-- Hands a transaction to the node. -/
def submit (node : ChainNode) (tx : Transaction) : Except Fault String × ChainNode :=
  match node with
  | .down fault => (.error (fault tx), .down fault)
  | .ledger l =>
    let (answer, l) := l.serve tx
    (answer, .ledger l)

end ChainNode

/-- What signer or node was asked, and what it answered. All that is said about
    what a client asks for is said about these. -/
inductive Event where
  | signing (payload : Octets) (answer : Except Fault Octets)
  | submission (tx : Transaction) (answer : Except Fault String)

/-- Whether the signer was asked. -/
def Event.isSigning : Event → Bool
  | .signing _ _ => true
  | .submission _ _ => false

/-- What a run of requests changes: the node, and the journal of what was asked. -/
structure Session where
  /-- Everything that signer and node were asked, in order. -/
  journal : List Event := []
  node : ChainNode

namespace Session

/-- How often the signer was asked, also in vain. -/
def signCalls (session : Session) : Nat := session.journal.countP Event.isSigning

/-- Asks a signer. -/
def sign (signer : Signer) (payload : Octets) (session : Session) :
    Except Fault Octets × Session :=
  let answer := signer.sign payload session.signCalls
  (answer, { session with journal := session.journal ++ [.signing payload answer] })

/-- Hands a transaction to the node. -/
def submit (tx : Transaction) (session : Session) : Except Fault String × Session :=
  let (answer, node) := session.node.submit tx
  (answer, { journal := session.journal ++ [.submission tx answer], node })

end Session

/-- A checked configuration with its operator and a signer for it. Clients are made
    by `new` only, which is what makes the three fit. -/
structure Client where
  config : Config
  operator : Address
  signer : Signer

namespace Client

/-- A client whose signer is the configured operator. The configuration is checked
    first, so a signer is never compared with an account that is none. -/
def new (config : Config) (signer : Signer) : Except Fault Client := do
  config.check
  let operator ← config.operator
  if signer.address ≠ operator then
    throw (.signerMismatch signer.address.text operator.text)
  return { config, operator, signer }

/-- The sum of two times, at most the last representable second. -/
def saturatingAdd (a b : UInt64) : UInt64 :=
  if a.toNat + b.toNat < UInt64.size then a + b else UInt64.ofNat (UInt64.size - 1)

/-- The expiration of a policy that names none. -/
def defaultExpiration (client : Client) (now : UInt64) : Option UInt64 :=
  let seconds := client.config.permission.defaultExpiration
  if seconds = 0 then none else some (saturatingAdd now seconds)

/-- The expiration of a policy, from the one that it names. -/
def expiration (client : Client) (clock asked : Option UInt64) :
    Except Fault (Option UInt64) :=
  match asked with
  | some time => .ok (some time)
  | none =>
    if client.config.permission.defaultExpiration = 0 then .ok none
    else match clock with
      | some now => .ok (client.defaultExpiration now)
      | none => .error .clockBeforeEpoch

/-- The expiration of a policy that is within the limit of statements. -/
def expirationFor (client : Client) (clock : Option UInt64) (policy : Policy)
    (asked : Option UInt64) : Except Fault (Option UInt64) :=
  let limit := client.config.permission.maxStatements.toNat
  if limit < policy.statements.length then
    .error (.tooManyStatements policy.statements.length limit)
  else client.expiration clock asked

/-- The message for a policy, after every check that can be made without
    signer and node. -/
def prepare (client : Client) (clock : Option UInt64) (resource : Resource)
    (principal : Principal) (policy : Policy) (asked : Option UInt64) : Except Fault Message := do
  let expiration ← client.expirationFor clock policy asked
  Message.ofPolicy client.operator resource principal policy expiration

/-- Has a message signed and hands it to the node. -/
def send (client : Client) (m : Message) (session : Session) : Except Fault String × Session :=
  let chainId := client.config.chain.chainId
  let payload := m.signBytes chainId
  match session.sign client.signer payload with
  | (.error e, session) => (.error e, session)
  | (.ok signature, session) =>
    session.submit { chainId, message := m, payload, signer := client.operator, signature }

/-- Attaches a policy to a resource for a principal. The answer is the hash of
    the transaction. -/
def putPolicy (client : Client) (clock : Option UInt64) (resource : Resource)
    (principal : Principal) (policy : Policy) (asked : Option UInt64) (session : Session) :
    Except Fault String × Session :=
  match client.prepare clock resource principal policy asked with
  | .error e => (.error e, session)
  | .ok m => client.send m session

/-- Detaches whatever is attached to a resource for a principal. -/
def deletePolicy (client : Client) (resource : Resource) (principal : Principal)
    (session : Session) : Except Fault String × Session :=
  client.send (Message.ofRemoval client.operator resource principal) session

end Client

end StoragePolicy
