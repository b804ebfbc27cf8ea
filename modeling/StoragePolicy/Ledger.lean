import StoragePolicy.Message
import StoragePolicy.Table
import StoragePolicy.Text.Hex

/-!
# The Local Ledger

A ledger in memory that stands in for a node of the chain. It keeps every
transaction that it accepted, under a hash that is only a running number, and
the policies that those transactions left attached.

Submitting is four steps: the transaction is checked against the chain's id
and for a signature, its message is applied to the policies, a number is drawn,
and the transaction is recorded under it. Only the first two can refuse. The
steps are functions of their own because clients that share a ledger take them
in turns.

There is one ledger, and the steps change it in place: each answers with what
has become of the ledger, whether it refuses or not. What a step did before it
refused stays done.

The number has sixty-four bits and starts again at zero after the last.

## Main definitions

* `Transaction`: A message with what was signed and by whom.
* `PolicyKey`: What a policy is attached under.
* `Ledger`: The transactions, the policies and the next number.
* `Ledger.check`, `PolicyTable.apply`, `Ledger.draw`, `Ledger.record`: The
  steps of submitting.
* `Ledger.serve`: All of them in a row.
-/

namespace StoragePolicy

open Text

/-- A message with the octets that were signed, the signer and the signature. -/
structure Transaction where
  chainId : String
  message : Message
  payload : Octets
  signer : Address
  signature : Octets
  deriving DecidableEq

/-- What a policy is attached under. The parts are written ones: two resources that
    are written alike are one to the ledger. -/
structure PolicyKey where
  resource : String
  kind : Int32
  value : String
  deriving DecidableEq

/-- The key that a message is about. -/
def Message.key (m : Message) : PolicyKey :=
  ⟨m.target.resource, m.target.grantee.kind, m.target.grantee.value⟩

/-- The attached policies. -/
abbrev PolicyTable := Table PolicyKey (List CodedStatement)

/-- What a message does to the attached policies. Attaching replaces what was
    there; detaching removes, and only then looks whether anything was removed. -/
def PolicyTable.apply (policies : PolicyTable) (m : Message) : Except Fault Unit × PolicyTable :=
  match m with
  | .put _ statements _ => (.ok (), policies.put m.key statements)
  | .delete target =>
    match policies.take m.key with
    | (some _, policies) => (.ok (), policies)
    | (none, policies) => (.error (.nothingAttached target.resource target.grantee.value), policies)

/-- The hash that a number stands for: sixty-four hexadecimal digits. -/
def hashOf (n : UInt64) : String := String.ofList (fixedHex 64 n.toNat)

/-- The accepted transactions and what they left attached. The next number is kept
    as the program keeps it, in a counter of fixed width. -/
structure Ledger where
  chainId : String
  next : UInt64 := 1
  transactions : Table String Transaction := {}
  policies : PolicyTable := {}
  deriving DecidableEq

namespace Ledger

/-- The ledger of a chain before its first transaction. -/
def new (chainId : String) : Ledger := { chainId }

/-- The first step: the transaction has to be for this chain and signed. -/
def check (ledger : Ledger) (tx : Transaction) : Except Fault Unit :=
  if tx.chainId ≠ ledger.chainId then .error (.chainMismatch tx.chainId ledger.chainId)
  else if tx.signature = [] then .error .missingSignature
  else .ok ()

/-- The second step: the message is applied to the policies. -/
def apply (ledger : Ledger) (m : Message) : Except Fault Unit × Ledger :=
  let (answer, policies) := ledger.policies.apply m
  (answer, { ledger with policies })

/-- The third step: a number is drawn. -/
def draw (ledger : Ledger) : UInt64 × Ledger :=
  (ledger.next, { ledger with next := ledger.next + 1 })

/-- The last step: the transaction is recorded under its hash, in the place of one
    with the same hash if there was any. -/
def record (ledger : Ledger) (n : UInt64) (tx : Transaction) : Ledger :=
  { ledger with transactions := ledger.transactions.put (hashOf n) tx }

/-- All steps in a row: the hash or the first refusal, and what has become of
    the ledger. -/
def serve (tx : Transaction) (ledger : Ledger) : Except Fault String × Ledger :=
  match ledger.check tx with
  | .error f => (.error f, ledger)
  | .ok () =>
    match ledger.apply tx.message with
    | (.error f, ledger) => (.error f, ledger)
    | (.ok (), ledger) =>
      let (n, ledger) := ledger.draw
      (.ok (hashOf n), ledger.record n tx)

/-- The same for who keeps the ledger that there was: a refusal has no new one. -/
def submit (ledger : Ledger) (tx : Transaction) : Except Fault (String × Ledger) :=
  match serve tx ledger with
  | (.ok hash, ledger) => .ok (hash, ledger)
  | (.error f, _) => .error f

/-- The transaction with the given hash. -/
def transaction? (ledger : Ledger) (hash : String) : Option Transaction :=
  ledger.transactions.find? hash

/-- How many transactions are kept. -/
def size (ledger : Ledger) : Nat := ledger.transactions.size

/-- What is attached to a resource for a principal. -/
def policy? (ledger : Ledger) (resource : String) (kind : Int32) (value : String) :
    Option (List CodedStatement) :=
  ledger.policies.find? ⟨resource, kind, value⟩

end Ledger

end StoragePolicy
