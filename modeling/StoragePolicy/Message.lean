import StoragePolicy.Json.Printer
import StoragePolicy.Policy.Basic
import StoragePolicy.Principal
import StoragePolicy.Resource

/-!
# Messages

What is sent to the chain: attach these statements to a resource for a
principal, or detach whatever is attached there. A message carries chain codes
and written names only, so a policy is checked and coded on the way in and a
message with an unknown action cannot be made.

Every action of a statement has to be registered before any of them is held
against the resource. The first action that the resource does not permit is the
one reported.

The octets that are signed are a canonical document of the chain's id and the
message, so the signature binds the message to its chain.

## Main definitions

* `CodedStatement`: A statement in chain codes.
* `Grantee`: A principal as kind and value.
* `Target`: Who asks, on which resource, for whom.
* `Message`: Attaching or detaching.
* `CodedStatement.ofStatement`: The coding of a statement for a resource.
* `Message.put`, `Message.delete`: The messages for a request.
* `Message.signBytes`: The octets that are signed.
-/

namespace StoragePolicy

open Text Json

/-- A statement in chain codes. -/
structure CodedStatement where
  effect : Int32
  actions : List Int32
  deriving DecidableEq

/-- The first action of a list that a resource does not permit. -/
def Resource.refused? (r : Resource) (actions : List Action) : Option Action :=
  actions.find? fun a => !r.permits a

/-- Codes a statement for a resource that permits all its actions. -/
def CodedStatement.ofStatement (s : Statement) (r : Resource) : Except Fault CodedStatement := do
  let actions ← s.actions
  match r.refused? actions with
  | some a => throw (.inapplicableAction a.tag r.text)
  | none => return { effect := s.effect.code, actions := actions.map Action.code }

/-- A principal as it is carried on chain. -/
structure Grantee where
  kind : Int32
  value : String
  deriving DecidableEq

/-- The kind and value of a principal. -/
def Grantee.ofPrincipal (p : Principal) : Grantee := ⟨p.code, p.value⟩

/-- Who asks, on which resource, and for whom. The parts are texts here, since texts
    are what is sent. -/
structure Target where
  operator : String
  resource : String
  grantee : Grantee
  deriving DecidableEq

/-- The target of a request. -/
def Target.ofRequest (operator : Address) (r : Resource) (p : Principal) : Target :=
  ⟨operator.text, r.text, .ofPrincipal p⟩

/-- What is sent to the chain. A policy is sent as codes, and its expiration only if
    it has one. -/
inductive Message where
  | put (target : Target) (statements : List CodedStatement) (expiration : Option UInt64)
  | delete (target : Target)
  deriving DecidableEq

namespace Message

/-- Who asks, on which resource, and for whom. -/
def target : Message → Target
  | .put target _ _ => target
  | .delete target => target

/-- The name of the message's type. -/
def typeUrl : Message → String
  | .put _ _ _ => "/greenfield.storage.MsgPutPolicy"
  | .delete _ => "/greenfield.storage.MsgDeletePolicy"

/-- The message that attaches a policy. All tags are checked before any
    statement is coded. -/
def ofPolicy (operator : Address) (r : Resource) (p : Principal) (policy : Policy)
    (expiration : Option UInt64) : Except Fault Message := do
  policy.check
  let statements ← policy.statements.mapM fun s => CodedStatement.ofStatement s r
  return .put (.ofRequest operator r p) statements expiration

/-- The message that detaches whatever is attached. -/
def ofRemoval (operator : Address) (r : Resource) (p : Principal) : Message :=
  .delete (.ofRequest operator r p)

/-- A code in decimal. -/
def writeCode (code : Int32) : Octets := number code.toInt

/-- A coded statement as an object. -/
def writeStatement (s : CodedStatement) : Octets :=
  object [member "effect" (writeCode s.effect), member "actions" (list (s.actions.map writeCode))]

/-- A grantee as an object. -/
def writeGrantee (g : Grantee) : Octets :=
  object [member "type" (writeCode g.kind), member "value" (quoted g.value)]

/-- The members that every message has. -/
def writeTarget (typeUrl : String) (t : Target) : List Octets :=
  [member "@type" (quoted typeUrl), member "operator" (quoted t.operator),
    member "resource" (quoted t.resource), member "principal" (writeGrantee t.grantee)]

/-- A message as an object; an absent expiration is left out. -/
def write (m : Message) : Octets :=
  let common := writeTarget m.typeUrl m.target
  match m with
  | .put _ statements expiration =>
    let body := member "statements" (list (statements.map writeStatement))
    let tail := match expiration with
      | some time => [member "expiration_time" (number time.toNat)]
      | none => []
    object (common ++ body :: tail)
  | .delete _ => object common

/-- The octets that are signed: the chain's id and the message. -/
def signBytes (m : Message) (chainId : String) : Octets :=
  object [member "chain_id" (quoted chainId), member "msg" m.write]

end Message

end StoragePolicy
