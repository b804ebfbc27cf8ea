import StoragePolicy.Address
import StoragePolicy.Text.Blank

/-!
# Configurations

What a client has to know before its first request: which chain it speaks to
and where, which account it signs as, and what it assumes when a request leaves
something open.

A configuration is a plain value that may say anything. The check goes through
it in the order in which it is written, and reports the first thing that cannot
work: the version, the chain, the account, the limits. The operator's address
is kept as written and read again whenever it is needed.

## Main definitions

* `Config`: The value, in three sections.
* `Config.operator`: The account that the client signs as.
* `Config.check`: Whether a client can work with it.
-/

namespace StoragePolicy

open Text

/-- The chain and the addresses of its services. -/
structure ChainSection where
  chainId : String
  rpcAddr : String
  grpcAddr : String
  deriving DecidableEq

/-- The account that requests are signed for, as written. -/
structure AccountSection where
  address : String
  deriving DecidableEq

/-- What holds for requests that leave it open. -/
structure PermissionSection where
  /-- Seconds until a policy expires; zero stands for never. -/
  defaultExpiration : UInt64
  /-- The most statements that one policy may have. -/
  maxStatements : UInt64
  deriving DecidableEq

/-- What a client has to know before its first request. -/
structure Config where
  version : UInt32
  chain : ChainSection
  account : AccountSection
  permission : PermissionSection
  deriving DecidableEq

/-- The service that answers remote calls when none is named. -/
def ChainSection.usualRpcAddr : String := "https://greenfield-chain.bnbchain.org:443"

/-- The service that answers typed calls when none is named. -/
def ChainSection.usualGrpcAddr : String := "grpc.greenfield.bnbchain.org:9090"

/-- The section that stands for an absent one. -/
def PermissionSection.usual : PermissionSection := ⟨0, 16⟩

/-- The chain needs a name and both services an address. -/
def ChainSection.check (s : ChainSection) : Except Fault Unit :=
  if isBlank s.chainId then .error .emptyChainId
  else if isBlank s.rpcAddr || isBlank s.grpcAddr then .error .emptyEndpoint
  else .ok ()

/-- The account of the section. -/
def AccountSection.operator (s : AccountSection) : Except Fault Address :=
  (Address.read s.address.toList).mapError (.badOperator s.address)

/-- The account has to be one. -/
def AccountSection.check (s : AccountSection) : Except Fault Unit := s.operator.map fun _ => ()

/-- The limit has to leave room for a statement and stay moderate. -/
def PermissionSection.check (s : PermissionSection) : Except Fault Unit :=
  if 1 ≤ s.maxStatements ∧ s.maxStatements ≤ 64 then .ok () else .error .badStatementLimit

namespace Config

/-- The account that the client signs as. -/
def operator (c : Config) : Except Fault Address := c.account.operator

/-- Whether a client can work with the configuration; the first fault in
    writing order is reported. -/
def check (c : Config) : Except Fault Unit := do
  if c.version ≠ 1 then throw .unsupportedVersion
  c.chain.check
  c.account.check
  c.permission.check

end Config

end StoragePolicy
