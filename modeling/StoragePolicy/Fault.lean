import StoragePolicy.Json.Fault

/-!
# What Can Go Wrong

One type for every refusal in the library. A constructor is a cause with the
values that explain it; what a caller sees is derived from it: a stable code,
which groups causes by the part of a request that is at fault, and a message.

The message is the code's own sentence around a detail. Two causes may share a
code, as an unknown action tag and an action that the resource does not permit
do, but no cause changes its code.

For a document that is not taken the message says what was expected and what was
found. Where in the document that was, and how the reader of a configuration
words it, is not part of the cause: it stands behind the message when a run
complains, and is a parameter there.

## Main definitions

* `FaultCode`: The stable codes, with their names and sentences.
* `FileFault`: Why a file cannot be read.
* `AddressFault`, `ResourceFault`: What is wrong with a written address or
  resource name.
* `Fault`: The causes.
* `Fault.code`, `Fault.detail`, `Fault.message`: What a caller sees.
-/

namespace StoragePolicy

open Text

/-- The stable codes that callers tell refusals apart by. -/
inductive FaultCode where
  | invalidEffect
  | invalidAction
  | unregisteredAction
  | malformedInput
  | invalidResource
  | invalidPrincipal
  | invalidConfig
  | unsupportedVersion
  | signingFailed
  | submissionFailed
  | internal
  deriving DecidableEq

namespace FaultCode

/-- The name that a code goes by. -/
def name : FaultCode → String
  | .invalidEffect => "INVALID_EFFECT"
  | .invalidAction => "INVALID_ACTION"
  | .unregisteredAction => "UNREGISTERED_ACTION"
  | .malformedInput => "MALFORMED_INPUT"
  | .invalidResource => "INVALID_RESOURCE"
  | .invalidPrincipal => "INVALID_PRINCIPAL"
  | .invalidConfig => "INVALID_CONFIG"
  | .unsupportedVersion => "UNSUPPORTED_VERSION"
  | .signingFailed => "SIGNING_FAILED"
  | .submissionFailed => "SUBMISSION_FAILED"
  | .internal => "INTERNAL"

/-- The sentence of a code around a detail. Only the effect's detail is
    quoted, and a version needs none. -/
def sentence (code : FaultCode) (detail : String) : String :=
  match code with
  | .invalidEffect => "invalid effect: " ++ quotedText detail ++ " (expected Allow or Deny)"
  | .invalidAction => "invalid action: " ++ detail
  | .unregisteredAction => "unregistered action: " ++ detail
  | .malformedInput => "malformed input: " ++ detail
  | .invalidResource => "invalid resource: " ++ detail
  | .invalidPrincipal => "invalid principal: " ++ detail
  | .invalidConfig => "invalid config: " ++ detail
  | .unsupportedVersion => "unsupported config version"
  | .signingFailed => "signing failed: " ++ detail
  | .submissionFailed => "submission failed: " ++ detail
  | .internal => "internal: " ++ detail

end FaultCode

/-- Why a file cannot be read. -/
inductive FileFault where
  | notFound
  | isFolder
  | notFolder
  | nameTooLong
  | nullInName
  | notUtf8
  | other (reason : String)
  deriving DecidableEq

/-- The wording of a file fault. -/
def FileFault.message : FileFault → String
  | .notFound => "No such file or directory (os error 2)"
  | .isFolder => "Is a directory (os error 21)"
  | .notFolder => "Not a directory (os error 20)"
  | .nameTooLong => "File name too long (os error 36)"
  | .nullInName => "file name contained an unexpected NUL byte"
  | .notUtf8 => "stream did not contain valid UTF-8"
  | .other reason => reason

/-- What is wrong with a written address. Octets and places are those of the
    part behind the marker. -/
inductive AddressFault where
  | noMarker
  | wrongLength
  | badDigit (octet : UInt8) (place : Nat)
  deriving DecidableEq

/-- The wording of an address fault in the given text. -/
def AddressFault.message (text : String) : AddressFault → String
  | .noMarker => "address must start with 0x: " ++ text
  | .wrongLength => "address must have 40 hex digits: " ++ text
  | .badDigit octet place =>
    "invalid address " ++ text ++ ": Invalid character " ++ quotedChar (Char.ofNat octet.toNat)
      ++ " at position " ++ toString place

/-- What is wrong with a written resource name. -/
inductive ResourceFault where
  | noMarker
  | noKind
  | notBucket
  | notObject
  | notGroup
  | badBucketName
  | emptyObject
  | emptyGroup
  | badOwner
  | unknownKind (kind : String)
  deriving DecidableEq

/-- The wording of a resource fault. -/
def ResourceFault.message : ResourceFault → String
  | .noMarker => "missing grn: prefix"
  | .noKind => "missing resource type"
  | .notBucket => "expected grn:b::<bucket>"
  | .notObject => "expected grn:o::<bucket>/<object>"
  | .notGroup => "expected grn:g:<owner>::<group>"
  | .badBucketName => "bad bucket name"
  | .emptyObject => "object name must not be empty"
  | .emptyGroup => "group name must not be empty"
  | .badOwner => "bad group owner"
  | .unknownKind kind => "unknown resource type " ++ quotedText kind

/-- The two kinds of document that can be decoded on their own. -/
inductive DocumentKind where
  | policy
  | statement
  deriving DecidableEq

/-- The word for a kind of document in messages. -/
def DocumentKind.text : DocumentKind → String
  | .policy => "policy"
  | .statement => "statement"

/-- Why a request is refused. -/
inductive Fault where
  | unknownEffect (text : String)
  | unknownAction (tag : String)
  | unregisteredAction (tag : String)
  | inapplicableAction (tag resource : String)
  | badDocument (kind : DocumentKind) (cause : Json.Fault)
  | noStatement (index : Nat)
  | tooManyStatements (count limit : Nat)
  | unreadablePolicy (path : String) (cause : FileFault)
  | badResource (text : String) (cause : ResourceFault)
  | badBucketName (name : String)
  | badAddress (text : String) (cause : AddressFault)
  | badGroupId (text : String)
  | unreadableConfig (path : String) (cause : FileFault)
  | badYaml
  | emptyChainId
  | emptyEndpoint
  | badOperator (text : String) (cause : AddressFault)
  | badStatementLimit
  | unsupportedVersion
  | signerMismatch (signer operator : String)
  | lockedKeyStore
  | chainMismatch (tx node : String)
  | missingSignature
  | nothingAttached (resource principal : String)
  | nodeDown (typeUrl : String)
  | clockBeforeEpoch
  deriving DecidableEq

namespace Fault

/-- The code of a cause. -/
def code : Fault → FaultCode
  | .unknownEffect _ => .invalidEffect
  | .unknownAction _ | .inapplicableAction _ _ => .invalidAction
  | .unregisteredAction _ => .unregisteredAction
  | .badDocument _ _ | .noStatement _ | .tooManyStatements _ _ | .unreadablePolicy _ _ =>
    .malformedInput
  | .badResource _ _ | .badBucketName _ => .invalidResource
  | .badAddress _ _ | .badGroupId _ => .invalidPrincipal
  | .unreadableConfig _ _ | .badYaml | .emptyChainId | .emptyEndpoint | .badOperator _ _
  | .badStatementLimit => .invalidConfig
  | .unsupportedVersion => .unsupportedVersion
  | .signerMismatch _ _ | .lockedKeyStore => .signingFailed
  | .chainMismatch _ _ | .missingSignature | .nothingAttached _ _ | .nodeDown _ =>
    .submissionFailed
  | .clockBeforeEpoch => .internal

/-- What a message says beyond the code's own sentence. Of a broken document this
    is all that the cause determines; `Remarks` stands for what its reader adds
    behind it, such as a line and a column. -/
def detail : Fault → String
  | .unknownEffect text => text
  | .unknownAction tag => tag
  | .unregisteredAction tag => tag
  | .inapplicableAction tag resource => tag ++ " does not apply to " ++ resource
  | .badDocument kind cause => "invalid " ++ kind.text ++ " json: " ++ cause.message
  | .noStatement index => "no statement at index " ++ toString index
  | .tooManyStatements count limit =>
    "policy has " ++ toString count ++ " statements, limit is " ++ toString limit
  | .unreadablePolicy path cause => "read " ++ path ++ " failed: " ++ cause.message
  | .badResource text cause => text ++ ": " ++ cause.message
  | .badBucketName name => "bad bucket name: " ++ quotedText name
  | .badAddress text cause => cause.message text
  | .badGroupId text => "invalid group id: " ++ text
  | .unreadableConfig path cause => "read config failed (" ++ path ++ "): " ++ cause.message
  | .badYaml => "invalid yaml"
  | .emptyChainId => "chain.chain_id must not be empty"
  | .emptyEndpoint => "chain.rpc_addr and chain.grpc_addr must not be empty"
  | .badOperator text cause =>
    "account.address: " ++ FaultCode.invalidPrincipal.sentence (cause.message text)
  | .badStatementLimit => "permission.max_statements must be between 1 and 64"
  | .unsupportedVersion => ""
  | .signerMismatch signer operator =>
    "signer address " ++ signer ++ " does not match operator " ++ operator
  | .lockedKeyStore => "key store locked"
  | .chainMismatch tx node => "chain id mismatch: tx=" ++ tx ++ " node=" ++ node
  | .missingSignature => "missing signature"
  | .nothingAttached resource principal =>
    "no policy on " ++ resource ++ " for principal " ++ principal
  | .nodeDown typeUrl => "node down: " ++ typeUrl
  | .clockBeforeEpoch =>
    "system clock before epoch: second time provided was later than self"

/-- The message that a caller sees, up to what the reader of a document adds. -/
def message (fault : Fault) : String := fault.code.sentence fault.detail

end Fault

end StoragePolicy
