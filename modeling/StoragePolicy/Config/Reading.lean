import StoragePolicy.Config.Basic
import StoragePolicy.Yaml.Grammar

/-!
# Reading Configurations

A configuration from the tree of a YAML document. A section is a mapping, or
nothing at all, which is a mapping without entries. Its keys have to be the
names of its fields, each at most once, in any order; a field that is not
written either has a usual value or makes the section unreadable.

Text is taken from any scalar as it is written, so a number or a truth value is
text where text is wanted. A number is taken only from a scalar that is written
without quotes: decimal without leading zeros, or hexadecimal, octal or binary
behind its mark, with at most one plus sign, and not beyond the width of its
field. A literal scalar counts too if it is tagged as an integer.

Whatever cannot be read this way is one fault, and it comes before any check of
the values.

## Main definitions

* `entries?`: The entries of a section by name.
* `text?`, `number?`: A value as text or as a number.
* `Config.ofDocument?`: A configuration from a document.
* `Config.load`: A checked configuration from a text.
-/

namespace StoragePolicy

open Yaml

namespace Config

/-- A number behind a mark, with digits below the given base. -/
def markedNumber? (base : Nat) (digits : List Char) : Option Nat :=
  if digits.isEmpty then none
  else digits.foldlM (fun n c =>
    match hexDigit? c with
    | some d => if d < base then some (base * n + d) else none
    | none => none) 0

/-- The number that a plain scalar stands for, if it stands for one that is not
    negative. -/
def plainNumber? (s : List Char) : Option Nat :=
  let unsigned := match s with
    | '+' :: rest => rest
    | _ => s
  match unsigned with
  | '0' :: 'x' :: digits => markedNumber? 16 digits
  | '0' :: 'o' :: digits => markedNumber? 8 digits
  | '0' :: 'b' :: digits => markedNumber? 2 digits
  | ['0'] => some 0
  | '0' :: _ => none
  | digits =>
    if digits.isEmpty || !digits.all Char.isDigit then none
    else some (Nat.ofDigitChars 10 digits 0)

/-- The tag of integers. -/
def integerTag : String := "tag:yaml.org,2002:int"

/-- The text of a value. -/
def text? (d : Document) (n : Node) : Option String :=
  match d.follow n with
  | some (.scalar value _ _) => some value
  | _ => none

/-- The number of a value, below the given limit. -/
def number? (d : Document) (limit : Nat) (n : Node) : Option Nat :=
  match d.follow n with
  | some (.scalar value style tag) =>
    if style = .plain ∨ (style = .literal ∧ tag = some integerTag) then
      (plainNumber? value.toList).filter (· < limit)
    else none
  | _ => none

/-- The entries of a section, each under the text of its key. -/
def named? (d : Document) : List (Node × Node) → Option (List (String × Node))
  | [] => some []
  | (k, v) :: rest => do
    let name ← text? d k
    let others ← named? d rest
    return (name, v) :: others

/-- Whether every name is one of the fields and none comes twice. -/
def areFields (fields names : List String) : Bool :=
  names.all fields.contains && decide names.Nodup

/-- The entries of a section by name: those of a mapping, or none where nothing
    is written. -/
def entries? (d : Document) (fields : List String) (n : Node) :
    Option (List (String × Node)) :=
  match d.follow n with
  | some (.mapping entries) => (named? d entries).filter fun es => areFields fields (es.map (·.1))
  | some (.scalar "" .plain _) => some []
  | _ => none

/-- A field that has to be written. -/
def required? {α : Type} (es : List (String × Node)) (name : String)
    (value? : Node → Option α) : Option α :=
  (es.lookup name).bind value?

/-- A field with a usual value. -/
def optional? {α : Type} (es : List (String × Node)) (name : String) (usual : α)
    (value? : Node → Option α) : Option α :=
  match es.lookup name with
  | some n => value? n
  | none => some usual

/-- The chain's section. -/
def chainSection? (d : Document) (n : Node) : Option ChainSection := do
  let es ← entries? d ["chain_id", "rpc_addr", "grpc_addr"] n
  return {
    chainId := ← required? es "chain_id" (text? d)
    rpcAddr := ← optional? es "rpc_addr" ChainSection.usualRpcAddr (text? d)
    grpcAddr := ← optional? es "grpc_addr" ChainSection.usualGrpcAddr (text? d) }

/-- The account's section. -/
def accountSection? (d : Document) (n : Node) : Option AccountSection := do
  let es ← entries? d ["address"] n
  return { address := ← required? es "address" (text? d) }

/-- A number of sixty-four bits. -/
def wideNumber? (d : Document) (n : Node) : Option UInt64 :=
  (number? d UInt64.size n).map UInt64.ofNat

/-- The permissions' section. -/
def permissionSection? (d : Document) (n : Node) : Option PermissionSection := do
  let es ← entries? d ["default_expiration_secs", "max_statements"] n
  let usual := PermissionSection.usual
  return {
    defaultExpiration :=
      ← optional? es "default_expiration_secs" usual.defaultExpiration (wideNumber? d)
    maxStatements := ← optional? es "max_statements" usual.maxStatements (wideNumber? d) }

/-- A configuration from a document. -/
def ofDocument? (d : Document) : Option Config := do
  let es ← entries? d ["version", "chain", "account", "permission"] d.root
  return {
    version := ← required? es "version" fun n => (number? d UInt32.size n).map UInt32.ofNat
    chain := ← required? es "chain" (chainSection? d)
    account := ← required? es "account" (accountSection? d)
    permission := ← optional? es "permission" PermissionSection.usual (permissionSection? d) }

/-- Checks what was read from a document. -/
def ofDocument (d : Document) : Except Fault Config :=
  match ofDocument? d with
  | none => .error .badYaml
  | some c => c.check.map fun _ => c

/-- A checked configuration from the text of a document. -/
def load (text : String) : Except Fault Config :=
  match Document.ofText? text with
  | none => .error .badYaml
  | some d => ofDocument d

end Config

end StoragePolicy
