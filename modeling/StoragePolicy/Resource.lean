import StoragePolicy.Address
import StoragePolicy.Policy.Action
import StoragePolicy.Text.Parts

/-!
# Resources

What a policy can be attached to: a bucket, an object in a bucket, or a group
of an account. The written form begins with a marker and a letter for the kind.
Bucket names keep to the rules of the chain; the names of objects and groups
only have to be there, and may hold the very characters that separate the
parts, so each part ends at the first separator and the last part takes the
rest.

A bucket permits the actions on buckets and those on the objects inside it; an
object and a group permit only the actions of their own kind.

## Main definitions

* `Resource`: The three kinds.
* `Resource.permits`: Whether a policy on the resource may name an action.
* `isBucketName`: The rules for bucket names.
* `Resource.text`, `Resource.parse`: The written form and its reading.
-/

namespace StoragePolicy

open Text

/-- What a policy can be attached to. Names are kept as given; only reading
    checks them. -/
inductive Resource where
  | bucket (name : String)
  | object (parent name : String)
  | group (owner : Address) (name : String)
  deriving DecidableEq

/-- Whether a character may stand in a bucket name. -/
def isBucketChar (c : Char) : Bool :=
  ('a' ≤ c && c ≤ 'z') || ('0' ≤ c && c ≤ '9') || c == '-'

/-- The rules for bucket names: three to sixty-three characters, all of them
    lower-case letters, digits or hyphens, with no hyphen at either end. Length
    is counted in octets, which makes no difference to a name of such
    characters. -/
def isBucketName (name : List Char) : Bool :=
  let size := (utf8Chars name).length
  3 ≤ size && size ≤ 63 && name.all isBucketChar
    && name.head? != some '-' && name.getLast? != some '-'

/-- Checks a bucket name that stands alone. -/
def checkBucketName (name : String) : Except Fault Unit :=
  if isBucketName name.toList then .ok () else .error (.badBucketName name)

namespace Resource

/-- What every written resource begins with. -/
def marker : List Char := ['g', 'r', 'n', ':']

/-- The characters of the written form. -/
def chars : Resource → List Char
  | .bucket name => marker ++ 'b' :: ':' :: ':' :: name.toList
  | .object parent name => marker ++ 'o' :: ':' :: ':' :: parent.toList ++ '/' :: name.toList
  | .group owner name => marker ++ 'g' :: ':' :: owner.chars ++ ':' :: ':' :: name.toList

/-- The written form. -/
def text (r : Resource) : String := String.ofList r.chars

/-- Whether a policy on the resource may name an action of the given scope. -/
def covers : Resource → Scope → Bool
  | .bucket _, .bucket | .bucket _, .object => true
  | .object _ _, .object => true
  | .group _ _, .group => true
  | _, _ => false

/-- Whether a policy on the resource may name the action. -/
def permits (r : Resource) (a : Action) : Bool := r.covers a.scope

/-- A bucket, from what follows its kind. -/
def readBucket : List Char → Except ResourceFault Resource
  | ':' :: name =>
    if isBucketName name then .ok (.bucket (String.ofList name)) else .error .badBucketName
  | _ => .error .notBucket

/-- An object, from what follows its kind. -/
def readObject : List Char → Except ResourceFault Resource
  | ':' :: path =>
    match splitAtFirst? ['/'] path with
    | none => .error .notObject
    | some (parent, name) =>
      if !isBucketName parent then .error .badBucketName
      else if name.isEmpty then .error .emptyObject
      else .ok (.object (String.ofList parent) (String.ofList name))
  | _ => .error .notObject

/-- A group, from what follows its kind. -/
def readGroup (s : List Char) : Except ResourceFault Resource :=
  match splitAtFirst? [':', ':'] s with
  | none => .error .notGroup
  | some (owner, name) =>
    if name.isEmpty then .error .emptyGroup
    else match Address.read owner with
      | .error _ => .error .badOwner
      | .ok owner => .ok (.group owner (String.ofList name))

/-- Reads a written resource. -/
def read (s : List Char) : Except ResourceFault Resource :=
  match after? marker s with
  | none => .error .noMarker
  | some rest =>
    match splitAtFirst? [':'] rest with
    | none => .error .noKind
    | some (kind, rest) =>
      if kind = ['b'] then readBucket rest
      else if kind = ['o'] then readObject rest
      else if kind = ['g'] then readGroup rest
      else .error (.unknownKind (String.ofList kind))

/-- Reads a written resource; the fault keeps the text. -/
def parse (s : String) : Except Fault Resource := (read s.toList).mapError (.badResource s)

end Resource

end StoragePolicy
