import StoragePolicy.Fault

/-!
# Actions

The closed registry of what a policy can speak about. Documents name an action
by its tag, which is compared letter for letter, and the chain knows it by its
code. Each action works on one family of resources, its scope, and a resource
permits the actions of some scopes only.

A tag is checked in two places that answer differently: a policy under
validation holds an unknown action, while a look-up for the chain meets an
unregistered one. Both stop at the same tags.

## Main definitions

* `Scope`: The families of resources.
* `Action`: The registered actions.
* `Action.tag`, `Action.ofTag?`: The tag and the look-up by it.
* `Action.code`, `Action.ofCode?`: The chain code and the look-up by it.
* `Action.check`, `Action.resolve`: The two gates that a tag can meet.

## Theorems

* `Action.ofTag?_tag`, `Action.ofCode?_code`: Both look-ups undo their naming.
* `Action.tag_of_ofTag?`, `Action.code_of_ofCode?`: And find nothing else.
-/

namespace StoragePolicy

/-- The family of resources that an action works on. -/
inductive Scope where
  | bucket
  | object
  | group
  deriving DecidableEq

/-- The name of a scope. -/
def Scope.name : Scope → String
  | .bucket => "Bucket"
  | .object => "Object"
  | .group => "Group"

/-- The registered actions, in the order of their codes. -/
inductive Action where
  | updateBucketInfo
  | deleteBucket
  | createObject
  | deleteObject
  | copyObject
  | getObject
  | executeObject
  | listObject
  | updateGroupMember
  | deleteGroup
  deriving DecidableEq

namespace Action

/-- Every registered action, in the order of the codes. -/
def all : List Action :=
  [.updateBucketInfo, .deleteBucket, .createObject, .deleteObject, .copyObject, .getObject,
    .executeObject, .listObject, .updateGroupMember, .deleteGroup]

/-- The tag that documents use. -/
def tag : Action → String
  | .updateBucketInfo => "update-bucket-info"
  | .deleteBucket => "delete-bucket"
  | .createObject => "create-object"
  | .deleteObject => "delete-object"
  | .copyObject => "copy-object"
  | .getObject => "get-object"
  | .executeObject => "execute-object"
  | .listObject => "list-object"
  | .updateGroupMember => "update-group-member"
  | .deleteGroup => "delete-group"

/-- The code that the chain uses; `0` is no action's code. -/
def code : Action → Int32
  | .updateBucketInfo => 1
  | .deleteBucket => 2
  | .createObject => 3
  | .deleteObject => 4
  | .copyObject => 5
  | .getObject => 6
  | .executeObject => 7
  | .listObject => 8
  | .updateGroupMember => 9
  | .deleteGroup => 10

/-- The family of resources that the action works on. -/
def scope : Action → Scope
  | .updateBucketInfo | .deleteBucket => .bucket
  | .updateGroupMember | .deleteGroup => .group
  | _ => .object

/-- Finds an action by its tag. -/
def ofTag? (tag : String) : Option Action := all.find? fun a => a.tag == tag

/-- Finds an action by its code. -/
def ofCode? (code : Int32) : Option Action := all.find? fun a => a.code == code

theorem mem_all (a : Action) : a ∈ all := by
  cases a <;> decide

@[simp] theorem ofTag?_tag (a : Action) : ofTag? a.tag = some a := by
  cases a <;> decide

@[simp] theorem ofCode?_code (a : Action) : ofCode? a.code = some a := by
  cases a <;> decide

theorem tag_of_ofTag? {tag : String} {a : Action} (h : ofTag? tag = some a) : a.tag = tag := by
  simpa using List.find?_some h

theorem code_of_ofCode? {code : Int32} {a : Action} (h : ofCode? code = some a) :
    a.code = code := by
  simpa using List.find?_some h

/-- Whether a tag belongs to a registered action. -/
def isRegistered (tag : String) : Bool := (ofTag? tag).isSome

/-- The gate of validation: a tag outside the registry is an unknown action. -/
def check (tag : String) : Except Fault Unit :=
  match ofTag? tag with
  | some _ => .ok ()
  | none => .error (.unknownAction tag)

/-- The gate of the chain: a tag outside the registry has no action. -/
def resolve (tag : String) : Except Fault Action :=
  match ofTag? tag with
  | some a => .ok a
  | none => .error (.unregisteredAction tag)

end Action

end StoragePolicy
