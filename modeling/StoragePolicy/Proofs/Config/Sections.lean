import Mathlib.Tactic.MkIffOfInductiveProp
import StoragePolicy.Proofs.Config.Entries

/-!
# What a Document Says

The configuration that is read from a document, described without reading. Each
section has its own description, which lists what has to be written for each of
its fields or may be left to its usual value, and a document is described by its
sections in the same way. The descriptions speak of entries, so they say nothing
about where an entry stands.

A field of text has the text that is written, and a field of numbers the number
that is written. The width of a field does not occur in the descriptions: it is
the type of the field that bounds the number, and a number beyond it is no
number of that type.

## Main definitions

* `Config.Shape`: The fields of a section.
* `Config.ChainSays`, `Config.AccountSays`, `Config.PermissionSays`: The sections.
* `Config.Says`: The document.

## Theorems

* `Config.wideNumber?_eq_some_iff`: No number is cut to size.
* `Config.ofDocument?_eq_some_iff`: What is read from a document.
-/

namespace StoragePolicy

open Yaml

namespace Config

/-! ## Descriptions -/

/-- The fields of a section, and those of them that have to be written. -/
structure Shape where
  fields : List String
  needed : List String
  deriving DecidableEq

namespace Shape

def root : Shape := ⟨["version", "chain", "account", "permission"], ["version", "chain", "account"]⟩

def chain : Shape := ⟨["chain_id", "rpc_addr", "grpc_addr"], ["chain_id"]⟩

def account : Shape := ⟨["address"], ["address"]⟩

def permission : Shape := ⟨["default_expiration_secs", "max_statements"], []⟩

end Shape

/-- The sections by name. -/
def sections : List (String × Shape) :=
  [("chain", .chain), ("account", .account), ("permission", .permission)]

/-- The entries say what the chain is. -/
@[mk_iff]
structure ChainSays (s : ChainSection) (es : Entries) : Prop where
  proper : Proper Shape.chain.fields es
  chainId : Gives es "chain_id" (IsText s.chainId)
  rpcAddr : MayGive es "rpc_addr" (IsText s.rpcAddr) (s.rpcAddr = ChainSection.usualRpcAddr)
  grpcAddr : MayGive es "grpc_addr" (IsText s.grpcAddr) (s.grpcAddr = ChainSection.usualGrpcAddr)

/-- The entries say what the account is. -/
@[mk_iff]
structure AccountSays (s : AccountSection) (es : Entries) : Prop where
  proper : Proper Shape.account.fields es
  address : Gives es "address" (IsText s.address)

/-- The entries say what holds for requests that leave it open. -/
@[mk_iff]
structure PermissionSays (s : PermissionSection) (es : Entries) : Prop where
  proper : Proper Shape.permission.fields es
  defaultExpiration : MayGive es "default_expiration_secs" (Counts s.defaultExpiration.toNat)
    (s.defaultExpiration = PermissionSection.usual.defaultExpiration)
  maxStatements : MayGive es "max_statements" (Counts s.maxStatements.toNat)
    (s.maxStatements = PermissionSection.usual.maxStatements)

/-- The entries say what the configuration is. -/
@[mk_iff]
structure Says (c : Config) (es : Entries) : Prop where
  proper : Proper Shape.root.fields es
  version : Gives es "version" (Counts c.version.toNat)
  chain : Gives es "chain" (InSection (ChainSays c.chain))
  account : Gives es "account" (InSection (AccountSays c.account))
  permission : MayGive es "permission" (InSection (PermissionSays c.permission))
    (c.permission = PermissionSection.usual)

/-! ## Readings -/

/-- A number is taken into a field as it is, or not at all. The reader is told the
    size of the field, which is why going back and forth between numbers of the
    document and of the field loses nothing. -/
theorem takes_narrow {α : Type} {size : Nat} {ofNat : Nat → α} {toNat : α → Nat} (d : Document)
    (hlt : ∀ a, toNat a < size) (hof : ∀ a, ofNat (toNat a) = a)
    (hto : ∀ n < size, toNat (ofNat n) = n) :
    Takes (fun n => (number? d size n).map ofNat) fun a => Counts (toNat a) := by
  intro n hfree a
  rw [Option.map_eq_some_iff]
  constructor
  · rintro ⟨m, hm, rfl⟩
    rcases (takes_number d size n hfree m).mp hm with ⟨hcounts, hfits⟩
    -- It was read because it fits, so it is still itself in the field.
    rw [hto m hfits]
    exact hcounts
  · intro h
    exact ⟨toNat a, (takes_number d size n hfree _).mpr ⟨h, hlt a⟩, hof a⟩

theorem takes_version (d : Document) :
    Takes (fun n => (number? d UInt32.size n).map UInt32.ofNat) fun m => Counts m.toNat :=
  takes_narrow d UInt32.toNat_lt_size (fun _ => UInt32.ofNat_toNat)
    fun _ => UInt32.toNat_ofNat_of_lt'

theorem takes_wideNumber (d : Document) : Takes (wideNumber? d) fun m => Counts m.toNat :=
  takes_narrow d UInt64.toNat_lt_size (fun _ => UInt64.ofNat_toNat)
    fun _ => UInt64.toNat_ofNat_of_lt'

/-- The sections differ in their fields only, and are read in the same way: the
    entries are listed by name, and then each field is looked up. -/
theorem takes_chainSection (d : Document) :
    Takes (chainSection? d) fun s => InSection (ChainSays s) := by
  refine takes_section (fun s es h => h.proper) fun es named hlisted s => ?_
  simp only [Option.bind_eq_bind, Option.bind_eq_some_iff,
    hlisted.required?_eq_some_iff (takes_text d), hlisted.optional?_eq_some_iff (takes_text d)]
  -- The reader's own steps are gone now; what is left is one clause a field.
  constructor
  · rintro ⟨chainId, hchain, rpcAddr, hrpc, grpcAddr, hgrpc, h⟩
    injection h with h
    subst h
    exact ⟨hlisted.proper, hchain, hrpc, hgrpc⟩
  · intro h
    exact ⟨_, h.chainId, _, h.rpcAddr, _, h.grpcAddr, rfl⟩

theorem takes_accountSection (d : Document) :
    Takes (accountSection? d) fun s => InSection (AccountSays s) := by
  refine takes_section (fun s es h => h.proper) fun es named hlisted s => ?_
  simp only [Option.bind_eq_bind, Option.bind_eq_some_iff,
    hlisted.required?_eq_some_iff (takes_text d)]
  constructor
  · rintro ⟨address, haddress, h⟩
    injection h with h
    subst h
    exact ⟨hlisted.proper, haddress⟩
  · intro h
    exact ⟨_, h.address, rfl⟩

theorem takes_permissionSection (d : Document) :
    Takes (permissionSection? d) fun s => InSection (PermissionSays s) := by
  refine takes_section (fun s es h => h.proper) fun es named hlisted s => ?_
  simp only [Option.bind_eq_bind, Option.bind_eq_some_iff,
    hlisted.optional?_eq_some_iff (takes_wideNumber d)]
  constructor
  · rintro ⟨expiration, hexpiration, limit, hlimit, h⟩
    injection h with h
    subst h
    exact ⟨hlisted.proper, hexpiration, hlimit⟩
  · intro h
    exact ⟨_, h.defaultExpiration, _, h.maxStatements, rfl⟩

/-- What is read from a document without aliases is what the document says. The
    version is read like any number here; whether it is a known one is left to the
    check. -/
theorem ofDocument?_eq_some_iff {d : Document} {c : Config} (hfree : d.root.AliasFree) :
    ofDocument? d = some c ↔ InSection (Says c) d.root := by
  refine takes_section (fun c es h => h.proper) (fun es named hlisted c => ?_) d.root hfree c
  -- A document is a section whose fields are a number and three sections.
  simp only [Option.bind_eq_bind, Option.bind_eq_some_iff,
    hlisted.required?_eq_some_iff (takes_version d),
    hlisted.required?_eq_some_iff (takes_chainSection d),
    hlisted.required?_eq_some_iff (takes_accountSection d),
    hlisted.optional?_eq_some_iff (takes_permissionSection d)]
  constructor
  · rintro ⟨version, hversion, chain, hchain, account, haccount, permission, hpermission, h⟩
    injection h with h
    subst h
    exact ⟨hlisted.proper, hversion, hchain, haccount, hpermission⟩
  · intro h
    exact ⟨_, h.version, _, h.chain, _, h.account, _, h.permission, rfl⟩

end Config

end StoragePolicy
