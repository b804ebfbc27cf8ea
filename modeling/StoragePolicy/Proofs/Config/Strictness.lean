import Mathlib.Logic.Relation
import StoragePolicy.Proofs.Config
import StoragePolicy.Proofs.Config.Sections

/-!
# Reading Configurations Is Strict

Whoever writes a configuration has some freedom: entries stand in any order, and
a usual value can be written or left out, down to a whole section. `Variation` is
one such change and `Alike` any number of them, back and forth. Since a document
is described by what it says for each field, a change of this kind changes no
description, and so documents that are alike are read alike, with the same
configuration or the same fault.

Beyond that there is no freedom. `Flawed` lists what no description fits: a key
that is no field, a key that comes twice, a field that is missing, and an integer
too wide for its field. A flawed document is one that cannot be read, so its
values are never looked at, and a fault among them cannot come first.

## Main definitions

* `Config.Usual`: A usual value that is written.
* `Config.Variation`, `Config.Alike`: Documents that say the same.
* `Config.Misshapen`, `Config.Flawed`: Documents that say nothing.
* `Config.Reads`: The entries of a text.

## Theorems

* `Config.Alike.iff_of_alike`: Documents that are alike say the same.
* `Config.Flawed.unreadable`: Flawed documents say nothing.
* `Config.documents_read`: What reading a configuration is.
-/

namespace StoragePolicy

open Yaml

namespace Config

/-! ## Documents that say the same -/

/-- A usual value, in any way of writing it. -/
inductive Usual : String → Node → Prop where
  | rpcAddr {v : Node} (h : IsText ChainSection.usualRpcAddr v) : Usual "rpc_addr" v
  | grpcAddr {v : Node} (h : IsText ChainSection.usualGrpcAddr v) : Usual "grpc_addr" v
  | expiration {v : Node} (h : Counts PermissionSection.usual.defaultExpiration.toNat v) :
    Usual "default_expiration_secs" v
  | limit {v : Node} (h : Counts PermissionSection.usual.maxStatements.toNat v) :
    Usual "max_statements" v

/-- The entries of a section are in another order, or a usual value is left out. -/
inductive SectionVariation (shape : Shape) : Entries → Entries → Prop where
  | order {es es' : Entries} (h : es.Perm es') : SectionVariation shape es es'
  | usual {name : String} {k u : Node} {es : Entries} (hname : name ∈ shape.fields)
    (hk : IsText name k) (husual : Usual name u) (habsent : ∀ v, ¬ Written es name v) :
    SectionVariation shape es ((k, u) :: es)

/-- The entries of a document are in another order, one of its sections varies, or
    an empty section of permissions is left out. A section of usual values only is a
    variation of the empty one, and an entry that varies is the first one here
    because the order is free. -/
inductive Variation : Entries → Entries → Prop where
  | order {es es' : Entries} (h : es.Perm es') : Variation es es'
  | inside {name : String} {shape : Shape} {k n n' : Node} {es inner inner' : Entries}
    (hsection : (name, shape) ∈ sections) (hk : IsText name k) (hn : Opens n inner)
    (hn' : Opens n' inner') (h : SectionVariation shape inner inner') :
    Variation ((k, n) :: es) ((k, n') :: es)
  | permission {k n : Node} {es : Entries} (hk : IsText "permission" k) (hn : Opens n [])
    (habsent : ∀ v, ¬ Written es "permission" v) : Variation es ((k, n) :: es)

/-- The documents differ by variations only, any number of them and in either
    direction. -/
def Alike : Entries → Entries → Prop := Relation.EqvGen Variation

variable {es es' : Entries}

theorem ChainSays.of_perm {s : ChainSection} (hperm : es.Perm es') (h : ChainSays s es) :
    ChainSays s es' :=
  ⟨h.proper.of_perm hperm, h.chainId.of_perm hperm, h.rpcAddr.of_perm hperm,
    h.grpcAddr.of_perm hperm⟩

theorem AccountSays.of_perm {s : AccountSection} (hperm : es.Perm es') (h : AccountSays s es) :
    AccountSays s es' :=
  ⟨h.proper.of_perm hperm, h.address.of_perm hperm⟩

theorem PermissionSays.of_perm {s : PermissionSection} (hperm : es.Perm es')
    (h : PermissionSays s es) : PermissionSays s es' :=
  ⟨h.proper.of_perm hperm, h.defaultExpiration.of_perm hperm, h.maxStatements.of_perm hperm⟩

theorem Says.of_perm {c : Config} (hperm : es.Perm es') (h : Says c es) : Says c es' :=
  ⟨h.proper.of_perm hperm, h.version.of_perm hperm, h.chain.of_perm hperm,
    h.account.of_perm hperm, h.permission.of_perm hperm⟩

/-- A text that is written is the usual one exactly if the field has this text. -/
theorem isText_iff_of_isText {s t : String} {v : Node} (h : IsText t v) : IsText s v ↔ s = t :=
  ⟨fun hs => hs.unique h, fun hst => hst ▸ h⟩

theorem counts_iff_of_counts {m n : UInt64} {v : Node} (h : Counts n.toNat v) :
    Counts m.toNat v ↔ m = n :=
  ⟨fun hm => UInt64.toNat_inj.mp (hm.unique h), fun hmn => hmn ▸ h⟩

/-- A variation of the chain says the same: its own field means the usual value
    either way, and no other field sees the entry. -/
theorem SectionVariation.chain_iff (h : SectionVariation .chain es es') {s : ChainSection} :
    ChainSays s es ↔ ChainSays s es' := by
  cases h with
  | order hperm => exact ⟨.of_perm hperm, .of_perm hperm.symm⟩
  | usual hname hk husual habsent =>
      rw [chainSays_iff, chainSays_iff, proper_cons_of_absent hname hk habsent]
      cases husual with
      | rpcAddr hu =>
          rw [gives_cons_of_not (hk.not_of_ne (by decide)),
            mayGive_cons_of_absent hk habsent (isText_iff_of_isText hu),
            mayGive_cons_of_not (hk.not_of_ne (by decide))]
      | grpcAddr hu =>
          rw [gives_cons_of_not (hk.not_of_ne (by decide)),
            mayGive_cons_of_not (hk.not_of_ne (by decide)),
            mayGive_cons_of_absent hk habsent (isText_iff_of_isText hu)]
      -- The usual numbers belong to another section.
      | expiration _ => exact absurd hname (by decide)
      | limit _ => exact absurd hname (by decide)

/-- An account has no usual values. -/
theorem SectionVariation.account_iff (h : SectionVariation .account es es') {s : AccountSection} :
    AccountSays s es ↔ AccountSays s es' := by
  cases h with
  | order hperm => exact ⟨.of_perm hperm, .of_perm hperm.symm⟩
  | usual hname hk husual habsent =>
      cases husual with
      | rpcAddr _ => exact absurd hname (by decide)
      | grpcAddr _ => exact absurd hname (by decide)
      | expiration _ => exact absurd hname (by decide)
      | limit _ => exact absurd hname (by decide)

theorem SectionVariation.permission_iff (h : SectionVariation .permission es es')
    {s : PermissionSection} : PermissionSays s es ↔ PermissionSays s es' := by
  cases h with
  | order hperm => exact ⟨.of_perm hperm, .of_perm hperm.symm⟩
  | usual hname hk husual habsent =>
      rw [permissionSays_iff, permissionSays_iff, proper_cons_of_absent hname hk habsent]
      cases husual with
      | rpcAddr _ => exact absurd hname (by decide)
      | grpcAddr _ => exact absurd hname (by decide)
      | expiration hu =>
          rw [mayGive_cons_of_absent hk habsent (counts_iff_of_counts hu),
            mayGive_cons_of_not (hk.not_of_ne (by decide))]
      | limit hu =>
          rw [mayGive_cons_of_not (hk.not_of_ne (by decide)),
            mayGive_cons_of_absent hk habsent (counts_iff_of_counts hu)]

/-- A section without entries is the usual one. -/
theorem permissionSays_nil_iff {s : PermissionSection} :
    PermissionSays s [] ↔ s = PermissionSection.usual := by
  rw [permissionSays_iff, and_iff_right (proper_nil _),
    mayGive_of_absent fun _ => not_written_nil, mayGive_of_absent fun _ => not_written_nil]
  cases s
  rw [PermissionSection.mk.injEq]

/-- It is enough to know that the section in the entry says the same. -/
theorem says_cons_congr {c : Config} {k n n' : Node} (hversion : ¬ IsText "version" k)
    (hchain : IsText "chain" k →
      (InSection (ChainSays c.chain) n ↔ InSection (ChainSays c.chain) n'))
    (haccount : IsText "account" k →
      (InSection (AccountSays c.account) n ↔ InSection (AccountSays c.account) n'))
    (hpermission : IsText "permission" k →
      (InSection (PermissionSays c.permission) n ↔ InSection (PermissionSays c.permission) n')) :
    Says c ((k, n) :: es) ↔ Says c ((k, n') :: es) := by
  rw [says_iff, says_iff]
  refine and_congr ?_ (and_congr ?_ (and_congr ?_ (and_congr ?_ ?_)))
  · rw [proper_cons_iff, proper_cons_iff]
  · exact gives_cons_congr fun h => absurd h hversion
  · exact gives_cons_congr hchain
  · exact gives_cons_congr haccount
  · exact mayGive_cons_congr hpermission

/-- A variation says the same. -/
theorem Variation.iff_of_variation (h : Variation es es') {c : Config} :
    Says c es ↔ Says c es' := by
  cases h with
  | order hperm => exact ⟨.of_perm hperm, .of_perm hperm.symm⟩
  | inside hsection hk hn hn' hinner =>
      simp only [sections, List.mem_cons, Prod.mk.injEq, List.not_mem_nil, or_false] at hsection
      -- The field of the section sees its entries, and no other field sees the section.
      rcases hsection with ⟨rfl, rfl⟩ | ⟨rfl, rfl⟩ | ⟨rfl, rfl⟩
      · refine says_cons_congr (hk.not_of_ne (by decide)) (fun _ => ?_)
          (fun h => absurd h (hk.not_of_ne (by decide)))
          (fun h => absurd h (hk.not_of_ne (by decide)))
        rw [hn.inSection_iff, hn'.inSection_iff, hinner.chain_iff]
      · refine says_cons_congr (hk.not_of_ne (by decide))
          (fun h => absurd h (hk.not_of_ne (by decide))) (fun _ => ?_)
          (fun h => absurd h (hk.not_of_ne (by decide)))
        rw [hn.inSection_iff, hn'.inSection_iff, hinner.account_iff]
      · refine says_cons_congr (hk.not_of_ne (by decide))
          (fun h => absurd h (hk.not_of_ne (by decide)))
          (fun h => absurd h (hk.not_of_ne (by decide))) (fun _ => ?_)
        rw [hn.inSection_iff, hn'.inSection_iff, hinner.permission_iff]
  | permission hk hn habsent =>
      have hempty : InSection (PermissionSays c.permission) _ ↔ _ :=
        hn.inSection_iff.trans permissionSays_nil_iff
      rw [says_iff, says_iff, proper_cons_of_absent (by decide) hk habsent,
        gives_cons_of_not (hk.not_of_ne (by decide)),
        gives_cons_of_not (hk.not_of_ne (by decide)),
        gives_cons_of_not (hk.not_of_ne (by decide)), mayGive_cons_of_absent hk habsent hempty]

/-- Documents that are alike say the same, since a single variation does and saying
    the same can be carried on in both directions. -/
theorem Alike.iff_of_alike (h : Alike es es') {c : Config} : Says c es ↔ Says c es' := by
  induction h with
  | rel _ _ hstep => exact hstep.iff_of_variation
  | refl _ => exact Iff.rfl
  | symm _ _ _ ih => exact ih.symm
  | trans _ _ _ _ _ ih ih' => exact ih.trans ih'

/-! ## Documents that say nothing -/

/-- A key is no field, or comes twice, or a field is missing. -/
inductive Misshapen (shape : Shape) (es : Entries) : Prop where
  | unknown {k v : Node} (hmem : (k, v) ∈ es) (hname : ∀ name ∈ shape.fields, ¬ IsText name k)
  | repeated {k v k' v' : Node} {name : String} (htwo : [(k, v), (k', v')].Sublist es)
    (hk : IsText name k) (hk' : IsText name k')
  | missing {name : String} (hname : name ∈ shape.needed) (habsent : ∀ v, ¬ Written es name v)

/-- The document or a section of it is misshapen, or an integer is too wide for
    its field. -/
inductive Flawed (es : Entries) : Prop where
  | root (h : Misshapen .root es)
  | inside {name : String} {shape : Shape} {n : Node} {inner : Entries}
    (hsection : (name, shape) ∈ sections) (hn : Written es name n) (hopens : Opens n inner)
    (h : Misshapen shape inner)
  | version {v : Node} {z : Int} (hv : Written es "version" v) (hz : Denotes z v)
    (hwide : z < 0 ∨ (UInt32.size : Int) ≤ z)
  | number {n v : Node} {inner : Entries} {name : String} {z : Int}
    (hn : Written es "permission" n) (hopens : Opens n inner)
    (hname : name ∈ Shape.permission.fields) (hv : Written inner name v) (hz : Denotes z v)
    (hwide : z < 0 ∨ (UInt64.size : Int) ≤ z)

/-- Proper entries with all that is needed are not misshapen. -/
theorem Misshapen.not_proper {shape : Shape} (h : Misshapen shape es)
    (hneeded : ∀ name ∈ shape.needed, ∃ v, Written es name v) : ¬ Proper shape.fields es := by
  intro hproper
  cases h with
  | unknown hmem hname =>
      rcases hproper.known _ hmem with ⟨name, hfield, hk⟩
      exact hname name hfield hk
  -- Of two entries in a row of proper ones, the second has another key.
  | repeated htwo hk hk' =>
      exact List.pairwise_iff_forall_sublist.mp hproper.once htwo _ hk hk'
  | missing hname habsent =>
      rcases hneeded _ hname with ⟨v, hv⟩
      exact habsent v hv

theorem ChainSays.needed {s : ChainSection} (h : ChainSays s es) :
    ∀ name ∈ Shape.chain.needed, ∃ v, Written es name v :=
  List.forall_mem_singleton.mpr h.chainId.written

theorem AccountSays.needed {s : AccountSection} (h : AccountSays s es) :
    ∀ name ∈ Shape.account.needed, ∃ v, Written es name v :=
  List.forall_mem_singleton.mpr h.address.written

theorem Says.needed {c : Config} (h : Says c es) :
    ∀ name ∈ Shape.root.needed, ∃ v, Written es name v :=
  List.forall_mem_cons.mpr ⟨h.version.written, List.forall_mem_cons.mpr ⟨h.chain.written,
    List.forall_mem_singleton.mpr h.account.written⟩⟩

/-- A number of the permissions is the integer that is written. -/
theorem PermissionSays.eq_of_denotes {s : PermissionSection} (h : PermissionSays s es)
    {name : String} (hname : name ∈ Shape.permission.fields) {v : Node} {z : Int}
    (hv : Written es name v) (hz : Denotes z v) : ∃ n : UInt64, z = n.toNat := by
  simp only [Shape.permission, List.mem_cons, List.not_mem_nil, or_false] at hname
  rcases hname with rfl | rfl
  · exact ⟨_, (h.defaultExpiration.of_written h.proper hv).eq_of_denotes hz⟩
  · exact ⟨_, (h.maxStatements.of_written h.proper hv).eq_of_denotes hz⟩

/-- Flawed documents say nothing. Their values have no part in it, so no fault of a
    value can come before a flaw. -/
theorem Flawed.unreadable (h : Flawed es) (c : Config) : ¬ Says c es := by
  intro hc
  -- Of proper entries the flawed ones are those that a description is about, since
  -- nothing else is written under their names.
  cases h with
  | root h => exact h.not_proper hc.needed hc.proper
  | inside hsection hn hopens h =>
      simp only [sections, List.mem_cons, Prod.mk.injEq, List.not_mem_nil, or_false] at hsection
      rcases hsection with ⟨rfl, rfl⟩ | ⟨rfl, rfl⟩ | ⟨rfl, rfl⟩
      · have hchain := hopens.inSection_iff.mp (hc.chain.of_written hc.proper hn)
        exact h.not_proper hchain.needed hchain.proper
      · have haccount := hopens.inSection_iff.mp (hc.account.of_written hc.proper hn)
        exact h.not_proper haccount.needed haccount.proper
      · have hpermission := hopens.inSection_iff.mp (hc.permission.of_written hc.proper hn)
        exact h.not_proper (List.forall_mem_nil _) hpermission.proper
  | version hv hz hwide =>
      have hsame := (hc.version.of_written hc.proper hv).eq_of_denotes hz
      have hlt := c.version.toNat_lt_size
      omega
  | number hn hopens hname hv hz hwide =>
      have hpermission := hopens.inSection_iff.mp (hc.permission.of_written hc.proper hn)
      rcases hpermission.eq_of_denotes hname hv hz with ⟨n, hsame⟩
      have hlt := n.toNat_lt_size
      omega

/-! ## Texts -/

/-- The text is read as a mapping with these entries, without an alias in them. How
    the parser gets there is not looked into. -/
def Reads (text : String) (es : Entries) : Prop :=
  ∃ d, Document.ofText? text = some d ∧ d.root = .mapping es ∧ d.root.AliasFree

variable {text : String}

theorem Reads.read_eq_some_iff (h : Reads text es) {c : Config} :
    (Document.ofText? text).bind ofDocument? = some c ↔ Says c es := by
  rcases h with ⟨d, hd, hroot, hfree⟩
  rw [hd, Option.bind_some, ofDocument?_eq_some_iff hfree, hroot, Opens.mapping.inSection_iff]

/-- What a document says is checked. -/
theorem Reads.load_eq (h : Reads text es) {c : Config} (hc : Says c es) :
    load text = c.check >>= fun _ => .ok c := by
  rw [Config.load_eq, h.read_eq_some_iff.mpr hc]

/-- Where a document says nothing, there is nothing to be checked. -/
theorem Reads.load_eq_error (h : Reads text es) (hnone : ∀ c, ¬ Says c es) :
    load text = .error .badYaml := by
  have hread : (Document.ofText? text).bind ofDocument? = none :=
    Option.eq_none_iff_forall_ne_some.mpr fun c hc => hnone c (h.read_eq_some_iff.mp hc)
  rw [Config.load_eq, hread]

theorem Reads.load_eq_ok_iff (h : Reads text es) {c : Config} :
    load text = .ok c ↔ Says c es ∧ c.check = .ok () := by
  constructor
  · intro hload
    have hcheck := check_of_load hload
    by_cases hany : ∃ c', Says c' es
    · rcases hany with ⟨c', hc'⟩
      rw [h.load_eq hc', bind_eq_ok_iff] at hload
      rcases hload with ⟨_, -, hsame⟩
      injection hsame with hsame
      exact ⟨hsame ▸ hc', hcheck⟩
    · rw [h.load_eq_error (not_exists.mp hany)] at hload
      injection hload
  · rintro ⟨hc, hcheck⟩
    rw [h.load_eq hc, hcheck]
    rfl

theorem Reads.load_eq_error_iff (h : Reads text es) {f : Fault} :
    load text = .error f ↔
      (f = .badYaml ∧ ∀ c, ¬ Says c es) ∨ ∃ c, Says c es ∧ c.check = .error f := by
  constructor
  · intro hload
    by_cases hany : ∃ c, Says c es
    · rcases hany with ⟨c, hc⟩
      rw [h.load_eq hc, bind_eq_error_iff] at hload
      rcases hload with hcheck | ⟨_, -, hload⟩
      · exact Or.inr ⟨c, hc, hcheck⟩
      · injection hload
    · rw [h.load_eq_error (not_exists.mp hany)] at hload
      injection hload with hload
      exact Or.inl ⟨hload.symm, not_exists.mp hany⟩
  · rintro (⟨rfl, hnone⟩ | ⟨c, hc, hcheck⟩)
    · exact h.load_eq_error hnone
    · rw [h.load_eq hc, hcheck]
      rfl

/-- Documents that say the same are read alike. -/
theorem Reads.load_congr {text' : String} (h : Reads text es) (h' : Reads text' es')
    (hsame : ∀ c, Says c es ↔ Says c es') : load text = load text' := by
  by_cases hany : ∃ c, Says c es
  · rcases hany with ⟨c, hc⟩
    rw [h.load_eq hc, h'.load_eq ((hsame c).mp hc)]
  · have hnone := not_exists.mp hany
    rw [h.load_eq_error hnone, h'.load_eq_error fun c hc => hnone c ((hsame c).mpr hc)]

/-- What reading a configuration is. What is loaded is what the document says for
    each field, with its numbers as they are written, and it has been checked; what
    is refused says nothing or does not pass the check. Documents that are alike
    are read alike. A flawed document cannot be read, whatever its values are, and
    is refused as a configuration. -/
theorem documents_read :
    (∀ text es, Reads text es →
      (∀ c, load text = .ok c ↔ Says c es ∧ c.check = .ok ()) ∧
      (∀ f, load text = .error f ↔
        (f = .badYaml ∧ ∀ c, ¬ Says c es) ∨ ∃ c, Says c es ∧ c.check = .error f) ∧
      (Flawed es → load text = .error .badYaml ∧ Fault.badYaml.code = .invalidConfig)) ∧
    ∀ text es text' es', Reads text es → Reads text' es' → Alike es es' →
      load text = load text' := by
  constructor
  · intro text es h
    exact ⟨fun c => h.load_eq_ok_iff, fun f => h.load_eq_error_iff,
      fun hflawed => ⟨h.load_eq_error hflawed.unreadable, rfl⟩⟩
  · intro text es text' es' h h' halike
    exact h.load_congr h' fun c => halike.iff_of_alike

/-- A text without what is usual, the same in another order with some of it, in
    another notation, and one with a version too wide for its field and a blank
    name of the chain besides. -/
theorem documents_read_reordered :
    let address := "0xABABABABABABABABABABABABABABABABABABABAB"
    let c : Config :=
      ⟨1, ⟨"here", ChainSection.usualRpcAddr, ChainSection.usualGrpcAddr⟩, ⟨address⟩, .usual⟩
    let short := "version: 1\nchain:\n  chain_id: here\naccount:\n  address: '" ++ address ++ "'\n"
    let long := "permission:\n  max_statements: 0x10\naccount:\n  address: '" ++ address ++
      "'\nversion: 1\nchain:\n  chain_id: here\n"
    let wide := "version: 4294967297\nchain:\n  chain_id: ' '\naccount:\n  address: x\n"
    (∃ es es', Reads short es ∧ Reads long es' ∧ Alike es es') ∧
      load short = .ok c ∧ load long = .ok c ∧
      (∃ es, Reads wide es ∧ Flawed es) ∧ load wide = .error .badYaml := by
  intro address c short long wide
  rcases documents_read with ⟨hread, halike⟩
  let plain : String → Node := fun s => .scalar s .plain none
  let version : Node × Node := (plain "version", plain "1")
  let chain : Node × Node := (plain "chain", .mapping [(plain "chain_id", plain "here")])
  let account : Node × Node :=
    (plain "account", .mapping [(plain "address", .scalar address .singleQuoted none)])
  let limit : Node × Node := (plain "max_statements", plain "0x10")
  have hshort : Document.ofText? short =
      some ⟨.mapping [version, chain, account], []⟩ := by decide +kernel
  have hlong : Document.ofText? long =
      some ⟨.mapping [(plain "permission", .mapping [limit]), account, version, chain], []⟩ := by
    decide +kernel
  have hwide : Document.ofText? wide =
      some ⟨.mapping [(plain "version", plain "4294967297"),
        (plain "chain", .mapping [(plain "chain_id", .scalar " " .singleQuoted none)]),
        (plain "account", .mapping [(plain "address", plain "x")])], []⟩ := by decide +kernel
  -- From here on only the trees matter, and the texts are not to be read again.
  clear_value short long wide
  have hrshort : Reads short [version, chain, account] := ⟨_, hshort, rfl, by
    simp [version, chain, account, plain, Node.aliasFree_mapping_iff, Node.AliasFree.scalar]⟩
  have hrlong : Reads long _ := ⟨_, hlong, rfl, by
    simp [version, chain, account, limit, plain, Node.aliasFree_mapping_iff,
      Node.AliasFree.scalar]⟩
  have hrwide : Reads wide _ := ⟨_, hwide, rfl, by
    simp [plain, Node.aliasFree_mapping_iff, Node.AliasFree.scalar]⟩
  have hmeant : Says c [version, chain, account] := by
    rw [← hrshort.read_eq_some_iff, hshort]
    decide +kernel
  have hload := ((hread short _ hrshort).1 c).mpr ⟨hmeant, by decide +kernel⟩
  -- The account moves to the front, an empty section comes before it, and the limit
  -- goes into that.
  have horder : ([version, chain] ++ [account]).Perm ([account] ++ [version, chain]) :=
    List.perm_append_comm
  have habsent : ∀ v, ¬ Written [account, version, chain] "permission" v := by
    simp [account, version, chain, plain, written_cons_iff, not_written_nil, isText_scalar_iff]
  have hempty : Variation [account, version, chain]
      [(plain "permission", plain ""), account, version, chain] :=
    .permission .intro .nothing habsent
  have hlimit : SectionVariation .permission [] [limit] :=
    .usual (by decide) .intro (.limit (.intro (Or.inl rfl)
      (plainNumber?_eq_some_iff.mp (by decide)))) fun _ => not_written_nil
  have hsection : ("permission", Shape.permission) ∈ sections := by decide
  have hsame : Alike [version, chain, account]
      [(plain "permission", .mapping [limit]), account, version, chain] :=
    .trans _ _ _ (.rel _ _ (.order horder)) (.trans _ _ _ (.rel _ _ hempty)
      (.rel _ _ (.inside hsection .intro .nothing .mapping hlimit)))
  have hcounted : Counted 4294967297 "4294967297".toList :=
    plainNumber?_eq_some_iff.mp (by decide)
  have hflawed : Flawed [(plain "version", plain "4294967297"),
      (plain "chain", .mapping [(plain "chain_id", .scalar " " .singleQuoted none)]),
      (plain "account", .mapping [(plain "address", plain "x")])] :=
    .version ⟨plain "version", List.mem_cons_self, .intro⟩
      (.intro (Or.inl rfl) (.counted hcounted)) (by decide)
  exact ⟨⟨_, _, hrshort, hrlong, hsame⟩, hload,
    (halike short _ long _ hrshort hrlong hsame).symm.trans hload, ⟨_, hrwide, hflawed⟩,
    ((hread wide _ hrwide).2.2 hflawed).1⟩

end Config

end StoragePolicy
