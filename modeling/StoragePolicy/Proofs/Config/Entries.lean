import Mathlib.Data.List.Forall2
import StoragePolicy.Proofs.Config.Numbers

/-!
# Entries of a Section

A section is read in three steps: its keys become names, the names are held
against the fields, and each field is looked up. The steps have a meaning that
mentions neither names as data nor a search. A field is written if some entry's
key is its name, and `Proper` says that every key is a field's name and that no
two keys are the same one. Where that holds, a field that is written has one
value, so "some value that is written" and "the value that is looked up" are the
same, and the order of the entries no longer matters.

Keys are compared as text. How a key is quoted or tagged does not make it another
key, so a field can be repeated in two ways of writing.

Everything here is about trees without aliases, where each node stands for
itself.

## Main definitions

* `Yaml.Node.AliasFree`: No alias in a tree.
* `Config.IsText`, `Config.Counts`, `Config.Denotes`: What a scalar is.
* `Config.Takes`: A reader and what it reads.
* `Config.Opens`: The entries of a section.
* `Config.Written`, `Config.Gives`, `Config.MayGive`: What is written for a field.
* `Config.Proper`: The keys are fields, each at most once.

## Theorems

* `Config.Counts.eq_of_denotes`: A number that is read is the integer that is
  written.
* `Config.takes_text`, `Config.takes_number`: What values are read.
* `Config.entries?_eq_some_iff`: What is read as the entries of a section.
* `Config.Listed.required?_eq_some_iff`, `Config.Listed.optional?_eq_some_iff`: What
  is read for a field.
* `Config.takes_section`: A section is read by reading its fields.
* `Config.Proper.of_perm`, `Config.Gives.of_perm`: The order of entries.
-/

namespace StoragePolicy

open Yaml

namespace Yaml

/-- No alias occurs in the tree. -/
inductive Node.AliasFree : Node → Prop where
  | scalar {value : String} {style : Style} {tag : Option String} :
    AliasFree (.scalar value style tag)
  | sequence {items : List Node} (h : ∀ n ∈ items, AliasFree n) : AliasFree (.sequence items)
  | mapping {entries : List (Node × Node)} (hkeys : ∀ e ∈ entries, AliasFree e.1)
    (hvalues : ∀ e ∈ entries, AliasFree e.2) : AliasFree (.mapping entries)

theorem Node.aliasFree_mapping_iff {entries : List (Node × Node)} :
    (Node.mapping entries).AliasFree ↔
      (∀ e ∈ entries, e.1.AliasFree) ∧ ∀ e ∈ entries, e.2.AliasFree := by
  constructor
  · intro h
    cases h with
    | mapping hkeys hvalues => exact ⟨hkeys, hvalues⟩
  · rintro ⟨hkeys, hvalues⟩
    exact .mapping hkeys hvalues

theorem Document.follow_of_aliasFree {d : Document} {n : Node} (h : n.AliasFree) :
    d.follow n = some n := by
  cases h with
  | scalar => rfl
  | sequence _ => rfl
  | mapping _ _ => rfl

end Yaml

namespace Config

/-! ## Values -/

/-- The node is the text, in any style and with any tag. -/
inductive IsText (text : String) : Node → Prop where
  | intro {style : Style} {tag : Option String} : IsText text (.scalar text style tag)

/-- A scalar that can be a number: without quotes, or literal and tagged so. -/
def Numeric (style : Style) (tag : Option String) : Prop :=
  style = .plain ∨ style = .literal ∧ tag = some integerTag

/-- The node is the number, written with a plus sign at most. -/
inductive Counts (n : Nat) : Node → Prop where
  | intro {value : String} {style : Style} {tag : Option String} (hnumeric : Numeric style tag)
    (h : Counted n value.toList) : Counts n (.scalar value style tag)

/-- The node is the integer, written in any way. -/
inductive Denotes (z : Int) : Node → Prop where
  | intro {value : String} {style : Style} {tag : Option String} (hnumeric : Numeric style tag)
    (h : Integer z value.toList) : Denotes z (.scalar value style tag)

theorem isText_scalar_iff {s t : String} {style : Style} {tag : Option String} :
    IsText t (.scalar s style tag) ↔ t = s := by
  constructor
  · intro h
    cases h
    rfl
  · rintro rfl
    exact .intro

theorem IsText.unique {s t : String} {n : Node} (hs : IsText s n) (ht : IsText t n) : s = t := by
  cases hs
  cases ht
  rfl

theorem IsText.not_of_ne {s t : String} {n : Node} (hs : IsText s n) (hne : s ≠ t) :
    ¬ IsText t n := fun ht => hne (hs.unique ht)

/-- A number that is read is the integer that is written. Nothing is cut to size on
    the way, however wide the integer is. -/
theorem Counts.eq_of_denotes {n : Nat} {z : Int} {v : Node} (hn : Counts n v)
    (hz : Denotes z v) : z = n := by
  cases hn with
  | intro _ hn =>
      cases hz with
      | intro _ hz => exact hn.eq_of_integer hz

theorem Counts.denotes {n : Nat} {v : Node} (h : Counts n v) : Denotes n v := by
  cases h with
  | intro hnumeric h => exact .intro hnumeric (.counted h)

theorem Counts.unique {m n : Nat} {v : Node} (hm : Counts m v) (hn : Counts n v) : m = n :=
  Int.ofNat.inj (hn.eq_of_denotes hm.denotes)

/-- A reader of nodes takes exactly what a node is. Both directions are needed: that
    nothing else is taken, and that nothing of the kind is refused. -/
def Takes {α : Type} (value? : Node → Option α) (P : α → Node → Prop) : Prop :=
  ∀ n : Node, n.AliasFree → ∀ a, value? n = some a ↔ P a n

theorem takes_text (d : Document) : Takes (text? d) IsText := by
  intro n hfree s
  rw [text?, Document.follow_of_aliasFree hfree]
  constructor
  · intro h
    rcases n with ⟨value, style, tag⟩ | items | entries | anchor
    · injection h with h
      subst h
      exact .intro
    · injection h
    · injection h
    · injection h
  · intro h
    cases h with
    | intro => rfl

/-- What is read into a field of some width: a value that counts as a number and
    is below the limit of the width. -/
theorem takes_number (d : Document) (limit : Nat) :
    Takes (number? d limit) fun n v => Counts n v ∧ n < limit := by
  intro v hfree n
  rw [number?, Document.follow_of_aliasFree hfree]
  constructor
  · intro h
    rcases v with ⟨value, style, tag⟩ | items | entries | anchor
    · rcases Option.ite_none_right_eq_some.mp h with ⟨hnumeric, h⟩
      rw [Option.filter_eq_some_iff, plainNumber?_eq_some_iff, decide_eq_true_eq] at h
      exact ⟨.intro hnumeric h.1, h.2⟩
    · injection h
    · injection h
    · injection h
  · rintro ⟨hcounts, hlt⟩
    cases hcounts with
    | intro hnumeric h =>
        dsimp only
        rw [if_pos (show _ ∨ _ from hnumeric), Option.filter_eq_some_iff,
          plainNumber?_eq_some_iff, decide_eq_true_eq]
        exact ⟨h, hlt⟩

/-! ## Keys -/

/-- The entries of a section as they are written. -/
abbrev Entries := List (Node × Node)

/-- The value is written for the field. -/
def Written (es : Entries) (name : String) (v : Node) : Prop := ∃ k, (k, v) ∈ es ∧ IsText name k

/-- The keys are fields, and no two of them are the same. Two keys are the same if
    they are one text, in whatever way each is written. -/
structure Proper (fields : List String) (es : Entries) : Prop where
  known : ∀ e ∈ es, ∃ name ∈ fields, IsText name e.1
  once : es.Pairwise fun e e' => ∀ name, IsText name e.1 → ¬ IsText name e'.1

theorem not_written_nil {name : String} {v : Node} : ¬ Written [] name v := by
  rintro ⟨k, hmem, -⟩
  exact List.not_mem_nil hmem

theorem written_cons_iff {k u v : Node} {es : Entries} {name : String} :
    Written ((k, u) :: es) name v ↔ IsText name k ∧ v = u ∨ Written es name v := by
  constructor
  · rintro ⟨k', hmem, hname⟩
    rcases List.mem_cons.mp hmem with hhead | hmem
    · injection hhead with hkey hvalue
      exact Or.inl ⟨hkey ▸ hname, hvalue⟩
    · exact Or.inr ⟨k', hmem, hname⟩
  · rintro (⟨hname, rfl⟩ | ⟨k', hmem, hname⟩)
    · exact ⟨k, List.mem_cons_self, hname⟩
    · exact ⟨k', List.mem_cons_of_mem _ hmem, hname⟩

theorem proper_nil (fields : List String) : Proper fields [] :=
  ⟨List.forall_mem_nil _, .nil⟩

/-- One more entry needs a key that is a field and not written yet. -/
theorem proper_cons_iff {fields : List String} {k v : Node} {es : Entries} :
    Proper fields ((k, v) :: es) ↔
      (∃ name ∈ fields, IsText name k ∧ ∀ u, ¬ Written es name u) ∧ Proper fields es := by
  constructor
  · rintro ⟨hknown, honce⟩
    rcases List.pairwise_cons.mp honce with ⟨hnew, honce⟩
    rcases hknown (k, v) List.mem_cons_self with ⟨name, hfield, hname⟩
    refine ⟨⟨name, hfield, hname, ?_⟩, fun e he => hknown e (List.mem_cons_of_mem _ he), honce⟩
    rintro u ⟨k', hmem, hname'⟩
    exact hnew (k', u) hmem name hname hname'
  · rintro ⟨⟨name, hfield, hname, habsent⟩, hknown, honce⟩
    refine ⟨List.forall_mem_cons.mpr ⟨⟨name, hfield, hname⟩, hknown⟩,
      List.pairwise_cons.mpr ⟨?_, honce⟩⟩
    intro e he name' hk he'
    exact habsent e.2 ⟨e.1, he, hk.unique hname ▸ he'⟩

/-- The entries with their keys as text, in the order in which they are written. -/
def Named (es : Entries) (named : List (String × Node)) : Prop :=
  List.Forall₂ (fun e p => IsText p.1 e.1 ∧ p.2 = e.2) es named

theorem named?_eq_some_iff {d : Document} {es : Entries} {named : List (String × Node)}
    (hfree : ∀ e ∈ es, e.1.AliasFree) : named? d es = some named ↔ Named es named := by
  induction es generalizing named with
  | nil =>
      rw [named?, Named, List.forall₂_nil_left_iff, Option.some.injEq, eq_comm]
  -- On the entries, since they are read one after the other.
  | cons e es ih =>
      rcases e with ⟨k, v⟩
      have hk := hfree (k, v) List.mem_cons_self
      have hrest := fun e he => hfree e (List.mem_cons_of_mem _ he)
      simp only [named?, Option.bind_eq_bind, Option.bind_eq_some_iff, takes_text d k hk,
        ih hrest, Named, List.forall₂_cons_left_iff]
      constructor
      · rintro ⟨name, hname, others, hothers, h⟩
        injection h with h
        exact ⟨_, _, ⟨hname, rfl⟩, hothers, h.symm⟩
      · rintro ⟨⟨name, v'⟩, others, ⟨hname, rfl⟩, hothers, rfl⟩
        exact ⟨name, hname, others, hothers, rfl⟩

theorem Named.mem_iff {es : Entries} {named : List (String × Node)} (h : Named es named)
    {name : String} {v : Node} : (name, v) ∈ named ↔ Written es name v := by
  induction h with
  | nil => exact iff_of_false List.not_mem_nil not_written_nil
  | @cons e p es named hhead _ ih =>
      rcases e with ⟨k, u⟩
      rcases p with ⟨name', u'⟩
      rcases hhead with ⟨hk, rfl⟩
      rw [List.mem_cons, written_cons_iff, ih, Prod.mk.injEq]
      have hsame : name = name' ↔ IsText name k := ⟨fun h => h ▸ hk, fun h => h.unique hk⟩
      rw [hsame]

/-- Where every key is a field, the entries have names. -/
theorem Proper.named {fields : List String} {es : Entries} (h : Proper fields es) :
    ∃ named, Named es named := by
  induction es with
  | nil => exact ⟨[], .nil⟩
  | cons e es ih =>
      rcases proper_cons_iff.mp h with ⟨⟨name, -, hname, -⟩, hrest⟩
      rcases ih hrest with ⟨named, hnamed⟩
      exact ⟨(name, e.2) :: named, .cons ⟨hname, rfl⟩ hnamed⟩

/-- Names are held against the fields as the keys are. -/
theorem Named.areFields_iff {fields : List String} {es : Entries} {named : List (String × Node)}
    (h : Named es named) : areFields fields (named.map (·.1)) = true ↔ Proper fields es := by
  induction h with
  | nil => exact iff_of_true rfl (proper_nil fields)
  | @cons e p es named hhead hrest ih =>
      rcases e with ⟨k, u⟩
      rcases p with ⟨name, u'⟩
      rcases hhead with ⟨hk, rfl⟩
      have hfields : areFields fields (name :: named.map (·.1)) = true ↔
          (name ∈ fields ∧ name ∉ named.map (·.1)) ∧ areFields fields (named.map (·.1)) = true := by
        simp only [areFields, List.all_cons, Bool.and_eq_true, decide_eq_true_eq,
          List.nodup_cons, List.contains_iff_mem]
        exact and_and_and_comm
      -- The rest of the names has this one exactly if it is written in the rest.
      have hnew : name ∉ named.map (·.1) ↔ ∀ v, ¬ Written es name v := by
        simp only [List.mem_map, Prod.exists, exists_and_right, exists_eq_right, not_exists,
          Named.mem_iff hrest]
      rw [List.map_cons, hfields, proper_cons_iff, ih, hnew]
      refine and_congr_left fun _ => ⟨fun h => ⟨name, h.1, hk, h.2⟩, ?_⟩
      rintro ⟨name', hfield, hname', habsent⟩
      have hsame : name = name' := hk.unique hname'
      exact ⟨hsame ▸ hfield, hsame ▸ habsent⟩

/-- A field is looked up as it is written. -/
theorem Named.lookup_eq_some_iff {fields : List String} {es : Entries}
    {named : List (String × Node)} (h : Named es named) (hproper : Proper fields es)
    {name : String} {v : Node} : named.lookup name = some v ↔ Written es name v := by
  induction h with
  | nil => exact iff_of_false (fun h => nomatch h) not_written_nil
  | @cons e p es named hhead _ ih =>
      rcases e with ⟨k, u⟩
      rcases p with ⟨name', u'⟩
      rcases hhead with ⟨hk, rfl⟩
      rcases proper_cons_iff.mp hproper with ⟨⟨field, -, hfield, habsent⟩, hrest⟩
      rw [List.lookup_cons, written_cons_iff]
      -- The search stops at the first entry of the name, and there is no other.
      by_cases hname : name = name'
      · subst hname
        have hother := habsent v
        rw [hfield.unique hk] at hother
        simp only [BEq.rfl, Option.some.injEq, hk, true_and, hother, or_false, eq_comm]
      · have hother : ¬ IsText name k := fun h => hname (h.unique hk)
        rw [beq_eq_false_iff_ne.mpr hname]
        simp only [hother, false_and, false_or, ih hrest]

/-! ## Fields -/

/-- What is written for the field is as required. In proper entries there is only one
    value that it could be. -/
def Gives (es : Entries) (name : String) (P : Node → Prop) : Prop := ∃ v, Written es name v ∧ P v

/-- What is written for the field is as required, or nothing is written and the
    usual value is meant. -/
def MayGive (es : Entries) (name : String) (P : Node → Prop) (usual : Prop) : Prop :=
  Gives es name P ∨ (∀ v, ¬ Written es name v) ∧ usual

/-- A node with these entries is a section: a mapping, or nothing at all, which is a
    section without entries. -/
inductive Opens : Node → Entries → Prop where
  | mapping {es : Entries} : Opens (.mapping es) es
  | nothing {tag : Option String} : Opens (.scalar "" .plain tag) []

theorem Opens.unique {n : Node} {es es' : Entries} (h : Opens n es) (h' : Opens n es') :
    es = es' := by
  cases h with
  | mapping => cases h'; rfl
  | nothing => cases h'; rfl

theorem Opens.keys_aliasFree {n : Node} {es : Entries} (h : Opens n es) (hfree : n.AliasFree) :
    ∀ e ∈ es, e.1.AliasFree := by
  cases h with
  | mapping => exact (Node.aliasFree_mapping_iff.mp hfree).1
  | nothing => exact List.forall_mem_nil _

theorem Opens.values_aliasFree {n : Node} {es : Entries} (h : Opens n es) (hfree : n.AliasFree) :
    ∀ e ∈ es, e.2.AliasFree := by
  cases h with
  | mapping => exact (Node.aliasFree_mapping_iff.mp hfree).2
  | nothing => exact List.forall_mem_nil _

/-- The entries of a section as they are read: by name, with every name a field's
    and none twice. -/
structure Listed (fields : List String) (es : Entries) (named : List (String × Node)) :
    Prop where
  names : Named es named
  proper : Proper fields es
  values : ∀ e ∈ es, e.2.AliasFree

/-- What is read as the entries of a section: they open the node, their keys are
    fields and no key comes twice. -/
theorem entries?_eq_some_iff {d : Document} {fields : List String} {n : Node}
    {named : List (String × Node)} (hfree : n.AliasFree) :
    entries? d fields n = some named ↔ ∃ es, Opens n es ∧ Listed fields es named := by
  rw [entries?, Document.follow_of_aliasFree hfree]
  constructor
  · intro h
    split at h
    next es hmapping =>
      injection hmapping with hmapping
      subst hmapping
      have hopens : Opens (.mapping es) es := .mapping
      rw [Option.filter_eq_some_iff, named?_eq_some_iff (hopens.keys_aliasFree hfree)] at h
      exact ⟨es, hopens, h.1, h.1.areFields_iff.mp h.2, hopens.values_aliasFree hfree⟩
    next tag hscalar =>
      injection hscalar with hscalar
      injection h with h
      subst hscalar h
      exact ⟨[], .nothing, .nil, proper_nil fields, List.forall_mem_nil _⟩
    next => injection h
  · rintro ⟨es, hopens, hlisted⟩
    cases hopens with
    | mapping =>
        dsimp only
        rw [Option.filter_eq_some_iff, named?_eq_some_iff (Opens.mapping.keys_aliasFree hfree)]
        exact ⟨hlisted.names, hlisted.names.areFields_iff.mpr hlisted.proper⟩
    | nothing =>
        cases hlisted.names
        rfl

variable {fields : List String} {es : Entries} {named : List (String × Node)} {name : String}

/-- One value at most is written for a field. -/
theorem Proper.written_unique {u v : Node} (h : Proper fields es) (hu : Written es name u)
    (hv : Written es name v) : u = v := by
  rcases h.named with ⟨named, hnamed⟩
  rw [← hnamed.lookup_eq_some_iff h] at hu hv
  exact Option.some.inj (hu.symm.trans hv)

theorem Listed.lookup_eq_some_iff {v : Node} (h : Listed fields es named) :
    named.lookup name = some v ↔ Written es name v := h.names.lookup_eq_some_iff h.proper

theorem Listed.aliasFree {v : Node} (h : Listed fields es named) (hv : Written es name v) :
    v.AliasFree := by
  rcases hv with ⟨k, hmem, -⟩
  exact h.values (k, v) hmem

section Readers

variable {α : Type} {value? : Node → Option α} {P : α → Node → Prop} {usual a : α}

/-- What is read for a field that has to be written. It is found by a search, but
    what is found does not depend on where it stands. -/
theorem Listed.required?_eq_some_iff (h : Listed fields es named) (htakes : Takes value? P) :
    required? named name value? = some a ↔ Gives es name (P a) := by
  rw [required?, Option.bind_eq_some_iff]
  refine exists_congr fun v => ?_
  rw [h.lookup_eq_some_iff]
  exact and_congr_right fun hv => htakes v (h.aliasFree hv) a

/-- What is read for a field with a usual value. The usual value is meant only if
    nothing is written, so a value that cannot be read is not replaced by it. -/
theorem Listed.optional?_eq_some_iff (h : Listed fields es named) (htakes : Takes value? P) :
    optional? named name usual value? = some a ↔ MayGive es name (P a) (a = usual) := by
  unfold optional? MayGive Gives
  -- Either one value is written, which the search finds, or none is.
  cases hlookup : named.lookup name with
  | some v =>
      have hwritten : ∀ u, Written es name u ↔ v = u := by
        intro u
        rw [← h.lookup_eq_some_iff, hlookup, Option.some.injEq]
      simp only [hwritten, exists_eq_left', forall_eq', false_and, or_false]
      exact htakes v (h.aliasFree ((hwritten v).mpr rfl)) a
  | none =>
      have hwritten : ∀ u, ¬ Written es name u := by
        intro u
        rw [← h.lookup_eq_some_iff, hlookup]
        intro hfound
        injection hfound
      simp only [hwritten, false_and, exists_false, false_or, not_false_eq_true, implies_true,
        true_and, Option.some.injEq, eq_comm]

/-- The node is a section, and its entries are as described. -/
def InSection (P : Entries → Prop) (n : Node) : Prop := ∃ es, Opens n es ∧ P es

theorem Opens.inSection_iff {P : Entries → Prop} {n : Node} (h : Opens n es) :
    InSection P n ↔ P es := by
  constructor
  · rintro ⟨es', hopens, hP⟩
    rw [h.unique hopens]
    exact hP
  · intro hP
    exact ⟨es, h, hP⟩

/-- A section is read by reading its fields, for any section whose meaning is put
    together from those of its fields. -/
theorem takes_section {d : Document} {read? : List (String × Node) → Option α}
    {meant : α → Entries → Prop} (hproper : ∀ a es, meant a es → Proper fields es)
    (hfields : ∀ es named, Listed fields es named → ∀ a, read? named = some a ↔ meant a es) :
    Takes (fun n => entries? d fields n >>= read?) fun a => InSection (meant a) := by
  intro n hfree a
  simp only [Option.bind_eq_bind, Option.bind_eq_some_iff, entries?_eq_some_iff hfree]
  constructor
  · rintro ⟨named, ⟨es, hopens, hlisted⟩, hread⟩
    exact ⟨es, hopens, (hfields es named hlisted a).mp hread⟩
  · rintro ⟨es, hopens, hmeant⟩
    -- The keys of a section that means something are fields, so they have names.
    rcases (hproper a es hmeant).named with ⟨named, hnamed⟩
    have hlisted : Listed fields es named :=
      ⟨hnamed, hproper a es hmeant, hopens.values_aliasFree hfree⟩
    exact ⟨named, ⟨es, hopens, hlisted⟩, (hfields es named hlisted a).mpr hmeant⟩

end Readers

/-! ## Other ways to write the entries -/

variable {P : Node → Prop} {usual : Prop}

theorem Gives.written (h : Gives es name P) : ∃ v, Written es name v := by
  rcases h with ⟨v, hv, -⟩
  exact ⟨v, hv⟩

/-- In proper entries, what is required is required of whatever is written. -/
theorem Gives.of_written {v : Node} (h : Gives es name P) (hproper : Proper fields es)
    (hv : Written es name v) : P v := by
  rcases h with ⟨u, hu, hP⟩
  rw [hproper.written_unique hv hu]
  exact hP

theorem MayGive.of_written {v : Node} (h : MayGive es name P usual) (hproper : Proper fields es)
    (hv : Written es name v) : P v := by
  rcases h with h | ⟨habsent, -⟩
  · exact h.of_written hproper hv
  · exact absurd hv (habsent v)

theorem Written.of_perm {es' : Entries} {v : Node} (hperm : es.Perm es')
    (h : Written es name v) : Written es' name v := by
  rcases h with ⟨k, hmem, hname⟩
  exact ⟨k, hperm.mem_iff.mp hmem, hname⟩

theorem Proper.of_perm {es' : Entries} (hperm : es.Perm es') (h : Proper fields es) :
    Proper fields es' := by
  refine ⟨fun e he => h.known e (hperm.mem_iff.mpr he), ?_⟩
  -- That two keys differ does not depend on which of them comes first.
  refine (hperm.pairwise_iff ?_).mp h.once
  intro e e' hdistinct name he' he
  exact hdistinct name he he'

theorem Gives.of_perm {es' : Entries} (hperm : es.Perm es') (h : Gives es name P) :
    Gives es' name P := by
  rcases h with ⟨v, hv, hP⟩
  exact ⟨v, hv.of_perm hperm, hP⟩

theorem MayGive.of_perm {es' : Entries} (hperm : es.Perm es') (h : MayGive es name P usual) :
    MayGive es' name P usual := by
  rcases h with h | ⟨habsent, husual⟩
  · exact Or.inl (h.of_perm hperm)
  · exact Or.inr ⟨fun v hv => habsent v (hv.of_perm hperm.symm), husual⟩

/-- What the first entry gives. -/
theorem gives_cons_iff {k u : Node} :
    Gives ((k, u) :: es) name P ↔ IsText name k ∧ P u ∨ Gives es name P := by
  simp only [Gives, written_cons_iff, or_and_right, exists_or, and_assoc, exists_and_left,
    exists_eq_left]

/-- An entry under another name does not matter to the field. -/
theorem gives_cons_of_not {k u : Node} (hk : ¬ IsText name k) :
    Gives ((k, u) :: es) name P ↔ Gives es name P := by
  rw [gives_cons_iff, or_iff_right fun h => hk h.1]

theorem mayGive_cons_of_not {k u : Node} (hk : ¬ IsText name k) :
    MayGive ((k, u) :: es) name P usual ↔ MayGive es name P usual := by
  simp only [MayGive, gives_cons_of_not hk, written_cons_iff, hk, false_and, false_or]

/-- It is enough to know what the value in the entry means for its own field. -/
theorem gives_cons_congr {k u u' : Node} (h : IsText name k → (P u ↔ P u')) :
    Gives ((k, u) :: es) name P ↔ Gives ((k, u') :: es) name P := by
  rw [gives_cons_iff, gives_cons_iff, and_congr_right h]

/-- The same for a field with a usual value, which is not meant as long as
    something is written. -/
theorem mayGive_cons_congr {k u u' : Node} (h : IsText name k → (P u ↔ P u')) :
    MayGive ((k, u) :: es) name P usual ↔ MayGive ((k, u') :: es) name P usual := by
  by_cases hk : IsText name k
  · have hwritten : ∀ u, ¬ ∀ v, ¬ Written ((k, u) :: es) name v :=
      fun u habsent => habsent u (written_cons_iff.mpr (Or.inl ⟨hk, rfl⟩))
    rw [MayGive, MayGive, gives_cons_congr h, or_iff_left fun hu => hwritten u hu.1,
      or_iff_left fun hu => hwritten u' hu.1]
  · rw [mayGive_cons_of_not hk, mayGive_cons_of_not hk]

theorem not_gives_of_absent (habsent : ∀ v, ¬ Written es name v) : ¬ Gives es name P := by
  rintro ⟨v, hv, -⟩
  exact habsent v hv

theorem mayGive_of_absent (habsent : ∀ v, ¬ Written es name v) :
    MayGive es name P usual ↔ usual := by
  rw [MayGive, or_iff_right (not_gives_of_absent habsent), and_iff_right habsent]

/-- A usual value can be written or left out. -/
theorem mayGive_cons_of_absent {k u : Node} (hk : IsText name k)
    (habsent : ∀ v, ¬ Written es name v) (husual : P u ↔ usual) :
    MayGive ((k, u) :: es) name P usual ↔ MayGive es name P usual := by
  have hwritten : ¬ ∀ v, ¬ Written ((k, u) :: es) name v :=
    fun h => h u (written_cons_iff.mpr (Or.inl ⟨hk, rfl⟩))
  rw [mayGive_of_absent habsent, MayGive, gives_cons_iff, and_iff_right hk,
    or_iff_left (not_gives_of_absent habsent), or_iff_left fun h => hwritten h.1, husual]

/-- One more field that is not written yet keeps the entries proper. -/
theorem proper_cons_of_absent {k u : Node} (hname : name ∈ fields) (hk : IsText name k)
    (habsent : ∀ v, ¬ Written es name v) :
    Proper fields ((k, u) :: es) ↔ Proper fields es := by
  rw [proper_cons_iff, and_iff_right ⟨name, hname, hk, habsent⟩]

end Config

end StoragePolicy
