import StoragePolicy.Message
import StoragePolicy.Proofs.Policy.Words

/-!
# The Coding of a Policy

What a policy comes to when a message is made of it. The coding itself cannot
fail: every effect has a code and so has every registered action, and a tag
outside the registry is passed over. What can fail is the way there, and for two
reasons only, a tag outside the registry or an action that the resource does not
permit. The first reason is looked for in the whole policy before the second, so
that a tag at its end outweighs an action at its beginning.

Statements are coded one by one and checked one by one, and yet the fault is
that of the first word in the whole document. The two agree because looking
through the words of one statement after another is looking through all words.

## Main definitions

* `Statement.known`, `Policy.known`: The registered actions behind the tags.
* `Statement.coded`, `Policy.coded`: The codes.
* `Policy.tagFault`, `Policy.scopeFault`: What can stand in the way.

## Theorems

* `Policy.check_eq`: What validation comes to.
* `Policy.mapM_ofStatement_eq`: What coding a checked policy comes to.
* `Message.ofPolicy_eq`: What making a message comes to.
-/

namespace StoragePolicy

namespace Statement

/-- The registered actions behind the tags, in their order. -/
def known (s : Statement) : List Action := s.tags.filterMap Action.ofTag?

/-- The codes of the effect and of the registered actions. -/
def coded (s : Statement) : CodedStatement where
  effect := s.effect.code
  actions := s.known.map Action.code

/-- The fault of the first action that a resource does not permit. -/
def scopeFault (s : Statement) (r : Resource) : Option Fault :=
  (r.refused? s.known).map fun a => .inapplicableAction a.tag r.text

theorem mem_known {s : Statement} {a : Action} : a ∈ s.known ↔ a.tag ∈ s.tags := by
  rw [known, List.mem_filterMap]
  constructor
  · rintro ⟨tag, htag, ha⟩
    rw [Action.tag_of_ofTag? ha]
    exact htag
  · intro htag
    exact ⟨a.tag, htag, Action.ofTag?_tag a⟩

/-- Behind registered tags there is an action each. The look-up that may fail and
    the one that passes over what it does not find come to the same here. -/
theorem actions_of_registered {s : Statement} (h : s.Registered) : s.actions = .ok s.known := by
  rcases s with ⟨effect, tags⟩
  rw [actions, mapM_eq_ok_iff, known]
  -- Tag by tag: none of them is passed over.
  induction tags with
  | nil => exact List.Forall₂.nil
  | cons tag tags ih =>
      rcases List.forall_mem_cons.mp h with ⟨⟨a, rfl⟩, hrest⟩
      rw [List.filterMap_cons, Action.ofTag?_tag]
      refine List.Forall₂.cons ?_ (ih hrest)
      rw [Action.resolve, Action.ofTag?_tag]

/-- With all its tags registered, a statement can be refused for its actions only. -/
theorem ofStatement_of_registered {s : Statement} (h : s.Registered) (r : Resource) :
    CodedStatement.ofStatement s r = granting [s.scopeFault r] s.coded := by
  simp only [CodedStatement.ofStatement, actions_of_registered h, scopeFault, bind, Except.bind]
  cases r.refused? s.known with
  | none => rfl
  | some a => rfl

end Statement

namespace Policy

/-- All tags of the policy, in document order. -/
def tags (p : Policy) : List String := p.statements.flatMap Statement.tags

/-- The registered actions behind them, in the same order. -/
def known (p : Policy) : List Action := p.statements.flatMap Statement.known

/-- The codes of all statements. -/
def coded (p : Policy) : List CodedStatement := p.statements.map Statement.coded

/-- The fault of the first tag outside the registry. -/
def tagFault (p : Policy) : Option Fault :=
  (p.tags.find? fun tag => !Action.isRegistered tag).map Fault.unknownAction

/-- The fault of the first action that a resource does not permit. -/
def scopeFault (p : Policy) (r : Resource) : Option Fault :=
  (r.refused? p.known).map fun a => .inapplicableAction a.tag r.text

/-- What validation comes to: the first tag outside the registry, over all statements
    in the order of the document, is the one that is reported. -/
theorem check_eq (p : Policy) : p.check = granting [p.tagFault] () := by
  refine eq_granting_of_faultOf? ?_
  have hone : ∀ s : Statement, faultOf? s.check =
      (s.tags.find? fun tag => !Action.isRegistered tag).map Fault.unknownAction := by
    intro s
    rw [Statement.check, faultOf?_forM, RawStatement.findSome?_check]
  -- The first fault of the statements is the first of all tags laid end to end.
  rw [check, faultOf?_forM, tagFault, tags, List.find?_flatMap, List.map_findSome?]
  exact congrArg (p.statements.findSome? ·) (funext hone)

/-- A policy without such a fault has registered tags only. -/
theorem registered_iff {p : Policy} : p.Registered ↔ p.tagFault = none := by
  rw [← check_eq_ok_iff, check_eq, granting_eq_ok_iff, firstFault_eq_none_iff]
  simp only [List.mem_singleton, forall_eq, and_true]

/-- A resource refuses nothing of a policy exactly if it permits every action that
    is named in one of its statements. -/
theorem scopeFault_eq_none_iff {p : Policy} {r : Resource} :
    p.scopeFault r = none ↔
      ∀ s ∈ p.statements, ∀ a : Action, a.tag ∈ s.tags → r.permits a = true := by
  simp only [scopeFault, Resource.refused?, Option.map_eq_none_iff, List.find?_eq_none, known,
    List.mem_flatMap, Statement.mem_known, forall_exists_index, and_imp, Bool.not_eq_true',
    Bool.not_eq_false]
  exact ⟨fun h s hs a ha => h a s hs ha, fun h a s hs ha => h s hs a ha⟩

/-- What coding a checked policy comes to. It is coded statement by statement, and
    refused for the first action of the document that is not permitted. -/
theorem mapM_ofStatement_eq {p : Policy} (h : p.Registered) (r : Resource) :
    (p.statements.mapM fun s => CodedStatement.ofStatement s r) =
      granting [p.scopeFault r] p.coded := by
  have hall : (p.statements.mapM fun s => CodedStatement.ofStatement s r) =
      p.statements.mapM fun s => granting [s.scopeFault r] s.coded :=
    mapM_congr fun s hs => Statement.ofStatement_of_registered (h s hs) r
  -- As with tags, looking through each statement is looking through the policy.
  rw [hall, mapM_granting, scopeFault, Resource.refused?, known, List.find?_flatMap,
    List.map_findSome?]
  rfl

end Policy

/-- What making a message of a policy comes to: every tag is looked at before any
    action is held against the resource, and nothing else can go wrong. Everything
    that is proved of messages starts from this equation. -/
theorem Message.ofPolicy_eq (operator : Address) (r : Resource) (q : Principal) (p : Policy)
    (expiration : Option UInt64) :
    Message.ofPolicy operator r q p expiration = granting [p.tagFault, p.scopeFault r]
      (.put (.ofRequest operator r q) p.coded expiration) := by
  rw [ofPolicy, Policy.check_eq]
  refine granting_bind [p.tagFault] [p.scopeFault r] _ _ _ fun hnone => ?_
  -- Coding is only reached by a policy that was checked, which makes it predictable.
  have hregistered : p.Registered :=
    Policy.registered_iff.mpr (firstFault_eq_none_iff.mp hnone _ List.mem_cons_self)
  rw [Policy.mapM_ofStatement_eq hregistered]
  exact granting_bind _ [] _ _ _ fun _ => rfl

end StoragePolicy
