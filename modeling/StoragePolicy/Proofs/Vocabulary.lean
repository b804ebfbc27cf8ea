import StoragePolicy.Proofs.Coding

/-!
# One Vocabulary

Tags are looked at in seven places. A statement or a policy can be checked, it
can be written, the actions behind a statement's tags can be asked for, a
statement can be coded for a resource, and a policy can be made into a message.
Each place walks its tags in its own way, and two of them have more to object to
than unknown tags, so nothing in their definitions makes them agree.

They do agree, on what passes and on the tag that is named otherwise: the first
one outside the registry, in the order of the document. What differs is the kind
of fault, which is that of validation wherever a whole policy is at stake, and
that of a failed look-up where a single statement is on its way to the chain.

A message needs care, because a resource may refuse an action that stands before
the unknown tag, and because its statements are coded by the very function that
fails with the other kind. Neither shows: every tag of the policy is checked
before the first statement is coded.

## Main definitions

* `FirstUnknown`: The first tag outside the registry.
* `Gate`: What passes a check of tags, and which tag stops it.

## Theorems

* `gate_of_faultOf?`: Looking for the first unknown tag makes a gate.
* `Statement.gate_actions`: Asking for the actions is a gate.
* `Message.stops_ofPolicy`: So is making a message, as far as tags go.
* `vocabulary_gates`: All gates stop at the same tag.
-/

namespace StoragePolicy

variable {α : Type}

/-- The first tag of a list that lies outside the registry. Every gate of the
    vocabulary stops there, and it is the tag that is reported. -/
def FirstUnknown (tags : List String) (tag : String) : Prop :=
  ∃ before, FirstWith (fun tag => ¬ Action.Registered tag) tags before tag

/-- A gate is passed exactly by registered tags, and its only fault names the
    first tag that is not registered. -/
structure Gate (fault : String → Fault) (tags : List String) (result : Except Fault α) :
    Prop where
  /-- Nothing but an unknown tag stands in the way. -/
  opens : (∃ a, result = .ok a) ↔ ∀ tag ∈ tags, Action.Registered tag
  /-- What is refused is refused for the first unknown tag. -/
  stops : ∀ f, result = .error f ↔ ∃ tag, FirstUnknown tags tag ∧ f = fault tag

theorem find?_eq_some_iff_firstUnknown {tags : List String} {tag : String} :
    (tags.find? fun tag => !Action.isRegistered tag) = some tag ↔ FirstUnknown tags tag := by
  refine find?_eq_some_iff_firstWith fun tag => ?_
  -- The search is for what is not registered, so the test is turned round.
  rw [← Action.isRegistered_iff, Bool.not_eq_true', Bool.not_eq_true]

theorem find?_eq_none_iff_registered {tags : List String} :
    (tags.find? fun tag => !Action.isRegistered tag) = none ↔
      ∀ tag ∈ tags, Action.Registered tag := by
  simp only [List.find?_eq_none, Bool.not_eq_true', Bool.not_eq_false, Action.isRegistered_iff]

/-- Whatever fails with the first unknown tag, and with nothing else, is a gate.
    All gates below are shown to be one in this way, so that each of them is left
    with one equation about its own walk through the tags. -/
theorem gate_of_faultOf? {fault : String → Fault} {tags : List String}
    {result : Except Fault α}
    (h : faultOf? result = (tags.find? fun tag => !Action.isRegistered tag).map fault) :
    Gate fault tags result where
  opens := by
    rw [← faultOf?_eq_none_iff, h, Option.map_eq_none_iff, find?_eq_none_iff_registered]
  stops f := by
    rw [← faultOf?_eq_some_iff, h, Option.map_eq_some_iff]
    -- The fault is on the other side of its equation in the two statements.
    simp only [find?_eq_some_iff_firstUnknown, eq_comm (b := f)]

/-- Writing fails as the check in front of it does. What is written cannot matter
    here, which is why one lemma does for policies and for statements. -/
theorem Gate.then_ok {β : Type} {fault : String → Fault} {tags : List String}
    {result : Except Fault α} (h : Gate fault tags result) (f : α → β) :
    Gate fault tags (result >>= fun a => .ok (f a)) where
  opens := by
    rw [← h.opens, ← faultOf?_eq_none_iff, ← faultOf?_eq_none_iff, faultOf?_bind_ok]
  stops e := by
    rw [← h.stops, ← faultOf?_eq_some_iff, ← faultOf?_eq_some_iff, faultOf?_bind_ok]

/-! ## Statements -/

theorem Action.faultOf?_resolve (tag : String) :
    faultOf? (resolve tag) =
      if isRegistered tag then none else some (.unregisteredAction tag) := by
  unfold resolve isRegistered
  cases ofTag? tag with
  | none => rfl
  | some a => rfl

namespace Statement

theorem gate_check (s : Statement) : Gate .unknownAction s.tags s.check := by
  refine gate_of_faultOf? ?_
  -- The check goes tag by tag and stops at the first refusal.
  rw [check, faultOf?_forM, RawStatement.findSome?_check]

/-- The actions behind a statement's tags are found unless a tag is unknown,
    which is another kind of fault here. -/
theorem gate_actions (s : Statement) : Gate .unregisteredAction s.tags s.actions := by
  refine gate_of_faultOf? ?_
  -- So does the look-up, although it collects what it finds.
  rw [actions, faultOf?_mapM, ← findSome?_unless]
  exact congrArg (s.tags.findSome? ·) (funext Action.faultOf?_resolve)

/-- No resource keeps the coding of a statement from stopping at its first
    unknown tag, since all its tags are looked up before any action is held
    against the resource. -/
theorem ofStatement_of_unknown {s : Statement} {tag : String} (h : FirstUnknown s.tags tag)
    (r : Resource) : CodedStatement.ofStatement s r = .error (.unregisteredAction tag) := by
  have hactions : s.actions = .error (.unregisteredAction tag) :=
    (s.gate_actions.stops _).mpr ⟨tag, h, rfl⟩
  -- Nothing behind the look-up is reached.
  exact bind_eq_error_iff.mpr (Or.inl hactions)

end Statement

/-! ## Policies -/

theorem Policy.gate_check (p : Policy) : Gate .unknownAction p.tags p.check := by
  refine gate_of_faultOf? ?_
  rw [check_eq, faultOf?_granting, firstFault_singleton, tagFault]

theorem Policy.tagFault_of_unknown {p : Policy} {tag : String} (h : FirstUnknown p.tags tag) :
    p.tagFault = some (.unknownAction tag) := by
  rw [tagFault, find?_eq_some_iff_firstUnknown.mpr h]
  rfl

namespace Message

/-- A policy with an unknown tag makes no message, whatever the resource would
    have refused. Tags are checked for the whole policy before the first of them
    is looked at with the resource. -/
theorem stops_ofPolicy {p : Policy} {tag : String} (h : FirstUnknown p.tags tag)
    (operator : Address) (r : Resource) (q : Principal) (expiration : Option UInt64) :
    ofPolicy operator r q p expiration = .error (.unknownAction tag) := by
  rw [ofPolicy_eq, Policy.tagFault_of_unknown h, granting_some]

/-- What keeps a policy from becoming a message is an invalid action, never one
    that the chain failed to find. -/
theorem code_of_ofPolicy {p : Policy} {operator : Address} {r : Resource} {q : Principal}
    {expiration : Option UInt64} {f : Fault}
    (h : ofPolicy operator r q p expiration = .error f) : f.code = .invalidAction := by
  rw [ofPolicy_eq, granting_eq_error_iff] at h
  have hmem := mem_of_firstFault h
  simp only [List.mem_cons, List.not_mem_nil, or_false] at hmem
  -- Of the two faults of a message, either has the code of validation.
  rcases hmem with htag | hscope
  · rcases Option.map_eq_some_iff.mp htag.symm with ⟨tag, -, rfl⟩
    rfl
  · rcases Option.map_eq_some_iff.mp hscope.symm with ⟨a, -, rfl⟩
    rfl

end Message

/-- All gates stop at the same tag, the first one outside the registry, and let
    through what has none. A policy meets the same kind of fault wherever it is
    checked, while a statement on its way to the chain meets another. -/
theorem vocabulary_gates :
    (∀ p : Policy,
      Gate .unknownAction p.tags p.check ∧
      Gate .unknownAction p.tags (encodePolicy p) ∧
      ((∀ tag ∈ p.tags, Action.Registered tag) →
        ∀ s ∈ p.statements, ∃ actions, s.actions = .ok actions) ∧
      ∀ (operator : Address) (r : Resource) (q : Principal) (expiration : Option UInt64),
        (∀ tag, FirstUnknown p.tags tag →
          Message.ofPolicy operator r q p expiration = .error (.unknownAction tag)) ∧
        ∀ f, Message.ofPolicy operator r q p expiration = .error f →
          f.code ≠ .unregisteredAction) ∧
    ∀ s : Statement,
      Gate .unknownAction s.tags s.check ∧
      Gate .unknownAction s.tags (encodeStatement s) ∧
      Gate .unregisteredAction s.tags s.actions ∧
      ∀ (tag : String) (r : Resource), FirstUnknown s.tags tag →
        CodedStatement.ofStatement s r = .error (.unregisteredAction tag) := by
  constructor
  · intro p
    refine ⟨p.gate_check, p.gate_check.then_ok fun _ => writePolicy p, fun hall s hs => ?_,
      fun operator r q expiration => ⟨fun tag h => ?_, fun f h => ?_⟩⟩
    -- A statement of the policy has no tags but the policy's.
    · exact s.gate_actions.opens.mpr fun tag htag =>
        hall tag (List.mem_flatMap.mpr ⟨s, hs, htag⟩)
    · exact Message.stops_ofPolicy h operator r q expiration
    · rw [Message.code_of_ofPolicy h]
      exact FaultCode.noConfusion
  · intro s
    exact ⟨s.gate_check, s.gate_check.then_ok fun _ => writeStatement s, s.gate_actions,
      fun tag r h => Statement.ofStatement_of_unknown h r⟩

/-- An action that a bucket does not permit stands before two unknown tags, and
    the unknown tag that comes first is named all the same. Without that
    statement and the next, nothing stands in the way. -/
theorem vocabulary_gates_hidden :
    let known : Statement := ⟨.deny, ["get-object"]⟩
    let mixed : Statement := ⟨.allow, ["delete-group", "fly", "swim"]⟩
    let p : Policy := ⟨[known, mixed, ⟨.allow, ["dig"]⟩]⟩
    let o : Address := ⟨List.replicate 20 0xAB, rfl⟩
    (∃ actions, known.actions = .ok actions) ∧
      FirstUnknown p.tags "fly" ∧
      p.check = .error (.unknownAction "fly") ∧
      encodePolicy p = .error (.unknownAction "fly") ∧
      Message.ofPolicy o (.bucket "photos") (.group 7) p none = .error (.unknownAction "fly") ∧
      FirstUnknown mixed.tags "fly" ∧
      mixed.check = .error (.unknownAction "fly") ∧
      CodedStatement.ofStatement mixed (.bucket "photos") =
        .error (.unregisteredAction "fly") := by
  intro known mixed p o
  have hknown : ∀ tag ∈ (⟨[known]⟩ : Policy).tags, Action.Registered tag :=
    find?_eq_none_iff_registered.mp (by decide +kernel)
  have hp : FirstUnknown p.tags "fly" := find?_eq_some_iff_firstUnknown.mp (by decide +kernel)
  have hmixed : FirstUnknown mixed.tags "fly" :=
    find?_eq_some_iff_firstUnknown.mp (by decide +kernel)
  -- The statements are taken for three policies, since the parts of one exclude each other.
  rcases vocabulary_gates.1 ⟨[known]⟩ with ⟨-, -, hactions, -⟩
  rcases vocabulary_gates.1 p with ⟨hcheck, hencode, -, hmessage⟩
  rcases vocabulary_gates.2 mixed with ⟨hone, -, -, hcoded⟩
  exact ⟨hactions hknown known List.mem_cons_self, hp,
    (hcheck.stops _).mpr ⟨"fly", hp, rfl⟩, (hencode.stops _).mpr ⟨"fly", hp, rfl⟩,
    (hmessage o (.bucket "photos") (.group 7) none).1 "fly" hp, hmixed,
    (hone.stops _).mpr ⟨"fly", hmixed, rfl⟩, hcoded "fly" (.bucket "photos") hmixed⟩

end StoragePolicy
