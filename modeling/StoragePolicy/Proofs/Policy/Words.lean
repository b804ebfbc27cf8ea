import StoragePolicy.Policy.Document
import StoragePolicy.Policy.Draft
import StoragePolicy.Proofs.FirstFault

/-!
# The Words of a Policy

A policy is checked word by word, and it does not matter on which way the words
came in. This module says what the check comes to without mentioning its code:
which words pass, what they become, and which fault stands for those that do
not. The reading of documents and the building of drafts then meet here.

`RawStatement.refusal?` is the whole order of the check in one place. The
effect is looked at before the tags, the tags in their order, and, over several
statements, the first statement that is refused decides.

## Main definitions

* `Action.Registered`, `Statement.Registered`, `Policy.Registered`: No tag
  lies outside the registry.
* `Statement.raw`, `Policy.raw`: The words of a value.
* `RawStatement.refusal?`: Why words are refused, if they are.
* `Policy.ofWords`: What the words of several statements come to.
* `Judged`: The whole verdict on words.
* `RawStatement.draft`, `PolicyDraft.ofWords`: Words handed to a draft.

## Theorems

* `Statement.check_eq_ok_iff`, `Policy.check_eq_ok_iff`: What validation asks.
* `RawStatement.parse_eq_ok_iff`, `RawStatement.faultOf?_parse`: What becomes of
  the words of one statement.
* `Policy.judged_ofWords`: And of several.
* `PolicyDraft.build_ofWords`: A draft is checked like words.
-/

namespace StoragePolicy

/-! ## Tags -/

namespace Action

/-- Some action goes by the tag. -/
def Registered (tag : String) : Prop := ∃ a : Action, a.tag = tag

theorem ofTag?_eq_none_iff {tag : String} : ofTag? tag = none ↔ ¬ Registered tag := by
  constructor
  · rintro hnone ⟨a, rfl⟩
    rw [ofTag?_tag] at hnone
    injection hnone
  · intro h
    cases ha : ofTag? tag with
    | none => rfl
    | some a => exact absurd ⟨a, tag_of_ofTag? ha⟩ h

/-- Looking a tag up decides whether it is registered. -/
theorem isRegistered_iff {tag : String} : isRegistered tag = true ↔ Registered tag := by
  rw [isRegistered, Option.isSome_iff_ne_none, ne_eq, ofTag?_eq_none_iff, not_not]

theorem check_eq_ok_iff {tag : String} : check tag = .ok () ↔ Registered tag := by
  rw [← isRegistered_iff]
  unfold check isRegistered
  cases ofTag? tag with
  | none =>
      constructor <;>
      · intro h
        injection h
  | some a => exact ⟨fun _ => rfl, fun _ => rfl⟩

theorem faultOf?_check (tag : String) :
    faultOf? (check tag) = if isRegistered tag then none else some (.unknownAction tag) := by
  unfold check isRegistered
  cases ofTag? tag with
  | none => rfl
  | some a => rfl

end Action

namespace Effect

/-- The two words that are effects. -/
theorem exists_text_iff {word : String} :
    (∃ e : Effect, word = e.text) ↔ word = "Allow" ∨ word = "Deny" := by
  constructor
  · rintro ⟨e, rfl⟩
    cases e with
    | allow => exact Or.inl rfl
    | deny => exact Or.inr rfl
  · rintro (h | h)
    · exact ⟨.allow, h⟩
    · exact ⟨.deny, h⟩

/-- A word that is no effect is refused as an unknown one. -/
theorem parse_eq_error_iff {word : String} {f : Fault} :
    parse word = .error f ↔ (∀ e : Effect, word ≠ e.text) ∧ f = .unknownEffect word := by
  have hother (hword : ∀ e : Effect, word ≠ e.text) :
      parse word = .error (.unknownEffect word) := by
    have hallow : word ≠ "Allow" := hword .allow
    have hdeny : word ≠ "Deny" := hword .deny
    rw [parse, if_neg hallow, if_neg hdeny]
  -- Since the parse is a function, what is accepted cannot be refused.
  constructor
  · intro h
    have hword : ∀ e : Effect, word ≠ e.text := by
      intro e he
      rw [parse_eq_ok_iff.mpr he] at h
      injection h
    rw [hother hword] at h
    injection h with h
    exact ⟨hword, h.symm⟩
  · rintro ⟨hword, rfl⟩
    exact hother hword

end Effect

/-! ## Values -/

/-- All tags of the statement are registered. -/
def Statement.Registered (s : Statement) : Prop := ∀ tag ∈ s.tags, Action.Registered tag

/-- All tags of the policy's statements are registered. -/
def Policy.Registered (p : Policy) : Prop := ∀ s ∈ p.statements, s.Registered

/-- The words of a statement. -/
def Statement.raw (s : Statement) : RawStatement := ⟨s.effect.text, s.tags⟩

/-- The words of a policy. -/
def Policy.raw (p : Policy) : List RawStatement := p.statements.map Statement.raw

/-- A statement passes the check if its tags are registered; an effect that it has
    is one. -/
theorem Statement.check_eq_ok_iff {s : Statement} : s.check = .ok () ↔ s.Registered := by
  rw [Statement.check, forM_eq_ok_iff]
  exact forall₂_congr fun _ _ => Action.check_eq_ok_iff

theorem Policy.check_eq_ok_iff {p : Policy} : p.check = .ok () ↔ p.Registered := by
  rw [Policy.check, forM_eq_ok_iff]
  exact forall₂_congr fun _ _ => Statement.check_eq_ok_iff

/-! ## Words -/

namespace RawStatement

/-- Why the words of a statement are refused, if they are: its effect, or else
    its first tag outside the registry. -/
def refusal? (raw : RawStatement) : Option Fault :=
  if raw.effect = "Allow" ∨ raw.effect = "Deny" then
    (raw.tags.find? fun tag => !Action.isRegistered tag).map Fault.unknownAction
  else some (.unknownEffect raw.effect)

/-- Words become the statement that has them, if the check of its tags lets them
    pass. No other statement has the same words. -/
theorem parse_eq_ok_iff {raw : RawStatement} {s : Statement} :
    raw.parse = .ok s ↔ s.raw = raw ∧ s.Registered := by
  rcases raw with ⟨word, tags⟩
  rw [parse, Statement.parse, bind_eq_ok_iff]
  constructor
  · rintro ⟨effect, heffect, h⟩
    rcases bind_eq_ok_iff.mp h with ⟨_, hcheck, h⟩
    injection h with h
    subst h
    exact ⟨by rw [Statement.raw, ← Effect.parse_eq_ok_iff.mp heffect],
      Statement.check_eq_ok_iff.mp hcheck⟩
  · rintro ⟨hraw, hregistered⟩
    injection hraw with heffect htags
    subst heffect htags
    exact ⟨s.effect, Effect.parse_text s.effect,
      bind_eq_ok_iff.mpr ⟨(), Statement.check_eq_ok_iff.mpr hregistered, rfl⟩⟩

/-- The first tag that the check stops at. -/
theorem findSome?_check (tags : List String) :
    tags.findSome? (fun tag => faultOf? (Action.check tag)) =
      (tags.find? fun tag => !Action.isRegistered tag).map Fault.unknownAction := by
  rw [← findSome?_unless]
  exact congrArg (tags.findSome? ·) (funext Action.faultOf?_check)

/-- The check refuses what there is a reason to refuse, for that reason. An effect
    that is none comes before any tag. -/
theorem faultOf?_parse (raw : RawStatement) : faultOf? raw.parse = raw.refusal? := by
  rcases raw with ⟨word, tags⟩
  cases heffect : Effect.parse word with
  | error f =>
      rcases Effect.parse_eq_error_iff.mp heffect with ⟨hword, rfl⟩
      have hneither : ¬ (word = "Allow" ∨ word = "Deny") := by
        rw [← Effect.exists_text_iff, not_exists]
        exact hword
      rw [refusal?, if_neg hneither, parse, Statement.parse, heffect]
      rfl
  | ok effect =>
      have heither : word = "Allow" ∨ word = "Deny" :=
        Effect.exists_text_iff.mp ⟨effect, Effect.parse_eq_ok_iff.mp heffect⟩
      -- Behind a known effect, only the check of the tags is left.
      have hparse : parse ⟨word, tags⟩ =
          (tags.forM Action.check >>= fun _ => .ok ⟨effect, tags⟩) := by
        rw [parse, Statement.parse, heffect]
        rfl
      rw [refusal?, if_pos heither, ← findSome?_check, ← faultOf?_forM, hparse]
      cases tags.forM Action.check with
      | ok _ => rfl
      | error f => rfl

/-- The words of a statement handed to a draft. -/
def draft (raw : RawStatement) : StatementDraft :=
  (StatementDraft.empty.withEffect raw.effect).withActions raw.tags

theorem build_draft (raw : RawStatement) : raw.draft.build = raw.parse := rfl

end RawStatement

/-- The words of several statements become the policy that has them. -/
theorem mapM_parse_eq_ok_iff {W : List RawStatement} {p : Policy} :
    W.mapM RawStatement.parse = .ok p.statements ↔ p.raw = W ∧ p.Registered := by
  rw [mapM_eq_ok_iff]
  rcases p with ⟨ss⟩
  -- On the words, since the loop goes over them.
  induction W generalizing ss with
  | nil =>
      rw [List.forall₂_nil_left_iff]
      constructor
      · rintro rfl
        exact ⟨rfl, fun s hs => absurd hs List.not_mem_nil⟩
      · rintro ⟨hraw, -⟩
        exact List.map_eq_nil_iff.mp hraw
  | cons raw W ih =>
      rw [List.forall₂_cons_left_iff]
      constructor
      · rintro ⟨s, ss, hs, hss, rfl⟩
        rcases RawStatement.parse_eq_ok_iff.mp hs with ⟨rfl, hregistered⟩
        rcases (ih ss).mp hss with ⟨rfl, hrest⟩
        exact ⟨rfl, List.forall_mem_cons.mpr ⟨hregistered, hrest⟩⟩
      -- Words that a policy has begin with the words of its first statement.
      · rintro ⟨hraw, hregistered⟩
        rcases List.map_eq_cons_iff.mp hraw with ⟨s, ss, rfl, hs, hss⟩
        rcases List.forall_mem_cons.mp hregistered with ⟨hone, hrest⟩
        exact ⟨s, ss, RawStatement.parse_eq_ok_iff.mpr ⟨hs, hone⟩, (ih ss).mpr ⟨hss, hrest⟩, rfl⟩

theorem mapM_parse_eq_error_iff {W : List RawStatement} {f : Fault} :
    W.mapM RawStatement.parse = .error f ↔ W.findSome? RawStatement.refusal? = some f := by
  rw [← faultOf?_eq_some_iff, faultOf?_mapM, funext RawStatement.faultOf?_parse]

/-- The policy that the words of its statements come to. It is the second pass of a
    reader, and the whole work of a draft. -/
def Policy.ofWords (W : List RawStatement) : Except Fault Policy :=
  W.mapM RawStatement.parse >>= fun ss => .ok ⟨ss⟩

/-- A result is what words come to: the value that has them, if all of its
    tags are registered, or else the fault of the first word refused. -/
structure Judged {α β : Type} (raw : α → β) (registered : α → Prop) (words : β)
    (refusal : Option Fault) (result : Except Fault α) : Prop where
  /-- Only the value with these words is accepted. -/
  accepted : ∀ a, result = .ok a ↔ raw a = words ∧ registered a
  /-- Only the first reason for a refusal is given. -/
  refused : ∀ f, result = .error f ↔ refusal = some f

/-- The whole verdict on the words of one statement. -/
theorem RawStatement.judged_parse (raw : RawStatement) :
    Judged Statement.raw Statement.Registered raw raw.refusal? raw.parse where
  accepted _ := RawStatement.parse_eq_ok_iff
  refused f := by rw [← RawStatement.faultOf?_parse, faultOf?_eq_some_iff]

/-- The whole verdict on the words of several statements: they are accepted together
    or refused for the first reason among them. -/
theorem Policy.judged_ofWords (W : List RawStatement) :
    Judged Policy.raw Policy.Registered W (W.findSome? RawStatement.refusal?)
      (Policy.ofWords W) where
  accepted p := by
    rw [Policy.ofWords, bind_eq_ok_iff, ← mapM_parse_eq_ok_iff]
    constructor
    · rintro ⟨ss, hss, hp⟩
      injection hp with hp
      rw [← hp]
      exact hss
    · intro h
      exact ⟨p.statements, h, rfl⟩
  refused f := by
    rw [Policy.ofWords, bind_eq_error_iff, ← mapM_parse_eq_error_iff]
    constructor
    · rintro (h | ⟨ss, -, h⟩)
      · exact h
      · injection h
    · exact Or.inl

/-- Words are refused for what they say, never for how they are written. -/
theorem RawStatement.code_of_refusal? {raw : RawStatement} {f : Fault}
    (h : raw.refusal? = some f) : f.code = .invalidEffect ∨ f.code = .invalidAction := by
  by_cases heffect : raw.effect = "Allow" ∨ raw.effect = "Deny"
  · rw [refusal?, if_pos heffect] at h
    rcases Option.map_eq_some_iff.mp h with ⟨tag, -, rfl⟩
    exact Or.inr rfl
  · rw [refusal?, if_neg heffect] at h
    injection h with h
    rw [← h]
    exact Or.inl rfl

/-- The words of several statements pushed into a draft, in their order. -/
def PolicyDraft.ofWords (W : List RawStatement) : PolicyDraft :=
  (W.map RawStatement.draft).foldl PolicyDraft.push PolicyDraft.empty

theorem PolicyDraft.statements_foldl_push (p : PolicyDraft) (ds : List StatementDraft) :
    (ds.foldl PolicyDraft.push p).statements = p.statements ++ ds := by
  induction ds generalizing p with
  | nil => rw [List.foldl_nil, List.append_nil]
  | cons d ds ih => rw [List.foldl_cons, ih, PolicyDraft.push, List.append_assoc]; rfl

/-- A draft is checked like the words that it was given. Reading a document and
    building a draft meet in this. -/
theorem PolicyDraft.build_ofWords (W : List RawStatement) :
    (PolicyDraft.ofWords W).build = Policy.ofWords W := by
  rw [PolicyDraft.build, PolicyDraft.ofWords, PolicyDraft.statements_foldl_push,
    show PolicyDraft.empty.statements = [] from rfl, List.nil_append, List.mapM_map]
  rfl

end StoragePolicy
