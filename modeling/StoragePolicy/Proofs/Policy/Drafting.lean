import Mathlib.Data.List.Induction
import StoragePolicy.Proofs.Itemwise
import StoragePolicy.Proofs.Policy.Words

/-!
# How Drafts Come About

A draft is the trace of the calls that were made on it, and forgets most of
them. Of the effects only the last one is left, whichever of the three calls
gave it, and of the tags nothing but their order; calls about the one do not
disturb the other. What a draft comes to can therefore be said of its calls,
without looking at the draft at any moment in between.

A policy draft remembers one such history for each position: pushing a draft
adds its history at the end, and replacing one forgets the history that stood
there. The histories are kept beside the draft in `Reached`, since no request
ever asks for them.

## Main definitions

* `StatementDraft.Call`, `StatementDraft.made`: Calls, and the draft they make.
* `lastEffect?`, `added`: What is left of calls.
* `Sound`: Calls of which a statement can be built.
* `PolicyDraft.Reached`: Policy drafts with the histories of their statements.

## Theorems

* `StatementDraft.made_eq`: A draft is what is left of its calls.
* `StatementDraft.judged_made`: It is judged by the words that are left.
* `StatementDraft.exists_build_made_iff`: It is built exactly if its calls are
  sound.
* `PolicyDraft.Reached.statements_eq`: A policy draft holds what the histories
  of its positions made.
-/

namespace StoragePolicy

namespace StatementDraft

/-- What can be asked of the draft of a statement. -/
inductive Call where
  | effect (word : String)
  | allow
  | deny
  | action (tag : String)
  | actions (tags : List String)
  deriving DecidableEq

/-- The draft after a call. -/
def call (d : StatementDraft) : Call → StatementDraft
  | .effect word => d.withEffect word
  | .allow => d.allow
  | .deny => d.deny
  | .action tag => d.withAction tag
  | .actions tags => d.withActions tags

/-- The draft that calls make, one after another. -/
def made (calls : List Call) : StatementDraft := calls.foldl call empty

/-- The effect that a call gives, if it gives one. -/
def Call.effect? : Call → Option String
  | .effect word => some word
  | .allow => some "Allow"
  | .deny => some "Deny"
  | .action _ | .actions _ => none

/-- The tags that a call adds. -/
def Call.tags : Call → List String
  | .effect _ | .allow | .deny => []
  | .action tag => [tag]
  | .actions tags => tags

/-- The effect that was given last, if any was. -/
def lastEffect? (calls : List Call) : Option String := (calls.filterMap Call.effect?).getLast?

/-- The tags that were added, in their order. -/
def added (calls : List Call) : List String := calls.flatMap Call.tags

/-- The words that are left of calls. An effect that was never given counts as
    the empty word. -/
def words (calls : List Call) : RawStatement := ⟨(lastEffect? calls).getD "", added calls⟩

/-- Calls of which a statement can be built: the last effect is known, and all
    of the tags are registered. -/
structure Sound (calls : List Call) : Prop where
  /-- The effect that was given last is one of the two. -/
  effect : lastEffect? calls = some "Allow" ∨ lastEffect? calls = some "Deny"
  /-- No tag that was added lies outside the registry. -/
  tags : ∀ tag ∈ added calls, Action.Registered tag

/-- A call gives the effect that it has, keeps the one before if it has none, and
    adds its tags behind the others. -/
theorem call_eq (d : StatementDraft) (c : Call) :
    d.call c = ⟨c.effect?.or d.effect, d.tags ++ c.tags⟩ := by
  cases c with
  | effect _ | allow | deny =>
      -- An effect adds no tag.
      exact congrArg (StatementDraft.mk _) (List.append_nil d.tags).symm
  | action _ | actions _ => rfl

theorem lastEffect?_concat (calls : List Call) (c : Call) :
    lastEffect? (calls ++ [c]) = c.effect?.or (lastEffect? calls) := by
  unfold lastEffect?
  rw [List.filterMap_append, List.getLast?_append]
  cases h : c.effect? with
  | none => simp only [List.filterMap_cons, h, List.filterMap_nil, List.getLast?_nil]
  | some word => simp only [List.filterMap_cons, h, List.filterMap_nil, List.getLast?_singleton]

theorem added_concat (calls : List Call) (c : Call) :
    added (calls ++ [c]) = added calls ++ c.tags := by
  rw [added, List.flatMap_append, List.flatMap_singleton]
  rfl

/-- A draft is what is left of its calls: the last effect, and all tags in the order
    of the calls. -/
theorem made_eq (calls : List Call) : made calls = ⟨lastEffect? calls, added calls⟩ := by
  -- The last call first, since it is the last one that decides on the effect.
  induction calls using List.reverseRecOn with
  | nil => rfl
  | append_singleton calls c ih =>
      have hstep : made (calls ++ [c]) = (made calls).call c := by
        unfold made
        rw [List.foldl_concat]
      rw [hstep, ih, call_eq, lastEffect?_concat, added_concat]

theorem build_made (calls : List Call) : (made calls).build = (words calls).parse := by
  rw [made_eq]
  rfl

/-- A draft is judged by the words that are left of its calls, and by nothing else of
    its history. -/
theorem judged_made (calls : List Call) :
    Judged Statement.raw Statement.Registered (words calls) (words calls).refusal?
      (made calls).build := by
  rw [build_made]
  exact (words calls).judged_parse

/-- A statement can be built exactly of sound calls. An effect that was unknown does
    no harm if another was given later. -/
theorem exists_build_made_iff {calls : List Call} :
    (∃ s, (made calls).build = .ok s) ↔ Sound calls := by
  constructor
  · rintro ⟨s, hs⟩
    rcases ((judged_made calls).accepted s).mp hs with ⟨hraw, hregistered⟩
    injection hraw with heffect htags
    refine ⟨?_, fun tag htag => hregistered tag (htags ▸ htag)⟩
    have heither := Effect.exists_text_iff.mp ⟨s.effect, heffect.symm⟩
    cases hlast : lastEffect? calls with
    | none =>
        -- The effect was given, because the empty word is none.
        rw [hlast] at heither
        exact absurd heither (by decide)
    | some word =>
        rw [hlast, Option.getD_some] at heither
        exact heither.imp (congrArg some) (congrArg some)
  · rintro ⟨heffect, htags⟩
    have hgiven : ∃ e : Effect, lastEffect? calls = some e.text := by
      rcases heffect with h | h
      · exact ⟨.allow, h⟩
      · exact ⟨.deny, h⟩
    rcases hgiven with ⟨e, he⟩
    refine ⟨⟨e, added calls⟩, ((judged_made calls).accepted _).mpr ⟨?_, htags⟩⟩
    rw [words, he]
    rfl

end StatementDraft

namespace PolicyDraft

/-- A policy draft can be reached, and these are the calls that made the draft
    at each of its positions. -/
inductive Reached : List (List StatementDraft.Call) → PolicyDraft → Prop where
  | empty : Reached [] PolicyDraft.empty
  | push {histories : List (List StatementDraft.Call)} {p : PolicyDraft}
      (calls : List StatementDraft.Call) (h : Reached histories p) :
      Reached (histories ++ [calls]) (p.push (.made calls))
  | replace {histories : List (List StatementDraft.Call)} {p q : PolicyDraft} {i : Nat}
      (calls : List StatementDraft.Call) (h : Reached histories p)
      (hq : p.replace i (.made calls) = .ok q) : Reached (histories.set i calls) q

/-- Replacing needs a position that exists and nothing else. -/
theorem replace_eq_ok_iff {p q : PolicyDraft} {i : Nat} {d : StatementDraft} :
    p.replace i d = .ok q ↔ i < p.size ∧ q = ⟨p.statements.set i d⟩ := by
  unfold replace size
  -- The size is the only thing that is checked.
  by_cases hi : i < p.statements.length
  · rw [if_pos hi]
    simp only [Except.ok.injEq, hi, true_and, eq_comm (b := q)]
  · rw [if_neg hi]
    simp only [reduceCtorEq, hi, false_and]

theorem replace_ok {p : PolicyDraft} {i : Nat} (hi : i < p.size) (d : StatementDraft) :
    p.replace i d = .ok ⟨p.statements.set i d⟩ := replace_eq_ok_iff.mpr ⟨hi, rfl⟩

/-- A policy draft holds what the histories of its positions made, each as if it were
    the only one. -/
theorem Reached.statements_eq {histories : List (List StatementDraft.Call)} {p : PolicyDraft}
    (h : Reached histories p) : p.statements = histories.map StatementDraft.made := by
  induction h with
  | empty => rfl
  | push calls _ ih => rw [PolicyDraft.push, ih, List.map_append, List.map_singleton]
  | replace calls _ hq ih =>
      -- A history is forgotten together with the draft that it made.
      rcases replace_eq_ok_iff.mp hq with ⟨-, rfl⟩
      rw [ih, List.map_set]

/-- A policy draft is built statement by statement. -/
theorem itemwise_build (p : PolicyDraft) :
    Itemwise StatementDraft.build Policy.mk p.statements p.build :=
  itemwise_mapM StatementDraft.build Policy.mk p.statements

end PolicyDraft

end StoragePolicy
