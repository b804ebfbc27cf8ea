import StoragePolicy.Policy.Basic

/-!
# Drafts

A draft collects the parts of a statement or a policy without looking at them.
It may be wrong for as long as it is being worked on; the one moment at which
it has to be right is when it is built. A statement whose effect was never
given is treated as if the empty word had been, which no effect is.

A policy draft keeps drafts rather than statements, so that a position that
turns out wrong can be replaced while the others stay.

## Main definitions

* `StatementDraft`, `PolicyDraft`: The drafts.
* `StatementDraft.build`, `PolicyDraft.build`: What they come to.
* `PolicyDraft.replace`: Another draft at a position that exists.
-/

namespace StoragePolicy

/-- The written parts of a statement, as far as they are known. -/
structure StatementDraft where
  effect : Option String := none
  tags : List String := []
  deriving DecidableEq

namespace StatementDraft

/-- Nothing written yet. -/
def empty : StatementDraft := {}

/-- Sets the effect, whatever it was before. -/
def withEffect (d : StatementDraft) (effect : String) : StatementDraft :=
  { d with effect := some effect }

/-- Sets the effect that grants. -/
def allow (d : StatementDraft) : StatementDraft := d.withEffect Effect.allow.text

/-- Sets the effect that refuses. -/
def deny (d : StatementDraft) : StatementDraft := d.withEffect Effect.deny.text

/-- Adds one tag at the end. -/
def withAction (d : StatementDraft) (tag : String) : StatementDraft :=
  { d with tags := d.tags ++ [tag] }

/-- Adds several tags at the end. -/
def withActions (d : StatementDraft) (tags : List String) : StatementDraft :=
  { d with tags := d.tags ++ tags }

/-- The statement that the draft comes to. -/
def build (d : StatementDraft) : Except Fault Statement :=
  Statement.parse (d.effect.getD "") d.tags

end StatementDraft

/-- The drafts of a policy's statements. -/
structure PolicyDraft where
  statements : List StatementDraft := []
  deriving DecidableEq

namespace PolicyDraft

/-- No statements yet. -/
def empty : PolicyDraft := {}

/-- Adds a statement at the end. -/
def push (p : PolicyDraft) (d : StatementDraft) : PolicyDraft :=
  { p with statements := p.statements ++ [d] }

/-- Puts another draft at a position that exists. -/
def replace (p : PolicyDraft) (index : Nat) (d : StatementDraft) : Except Fault PolicyDraft :=
  if index < p.statements.length then .ok { p with statements := p.statements.set index d }
  else .error (.noStatement index)

/-- How many statements have been collected. -/
def size (p : PolicyDraft) : Nat := p.statements.length

/-- Whether none has been collected. -/
def isEmpty (p : PolicyDraft) : Bool := p.statements.isEmpty

/-- The policy that the draft comes to, or the fault of the first statement
    that cannot be built. -/
def build (p : PolicyDraft) : Except Fault Policy := do
  return { statements := ← p.statements.mapM StatementDraft.build }

end PolicyDraft

end StoragePolicy
