import StoragePolicy.Policy.Effect
import StoragePolicy.Policy.Action

/-!
# Statements and Policies

A statement applies one effect to a list of actions, and a policy is a list of
statements. Both keep what was written: tags stay in their order, repeats
included, so that a document that was read can be written again as it was. A
policy without statements grants nothing and is as valid as any.

A value of these types may hold any tags at all. It is checked where it enters
or leaves the library, always with the first tag outside the registry as the
one that is reported.

## Main definitions

* `Statement`, `Policy`: The values.
* `Statement.check`, `Policy.check`: Whether all tags are registered.
* `Statement.actions`: The registered actions behind the tags.
* `Statement.parse`: A statement from written parts, the effect checked first.
-/

namespace StoragePolicy

/-- One effect on an ordered list of actions, each named by its tag. -/
structure Statement where
  effect : Effect
  tags : List String
  deriving DecidableEq

/-- An ordered list of statements. -/
structure Policy where
  statements : List Statement
  deriving DecidableEq

namespace Statement

/-- Refuses the first tag outside the registry. -/
def check (s : Statement) : Except Fault Unit := s.tags.forM Action.check

/-- The actions behind the tags, in the same order. -/
def actions (s : Statement) : Except Fault (List Action) := s.tags.mapM Action.resolve

/-- A statement from written parts: the effect is checked before the tags. -/
def parse (effect : String) (tags : List String) : Except Fault Statement := do
  let s : Statement := { effect := ← Effect.parse effect, tags }
  s.check
  return s

end Statement

namespace Policy

/-- Whether the policy grants and refuses nothing. -/
def isEmpty (p : Policy) : Bool := p.statements.isEmpty

/-- Refuses the first tag outside the registry, in document order. -/
def check (p : Policy) : Except Fault Unit := p.statements.forM Statement.check

end Policy

end StoragePolicy
