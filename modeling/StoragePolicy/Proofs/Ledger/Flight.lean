import Mathlib.Logic.Function.Basic
import StoragePolicy.Proofs.Ledger.Submitting

/-!
# Calls in Flight

Clients that share a ledger do not wait for each other. Every call goes through
the steps of submitting in their order and each step happens at once, but between
two steps of one call any number of steps of other calls may happen.

A flight is the ledger together with how far each call has come. One step moves
one call, and a schedule says which call moves next. Every schedule is allowed:
a call may be left waiting for as long as one likes, and a call that has ended
does nothing when its turn comes.

Beside this, a flight keeps two lists that no step looks at. They say in which
order messages took effect and in which order numbers were drawn. When calls do
not overlap the two orders are the same, and all there is to say about calls that
do overlap is what follows when they are not.

## Main definitions

* `Progress`: How far a call has come.
* `Flight`, `Flight.start`: The ledger with the calls on it.
* `Flight.step`, `Flight.run`: One step, and a schedule of steps.
* `Flight.Moves`: The five things that a step can do.

## Theorems

* `Flight.moves_step`: A step does one of them.
* `Flight.run_alone`: The steps of one call in a row are a submission.
-/

namespace StoragePolicy

/-- How far a call has come. -/
inductive Progress where
  | waiting
  | checked
  | applied
  | drawn (number : UInt64)
  | accepted (number : UInt64)
  | refused (fault : Fault)
  deriving DecidableEq

namespace Progress

/-- There is nothing left to do. -/
def ended : Progress → Bool
  | .accepted _ | .refused _ => true
  | _ => false

/-- The message has been applied to the policies. -/
def tookEffect : Progress → Bool
  | .applied | .drawn _ | .accepted _ => true
  | _ => false

/-- The number that was drawn. -/
def number? : Progress → Option UInt64
  | .drawn number | .accepted number => some number
  | _ => none

theorem number?_of_not_tookEffect {p : Progress} (h : p.tookEffect = false) : p.number? = none := by
  cases p with
  | waiting | checked | refused => rfl
  | applied | drawn | accepted => injection h

/-- A call that drew a number and ended was accepted with it. -/
theorem eq_accepted_of_ended {p : Progress} {number : UInt64} (hended : p.ended = true)
    (hnumber : p.number? = some number) : p = .accepted number := by
  cases p with
  | waiting | checked | applied | drawn => injection hended
  | refused => injection hnumber
  | accepted number' => rw [Option.some.inj hnumber]

/-- A call that took effect and ended has drawn a number. -/
theorem tookEffect_iff_of_ended {p : Progress} (hended : p.ended = true) :
    p.tookEffect = true ↔ ∃ number, p.number? = some number := by
  cases p with
  | waiting | checked | applied | drawn => injection hended
  | refused => simp only [tookEffect, number?, Bool.false_eq_true, reduceCtorEq, exists_false]
  | accepted number => exact iff_of_true rfl ⟨number, rfl⟩

end Progress

/-- A ledger with calls on it, and the orders in which their messages took effect
    and their numbers were drawn. -/
structure Flight (n : Nat) where
  ledger : Ledger
  progress : Fin n → Progress
  applied : List (Fin n)
  drawn : List (Fin n)

namespace Flight

variable {n : Nat}

/-- A new ledger before the first step of any call. -/
def start (chainId : String) : Flight n where
  ledger := .new chainId
  progress _ := .waiting
  applied := []
  drawn := []

/-- One call has come further. -/
def moved (s : Flight n) (i : Fin n) (p : Progress) : Flight n :=
  { s with progress := Function.update s.progress i p }

theorem progress_moved (s : Flight n) (i j : Fin n) (p : Progress) :
    (s.moved i p).progress j = if j = i then p else s.progress j :=
  Function.update_apply s.progress i p j

/-- The next step of one call. A call that has ended has no step left, and a turn
    given to it changes nothing. -/
def step (calls : Fin n → Transaction) (s : Flight n) (i : Fin n) : Flight n :=
  match s.progress i with
  | .waiting =>
    match s.ledger.check (calls i) with
    | .error f => s.moved i (.refused f)
    | .ok () => s.moved i .checked
  | .checked =>
    match s.ledger.apply (calls i).message with
    | (.error f, ledger) => { s.moved i (.refused f) with ledger }
    | (.ok (), ledger) => { s.moved i .applied with ledger, applied := s.applied ++ [i] }
  | .applied =>
    let (number, ledger) := s.ledger.draw
    { s.moved i (.drawn number) with ledger, drawn := s.drawn ++ [i] }
  | .drawn number =>
    { s.moved i (.accepted number) with ledger := s.ledger.record number (calls i) }
  | .accepted _ | .refused _ => s

/-- The steps of a schedule. -/
def run (calls : Fin n → Transaction) (s : Flight n) (schedule : List (Fin n)) : Flight n :=
  schedule.foldl (step calls) s

/-- All calls have ended. -/
def Finished (s : Flight n) : Prop := ∀ i, (s.progress i).ended = true

instance (s : Flight n) : Decidable s.Finished :=
  Nat.decidableForallFin fun i => (s.progress i).ended = true

/-- What a step can do. -/
inductive Moves (calls : Fin n → Transaction) (i : Fin n) (s : Flight n) : Flight n → Prop where
  | rest (hended : (s.progress i).ended = true) : Moves calls i s s
  /-- A check passes, or the call is refused: the ledger does not notice. -/
  | quiet (p : Progress) (hbefore : (s.progress i).tookEffect = false)
      (hafter : p.tookEffect = false) : Moves calls i s (s.moved i p)
  | effect (hprogress : s.progress i = .checked)
      (hfound : s.ledger.policies.detachFault (calls i).message = none) :
      Moves calls i s
        { s.moved i .applied with
          ledger := { s.ledger with policies := s.ledger.policies.after (calls i).message }
          applied := s.applied ++ [i] }
  | draw (hprogress : s.progress i = .applied) :
      Moves calls i s
        { s.moved i (.drawn s.ledger.next) with
          ledger := { s.ledger with next := s.ledger.next + 1 }
          drawn := s.drawn ++ [i] }
  | record (number : UInt64) (hprogress : s.progress i = .drawn number) :
      Moves calls i s
        { s.moved i (.accepted number) with ledger := s.ledger.record number (calls i) }

/-- A step does one of these things. Everything that is proved of schedules goes
    through this case distinction and not through `step` itself. -/
theorem moves_step (calls : Fin n → Transaction) (s : Flight n) (i : Fin n) :
    Moves calls i s (step calls s i) := by
  cases h : s.progress i with
  | waiting =>
      have hbefore : (s.progress i).tookEffect = false := by rw [h]; rfl
      simp only [step, h]
      cases s.ledger.check (calls i) with
      | error f => exact .quiet _ hbefore rfl
      | ok _ => exact .quiet _ hbefore rfl
  | checked =>
      have hbefore : (s.progress i).tookEffect = false := by rw [h]; rfl
      simp only [step, h, Ledger.apply_eq]
      -- A message that does not find what it needs leaves the ledger as it was, so
      -- that a refusal in this step is as quiet as one in the first.
      cases hfault : s.ledger.policies.detachFault (calls i).message with
      | none => exact .effect h hfault
      | some f => exact .quiet _ hbefore rfl
  | applied =>
      simp only [step, h]
      exact .draw h
  | drawn number =>
      simp only [step, h]
      exact .record number h
  | accepted number =>
      simp only [step, h]
      exact .rest (by rw [h]; rfl)
  | refused f =>
      simp only [step, h]
      exact .rest (by rw [h]; rfl)

theorem run_append (calls : Fin n → Transaction) (s : Flight n) (before later : List (Fin n)) :
    run calls s (before ++ later) = run calls (run calls s before) later :=
  List.foldl_append

theorem run_concat (calls : Fin n → Transaction) (s : Flight n) (schedule : List (Fin n))
    (i : Fin n) : run calls s (schedule ++ [i]) = step calls (run calls s schedule) i :=
  run_append calls s schedule [i]

/-- The steps of one call in a row are a submission: the ledger becomes what the
    submission makes of it, and the call ends with its answer. So calls that do
    not overlap are what the rest of the library takes submissions for. -/
theorem run_alone (calls : Fin n → Transaction) {s : Flight n} {i : Fin n}
    (hwaiting : s.progress i = .waiting) :
    let after := run calls s [i, i, i, i]
    after.ledger = (Ledger.serve (calls i) s.ledger).2 ∧
      match (Ledger.serve (calls i) s.ledger).1 with
      | .ok hash => ∃ number, hash = hashOf number ∧
        after.progress = Function.update s.progress i (.accepted number)
      | .error f => after.progress = Function.update s.progress i (.refused f) := by
  intro after
  -- A refused call takes its turns without doing anything.
  cases hcheck : s.ledger.check (calls i) with
  | error f =>
      have hafter : after = s.moved i (.refused f) := by
        simp only [after, run, List.foldl_cons, List.foldl_nil, step, hwaiting, hcheck, moved,
          Function.update_self]
      simp only [Ledger.serve, hcheck, hafter, moved, and_self]
  | ok _ =>
      rcases happly : s.ledger.apply (calls i).message with ⟨answer, ledger⟩
      cases answer with
      | error f =>
          have hafter : after = { s.moved i (.refused f) with ledger } := by
            simp only [after, run, List.foldl_cons, List.foldl_nil, step, hwaiting, hcheck, moved,
              Function.update_self, happly, Function.update_idem]
          simp only [Ledger.serve, hcheck, happly, hafter, moved, and_self]
      | ok _ =>
          have hafter : after =
              { s.moved i (.accepted ledger.next) with
                ledger := ledger.draw.2.record ledger.next (calls i)
                applied := s.applied ++ [i]
                drawn := s.drawn ++ [i] } := by
            simp only [after, run, List.foldl_cons, List.foldl_nil, step, hwaiting, hcheck, moved,
              Function.update_self, happly, Function.update_idem, Ledger.draw]
          simp only [Ledger.serve, hcheck, happly, hafter, moved, Ledger.draw, true_and]
          exact ⟨ledger.next, rfl, rfl⟩

end Flight

end StoragePolicy
