import Mathlib.Data.List.Induction

/-!
# Requests in a Row

Ledgers and clients are asked one thing after another, and most of what can be
said of them is said of everything that was asked so far. A transcript keeps
that: the requests with their answers, in the order in which they came, beside
the state that they left.

A transcript is made from its first request to its last, so a statement about
all transcripts is proved by looking at one more request at the end. That a
request is granted or refused is one answer among others; the state that
follows is whatever the served request left, and nothing is taken back.

## Main definitions

* `Transcript`: Requests, answers and the state after them.
* `Transcript.ask`, `Transcript.of`: One more request, and several.
* `Transcript.granted`: The requests that were not refused.

## Theorems

* `Transcript.of_concat`: Several requests are all but the last and the last.
* `Transcript.of_append`: Later requests are asked in the state that the
  earlier ones left.
* `Transcript.granted_ask`: Only a granted request is added to the granted.
* `Transcript.granted_prefix`: What was granted stays in front.
-/

namespace StoragePolicy

/-- What was asked and answered so far, and the state that it left. All runs of the
    library are transcripts, of whatever it is that serves the requests. -/
structure Transcript (ι ο σ : Type) where
  exchanges : List (ι × ο) := []
  state : σ

namespace Transcript

variable {ι ο σ ε α : Type}

/-- One more request, served in the state that the others left. -/
def ask (serve : ι → σ → ο × σ) (t : Transcript ι ο σ) (request : ι) : Transcript ι ο σ where
  exchanges := t.exchanges ++ [(request, (serve request t.state).1)]
  state := (serve request t.state).2

/-- Several requests, from a state in which nothing has been asked. -/
def of (serve : ι → σ → ο × σ) (start : σ) (requests : List ι) : Transcript ι ο σ :=
  requests.foldl (ask serve) { state := start }

theorem of_concat (serve : ι → σ → ο × σ) (start : σ) (requests : List ι) (request : ι) :
    of serve start (requests ++ [request]) = (of serve start requests).ask serve request := by
  rw [of, List.foldl_append]
  rfl

/-- Later requests are asked in the state that the earlier ones left. So whatever
    holds of the state between them can be used for the rest. -/
theorem of_append (serve : ι → σ → ο × σ) (start : σ) (before later : List ι) :
    of serve start (before ++ later) =
      { exchanges := (of serve start before).exchanges ++
          (of serve (of serve start before).state later).exchanges
        state := (of serve (of serve start before).state later).state } := by
  -- On the last request, which is where a transcript grows.
  induction later using List.reverseRecOn with
  | nil =>
      have hnil : (of serve (of serve start before).state []).exchanges = [] := rfl
      rw [List.append_nil, hnil, List.append_nil]
      rfl
  | append_singleton later request ih =>
      rw [← List.append_assoc, of_concat, of_concat, ih]
      simp only [ask, List.append_assoc]

theorem exchanges_length (serve : ι → σ → ο × σ) (start : σ) (requests : List ι) :
    (of serve start requests).exchanges.length = requests.length := by
  induction requests using List.reverseRecOn with
  | nil => rfl
  | append_singleton requests request ih =>
      rw [of_concat, ask, List.length_append, List.length_append, ih, List.length_singleton,
        List.length_singleton]

/-- The requests that were granted, in their order. -/
def granted (t : Transcript ι (Except ε α) σ) : List ι :=
  t.exchanges.filterMap fun
    | (request, .ok _) => some request
    | (_, .error _) => none

/-- Only a granted request is added to the granted ones, at their end. -/
theorem granted_ask (serve : ι → σ → Except ε α × σ) (t : Transcript ι (Except ε α) σ)
    (request : ι) :
    (t.ask serve request).granted = t.granted ++
      match (serve request t.state).1 with
      | .ok _ => [request]
      | .error _ => [] := by
  rw [granted, ask, List.filterMap_append, granted]
  cases (serve request t.state).1 with
  | ok a => rfl
  | error e => rfl

/-- What is granted later comes after what was granted before. -/
theorem granted_append (serve : ι → σ → Except ε α × σ) (start : σ) (before later : List ι) :
    (of serve start (before ++ later)).granted = (of serve start before).granted ++
      (of serve (of serve start before).state later).granted := by
  rw [of_append, granted, List.filterMap_append]
  rfl

/-- What was granted stays in front of what is granted later, since nothing that was
    answered is ever taken back. -/
theorem granted_prefix (serve : ι → σ → Except ε α × σ) (start : σ) (before later : List ι) :
    (of serve start before).granted <+: (of serve start (before ++ later)).granted :=
  ⟨_, (granted_append serve start before later).symm⟩

theorem granted_length_le (serve : ι → σ → Except ε α × σ) (start : σ) (requests : List ι) :
    (of serve start requests).granted.length ≤ requests.length :=
  Nat.le_trans (List.length_filterMap_le _ _)
    (Nat.le_of_eq (exchanges_length serve start requests))

end Transcript

end StoragePolicy
