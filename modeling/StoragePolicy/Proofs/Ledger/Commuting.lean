import StoragePolicy.Proofs.Ledger.Replay
import StoragePolicy.Proofs.Reordering

/-!
# Submissions in Another Order

Whether a transaction is accepted depends on the chain's id, on its signature
and on what is attached under the key of its message, and all it changes of the
attached policies is under that key. So only the order of transactions with one
key matters. Two runs that agree on it accept the same transactions and refuse the
others for the same reasons, however those with different keys are mixed.

A hash is the running number and does depend on what else came before. It is the
one thing in which the two runs differ: they keep the same transactions, under
other hashes.

This is said from any ledger that submissions can lead to, not only from a new
one. How many there have been before counts, since a number that is given out
twice overwrites a transaction.

## Main definitions

* `Ledger.Alike`: Two runs that differ in the hashes only.

## Theorems

* `PolicyTable.keyed_apply`, `Ledger.keyed_serve`: Messages and submissions
  concern their key only.
* `Ledger.submissions_commute`: What reordering a run may change.
-/

namespace StoragePolicy

namespace PolicyTable

/-- Whether a message finds what it needs depends on its key only. -/
theorem detachFault_congr {policies other : PolicyTable} {m : Message}
    (h : policies.find? m.key = other.find? m.key) :
    policies.detachFault m = other.detachFault m := by
  cases m with
  | put target statements expiration => rfl
  | delete target => rw [detachFault, detachFault, h]

/-- A message concerns its key only. What it does there depends on what is
    attached there, and all other keys keep what they have. -/
theorem keyed_apply : Keyed (fun m policies => PolicyTable.apply policies m) Message.key
    (fun key policies => policies.find? key) faultOf? where
  own m policies other h := by
    rw [apply_eq, apply_eq, detachFault_congr h]
    -- With the same under its key, a message is refused in both tables or in none.
    cases other.detachFault m with
    | none => exact ⟨rfl, by rw [find?_after, find?_after, if_pos rfl, if_pos rfl]⟩
    | some f => exact ⟨rfl, h⟩
  other m policies key hkey := by
    rw [apply_eq]
    cases policies.detachFault m with
    | none => exact (find?_after policies m key).trans (if_neg hkey)
    | some f => rfl

end PolicyTable

namespace Ledger

/-- The key of a transaction is the key of its message. -/
def keyOf (tx : Transaction) : PolicyKey := tx.message.key

/-- What a submission with a key depends on. -/
def part (key : PolicyKey) (ledger : Ledger) : String × Option (List CodedStatement) :=
  (ledger.chainId, ledger.policies.find? key)

/-- The same part means the same faults. -/
theorem faults_congr {tx : Transaction} {ledger other : Ledger}
    (h : part (keyOf tx) ledger = part (keyOf tx) other) : ledger.faults tx = other.faults tx := by
  injection h with hchain hfound
  rw [faults, faults, hchain, PolicyTable.detachFault_congr hfound]

/-- Of all parts of a ledger, a transaction changes the one under its key. -/
theorem part_accepted (tx : Transaction) (ledger : Ledger) (key : PolicyKey) :
    part key (ledger.accepted tx) =
      if keyOf tx = key then (ledger.chainId, tx.message.attached?) else part key ledger := by
  rw [part, accepted, PolicyTable.find?_after, keyOf]
  by_cases h : tx.message.key = key
  · rw [if_pos h, if_pos h]
  · rw [if_neg h, if_neg h, part]

/-- A submission concerns its key only, as far as its verdict goes. Its hash
    depends on everything that was accepted before, which is why verdicts are
    compared and not answers. -/
theorem keyed_serve : Keyed serve keyOf part faultOf? where
  own tx ledger other h := by
    have hfaults := faults_congr h
    refine ⟨by rw [faultOf?_serve, faultOf?_serve, hfaults], ?_⟩
    -- The same faults, so either both ledgers record the transaction or both refuse it.
    cases hfault : firstFault (ledger.faults tx) with
    | none =>
        have hchain : ledger.chainId = other.chainId := congrArg Prod.fst h
        rw [serve_of_accepted hfault, serve_of_accepted (hfaults ▸ hfault), part_accepted,
          part_accepted, if_pos rfl, if_pos rfl, hchain]
    | some f =>
        rw [serve_of_refused hfault, serve_of_refused (hfaults ▸ hfault)]
        exact h
  other tx ledger key hkey := by
    cases hfault : firstFault (ledger.faults tx) with
    | none => rw [serve_of_accepted hfault, part_accepted, if_neg hkey]
    | some f => rw [serve_of_refused hfault]

/-- Two runs that differ in the hashes only: in all that can be asked of the ledger
    without one, and in the verdicts, they agree. -/
structure Alike (first second : Transcript Transaction (Except Fault String) Ledger) : Prop where
  /-- Each submission is accepted in both or refused in both for the same
      reason: those with one key are the same ones and fared the same. -/
  verdicts : ∀ key, first.verdicts faultOf? keyOf key = second.verdicts faultOf? keyOf key
  policy : ∀ resource kind value,
    first.state.policy? resource kind value = second.state.policy? resource kind value
  size : first.state.size = second.state.size
  /-- The same transactions are kept, each as often. -/
  kept : first.state.kept.Perm second.state.kept

/-- What is kept after further submissions is what was kept before and what was
    granted since. -/
theorem kept_later (chainId : String) (past txs : List Transaction)
    (hfew : past.length + txs.length < 2 ^ 64) :
    (Transcript.of serve (Transcript.of serve (new chainId) past).state txs).state.kept =
      (Transcript.of serve (new chainId) past).granted ++
        (Transcript.of serve (Transcript.of serve (new chainId) past).state txs).granted := by
  have hstate := congrArg Transcript.state (Transcript.of_append serve (new chainId) past txs)
  have hle := Transcript.granted_length_le serve (new chainId) (past ++ txs)
  rw [List.length_append] at hle
  -- Seen from the new ledger, both rows of submissions are one, and it is short enough.
  have hkept := kept_of chainId (past ++ txs) (by omega)
  rw [hstate, Transcript.granted_append] at hkept
  exact hkept

/-- Submissions about different keys may change places: each is still accepted or
    refused for the same reason, the same policies end up attached, and the same
    transactions are kept. What does change are the hashes, since they are numbers
    in the order of acceptance. -/
theorem submissions_commute (chainId : String) (past first second : List Transaction)
    (hfew : past.length + first.length < 2 ^ 64) (horder : Reordered keyOf first second) :
    let start := (Transcript.of serve (new chainId) past).state
    Alike (Transcript.of serve start first) (Transcript.of serve start second) := by
  intro start
  have hfew' : past.length + second.length < 2 ^ 64 := horder.perm.length_eq ▸ hfew
  have hkept : (Transcript.of serve start first).state.kept.Perm
      (Transcript.of serve start second).state.kept := by
    rw [kept_later chainId past first hfew, kept_later chainId past second hfew']
    exact (keyed_serve.granted_perm start horder.order).append_left _
  -- What is attached under a key is settled by the submissions with that key.
  have hagree := fun key => keyed_serve.agree start (horder.order key)
  refine ⟨fun key => (hagree key).2, fun resource kind value => ?_, ?_, hkept⟩
  · exact congrArg Prod.snd (hagree ⟨resource, kind, value⟩).1
  · -- As many transactions are kept as there are entries.
    have hlength := hkept.length_eq
    rwa [kept, List.length_map, kept, List.length_map] at hlength

/-- Detaching one policy changes places with a refused and a granted submission
    about another, and both transactions that are kept change their hashes. -/
theorem submissions_commute_detached :
    let target (resource : String) : Target := ⟨"0x", resource, ⟨2, "9"⟩⟩
    let tx (m : Message) : Transaction := ⟨"here", m, [], ⟨List.replicate 20 0, rfl⟩, [1]⟩
    let put (resource : String) := tx (.put (target resource) [⟨1, [6]⟩] none)
    let delete (resource : String) := tx (.delete (target resource))
    let first := [delete "grn:b::photos", delete "grn:b::notes", put "grn:b::notes"]
    let second := [delete "grn:b::notes", put "grn:b::notes", delete "grn:b::photos"]
    let start := (Transcript.of serve (new "here") [put "grn:b::photos"]).state
    (Transcript.of serve start first).state.kept ≠ (Transcript.of serve start second).state.kept ∧
      [put "grn:b::photos"].length + first.length < 2 ^ 64 ∧ Reordered keyOf first second ∧
      Alike (Transcript.of serve start first) (Transcript.of serve start second) := by
  intro target tx put delete first second start
  -- The transaction about the photos is moved past the two about the notes.
  have hkeys : ∀ tx, keyOf tx = ⟨"grn:b::notes", 2, "9"⟩ →
      keyOf (delete "grn:b::photos") ≠ keyOf tx := by
    intro tx htx
    rw [htx]
    decide
  have horder : Reordered keyOf first second :=
    (Reordered.swap [] [put "grn:b::notes"] (hkeys (delete "grn:b::notes") rfl)).trans
      (Reordered.swap [delete "grn:b::notes"] [] (hkeys (put "grn:b::notes") rfl))
  have hfew : [put "grn:b::photos"].length + first.length < 2 ^ 64 := by decide
  exact ⟨by decide +kernel, hfew, horder,
    submissions_commute "here" [put "grn:b::photos"] first second hfew horder⟩

end Ledger

end StoragePolicy
