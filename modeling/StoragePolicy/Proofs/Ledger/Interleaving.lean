import Mathlib.Data.Fintype.Card
import StoragePolicy.Proofs.Ledger.Flight
import StoragePolicy.Proofs.Ledger.Replay

/-!
# Interleaved Steps

What holds of a flight whatever steps were taken in it. It comes in three parts,
one for each step that changes the ledger, and a step that belongs to one part
does not show in the other two.

* The policies are what the messages left that took effect, in the order in which
  they did. No other order will do, since a message is judged by what it finds.
* A number is a place in the order of the draws. With fewer calls than numbers no
  two calls have the same one.
* The entries of the ledger are the accepted calls. An entry is added under a
  number that only its own call has, so that it overwrites nothing, however long
  after the draw that is.

Only the last part needs the bound. The second says which number is drawn, and
not that it is a new one.

## Main definitions

* `replay`: Messages applied one after another.
* `Flight.Effects`, `Flight.Numbers`, `Flight.Records`: The three parts.
* `Flight.Coherent`: All of them.

## Theorems

* `replay_concat`: One more message that is accepted.
* `Flight.seen_moved`: What is not noticed of one call is not noticed of any.
* `Flight.Effects.moves`, `Flight.Numbers.moves`, `Flight.Records.moves`: A step
  keeps each part.
* `Flight.Numbers.distinct`: No two calls draw the same number.
* `Flight.coherent_run`: They hold after any schedule.
-/

namespace StoragePolicy

namespace Ledger

open Text

/-- Different numbers have different hashes, up to the last number that there is. -/
theorem hashOf_injective {m n : UInt64} (h : hashOf m = hashOf n) : m = n := by
  have hfits : ∀ k : UInt64, k.toNat < 16 ^ 64 :=
    fun k => Nat.lt_of_lt_of_le k.toNat_lt (by norm_num)
  exact UInt64.toNat_inj.mp
    (fixedHex_injective (hfits m) (hfits n) (String.ofList_injective h))

end Ledger

/-- Messages applied one after another, beginning without any policies. -/
def replay (messages : List Message) : Transcript Message (Except Fault Unit) PolicyTable :=
  Transcript.of (fun m policies => policies.apply m) {} messages

theorem replay_concat {messages : List Message} {m : Message} {policies : PolicyTable}
    (happly : (replay messages).state.apply m = (.ok (), policies)) :
    replay (messages ++ [m]) =
      { exchanges := (replay messages).exchanges ++ [(m, .ok ())], state := policies } := by
  rw [replay, Transcript.of_concat, Transcript.ask, ← replay, happly]

namespace Flight

variable {n : Nat} {calls : Fin n → Transaction} {s s' : Flight n} {i : Fin n}

/-- What is not noticed of one call that comes further is not noticed of any,
    since all other calls stay where they are. -/
theorem seen_moved {α : Type} (see : Progress → α) {p : Progress}
    (hsame : see p = see (s.progress i)) (j : Fin n) :
    see ((s.moved i p).progress j) = see (s.progress j) := by
  rw [progress_moved]
  by_cases h : j = i
  · rw [if_pos h, h, hsame]
  · rw [if_neg h]

/-! ## What took effect -/

/-- The messages that took effect, in that order. -/
def messages (calls : Fin n → Transaction) (s : Flight n) : List Message :=
  (s.applied.map calls).map Transaction.message

/-- The attached policies are what the messages left that took effect, applied in the
    order in which they did. -/
structure Effects (calls : Fin n → Transaction) (s : Flight n) : Prop where
  leaves : (replay (s.messages calls)).state = s.ledger.policies
  accepts : ∀ exchange ∈ (replay (s.messages calls)).exchanges, exchange.2 = .ok ()
  once : s.applied.Nodup
  mem : ∀ i, i ∈ s.applied ↔ (s.progress i).tookEffect = true

/-- A step keeps the policies and the messages that took effect in step. The
    messages change in one kind of step only, and the policies in the same. -/
theorem Effects.moves (h : Effects calls s) (hmove : Moves calls i s s') : Effects calls s' := by
  cases hmove with
  | rest hended => exact h
  | quiet p hbefore hafter =>
      refine ⟨h.leaves, h.accepts, h.once, fun j => (h.mem j).trans ?_⟩
      rw [seen_moved Progress.tookEffect (hafter.trans hbefore.symm)]
  | effect hprogress hfound =>
      have hmessages : ((s.applied ++ [i]).map calls).map Transaction.message =
          s.messages calls ++ [(calls i).message] := by rw [List.map_append, List.map_append]; rfl
      -- The message found in the replay what it found in the ledger.
      have happly : (replay (s.messages calls)).state.apply (calls i).message =
          (.ok (), s.ledger.policies.after (calls i).message) := by
        rw [h.leaves, PolicyTable.apply_eq, hfound]
      -- A call that was only checked has not taken effect before.
      have hnew : i ∉ s.applied := by
        rw [h.mem, hprogress]
        exact Bool.false_ne_true
      refine ⟨?_, ?_, ?_, fun j => ?_⟩
      · rw [messages, hmessages, replay_concat happly]
      · rw [messages, hmessages, replay_concat happly]
        intro exchange hmem
        rcases List.mem_append.mp hmem with hold | hlast
        · exact h.accepts exchange hold
        · rw [List.mem_singleton.mp hlast]
      · have honce := List.Nodup.concat hnew h.once
        rwa [List.concat_eq_append] at honce
      · change j ∈ s.applied ++ [i] ↔ ((s.moved i .applied).progress j).tookEffect = true
        rw [progress_moved, List.mem_append, List.mem_singleton, h.mem]
        by_cases hj : j = i
        · simp only [hj, or_true, if_true, Progress.tookEffect]
        · simp only [hj, or_false, if_false]
  | draw hprogress =>
      refine ⟨h.leaves, h.accepts, h.once, fun j => (h.mem j).trans ?_⟩
      exact Bool.eq_iff_iff.mp (seen_moved Progress.tookEffect (by rw [hprogress]; rfl) j).symm
  | record number hprogress =>
      refine ⟨h.leaves, h.accepts, h.once, fun j => (h.mem j).trans ?_⟩
      exact Bool.eq_iff_iff.mp (seen_moved Progress.tookEffect (by rw [hprogress]; rfl) j).symm

/-! ## Numbers -/

/-- Each call that drew a number has the one that its place among the draws says. -/
structure Numbers (s : Flight n) : Prop where
  once : s.drawn.Nodup
  number : ∀ i number, (s.progress i).number? = some number ↔
    ∃ k, s.drawn[k]? = some i ∧ number = .ofNat (k + 1)
  next : s.ledger.next = .ofNat (s.drawn.length + 1)

/-- One more draw adds one place, with the next number. -/
theorem exists_place_concat {drawn : List (Fin n)} {j : Fin n} {number : UInt64} :
    (∃ k, (drawn ++ [i])[k]? = some j ∧ number = .ofNat (k + 1)) ↔
      (∃ k, drawn[k]? = some j ∧ number = .ofNat (k + 1)) ∨
        i = j ∧ number = .ofNat (drawn.length + 1) := by
  simp only [Ledger.getElem?_concat_eq_some_iff]
  constructor
  · rintro ⟨k, hold | ⟨rfl, hlast⟩, hnumber⟩
    · exact .inl ⟨k, hold, hnumber⟩
    · exact .inr ⟨hlast, hnumber⟩
  · rintro (⟨k, hold, hnumber⟩ | ⟨hlast, hnumber⟩)
    · exact ⟨k, .inl hold, hnumber⟩
    · exact ⟨drawn.length, .inr ⟨rfl, hlast⟩, hnumber⟩

/-- A step keeps the numbers at the places of their draws. Only a draw adds a
    number, and it adds it behind all others. -/
theorem Numbers.moves (h : Numbers s) (hmove : Moves calls i s s') : Numbers s' := by
  cases hmove with
  | rest hended => exact h
  | quiet p hbefore hafter =>
      refine ⟨h.once, fun j number => ?_, h.next⟩
      rw [seen_moved Progress.number? ((Progress.number?_of_not_tookEffect hafter).trans
        (Progress.number?_of_not_tookEffect hbefore).symm)]
      exact h.number j number
  | effect hprogress hfound =>
      refine ⟨h.once, fun j number => Iff.trans ?_ (h.number j number), h.next⟩
      exact Eq.congr_left (seen_moved Progress.number? (by rw [hprogress]; rfl) j)
  | record number hprogress =>
      refine ⟨h.once, fun j number' => Iff.trans ?_ (h.number j number'), h.next⟩
      exact Eq.congr_left (seen_moved Progress.number? (by rw [hprogress]; rfl) j)
  | draw hprogress =>
      -- A call that has yet to draw is not among those that drew.
      have hnew : i ∉ s.drawn := by
        intro hmem
        rcases List.mem_iff_getElem?.mp hmem with ⟨k, hk⟩
        have hnumber := (h.number i _).mpr ⟨k, hk, rfl⟩
        rw [hprogress] at hnumber
        injection hnumber
      refine ⟨?_, fun j number => ?_, ?_⟩
      · have honce := List.Nodup.concat hnew h.once
        rwa [List.concat_eq_append] at honce
      · change ((s.moved i (.drawn s.ledger.next)).progress j).number? = some number ↔
          ∃ k, (s.drawn ++ [i])[k]? = some j ∧ number = .ofNat (k + 1)
        rw [exists_place_concat, ← h.number, progress_moved]
        by_cases hj : j = i
        · -- The call had no number before, and it has the next one now.
          simp only [hj, if_true, hprogress, Progress.number?, Option.some.injEq, reduceCtorEq,
            false_or, true_and, h.next, eq_comm]
        · simp only [hj, if_false, Ne.symm hj, false_and, or_false]
      · change s.ledger.next + 1 = .ofNat ((s.drawn ++ [i]).length + 1)
        rw [h.next, List.length_append, List.length_singleton]
        simp only [UInt64.ofNat_add]
        rfl

/-- No call draws twice, so there are no more draws than calls. -/
theorem Numbers.length_le (h : Numbers s) : s.drawn.length ≤ n := by
  have := List.Nodup.length_le_card h.once
  rwa [Fintype.card_fin] at this

/-- As long as there are fewer calls than numbers, no two draw the same one. With
    more of them the counter begins again, and a later entry takes the place of an
    earlier one. -/
theorem Numbers.distinct (h : Numbers s) (hfew : n < 2 ^ 64) {j : Fin n} {number : UInt64}
    (hi : (s.progress i).number? = some number) (hj : (s.progress j).number? = some number) :
    i = j := by
  rcases (h.number i number).mp hi with ⟨k, hk, hkn⟩
  rcases (h.number j number).mp hj with ⟨l, hl, hln⟩
  have hlength := h.length_le
  have hklt : k < s.drawn.length := (List.getElem?_eq_some_iff.mp hk).1
  have hllt : l < s.drawn.length := (List.getElem?_eq_some_iff.mp hl).1
  have hkfits : k + 1 < 2 ^ 64 := by omega
  have hlfits : l + 1 < 2 ^ 64 := by omega
  -- Two places with one number, neither of them beyond the counter, are one place.
  have heq : k + 1 = l + 1 := by
    have := congrArg UInt64.toNat (hkn.symm.trans hln)
    rwa [UInt64.toNat_ofNat_of_lt' hkfits, UInt64.toNat_ofNat_of_lt' hlfits] at this
  rw [Nat.succ.inj heq, hl] at hk
  exact (Option.some.inj hk).symm

/-! ## Records -/

/-- The entries of the ledger are the accepted calls under their hashes, without any
    other entry and without one of them missing. -/
structure Records (calls : Fin n → Transaction) (s : Flight n) : Prop where
  once : s.ledger.transactions.entries.Nodup
  mem : ∀ entry, entry ∈ s.ledger.transactions.entries ↔
    ∃ i number, s.progress i = .accepted number ∧ entry = (hashOf number, calls i)

/-- Nothing stands yet under a number that has been drawn only. -/
theorem Records.unused (h : Records calls s) (hnumbers : Numbers s) (hfew : n < 2 ^ 64)
    {number : UInt64} (hprogress : s.progress i = .drawn number) :
    s.ledger.transactions.find? (hashOf number) = none := by
  rw [Table.find?_eq_none_iff]
  intro entry hmem hhash
  rcases (h.mem entry).mp hmem with ⟨j, number', hj, rfl⟩
  have hsame : number' = number := Ledger.hashOf_injective hhash
  subst hsame
  -- An entry under that number would be of this very call, which is not accepted yet.
  have hij : i = j := hnumbers.distinct hfew (by rw [hprogress]; rfl) (by rw [hj]; rfl)
  rw [← hij, hprogress] at hj
  injection hj

/-- One more call is accepted, and those that were stay so. -/
theorem accepted_moved_iff {number : UInt64} (hprogress : s.progress i = .drawn number)
    {entry : String × Transaction} :
    (∃ j number', (s.moved i (.accepted number)).progress j = .accepted number' ∧
        entry = (hashOf number', calls j)) ↔
      (∃ j number', s.progress j = .accepted number' ∧ entry = (hashOf number', calls j)) ∨
        entry = (hashOf number, calls i) := by
  constructor
  · rintro ⟨j, number', hj, rfl⟩
    rw [progress_moved] at hj
    by_cases hji : j = i
    · rw [if_pos hji] at hj
      rw [hji, ← Progress.accepted.inj hj]
      exact .inr rfl
    · rw [if_neg hji] at hj
      exact .inl ⟨j, number', hj, rfl⟩
  · rintro (⟨j, number', hj, rfl⟩ | rfl)
    · refine ⟨j, number', ?_, rfl⟩
      have hne : j ≠ i := by
        rintro rfl
        rw [hprogress] at hj
        injection hj
      rw [progress_moved, if_neg hne, hj]
    · exact ⟨i, number, by rw [progress_moved, if_pos rfl], rfl⟩

/-- A step keeps the entries and the accepted calls in step. For the entry that is
    added this needs the numbers, since it must not replace another. -/
theorem Records.moves (h : Records calls s) (hnumbers : Numbers s) (hfew : n < 2 ^ 64)
    (hmove : Moves calls i s s') : Records calls s' := by
  -- Unless a call ends up accepted, the same calls are accepted as before.
  have hsame : ∀ p, (∀ number, s.progress i ≠ .accepted number) →
      (∀ number, p ≠ .accepted number) → ∀ entry, entry ∈ s.ledger.transactions.entries ↔
        ∃ j number, (s.moved i p).progress j = .accepted number ∧
          entry = (hashOf number, calls j) := by
    intro p hbefore hafter entry
    rw [h.mem]
    refine exists_congr fun j => exists_congr fun number => and_congr_left fun _ => ?_
    have hneither : (p = .accepted number) = (s.progress i = .accepted number) :=
      propext (iff_of_false (hafter number) (hbefore number))
    exact (seen_moved (fun q => q = .accepted number) hneither j).symm.to_iff
  have hnever : ∀ p : Progress, p.tookEffect = false → ∀ number, p ≠ .accepted number := by
    rintro p hp number rfl
    injection hp
  cases hmove with
  | rest hended => exact h
  | quiet p hbefore hafter => exact ⟨h.once, hsame p (hnever _ hbefore) (hnever p hafter)⟩
  | effect hprogress hfound => exact ⟨h.once, hsame .applied (hprogress ▸ nofun) nofun⟩
  | draw hprogress => exact ⟨h.once, hsame (.drawn s.ledger.next) (hprogress ▸ nofun) nofun⟩
  | record number hprogress =>
      -- Its number was drawn by this call and by no other, so its place is free.
      have hunused := h.unused hnumbers hfew hprogress
      have hentries : (s.ledger.record number (calls i)).transactions.entries =
          s.ledger.transactions.entries ++ [(hashOf number, calls i)] :=
        Table.entries_put_new (calls i) hunused
      refine ⟨?_, fun entry => ?_⟩
      · have hnew : (hashOf number, calls i) ∉ s.ledger.transactions.entries :=
          fun hmem => Table.find?_eq_none_iff.mp hunused _ hmem rfl
        have honce := List.Nodup.concat hnew h.once
        rwa [List.concat_eq_append, ← hentries] at honce
      · rw [hentries, List.mem_append, List.mem_singleton, h.mem]
        exact (accepted_moved_iff hprogress).symm

/-! ## Runs -/

/-- What holds after any steps of any calls. The three parts lean on one another only
    where an entry is added, which needs the numbers. -/
structure Coherent (calls : Fin n → Transaction) (s : Flight n) : Prop where
  effects : Effects calls s
  numbers : Numbers s
  records : Records calls s

theorem coherent_start (calls : Fin n → Transaction) (chainId : String) :
    Coherent calls (start chainId) where
  effects :=
    { leaves := rfl
      accepts := fun _ h => absurd h List.not_mem_nil
      once := List.nodup_nil
      mem := fun _ => by
        simp only [start, List.not_mem_nil, Progress.tookEffect, Bool.false_eq_true] }
  numbers :=
    { once := List.nodup_nil
      number := fun _ _ => by
        simp only [start, Progress.number?, List.getElem?_nil, reduceCtorEq, false_and,
          exists_false]
      next := rfl }
  records :=
    { once := List.nodup_nil
      mem := fun _ => by
        simp only [start, Ledger.new, List.not_mem_nil, reduceCtorEq, false_and, exists_false] }

/-- Whatever the schedule, all three hold after it. They hold before anything was
    submitted, and every step that can be taken keeps them. The steps are those of
    single calls, so nothing has to be known of how the calls overlap. -/
theorem coherent_run (hfew : n < 2 ^ 64) (calls : Fin n → Transaction) (chainId : String)
    (schedule : List (Fin n)) : Coherent calls (run calls (start chainId) schedule) := by
  induction schedule using List.reverseRecOn with
  | nil => exact coherent_start calls chainId
  | append_singleton schedule i ih =>
      have hmove := moves_step calls (run calls (start chainId) schedule) i
      rw [run_concat]
      -- An entry is added under a number that was drawn in an earlier step.
      exact ⟨ih.effects.moves hmove, ih.numbers.moves hmove,
        ih.records.moves ih.numbers hfew hmove⟩

end Flight

end StoragePolicy
