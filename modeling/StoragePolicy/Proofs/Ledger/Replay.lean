import StoragePolicy.Proofs.Ledger.Submitting
import StoragePolicy.Proofs.Text.FixedHex
import StoragePolicy.Proofs.Transcript

/-!
# The Ledger as a Log

A ledger is nothing but the log of what it accepted. Its three parts can all be
computed from that log: the next number is one more than its length, the
transactions are its entries under their numbers, and what is attached under a
key is what the last message about the key left there.

`Logs` says so, and it is the only invariant. An accepted transaction extends
the log at its end and a refused one leaves both log and ledger alone, so the
invariant is looked at for one submission, whatever came before.

Two of its parts speak of numbers and hold only as long as these do not begin
again. A hash is the number in hexadecimal, and below two to the sixty-four
different numbers have different hashes.

## Main definitions

* `Ledger.numbered`: The hash of the transaction with a number.
* `Ledger.lastAbout`: The last message of a log about a key.
* `Ledger.Logs`: The ledger is what its log makes of it.
* `Ledger.kept`: The transactions of a ledger.
* `Ledger.Answers`, `Ledger.Replays`: What a call is answered and what a
  ledger shows, as a matter of the log alone.

## Theorems

* `Ledger.numbered_injective`: Different numbers have different hashes.
* `Ledger.Logs.accepted`: An accepted transaction extends the log.
* `Ledger.logs_of`, `Ledger.kept_of`: A ledger is the log of what it granted.
* `Ledger.submissions_replay`: What every run of submissions is.
-/

namespace StoragePolicy

namespace Ledger

open Text

/-- The hash of the transaction with a number: sixty-four hexadecimal digits in
    lower case. -/
def numbered (n : Nat) : String := String.ofList (paddedHex 64 n)

theorem hashOf_ofNat {n : Nat} (hn : n < 2 ^ 64) : hashOf (UInt64.ofNat n) = numbered n := by
  have hfits : n < 16 ^ 64 := Nat.lt_of_lt_of_le hn (by norm_num)
  rw [hashOf, UInt64.toNat_ofNat_of_lt' hn, numbered, fixedHex_eq_paddedHex (by decide) hfits]

/-- Different numbers have different hashes, so no hash is given out twice before the
    counter begins again. -/
theorem numbered_injective {m n : Nat} (hm : m < 2 ^ 64) (hn : n < 2 ^ 64)
    (h : numbered m = numbered n) : m = n := by
  have hfits : ∀ {k : Nat}, k < 2 ^ 64 → k < 16 ^ 64 :=
    fun hk => Nat.lt_of_lt_of_le hk (by norm_num)
  have hdigits : fixedHex 64 m = fixedHex 64 n := by
    rw [fixedHex_eq_paddedHex (by decide) (hfits hm),
      fixedHex_eq_paddedHex (by decide) (hfits hn)]
    exact String.ofList_injective h
  exact fixedHex_injective (hfits hm) (hfits hn) hdigits

/-- The last message of a log about a key. -/
def lastAbout (log : List Transaction) (key : PolicyKey) : Option Message :=
  (log.map Transaction.message).reverse.find? fun m => m.key = key

theorem lastAbout_concat (log : List Transaction) (tx : Transaction) (key : PolicyKey) :
    lastAbout (log ++ [tx]) key =
      if tx.message.key = key then some tx.message else lastAbout log key := by
  rw [lastAbout, List.map_append, List.reverse_append]
  by_cases h : tx.message.key = key
  · simp only [List.map_cons, List.map_nil, List.reverse_singleton, List.singleton_append,
      List.find?_cons, h, decide_true, if_true]
  · simp only [List.map_cons, List.map_nil, List.reverse_singleton, List.singleton_append,
      List.find?_cons, h, decide_false, if_false, lastAbout]

/-- The ledger is what its log makes of it. No request that was refused has left a
    trace, so the log of the granted ones is all there is to a ledger. -/
structure Logs (chainId : String) (log : List Transaction) (ledger : Ledger) : Prop where
  chain : ledger.chainId = chainId
  next : ledger.next = UInt64.ofNat (log.length + 1)
  /-- The last message about a key decides what is attached there. -/
  attached : ∀ key, ledger.policies.find? key = (lastAbout log key).bind Message.attached?
  /-- The transactions are the log's entries, each under its number. -/
  found : log.length < 2 ^ 64 → ∀ hash tx,
    ledger.transaction? hash = some tx ↔ ∃ n, log[n]? = some tx ∧ hash = numbered (n + 1)
  size : log.length < 2 ^ 64 → ledger.size = log.length

theorem logs_new (chainId : String) : Logs chainId [] (new chainId) where
  chain := rfl
  next := rfl
  attached _ := rfl
  found _ hash tx := by
    constructor
    · intro h
      injection h
    · rintro ⟨n, hn, -⟩
      rw [List.getElem?_nil] at hn
      injection hn
  size _ := rfl

/-- An entry of a log with one more entry is an old one or the new one. -/
theorem getElem?_concat_eq_some_iff {α : Type} {log : List α} {a b : α} {n : Nat} :
    (log ++ [a])[n]? = some b ↔ log[n]? = some b ∨ n = log.length ∧ a = b := by
  -- In front of the new entry, at it, and behind it.
  by_cases hlt : n < log.length
  · rw [List.getElem?_append_left hlt]
    constructor
    · exact Or.inl
    · rintro (h | ⟨rfl, -⟩)
      · exact h
      · exact absurd hlt (Nat.lt_irrefl _)
  · have hle : log.length ≤ n := Nat.le_of_not_lt hlt
    rw [List.getElem?_append_right hle, List.getElem?_eq_none hle]
    by_cases heq : n = log.length
    · subst heq
      simp only [Nat.sub_self, List.getElem?_cons_zero, Option.some.injEq, reduceCtorEq, true_and,
        false_or]
    · have hpos : n - log.length = n - log.length - 1 + 1 := by omega
      rw [hpos, List.getElem?_cons_succ, List.getElem?_nil]
      simp only [reduceCtorEq, heq, false_and, or_self]

/-- Among the numbers of a log's entries the next one does not occur. -/
theorem numbered_next_ne {log : List Transaction} (hfew : log.length + 1 < 2 ^ 64) {n : Nat}
    {tx : Transaction} (hn : log[n]? = some tx) : numbered (log.length + 1) ≠ numbered (n + 1) := by
  intro heq
  have hlt : n < log.length := (List.getElem?_eq_some_iff.mp hn).1
  have := numbered_injective (by omega) (by omega) heq
  omega

/-- As long as numbers do not begin again, nothing stands under the next one. -/
theorem Logs.unused {chainId : String} {log : List Transaction} {ledger : Ledger}
    (h : Logs chainId log ledger) (hfew : log.length + 1 < 2 ^ 64) :
    ledger.transactions.find? (hashOf ledger.next) = none := by
  rw [h.next, hashOf_ofNat hfew, Option.eq_none_iff_forall_ne_some]
  intro tx hfound
  rcases (h.found (by omega) _ tx).mp hfound with ⟨n, hn, heq⟩
  exact numbered_next_ne hfew hn heq

/-- An accepted transaction extends the log. This is the step of the invariant:
    whatever a ledger shows follows from its log, and a submission that is
    accepted does nothing but to add itself to the log. -/
theorem Logs.accepted {chainId : String} {log : List Transaction} {ledger : Ledger}
    (h : Logs chainId log ledger) (tx : Transaction) :
    Logs chainId (log ++ [tx]) (ledger.accepted tx) := by
  have hlength : (log ++ [tx]).length = log.length + 1 := by
    rw [List.length_append, List.length_singleton]
  have hhash : (log ++ [tx]).length < 2 ^ 64 → hashOf ledger.next = numbered (log.length + 1) := by
    intro hfew
    rw [h.next, hashOf_ofNat (by omega)]
  refine ⟨h.chain, ?_, fun key => ?_, fun hfew hash tx' => ?_, fun hfew => ?_⟩
  · rw [Ledger.accepted, hlength, h.next]
    simp only [UInt64.ofNat_add]
    rfl
  · rw [Ledger.accepted, PolicyTable.find?_after, lastAbout_concat, h.attached]
    by_cases hkey : tx.message.key = key
    · rw [if_pos hkey, if_pos hkey]
      rfl
    · rw [if_neg hkey, if_neg hkey]
  -- An entry found under a hash is the new one under the new hash, or one from before.
  · have hput : (ledger.accepted tx).transaction? hash =
        if numbered (log.length + 1) = hash then some tx else ledger.transaction? hash := by
      rw [transaction?_accepted, hhash hfew]
    rw [hput]
    by_cases hnew : numbered (log.length + 1) = hash
    · subst hnew
      rw [if_pos rfl]
      constructor
      · intro heq
        exact ⟨log.length, getElem?_concat_eq_some_iff.mpr
          (Or.inr ⟨rfl, Option.some.inj heq⟩), rfl⟩
      · rintro ⟨n, hn, heq⟩
        rcases getElem?_concat_eq_some_iff.mp hn with hold | ⟨-, rfl⟩
        -- An older entry has an older number, and so another hash.
        · exact absurd heq (numbered_next_ne (by omega) hold)
        · rfl
    · rw [if_neg hnew, h.found (by omega)]
      constructor
      · rintro ⟨n, hn, rfl⟩
        exact ⟨n, getElem?_concat_eq_some_iff.mpr (Or.inl hn), rfl⟩
      · rintro ⟨n, hn, rfl⟩
        rcases getElem?_concat_eq_some_iff.mp hn with hold | ⟨rfl, -⟩
        · exact ⟨n, hold, rfl⟩
        · exact absurd rfl hnew
  -- The table grows, because its next hash is not in use.
  · change (ledger.transactions.put (hashOf ledger.next) tx).size = _
    rw [Table.size_put_new tx (h.unused (by omega)), hlength]
    exact congrArg (· + 1) (h.size (by omega))

/-- The ledger after submissions is the log of those that were granted, in the
    order in which they were. Refused submissions are not in the log, and the
    ledger shows nothing of them. -/
theorem logs_of (chainId : String) (txs : List Transaction) :
    Logs chainId (Transcript.of serve (new chainId) txs).granted
      (Transcript.of serve (new chainId) txs).state := by
  -- On the last submission; a refusal adds nothing to log or ledger.
  induction txs using List.reverseRecOn with
  | nil => exact logs_new chainId
  | append_singleton txs tx ih =>
      rw [Transcript.of_concat, Transcript.granted_ask, Transcript.ask]
      cases hfault : firstFault ((Transcript.of serve (new chainId) txs).state.faults tx) with
      | none =>
          rw [serve_of_accepted hfault]
          exact ih.accepted tx
      | some f =>
          rw [serve_of_refused hfault, List.append_nil]
          exact ih

/-- The transactions that are kept. -/
def kept (ledger : Ledger) : List Transaction := ledger.transactions.entries.map Prod.snd

/-- They are kept in the order in which they were granted. Their hashes show this,
    as long as no hash has been given out twice. -/
theorem kept_of (chainId : String) (txs : List Transaction)
    (hfew : (Transcript.of serve (new chainId) txs).granted.length < 2 ^ 64) :
    (Transcript.of serve (new chainId) txs).state.kept =
      (Transcript.of serve (new chainId) txs).granted := by
  induction txs using List.reverseRecOn with
  | nil => rfl
  | append_singleton txs tx ih =>
      have hlogs := logs_of chainId txs
      rw [Transcript.of_concat, Transcript.granted_ask, Transcript.ask] at *
      cases hfault : firstFault ((Transcript.of serve (new chainId) txs).state.faults tx) with
      | none =>
          -- Nothing stands under the next hash, so the new entry comes last.
          rw [serve_of_accepted hfault] at hfew ⊢
          rw [List.length_append, List.length_singleton] at hfew
          rw [kept, accepted, Table.entries_put_new tx (hlogs.unused hfew), List.map_append,
            ← ih (by omega)]
          rfl
      | some f =>
          rw [serve_of_refused hfault, List.append_nil] at hfew ⊢
          exact ih hfew

/-! ## Runs of submissions -/

/-- What a submission is answered after a log, and what it does to the ledger. -/
structure Answers (chainId : String) (log : List Transaction) (ledger : Ledger)
    (tx : Transaction) : Prop where
  /-- It is accepted if it is for this chain, signed, and finds what it is to
      detach. -/
  accepts : (∃ hash, (serve tx ledger).1 = .ok hash) ↔
    tx.chainId = chainId ∧ tx.signature ≠ [] ∧
      ∀ target, tx.message = .delete target → ∃ statements,
        ledger.policy? target.resource target.grantee.kind target.grantee.value = some statements
  /-- The answer is the hash of its place in the log. -/
  hash : ∀ hash, (serve tx ledger).1 = .ok hash → hash = numbered (log.length + 1)
  /-- A refusal leaves everything as it was. -/
  unchanged : ∀ f, (serve tx ledger).1 = .error f → (serve tx ledger).2 = ledger

/-- What a ledger shows after a log. -/
structure Replays (log : List Transaction) (ledger : Ledger) : Prop where
  size : ledger.size = log.length
  /-- The entries of the log stand under their hashes. -/
  transaction : ∀ n, 1 ≤ n → n ≤ log.length → ledger.transaction? (numbered n) = log[n - 1]?
  /-- Nothing stands under any other text. -/
  nothingElse : ∀ hash, (∀ n, 1 ≤ n → n ≤ log.length → hash ≠ numbered n) →
    ledger.transaction? hash = none
  /-- Attached is what the last message about a key attached. -/
  policy : ∀ resource kind value statements,
    ledger.policy? resource kind value = some statements ↔
      ∃ target expiration,
        lastAbout log ⟨resource, kind, value⟩ = some (.put target statements expiration)

/-- What a submission is answered is known from the log alone. -/
theorem Logs.answers {chainId : String} {log : List Transaction} {ledger : Ledger}
    (h : Logs chainId log ledger) (tx : Transaction)
    (hfew : ∀ hash, (serve tx ledger).1 = .ok hash → log.length + 1 < 2 ^ 64) :
    Answers chainId log ledger tx := by
  have haccepts := faults_eq_none_iff ledger tx
  rw [h.chain] at haccepts
  refine ⟨?_, fun hash hhash => ?_, fun f hf => ?_⟩
  · rw [← faultOf?_eq_none_iff, faultOf?_serve]
    exact haccepts
  · have hlt := hfew hash hhash
    cases hfault : firstFault (ledger.faults tx) with
    | none =>
        rw [serve_of_accepted hfault, h.next, hashOf_ofNat hlt] at hhash
        exact (Except.ok.inj hhash).symm
    | some f =>
        rw [serve_of_refused hfault] at hhash
        injection hhash
  · cases hfault : firstFault (ledger.faults tx) with
    | none =>
        rw [serve_of_accepted hfault] at hf
        injection hf
    | some f' => rw [serve_of_refused hfault]

/-- What a ledger shows is known from the log alone. -/
theorem Logs.replays {chainId : String} {log : List Transaction} {ledger : Ledger}
    (h : Logs chainId log ledger) (hfew : log.length < 2 ^ 64) : Replays log ledger := by
  refine ⟨h.size hfew, fun n hpos hle => ?_, fun hash hother => ?_,
    fun resource kind value statements => ?_⟩
  · have hlt : n - 1 < log.length := by omega
    rw [List.getElem?_eq_getElem hlt, h.found hfew]
    exact ⟨n - 1, List.getElem?_eq_getElem hlt, by rw [Nat.sub_add_cancel hpos]⟩
  · rw [Option.eq_none_iff_forall_ne_some]
    intro tx htx
    -- Whatever is found has the number of its place, and this text has no such number.
    rcases (h.found hfew hash tx).mp htx with ⟨n, hn, rfl⟩
    have hlt : n < log.length := (List.getElem?_eq_some_iff.mp hn).1
    exact hother (n + 1) (by omega) hlt rfl
  · rw [policy?, h.attached, Option.bind_eq_some_iff]
    constructor
    -- Only attaching leaves anything, so the last message has attached it.
    · rintro ⟨m, hm, hattached⟩
      cases m with
      | put target statements expiration =>
          injection hattached with heq
          exact ⟨target, expiration, by rw [hm, heq]⟩
      | delete target => injection hattached
    · rintro ⟨target, expiration, hm⟩
      exact ⟨_, hm, rfl⟩

/-- A ledger is the log of what it accepted and its replay: this is what any
    submission in a run is answered, and what is shown at the end. The
    transactions may be anything that can be handed in, also what no client would
    make. That fewer are granted than there are numbers is needed for the hashes,
    which would repeat otherwise. -/
theorem submissions_replay (chainId : String) (txs : List Transaction)
    (hfew : (Transcript.of serve (new chainId) txs).granted.length < 2 ^ 64) :
    (∀ before tx later, txs = before ++ tx :: later →
      Answers chainId (Transcript.of serve (new chainId) before).granted
        (Transcript.of serve (new chainId) before).state tx) ∧
    Replays (Transcript.of serve (new chainId) txs).granted
      (Transcript.of serve (new chainId) txs).state := by
  refine ⟨fun before tx later htxs => ?_, (logs_of chainId txs).replays hfew⟩
  refine (logs_of chainId before).answers tx fun hash hhash => ?_
  -- If this one is granted, it is one of those that were counted.
  have hgranted : (Transcript.of serve (new chainId) (before ++ [tx])).granted =
      (Transcript.of serve (new chainId) before).granted ++ [tx] := by
    rw [Transcript.of_concat, Transcript.granted_ask, hhash]
  have hprefix := (Transcript.granted_prefix serve (new chainId) (before ++ [tx]) later).length_le
  rw [List.append_assoc, List.singleton_append, ← htxs, hgranted, List.length_append,
    List.length_singleton] at hprefix
  omega

/-- A run in which the first three submissions are refused: nothing to detach,
    another chain, no signature. -/
theorem submissions_replay_refusals :
    let target : Target := ⟨"0x", "grn:b::photos", ⟨2, "9"⟩⟩
    let tx (chainId : String) (m : Message) (signature : Octets) : Transaction :=
      ⟨chainId, m, [], ⟨List.replicate 20 0, rfl⟩, signature⟩
    let txs := [tx "here" (.delete target) [1], tx "there" (.put target [] none) [1],
      tx "here" (.put target [] none) [], tx "here" (.put target [⟨1, [6]⟩] none) [1],
      tx "here" (.put target [⟨2, [6, 8]⟩] none) [2], tx "here" (.delete target) [3]]
    let run := Transcript.of serve (new "here") txs
    run.granted = txs.drop 3 ∧ run.granted.length < 2 ^ 64 ∧
      Answers "here" [] (new "here") (tx "here" (.delete target) [1]) ∧
      Replays run.granted run.state := by
  intro target tx txs run
  have hgranted : run.granted = txs.drop 3 := by decide +kernel
  have hfew : run.granted.length < 2 ^ 64 := by
    rw [hgranted]
    decide
  rcases submissions_replay "here" txs hfew with ⟨hanswers, hreplays⟩
  exact ⟨hgranted, hfew, hanswers [] _ _ rfl, hreplays⟩

end Ledger

end StoragePolicy
