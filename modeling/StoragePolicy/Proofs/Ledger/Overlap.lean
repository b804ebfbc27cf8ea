import Mathlib.Data.Fin.VecNotation
import Mathlib.Data.List.Sort
import Mathlib.Data.String.Basic
import StoragePolicy.Proofs.Ledger.Commuting
import StoragePolicy.Proofs.Ledger.Interleaving

/-!
# What Overlapping Calls Leave

When all calls have ended, every accepted one is kept under a hash of its own, no
matter how their steps were interleaved. The hashes also put the transactions in
an order, and one would like to read it as the order of events: replaying the
ledger from its first hash to its last should be accepted throughout and lead to
the policies that are attached.

It need not. A message takes effect in one step and its number is drawn in
another, and nothing holds the two together. A call that attaches may stand still
between them while another detaches the same policy and draws first. Then the
hashes say that the policy was detached before it was attached, and the replay
refuses to do that.

What explains the policies is the order in which messages took effect. The order
of the hashes does so at every key for which it is the same, since a message
depends on its key only. It is the same when the calls about the key take turns,
that is, when none of them takes effect between the effect of another and its
draw; calls about other keys may do as they like.

All this is for fewer calls than there are numbers. With more of them numbers are
given out twice, even to calls that do not overlap.

## Main definitions

* `Ledger.inHashOrder`: The transactions in the order of their hashes.
* `Explains`: A replay accounts for what is attached under a key.
* `Flight.Recorded`: Accepted calls are kept under hashes of their own.
* `Flight.InTurn`: Calls drew their numbers as they took effect.
* `Flight.Explained`: What finished calls leave.

## Theorems

* `Ledger.hashOf_lt`: Hashes are ordered as their numbers are.
* `Explains.congr`: Only the order of the messages with the key matters.
* `Flight.Coherent.inHashOrder_eq`: The order of the hashes is that of the draws.
* `Flight.calls_explained`: What any interleaving leaves.
* `Flight.overlapping_calls_unexplained`: The order of the hashes may not do.
* `Flight.inTurn_of_takeTurns`: When it does.
* `Flight.numbers_run_out`: More calls than numbers overwrite each other.
-/

namespace StoragePolicy

namespace Ledger

open Text

/-- Hashes are ordered as their numbers are. All of them have the same width, so
    the order of the texts is that of the digits. -/
theorem hashOf_lt {m n : UInt64} (h : m < n) : hashOf m < hashOf n := by
  have hfits : n.toNat < 16 ^ 64 := Nat.lt_of_lt_of_le n.toNat_lt (by norm_num)
  rw [hashOf, hashOf, String.lt_iff_toList_lt, String.toList_ofList, String.toList_ofList]
  exact fixedHex_lt (UInt64.lt_iff_toNat_lt.mp h) hfits

/-- The transactions in the order of their hashes. -/
def inHashOrder (ledger : Ledger) : List Transaction :=
  (ledger.transactions.entries.insertionSort fun a b => a.1 ≤ b.1).map Prod.snd

end Ledger

/-- Replaying messages accounts for what is attached under a key: those with the
    key are all accepted, and they leave what is there. -/
structure Explains (messages : List Message) (policies : PolicyTable) (key : PolicyKey) :
    Prop where
  accepts : ∀ m answer, (m, answer) ∈ (replay messages).exchanges → m.key = key → answer = .ok ()
  leaves : (replay messages).state.find? key = policies.find? key

/-- Only the order of the messages with the key matters. An order of all messages
    may thus be changed freely for one key without spoiling what it explains of
    another. -/
theorem Explains.congr {messages other : List Message} {policies : PolicyTable} {key : PolicyKey}
    (h : Explains messages policies key)
    (horder : about Message.key key messages = about Message.key key other) :
    Explains other policies key := by
  rcases PolicyTable.keyed_apply.agree {} horder with ⟨hview, hverdicts⟩
  refine ⟨fun m answer hmem hkey => ?_, hview.symm.trans h.leaves⟩
  -- The message fared in the one replay as it does in the other.
  have hfared : (m, faultOf? answer) ∈ (replay other).verdicts faultOf? Message.key key :=
    Transcript.mem_verdicts.mpr ⟨answer, hmem, hkey, rfl⟩
  rw [replay, ← hverdicts] at hfared
  rcases Transcript.mem_verdicts.mp hfared with ⟨answer', hmem', -, hsame⟩
  rw [h.accepts m answer' hmem' hkey] at hsame
  exact (faultOf?_eq_none_iff.mp hsame.symm).elim fun _ h => h

namespace Flight

variable {n : Nat} {calls : Fin n → Transaction} {s s' : Flight n} {i : Fin n}

/-! ## Nothing is lost -/

/-- Every accepted call is kept under its own hash, and nothing else is. So nothing
    is lost to an overlap, whatever it does to the order. -/
structure Recorded (calls : Fin n → Transaction) (s : Flight n) : Prop where
  found : ∀ i number, s.progress i = .accepted number →
    s.ledger.transaction? (hashOf number) = some (calls i)
  distinct : ∀ i j number, s.progress i = .accepted number → s.progress j = .accepted number →
    i = j
  only : ∀ hash tx, s.ledger.transaction? hash = some tx →
    ∃ i number, s.progress i = .accepted number ∧ hash = hashOf number ∧ tx = calls i

theorem Coherent.distinct (h : Coherent calls s) (hfew : n < 2 ^ 64) {j : Fin n} {number : UInt64}
    (hi : s.progress i = .accepted number) (hj : s.progress j = .accepted number) : i = j :=
  h.numbers.distinct hfew (by rw [hi]; rfl) (by rw [hj]; rfl)

/-- There is one entry under a hash. -/
theorem Coherent.entry_unique (h : Coherent calls s) (hfew : n < 2 ^ 64) :
    ∀ a ∈ s.ledger.transactions.entries, ∀ b ∈ s.ledger.transactions.entries,
      a.1 = b.1 → a = b := by
  intro a ha b hb hhash
  rcases (h.records.mem a).mp ha with ⟨i, number, hi, rfl⟩
  rcases (h.records.mem b).mp hb with ⟨j, number', hj, rfl⟩
  have hsame : number = number' := Ledger.hashOf_injective hhash
  subst hsame
  rw [h.distinct hfew hi hj]

/-- With fewer calls than numbers, nothing that was accepted is lost. -/
theorem Coherent.recorded (h : Coherent calls s) (hfew : n < 2 ^ 64) : Recorded calls s := by
  -- Searching a table without double hashes finds exactly its entries.
  have hfound : ∀ hash tx, s.ledger.transaction? hash = some tx ↔
      (hash, tx) ∈ s.ledger.transactions.entries :=
    fun _ _ => Table.find?_eq_some_iff (h.entry_unique hfew)
  refine ⟨fun i number hi => ?_, fun i j number hi hj => h.distinct hfew hi hj,
    fun hash tx htx => ?_⟩
  · rw [hfound, h.records.mem]
    exact ⟨i, number, hi, rfl⟩
  · rw [hfound, h.records.mem] at htx
    rcases htx with ⟨i, number, hi, heq⟩
    injection heq with hhash htx
    exact ⟨i, number, hi, hhash, htx⟩

/-! ## Orders of replay -/

/-- The entries of the calls that drew numbers, in that order. -/
def numberedCalls (calls : Fin n → Transaction) (s : Flight n) : List (String × Transaction) :=
  s.drawn.mapIdx fun k i => (hashOf (.ofNat (k + 1)), calls i)

theorem map_snd_numberedCalls (calls : Fin n → Transaction) (s : Flight n) :
    (s.numberedCalls calls).map Prod.snd = s.drawn.map calls := by
  refine List.ext_getElem? fun k => ?_
  rw [List.getElem?_map, numberedCalls, List.getElem?_mapIdx, List.getElem?_map, Option.map_map]
  rfl

/-- Their hashes ascend. -/
theorem Coherent.pairwise_numberedCalls (h : Coherent calls s) (hfew : n < 2 ^ 64) :
    (s.numberedCalls calls).Pairwise fun a b => a.1 < b.1 := by
  rw [List.pairwise_iff_getElem]
  intro k l hk hl hkl
  rw [numberedCalls, List.length_mapIdx] at hk hl
  have hlength := h.numbers.length_le
  have hkfits : k + 1 < 2 ^ 64 := by omega
  have hlfits : l + 1 < 2 ^ 64 := by omega
  simp only [numberedCalls, List.getElem_mapIdx]
  -- The places ascend, so the numbers do, and the hashes with them.
  refine Ledger.hashOf_lt ?_
  rw [UInt64.lt_iff_toNat_lt, UInt64.toNat_ofNat_of_lt' hkfits, UInt64.toNat_ofNat_of_lt' hlfits]
  omega

/-- When all calls have ended, these are the entries of the ledger. -/
theorem Coherent.perm_numberedCalls (h : Coherent calls s) (hfew : n < 2 ^ 64)
    (hfinished : s.Finished) :
    s.ledger.transactions.entries.Perm (s.numberedCalls calls) := by
  have hnodup : (s.numberedCalls calls).Nodup :=
    (h.pairwise_numberedCalls hfew).imp fun {a b} hlt heq => by
      rw [heq] at hlt
      exact lt_irrefl _ hlt
  -- Neither list has anything twice, so it is enough that they have the same entries.
  rw [List.perm_ext_iff_of_nodup h.records.once hnodup]
  intro entry
  rw [h.records.mem, numberedCalls, List.mem_mapIdx]
  constructor
  · rintro ⟨i, number, hi, rfl⟩
    rcases (h.numbers.number i number).mp (by rw [hi]; rfl) with ⟨k, hk, rfl⟩
    rcases List.getElem?_eq_some_iff.mp hk with ⟨hlt, hget⟩
    exact ⟨k, hlt, by rw [hget]⟩
  · rintro ⟨k, hlt, rfl⟩
    have hnumber := (h.numbers.number s.drawn[k] _).mpr ⟨k, List.getElem?_eq_getElem hlt, rfl⟩
    exact ⟨_, _, Progress.eq_accepted_of_ended (hfinished _) hnumber, rfl⟩

/-- When all calls have ended, the order of the hashes is the order in which their
    numbers were drawn. Before that there may be calls that have a number and no
    entry yet. -/
theorem Coherent.inHashOrder_eq (h : Coherent calls s) (hfew : n < 2 ^ 64)
    (hfinished : s.Finished) : s.ledger.inHashOrder = s.drawn.map calls := by
  have : Std.Total fun a b : String × Transaction => a.1 ≤ b.1 := ⟨fun a b => le_total a.1 b.1⟩
  have : IsTrans (String × Transaction) fun a b => a.1 ≤ b.1 := ⟨fun _ _ _ => le_trans⟩
  have hperm := h.perm_numberedCalls hfew hfinished
  rw [Ledger.inHashOrder, ← map_snd_numberedCalls]
  -- Sorting leaves one order of the entries, and that of the draws is sorted already.
  refine congrArg (List.map Prod.snd) (List.Perm.eq_of_pairwise ?_
    (List.pairwise_insertionSort _ _) ((h.pairwise_numberedCalls hfew).imp le_of_lt)
    ((List.perm_insertionSort _ _).trans hperm))
  intro a b ha hb hab hba
  exact h.entry_unique hfew a ((List.mem_insertionSort _).mp ha) b (hperm.mem_iff.mpr hb)
    (le_antisymm hab hba)

/-- The calls that took effect are those that drew numbers. -/
theorem Coherent.perm_drawn (h : Coherent calls s) (hfinished : s.Finished) :
    s.applied.Perm s.drawn := by
  rw [List.perm_ext_iff_of_nodup h.effects.once h.numbers.once]
  intro i
  -- An ended call that took effect was accepted, and for that it drew a number.
  rw [h.effects.mem, Progress.tookEffect_iff_of_ended (hfinished i), List.mem_iff_getElem?]
  constructor
  · rintro ⟨number, hnumber⟩
    rcases (h.numbers.number i number).mp hnumber with ⟨k, hk, -⟩
    exact ⟨k, hk⟩
  · rintro ⟨k, hk⟩
    exact ⟨_, (h.numbers.number i _).mpr ⟨k, hk, rfl⟩⟩

/-- The calls that took effect are those that are kept. -/
theorem Coherent.perm_kept (h : Coherent calls s) (hfew : n < 2 ^ 64) (hfinished : s.Finished) :
    (s.applied.map calls).Perm s.ledger.kept := by
  have hkept := (h.perm_numberedCalls hfew hfinished).map Prod.snd
  rw [map_snd_numberedCalls] at hkept
  exact ((h.perm_drawn hfinished).map calls).trans hkept.symm

/-- The order in which messages took effect explains all that is attached. -/
theorem Effects.explains (h : Effects calls s) (key : PolicyKey) :
    Explains (s.messages calls) s.ledger.policies key where
  accepts m answer hmem _ := h.accepts (m, answer) hmem
  leaves := by rw [h.leaves]

/-- The calls about a key drew their numbers in the order in which their messages
    took effect. -/
def InTurn (calls : Fin n → Transaction) (s : Flight n) (key : PolicyKey) : Prop :=
  about (fun i => Ledger.keyOf (calls i)) key s.applied =
    about (fun i => Ledger.keyOf (calls i)) key s.drawn

instance (calls : Fin n → Transaction) (s : Flight n) (key : PolicyKey) :
    Decidable (InTurn calls s key) :=
  inferInstanceAs (Decidable (_ = _))

/-- What a flight leaves when all calls have ended. -/
structure Explained (calls : Fin n → Transaction) (s : Flight n) : Prop where
  recorded : Recorded calls s
  /-- The calls that took effect are those that are kept, -/
  kept : (s.applied.map calls).Perm s.ledger.kept
  /-- and replaying them in that order accounts for what is attached. -/
  inOrderOfEffect : ∀ key,
    Explains ((s.applied.map calls).map Transaction.message) s.ledger.policies key
  /-- The order of the hashes will do for a key whose calls came in turn. -/
  inHashOrder : ∀ key, InTurn calls s key →
    Explains (s.ledger.inHashOrder.map Transaction.message) s.ledger.policies key

/-- However the steps of the calls are interleaved, nothing that was accepted is
    lost, and the ledger accounts for the attached policies: all of it in the
    order in which messages took effect, and key by key in the order of the
    hashes, where calls drew their numbers in the order in which they took effect.
    A call takes effect and draws its number in two steps, so this order is not
    always the same. -/
theorem calls_explained (hfew : n < 2 ^ 64) (chainId : String) (calls : Fin n → Transaction)
    (schedule : List (Fin n)) (hfinished : (run calls (start chainId) schedule).Finished) :
    Explained calls (run calls (start chainId) schedule) := by
  have h := coherent_run hfew calls chainId schedule
  refine ⟨h.recorded hfew, h.perm_kept hfew hfinished, h.effects.explains, fun key hturn => ?_⟩
  refine (h.effects.explains key).congr ?_
  -- The messages with the key are those of the calls about it, in either order.
  have hmessages : ∀ order : List (Fin n),
      about Message.key key ((order.map calls).map Transaction.message) =
        (about (fun i => Ledger.keyOf (calls i)) key order).map fun i => (calls i).message := by
    intro order
    rw [List.map_map, about_map]
    rfl
  rw [h.inHashOrder_eq hfew hfinished, messages, hmessages, hmessages, hturn]

/-- Three calls that overlap, two of which are about one key and come in turn. -/
theorem calls_explained_overlapping :
    let target (resource : String) : Target := ⟨"0x", resource, ⟨2, "9"⟩⟩
    let tx (m : Message) : Transaction := ⟨"here", m, [], ⟨List.replicate 20 0, rfl⟩, [1]⟩
    let calls : Fin 3 → Transaction := ![tx (.put (target "grn:b::photos") [⟨1, [6]⟩] none),
      tx (.put (target "grn:b::notes") [⟨2, [8]⟩] none), tx (.delete (target "grn:b::photos"))]
    let s := run calls (start "here") [0, 1, 0, 1, 1, 0, 2, 2, 2, 2, 1, 0]
    s.applied = [0, 1, 2] ∧ s.drawn = [1, 0, 2] ∧ 3 < 2 ^ 64 ∧ s.Finished ∧ Explained calls s ∧
      Explains (s.ledger.inHashOrder.map Transaction.message) s.ledger.policies
        ⟨"grn:b::photos", 2, "9"⟩ := by
  intro target tx calls s
  have hfinished : s.Finished := by decide +kernel
  have hexplained : Explained calls s :=
    calls_explained (by decide) "here" calls [0, 1, 0, 1, 1, 0, 2, 2, 2, 2, 1, 0] hfinished
  have hturn : InTurn calls s ⟨"grn:b::photos", 2, "9"⟩ := by decide +kernel
  exact ⟨by decide +kernel, by decide +kernel, by decide, hfinished, hexplained,
    hexplained.inHashOrder _ hturn⟩

/-- Two calls about one key that draw their numbers in the other order than they
    took effect: a policy is attached and then detached, and the hashes say that
    it was detached first. Replaying the ledger by its hashes refuses that. -/
theorem overlapping_calls_unexplained :
    let target : Target := ⟨"0x", "grn:b::photos", ⟨2, "9"⟩⟩
    let tx (m : Message) : Transaction := ⟨"here", m, [], ⟨List.replicate 20 0, rfl⟩, [1]⟩
    let calls : Fin 2 → Transaction := ![tx (.put target [⟨1, [6]⟩] none), tx (.delete target)]
    let s := run calls (start "here") [0, 0, 1, 1, 1, 0, 1, 0]
    s.Finished ∧ ¬ (Recorded calls s ∧
      ∀ key, Explains (s.ledger.inHashOrder.map Transaction.message) s.ledger.policies key) := by
  intro target tx calls s
  refine ⟨by decide +kernel, ?_⟩
  rintro ⟨-, hexplains⟩
  -- The call that detaches has the first number, and nothing is attached before it.
  have hrefused : (Message.delete target,
      Except.error (.nothingAttached target.resource target.grantee.value)) ∈
      (replay (s.ledger.inHashOrder.map Transaction.message)).exchanges := by decide +kernel
  have := (hexplains (Message.delete target).key).accepts _ _ hrefused rfl
  injection this

/-! ## Calls that come in turn -/

/-- No call about a key takes effect between the effect of another and its draw. -/
def TakeTurns (calls : Fin n → Transaction) (key : PolicyKey) (s : Flight n)
    (schedule : List (Fin n)) : Prop :=
  ∀ before i later, schedule = before ++ i :: later → Ledger.keyOf (calls i) = key →
    (run calls s before).progress i = .checked →
    ∀ j, Ledger.keyOf (calls j) = key → (run calls s before).progress j ≠ .applied

/-- The calls about a key drew their numbers as they took effect, but for one at
    most that has yet to draw. -/
def Pending (calls : Fin n → Transaction) (key : PolicyKey) (s : Flight n) : Prop :=
  ∃ pending : Option (Fin n),
    about (fun i => Ledger.keyOf (calls i)) key s.applied =
      about (fun i => Ledger.keyOf (calls i)) key s.drawn ++ pending.toList ∧
    ∀ j, pending = some j ↔ Ledger.keyOf (calls j) = key ∧ s.progress j = .applied

/-- A call that comes further without being or becoming the one to draw leaves it
    as it is. -/
theorem pending_moved_iff {key : PolicyKey} {pending : Option (Fin n)} {p : Progress}
    (hpending : ∀ j, pending = some j ↔ Ledger.keyOf (calls j) = key ∧ s.progress j = .applied)
    (hother : Ledger.keyOf (calls i) = key → s.progress i ≠ .applied ∧ p ≠ .applied) (j : Fin n) :
    pending = some j ↔ Ledger.keyOf (calls j) = key ∧ (s.moved i p).progress j = .applied := by
  rw [hpending, progress_moved]
  refine and_congr_right fun hj => ?_
  by_cases hji : j = i
  · subst hji
    rw [if_pos rfl]
    exact iff_of_false (hother hj).1 (hother hj).2
  · rw [if_neg hji]

/-- When none about the key is left to draw, the one that takes effect is. -/
theorem pending_effect_iff {key : PolicyKey} (hkey : Ledger.keyOf (calls i) = key)
    (hnone : ∀ j, Ledger.keyOf (calls j) = key → s.progress j ≠ .applied) (j : Fin n) :
    some i = some j ↔
      Ledger.keyOf (calls j) = key ∧ (s.moved i .applied).progress j = .applied := by
  rw [progress_moved, Option.some.injEq]
  by_cases hji : j = i
  · rw [if_pos hji]
    exact iff_of_true hji.symm ⟨hji ▸ hkey, rfl⟩
  · rw [if_neg hji]
    exact iff_of_false (Ne.symm hji) fun ⟨hjkey, happlied⟩ => hnone j hjkey happlied

/-- When the one that is left draws, none is. -/
theorem pending_draw_iff {key : PolicyKey} {number : UInt64}
    (honly : ∀ j, some i = some j ↔ Ledger.keyOf (calls j) = key ∧ s.progress j = .applied)
    (j : Fin n) :
    none = some j ↔
      Ledger.keyOf (calls j) = key ∧ (s.moved i (.drawn number)).progress j = .applied := by
  rw [progress_moved]
  refine iff_of_false nofun fun ⟨hjkey, happlied⟩ => ?_
  by_cases hji : j = i
  · rw [if_pos hji] at happlied
    injection happlied
  · rw [if_neg hji] at happlied
    exact hji (Option.some.inj ((honly j).mpr ⟨hjkey, happlied⟩)).symm

/-- Whatever a call does in its turn, one call at most is left to draw. -/
theorem Pending.moves {key : PolicyKey} (h : Pending calls key s) (hmove : Moves calls i s s')
    (hturn : Ledger.keyOf (calls i) = key → s.progress i = .checked →
      ∀ j, Ledger.keyOf (calls j) = key → s.progress j ≠ .applied) : Pending calls key s' := by
  rcases h with ⟨pending, horder, hpending⟩
  cases hmove with
  | rest hended => exact ⟨pending, horder, hpending⟩
  | quiet p hbefore hafter =>
      have hneither : ∀ q : Progress, q.tookEffect = false → q ≠ .applied := by
        rintro q hq rfl
        injection hq
      exact ⟨pending, horder, pending_moved_iff hpending fun _ =>
        ⟨hneither _ hbefore, hneither p hafter⟩⟩
  | record number hprogress =>
      exact ⟨pending, horder, pending_moved_iff hpending fun _ => ⟨hprogress ▸ nofun, nofun⟩⟩
  | effect hprogress hfound =>
      by_cases hkey : Ledger.keyOf (calls i) = key
      · -- It is this call's turn, so that none was left to draw.
        have hnone : pending = none := by
          rw [Option.eq_none_iff_forall_ne_some]
          intro j hj
          rcases (hpending j).mp hj with ⟨hjkey, happlied⟩
          exact hturn hkey hprogress j hjkey happlied
        refine ⟨some i, ?_, pending_effect_iff hkey (hturn hkey hprogress)⟩
        change about _ key (s.applied ++ [i]) = about _ key s.drawn ++ [i]
        rw [about_concat, if_pos hkey, horder, hnone, Option.toList_none, List.append_nil]
      · refine ⟨pending, ?_, pending_moved_iff hpending fun h => absurd h hkey⟩
        change about _ key (s.applied ++ [i]) = _
        rw [about_concat, if_neg hkey, List.append_nil]
        exact horder
  | draw hprogress =>
      by_cases hkey : Ledger.keyOf (calls i) = key
      -- A call about the key that draws is the one that was left to.
      · have hi : pending = some i := (hpending i).mpr ⟨hkey, hprogress⟩
        subst hi
        refine ⟨none, ?_, pending_draw_iff hpending⟩
        change about _ key s.applied = about _ key (s.drawn ++ [i]) ++ []
        rw [about_concat, if_pos hkey, horder, Option.toList_some, List.append_nil]
      · refine ⟨pending, ?_, pending_moved_iff hpending fun h => absurd h hkey⟩
        change _ = about _ key (s.drawn ++ [i]) ++ pending.toList
        rw [about_concat, if_neg hkey, List.append_nil]
        exact horder

/-- Calls that take turns draw their numbers as they take effect. This tells from
    the schedule alone, without running it, when the order of the hashes will do. -/
theorem inTurn_of_takeTurns (calls : Fin n → Transaction) (chainId : String) {key : PolicyKey}
    {schedule : List (Fin n)} (hturns : TakeTurns calls key (start chainId) schedule)
    (hfinished : (run calls (start chainId) schedule).Finished) :
    InTurn calls (run calls (start chainId) schedule) key := by
  have hpending : Pending calls key (run calls (start chainId) schedule) := by
    clear hfinished
    induction schedule using List.reverseRecOn with
    | nil => exact ⟨none, rfl, fun _ => iff_of_false nofun fun h => nomatch h.2⟩
    | append_singleton schedule i ih =>
        rw [run_concat]
        refine (ih fun before j later heq => ?_).moves (moves_step calls _ i)
          (hturns schedule i [] rfl)
        refine hturns before j (later ++ [i]) ?_
        rw [heq, List.append_assoc, List.cons_append]
  rcases hpending with ⟨pending, horder, hpending⟩
  -- All calls have ended, so none is left to draw.
  have hnone : pending = none := by
    rw [Option.eq_none_iff_forall_ne_some]
    intro j hj
    have hended := hfinished j
    rw [((hpending j).mp hj).2] at hended
    injection hended
  rw [InTurn, horder, hnone, Option.toList_none, List.append_nil]

/-! ## More calls than numbers -/

/-- A transaction that no ledger of the chain refuses: signed, for this chain, and
    not about detaching. -/
def Welcome (chainId : String) (tx : Transaction) : Prop :=
  tx.chainId = chainId ∧ tx.signature ≠ [] ∧ ∀ target, tx.message ≠ .delete target

/-- One call after another, all of them welcome, are all accepted. -/
theorem accepted_one_by_one (calls : Fin n → Transaction) (chainId : String)
    (hwelcome : ∀ i, Welcome chainId (calls i)) {order : List (Fin n)} (honce : order.Nodup) :
    let s := run calls (start chainId) (order.flatMap fun i => [i, i, i, i])
    s.ledger.chainId = chainId ∧
      ∀ i, if i ∈ order then ∃ number, s.progress i = .accepted number
        else s.progress i = .waiting := by
  induction order using List.reverseRecOn with
  | nil => exact ⟨rfl, fun i => by rw [if_neg List.not_mem_nil]; rfl⟩
  | append_singleton order i ih =>
      intro s
      have hs : s = run calls (run calls (start chainId) (order.flatMap fun i => [i, i, i, i]))
          [i, i, i, i] := by
        rw [← run_append, ← List.flatMap_singleton (fun i => [i, i, i, i]) i,
          ← List.flatMap_append]
      rcases List.nodup_append.mp honce with ⟨hbefore, -, hnew⟩
      have hi : i ∉ order := fun hmem => hnew i hmem i List.mem_cons_self rfl
      rcases ih hbefore with ⟨hchain, hprogress⟩
      have hwaiting := hprogress i
      rw [if_neg hi] at hwaiting
      -- The call has not begun, so that its steps in a row are a submission.
      rcases hwelcome i with ⟨htx, hsigned, hattaches⟩
      have hserve := Ledger.serve_of_accepted ((Ledger.faults_eq_none_iff _ _).mpr
        ⟨htx.trans hchain.symm, hsigned, fun target hm => absurd hm (hattaches target)⟩)
      rcases run_alone calls hwaiting with ⟨hledger, hanswer⟩
      rw [hserve] at hledger hanswer
      rcases hanswer with ⟨number, -, hafter⟩
      rw [hs]
      refine ⟨?_, fun j => ?_⟩
      · rw [hledger]
        exact hchain
      · rw [hafter, Function.update_apply]
        by_cases hji : j = i
        · subst hji
          rw [if_pos (List.mem_append_right _ List.mem_cons_self), if_pos rfl]
          exact ⟨number, rfl⟩
        · simp only [List.mem_append, List.mem_singleton, hji, or_false, if_false]
          exact hprogress j

/-- With more calls than numbers the numbers begin again, and what is accepted
    later takes the place of what was kept. So the bound on the number of calls
    cannot be left out where entries are counted. -/
theorem numbers_run_out (hmany : 2 ^ 64 < n) (calls : Fin n → Transaction) (chainId : String)
    (hwelcome : ∀ i, Welcome chainId (calls i)) :
    let s := run calls (start chainId) ((List.finRange n).flatMap fun i => [i, i, i, i])
    s.Finished ∧ ¬ Recorded calls s := by
  intro s
  have haccepted : ∀ i, ∃ number, s.progress i = .accepted number := by
    intro i
    have := (accepted_one_by_one calls chainId hwelcome (List.nodup_finRange n)).2 i
    rwa [if_pos (List.mem_finRange i)] at this
  refine ⟨fun i => ?_, fun hrecorded => ?_⟩
  · rcases haccepted i with ⟨number, hnumber⟩
    rw [hnumber]
    rfl
  · -- If no two calls shared a number, there would be as many numbers as calls.
    choose number hnumber using haccepted
    have hinjective : Function.Injective fun i =>
        (⟨(number i).toNat, (number i).toNat_lt⟩ : Fin (2 ^ 64)) := by
      intro i j hij
      have hsame : number i = number j := UInt64.toNat_inj.mp (congrArg Fin.val hij)
      exact hrecorded.distinct i j (number i) (hnumber i) (hsame ▸ hnumber j)
    have hcard := Fintype.card_le_of_injective _ hinjective
    rw [Fintype.card_fin, Fintype.card_fin] at hcard
    omega

end Flight

end StoragePolicy
