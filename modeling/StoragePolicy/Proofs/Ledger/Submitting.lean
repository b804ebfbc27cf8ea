import StoragePolicy.Ledger
import StoragePolicy.Proofs.FirstFault

/-!
# Submitting

What one submission does to a ledger, in one equation: there are three faults
that it can meet, looked for in a fixed order, and without any of them the
transaction is recorded under the next number and its message takes effect.

The steps work on the one ledger that there is, and what a step did before a
refusal stays done. One step writes before it can refuse: a policy is removed,
and only then found not to have been there. It writes nothing where it refuses,
so a refused submission leaves the ledger as it was after all.

## Main definitions

* `PolicyTable.after`, `PolicyTable.detachFault`: What a message does to the
  attached policies, and why it cannot.
* `Ledger.faults`, `Ledger.accepted`: The same for a transaction.

## Theorems

* `PolicyTable.find?_after`: A message decides what is under its key, and only
  there.
* `PolicyTable.apply_eq`: What applying a message comes to.
* `Ledger.faults_eq_none_iff`: When there is nothing against a transaction.
* `Ledger.serve_eq`, `Ledger.faultOf?_serve`: What a submission comes to.
-/

namespace StoragePolicy

/-- What a message leaves under its key. -/
def Message.attached? : Message → Option (List CodedStatement)
  | .put _ statements _ => some statements
  | .delete _ => none

namespace PolicyTable

/-- The policies after a message that found what it needs. -/
def after (policies : PolicyTable) (m : Message) : PolicyTable :=
  match m with
  | .put _ statements _ => policies.put m.key statements
  | .delete _ => policies.erase m.key

/-- Why a message does not find what it needs. Only detaching needs anything. -/
def detachFault (policies : PolicyTable) (m : Message) : Option Fault :=
  match m with
  | .put _ _ _ => none
  | .delete target =>
    if policies.find? m.key = none then
      some (.nothingAttached target.resource target.grantee.value)
    else none

/-- A message decides what is under its key and leaves all other keys alone. All that
    is said about the policies of a ledger goes back to this. -/
theorem find?_after (policies : PolicyTable) (m : Message) (key : PolicyKey) :
    (policies.after m).find? key = if m.key = key then m.attached? else policies.find? key := by
  cases m with
  | put target statements expiration => exact Table.find?_put policies _ key statements
  | delete target => exact Table.find?_erase policies _ key

/-- A message takes effect unless it does not find what it needs. Removing what
    is not there leaves the policies as they were, so that refusing afterwards
    comes to refusing before. -/
theorem apply_eq (policies : PolicyTable) (m : Message) :
    policies.apply m =
      match policies.detachFault m with
      | none => (.ok (), policies.after m)
      | some f => (.error f, policies) := by
  cases m with
  | put target statements expiration => rfl
  | delete target =>
      -- The removal comes first in the code, and the question whether there was anything second.
      cases h : policies.find? (Message.delete target).key with
      | none =>
          simp only [apply, Table.take, detachFault, h, if_true, Table.erase_of_find?_eq_none h]
      | some statements =>
          simp only [apply, Table.take, detachFault, h, reduceCtorEq, if_false, after]

end PolicyTable

namespace Ledger

/-- The faults that a transaction may meet, in the order of the steps. -/
def faults (ledger : Ledger) (tx : Transaction) : List (Option Fault) :=
  [if tx.chainId = ledger.chainId then none else some (.chainMismatch tx.chainId ledger.chainId),
    if tx.signature = [] then some .missingSignature else none,
    ledger.policies.detachFault tx.message]

/-- The ledger after a transaction that met none of them. -/
def accepted (ledger : Ledger) (tx : Transaction) : Ledger where
  chainId := ledger.chainId
  next := ledger.next + 1
  transactions := ledger.transactions.put (hashOf ledger.next) tx
  policies := ledger.policies.after tx.message

/-- A transaction meets no fault if it is for this chain, signed, and finds what
    it is to detach. The signature only has to be there: whose it is and what it
    is of is nothing that the ledger looks at. -/
theorem faults_eq_none_iff (ledger : Ledger) (tx : Transaction) :
    firstFault (ledger.faults tx) = none ↔
      tx.chainId = ledger.chainId ∧ tx.signature ≠ [] ∧
        ∀ target, tx.message = .delete target → ∃ statements,
          ledger.policy? target.resource target.grantee.kind target.grantee.value =
            some statements := by
  -- The two checks of the envelope read off; what a message needs depends on its kind.
  have hdetach : ledger.policies.detachFault tx.message = none ↔
      ∀ target, tx.message = .delete target → ∃ statements,
        ledger.policy? target.resource target.grantee.kind target.grantee.value =
          some statements := by
    cases hm : tx.message with
    | put target statements expiration =>
        simp only [PolicyTable.detachFault, reduceCtorEq, false_implies, implies_true]
    | delete target =>
        simp only [PolicyTable.detachFault, Message.delete.injEq, forall_eq', ite_eq_right_iff,
          reduceCtorEq, imp_false, ← ne_eq, Option.ne_none_iff_exists']
        rfl
  rw [firstFault_eq_none_iff, faults, ← hdetach]
  simp only [List.mem_cons, List.not_mem_nil, or_false, forall_eq_or_imp, forall_eq,
    ite_eq_left_iff, ite_eq_right_iff, reduceCtorEq, imp_false, not_not, ne_eq]

/-- An accepted transaction is found under the hash that was given out for it. -/
theorem transaction?_accepted (ledger : Ledger) (tx : Transaction) (hash : String) :
    (ledger.accepted tx).transaction? hash =
      if hashOf ledger.next = hash then some tx else ledger.transaction? hash :=
  Table.find?_put _ _ _ _

/-- What the check of the envelope comes to: the chain is compared before the
    signature is looked for. -/
theorem check_eq (ledger : Ledger) (tx : Transaction) :
    ledger.check tx = granting
      [if tx.chainId = ledger.chainId then none
        else some (.chainMismatch tx.chainId ledger.chainId),
      if tx.signature = [] then some .missingSignature else none] () := by
  unfold check
  by_cases hchain : tx.chainId = ledger.chainId
  · by_cases hsignature : tx.signature = []
    · simp only [ne_eq, hchain, not_true, if_false, hsignature, if_true]
      rfl
    · simp only [ne_eq, hchain, not_true, if_false, hsignature, if_true]
      rfl
  · simp only [ne_eq, hchain, not_false_eq_true, if_true, if_false]
    rfl

/-- What a message does to a ledger, which is what it does to its policies. A refused
    one leaves both as they were. -/
theorem apply_eq (ledger : Ledger) (m : Message) :
    ledger.apply m =
      match ledger.policies.detachFault m with
      | none => (.ok (), { ledger with policies := ledger.policies.after m })
      | some f => (.error f, ledger) := by
  rw [apply, PolicyTable.apply_eq]
  cases ledger.policies.detachFault m with
  | none => rfl
  | some f => rfl

/-- What a submission comes to. This is the only place where its steps are gone
    through; runs of submissions are reasoned about by this equation. -/
theorem serve_eq (tx : Transaction) (ledger : Ledger) :
    serve tx ledger =
      match firstFault (ledger.faults tx) with
      | none => (.ok (hashOf ledger.next), ledger.accepted tx)
      | some f => (.error f, ledger) := by
  have hfaults : firstFault (ledger.faults tx) =
      (faultOf? (ledger.check tx)).or (ledger.policies.detachFault tx.message) := by
    rw [check_eq, faultOf?_granting]
    exact firstFault_concat [_, _] _
  -- One case for the envelope and one for the message, in the order of the steps.
  rw [hfaults, serve, apply_eq]
  cases ledger.check tx with
  | error f => rfl
  | ok _ =>
      cases ledger.policies.detachFault tx.message with
      | none => rfl
      | some f => rfl

/-- The fault of a submission is the first that it meets: the chain, the signature,
    and then what the message itself needs. -/
theorem faultOf?_serve (tx : Transaction) (ledger : Ledger) :
    faultOf? (serve tx ledger).1 = firstFault (ledger.faults tx) := by
  rw [serve_eq]
  cases firstFault (ledger.faults tx) with
  | none => rfl
  | some f => rfl

theorem serve_of_accepted {ledger : Ledger} {tx : Transaction}
    (h : firstFault (ledger.faults tx) = none) :
    serve tx ledger = (.ok (hashOf ledger.next), ledger.accepted tx) := by
  rw [serve_eq, h]

theorem serve_of_refused {ledger : Ledger} {tx : Transaction} {f : Fault}
    (h : firstFault (ledger.faults tx) = some f) : serve tx ledger = (.error f, ledger) := by
  rw [serve_eq, h]

end Ledger

end StoragePolicy
