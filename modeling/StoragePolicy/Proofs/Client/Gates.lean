import StoragePolicy.Proofs.Client.Calls
import StoragePolicy.Proofs.Ledger.Replay

/-!
# Who Is Asked, and When

A client stands between its caller and two parties that cost something to ask.
The signer is asked only for requests that pass every check that can be made
without it, and never twice for one of them. The node is handed only what the
signer has just signed. A call that fails, wherever it fails, leaves the node as
it was, and of several faults it reports the one that is looked for first.

Each of these is a fact about one call, whatever session it meets, and is read
off the four ways in which a call can end. What is counted over a run is then a
sum over its calls: the signer was asked once for every request that passed, and
the node keeps one more transaction for every call that succeeded.

The last needs a node that was itself reached by submissions, since a ledger
whose hashes have begun again would record over what it has. A node that is down
keeps nothing and accepts nothing, so it fits the same sum.

## Main definitions

* `Client.Passes`: The checks before anybody is asked.
* `Client.events`: What a call asks of signer and node.
* `Client.Gated`: What holds of a single call.
* `ChainNode.Reached`: A node that has accepted so many transactions.

## Theorems

* `Client.localFaults_eq_none_iff`: Without a fault is what passes.
* `Client.gated`: Every call is gated.
* `Client.reached_run`, `Client.signCalls_run`: What a run adds up to.
* `Client.run_gated`: What every run of calls is.
-/

namespace StoragePolicy

open Text

namespace ChainNode

/-- How many transactions the node keeps. -/
def size : ChainNode → Nat
  | .ledger l => l.size
  | .down _ => 0

/-- A node as it may be found, with the number of transactions that it has
    accepted: it is down, or it is a ledger after some submissions. -/
inductive Reached : ChainNode → Nat → Prop where
  | down (fault : Transaction → Fault) : Reached (.down fault) 0
  | ledger (chainId : String) (txs : List Transaction) :
    Reached (.ledger (Transcript.of Ledger.serve (.new chainId) txs).state)
      (Transcript.of Ledger.serve (.new chainId) txs).granted.length

/-- A node keeps as many transactions as it has accepted, as long as the counter
    of its ledger has not begun again. -/
theorem Reached.size_eq {node : ChainNode} {n : Nat} (h : node.Reached n) (hfew : n < 2 ^ 64) :
    node.size = n := by
  cases h with
  | down fault => rfl
  | ledger chainId txs => exact (Ledger.logs_of chainId txs).size hfew

/-- Accepting once more is one submission more in the history of the ledger. -/
theorem Reached.accepted {l : Ledger} {n : Nat} (h : (ChainNode.ledger l).Reached n)
    {tx : Transaction} (hfaultless : firstFault (l.faults tx) = none) :
    (ChainNode.ledger (l.accepted tx)).Reached (n + 1) := by
  cases h with
  | ledger chainId txs =>
      -- The history with the new transaction at its end has this state and this length.
      have hserve := Ledger.serve_of_accepted hfaultless
      have hstate : (Transcript.of Ledger.serve (.new chainId) (txs ++ [tx])).state =
          (Transcript.of Ledger.serve (.new chainId) txs).state.accepted tx := by
        rw [Transcript.of_concat, Transcript.ask, hserve]
      have hlength : (Transcript.of Ledger.serve (.new chainId) (txs ++ [tx])).granted.length =
          (Transcript.of Ledger.serve (.new chainId) txs).granted.length + 1 := by
        rw [Transcript.of_concat, Transcript.granted_ask, hserve, List.length_append,
          List.length_singleton]
      rw [← hstate, ← hlength]
      exact .ledger chainId (txs ++ [tx])

end ChainNode

namespace Client

/-- The request passes every check that is made before anybody is asked. -/
def Passes (client : Client) : Request → Prop
  | .put r _ p asked clock =>
    p.statements.length ≤ client.config.permission.maxStatements.toNat ∧
      (asked = none → client.config.permission.defaultExpiration = 0 ∨ clock ≠ none) ∧
      p.Registered ∧ ∀ s ∈ p.statements, ∀ a : Action, a.tag ∈ s.tags → r.permits a = true
  | .delete _ _ => True

/-- Without a fault is what passes. The one side is what the client computes and the
    other what the request is. -/
theorem localFaults_eq_none_iff {client : Client} {request : Request} :
    firstFault (client.localFaults request) = none ↔ client.Passes request := by
  cases request with
  | delete r q => exact ⟨fun _ => trivial, fun _ => rfl⟩
  | put r q p asked clock =>
      -- A clause for each fault of the row; the last two are known of policies.
      have hlimit : client.limitFault p = none ↔
          p.statements.length ≤ client.config.permission.maxStatements.toNat := by
        simp only [limitFault, ite_eq_right_iff, reduceCtorEq, imp_false, Nat.not_lt]
      have hclock : client.clockFault asked clock = none ↔
          (asked = none → client.config.permission.defaultExpiration = 0 ∨ clock ≠ none) := by
        simp only [clockFault, ite_eq_right_iff, reduceCtorEq, imp_false, not_and, ne_eq]
        rw [imp_congr_right]
        intro _
        exact ⟨fun h => or_iff_not_imp_left.mpr h, fun h => or_iff_not_imp_left.mp h⟩
      simp only [firstFault_eq_none_iff, localFaults, List.mem_cons, List.not_mem_nil, or_false,
        forall_eq_or_imp, forall_eq]
      rw [hlimit, hclock, ← Policy.registered_iff, Policy.scopeFault_eq_none_iff]
      rfl

instance (client : Client) : DecidablePred client.Passes := fun _ =>
  decidable_of_iff _ localFaults_eq_none_iff

/-- What a call asks of signer and node. -/
def events (client : Client) (request : Request) (session : Session) : List Event :=
  (client.perform request session).2.journal.drop session.journal.length

/-- What holds of a single call, whoever signs and whatever the node is. The parts
    speak of the answer, of what was asked, and of what was left. -/
structure Gated (client : Client) (request : Request) (session : Session) : Prop where
  /-- What was asked before stays in the journal. -/
  journal : (client.perform request session).2.journal =
    session.journal ++ client.events request session
  /-- The signer is asked at most once. -/
  once : (client.events request session).countP Event.isSigning ≤ 1
  /-- Nobody is asked where a check fails. -/
  checked : ¬ client.Passes request → client.events request session = []
  /-- What the journal has of the signer is what it answered. -/
  answered : ∀ payload answer, .signing payload answer ∈ client.events request session →
    client.signer.sign payload session.signCalls = answer
  /-- What is handed to the node has just been signed, octet for octet. -/
  signed : ∀ earlier tx answer later,
    client.events request session = earlier ++ .submission tx answer :: later →
      ∃ before, earlier = before ++ [.signing tx.payload (.ok tx.signature)]
  /-- Of several faults, the one that is looked for first is reported. -/
  reported : faultOf? (client.perform request session).1 =
    firstFault (client.faults request session)
  /-- A failed call leaves the node as it was. -/
  unchanged : ∀ f, (client.perform request session).1 = .error f →
    (client.perform request session).2.node = session.node

/-- What has been added to the journal is what the call has asked. -/
theorem events_eq {client : Client} {request : Request} {session : Session} {added : List Event}
    (h : (client.perform request session).2.journal = session.journal ++ added) :
    client.events request session = added := by
  rw [events, h, List.drop_left]

/-- There are three things that a call can ask of signer and node: nothing, a
    signature that it does not get, or a signature and then the recording. What is
    said of single calls below is read off these three. -/
theorem events_cases (client : Client) (request : Request) (session : Session) :
    ¬ client.Passes request ∧ client.events request session = [] ∨
      client.Passes request ∧
        ((∃ f, client.signer.sign (client.payload request) session.signCalls = .error f ∧
            client.events request session = [.signing (client.payload request) (.error f)]) ∨
          ∃ signature answer,
            client.signer.sign (client.payload request) session.signCalls = .ok signature ∧
            client.events request session =
              [.signing (client.payload request) (.ok signature),
                .submission (client.signed request signature) answer]) := by
  have hends := client.perform_ends request session
  generalize hresult : client.perform request session = result at hends
  -- The last two ways of ending differ in the answer alone.
  cases hends with
  | refused hfault =>
      have hfails : ¬ client.Passes request := by
        rw [← localFaults_eq_none_iff, hfault]
        exact Option.some_ne_none _
      refine Or.inl ⟨hfails, events_eq ?_⟩
      rw [hresult, List.append_nil]
  | @unsigned f hpasses hanswer =>
      refine Or.inr ⟨localFaults_eq_none_iff.mp hpasses, Or.inl ⟨f, hanswer, events_eq ?_⟩⟩
      rw [hresult]
  | @rejected signature f hpasses hanswer hfault =>
      refine Or.inr ⟨localFaults_eq_none_iff.mp hpasses, Or.inr ⟨signature, .error f, hanswer, ?_⟩⟩
      exact events_eq (by rw [hresult])
  | @accepted signature ledger hpasses hanswer hnode hfaultless =>
      refine Or.inr ⟨localFaults_eq_none_iff.mp hpasses,
        Or.inr ⟨signature, .ok (hashOf ledger.next), hanswer, ?_⟩⟩
      exact events_eq (by rw [hresult])

/-- What a call asks goes to the end of the journal. -/
theorem journal_perform (client : Client) (request : Request) (session : Session) :
    (client.perform request session).2.journal =
      session.journal ++ client.events request session := by
  have hends := client.perform_ends request session
  rw [events]
  -- Before the journal is taken apart, since it stands on both sides.
  generalize client.perform request session = result at hends ⊢
  cases hends with
  | refused hfault => rw [List.drop_length, List.append_nil]
  | unsigned hpasses hanswer => rw [List.drop_left]
  | rejected hpasses hanswer hfault => rw [List.drop_left]
  | accepted hpasses hanswer hnode hfaultless => rw [List.drop_left]

/-- The signer is asked for what passes and for nothing else. -/
theorem countP_events (client : Client) (request : Request) (session : Session) :
    (client.events request session).countP Event.isSigning =
      if client.Passes request then 1 else 0 := by
  rcases client.events_cases request session with
    ⟨hfails, hevents⟩ | ⟨hpasses, ⟨f, -, hevents⟩ | ⟨signature, answer, -, hevents⟩⟩
  · rw [hevents, if_neg hfails]
    rfl
  · rw [hevents, if_pos hpasses]
    rfl
  · rw [hevents, if_pos hpasses]
    rfl

/-- What the journal has of the signer is what it answered. -/
theorem answer_of_signing {client : Client} {request : Request} {session : Session}
    {payload : Octets} {answer : Except Fault Octets}
    (h : .signing payload answer ∈ client.events request session) :
    client.signer.sign payload session.signCalls = answer := by
  rcases client.events_cases request session with
    ⟨-, hevents⟩ | ⟨-, ⟨f, hanswer, hevents⟩ | ⟨signature, answer', hanswer, hevents⟩⟩
  · rw [hevents] at h
    exact absurd h List.not_mem_nil
  · rw [hevents, List.mem_singleton] at h
    injection h with hpayload hsigned
    rw [hpayload, hsigned]
    exact hanswer
  -- Of the two events, the submission is none of the signer's.
  · rw [hevents, List.mem_cons, List.mem_singleton] at h
    rcases h with h | h
    · injection h with hpayload hsigned
      rw [hpayload, hsigned]
      exact hanswer
    · injection h

/-- Only what was signed is submitted. -/
theorem signed_of_submission {client : Client} {request : Request} {session : Session}
    {earlier later : List Event} {tx : Transaction} {answer : Except Fault String}
    (h : client.events request session = earlier ++ .submission tx answer :: later) :
    ∃ before, earlier = before ++ [.signing tx.payload (.ok tx.signature)] := by
  rcases client.events_cases request session with
    ⟨-, hevents⟩ | ⟨-, ⟨f, -, hevents⟩ | ⟨signature, answer', -, hevents⟩⟩
  · rw [hevents, List.nil_eq, List.append_eq_nil_iff] at h
    exact absurd h.2 (List.cons_ne_nil _ _)
  -- A submission can neither be the first event nor stand behind a failed signing.
  · rw [hevents, List.cons_eq_append_iff] at h
    rcases h with ⟨-, h⟩ | ⟨rest, -, h⟩
    · injection h with h
      injection h
    · rw [List.nil_eq, List.append_eq_nil_iff] at h
      exact absurd h.2 (List.cons_ne_nil _ _)
  · rw [hevents, List.cons_eq_append_iff] at h
    rcases h with ⟨-, h⟩ | ⟨rest, rfl, h⟩
    · injection h with h
      injection h
    -- So it is the second, and what stands before it is the signing alone.
    · rw [List.cons_eq_append_iff] at h
      rcases h with ⟨rfl, h⟩ | ⟨rest', -, h⟩
      · injection h with h
        injection h with htx
        subst htx
        exact ⟨[], rfl⟩
      · rw [List.nil_eq, List.append_eq_nil_iff] at h
        exact absurd h.2 (List.cons_ne_nil _ _)

/-- A failed call leaves the node as it was. -/
theorem node_of_error {client : Client} {request : Request} {session : Session} {f : Fault}
    (h : (client.perform request session).1 = .error f) :
    (client.perform request session).2.node = session.node := by
  rcases client.perform_node_cases request session with
    ⟨-, -, hnode⟩ | ⟨signature, ledger, -, -, -, -, hanswer, -⟩
  · exact hnode
  · rw [hanswer] at h
    injection h

/-- Every call is gated, whatever was asked in the session before. Nothing has to
    be known of the signer: it may refuse, and may answer differently each time.
    Nor does it matter whether the node is a ledger or is down. -/
theorem gated (client : Client) (request : Request) (session : Session) :
    client.Gated request session where
  journal := client.journal_perform request session
  once := by
    rw [countP_events]
    by_cases hpasses : client.Passes request
    · rw [if_pos hpasses]
    · rw [if_neg hpasses]
      exact Nat.zero_le 1
  checked := by
    intro hfails
    rcases client.events_cases request session with ⟨-, hevents⟩ | ⟨hpasses, -⟩
    · exact hevents
    · exact absurd hpasses hfails
  answered _ _ := answer_of_signing
  signed _ _ _ _ := signed_of_submission
  reported := client.faultOf?_perform request session
  unchanged _ := node_of_error

/-! ## Runs of calls -/

/-- A node stays one that was reached, and each call that succeeds counts. A node
    that is down stays down, and no call succeeds on it. The number of calls is
    what later tells that no hash has been given out twice. -/
theorem reached_run (client : Client) {start : Session} {n : Nat} (hnode : start.node.Reached n)
    (requests : List Request) :
    (Transcript.of client.perform start requests).state.node.Reached
      (n + (Transcript.of client.perform start requests).granted.length) := by
  -- On the last call, since a history of the ledger grows at its end, too.
  induction requests using List.reverseRecOn with
  | nil => exact hnode
  | append_singleton requests request ih =>
      rw [Transcript.of_concat, Transcript.granted_ask, Transcript.ask]
      rcases client.perform_node_cases request (Transcript.of client.perform start requests).state
        with ⟨f, hanswer, hstate⟩ | ⟨signature, ledger, -, -, hledger, hfaultless, hanswer, hstate⟩
      · rw [hanswer, hstate, List.append_nil]
        exact ih
      · rw [hledger] at ih
        rw [hanswer, hstate, List.length_append, List.length_singleton, ← Nat.add_assoc]
        exact ih.accepted hfaultless

/-- The signer is asked once for every request that passes, and never for another,
    over any run. It is counted how often it was asked, so a second request for
    the same signature would be noticed. -/
theorem signCalls_run (client : Client) (start : Session) (requests : List Request) :
    (Transcript.of client.perform start requests).state.signCalls =
      start.signCalls + requests.countP (client.Passes ·) := by
  -- The journal is never cut, so the signings of the calls add up.
  induction requests using List.reverseRecOn with
  | nil => rfl
  | append_singleton requests request ih =>
      rw [Transcript.of_concat, Transcript.ask, Session.signCalls, journal_perform,
        List.countP_append, countP_events, List.countP_append, ← Nat.add_assoc, ← ih,
        List.countP_singleton]
      simp only [decide_eq_true_eq]
      rfl

/-- What every run of calls is, from any node that was reached: each call is
    gated, the signer was asked for the requests that pass, and the node keeps
    what was granted. A call that is refused at a gate costs neither a signature
    nor a submission, and one that is refused at all leaves the node as it was. -/
theorem run_gated (client : Client) (start : Session) (n : Nat) (hnode : start.node.Reached n)
    (requests : List Request)
    (hfew : n + (Transcript.of client.perform start requests).granted.length < 2 ^ 64) :
    let run := Transcript.of client.perform start
    (∀ before request later, before ++ request :: later = requests →
      client.Gated request (run before).state) ∧
    (run requests).state.signCalls = start.signCalls + requests.countP (client.Passes ·) ∧
    (run requests).state.node.size = start.node.size + (run requests).granted.length := by
  intro run
  refine ⟨fun _ _ _ _ => client.gated _ _, client.signCalls_run start requests, ?_⟩
  -- Both sizes are numbers of accepted transactions, before the run and behind it.
  rw [(client.reached_run hnode requests).size_eq hfew,
    hnode.size_eq (Nat.lt_of_le_of_lt (Nat.le_add_right _ _) hfew)]

/-- A run of a newly made client in which three requests of five pass and two of
    these succeed: one policy is too long, one does not fit its resource, and
    there is nothing left to remove in the end. -/
theorem run_gated_mixed :
    let config : Config :=
      ⟨1, ⟨"here", "node:443", "node:9090"⟩, ⟨"0x0000000000000000000000000000000000000000"⟩,
        ⟨0, 1⟩⟩
    let address : Address := ⟨List.replicate 20 0, rfl⟩
    let signer : Signer := ⟨address, fun payload _ => .ok payload⟩
    let client : Client := ⟨config, address, signer⟩
    let bucket : Resource := .bucket "photos"
    let allow (tag : String) : Statement := ⟨.allow, [tag]⟩
    let requests : List Request := [
      .put bucket (.group 7) ⟨[allow "get-object", allow "no-action"]⟩ none none,
      .put bucket (.group 7) ⟨[allow "delete-group"]⟩ none none,
      .put bucket (.group 7) ⟨[allow "get-object"]⟩ none none,
      .delete bucket (.group 7), .delete bucket (.group 7)]
    let start : Session := { node := .ledger (.new "here") }
    let run := Transcript.of client.perform start
    Client.new config signer = .ok client ∧ start.node.Reached 0 ∧
      (run requests).granted.length = 2 ∧ requests.countP (client.Passes ·) = 3 ∧
      (run requests).state.signCalls = 3 ∧ (run requests).state.node.size = 2 := by
  intro config address signer client bucket allow requests start run
  have hclient : Client.new config signer = .ok client :=
    new_eq_ok_iff.mpr ⟨by decide +kernel, by decide +kernel, rfl⟩
  have hnode : start.node.Reached 0 := .ledger "here" []
  have hgranted : (run requests).granted.length = 2 := by decide +kernel
  have hpass : requests.countP (client.Passes ·) = 3 := by decide +kernel
  have hfew : 0 + (run requests).granted.length < 2 ^ 64 := by
    rw [hgranted]
    decide
  -- The two sums of the theorem, for the counts of this run.
  rcases run_gated client start 0 hnode requests hfew with ⟨-, hcalls, hsize⟩
  rw [hpass] at hcalls
  rw [hgranted] at hsize
  exact ⟨hclient, hnode, hgranted, hpass, hcalls, hsize⟩

end Client

end StoragePolicy
