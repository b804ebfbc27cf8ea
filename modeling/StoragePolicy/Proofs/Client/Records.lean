import StoragePolicy.Proofs.Client.Gates

/-!
# What Is Recorded

Between a request and the transaction that is kept for it lie coding, dating,
writing, signing and submitting. A transaction that is found in the ledger is
traced back through all of them: it says what a request asked for, it belongs to
the chain and the operator of the configuration, its payload is its own message
as it is written for signing, and its signature is what the signer answered when
it was asked for just that payload.

The statement is about every transaction that can be found, at any time, under
any hash. It is kept by every call, because a call that is accepted adds one
transaction of that kind and takes none back, while the calls and answers that
the others are traced to stay where they are. Hashes that begin again do no
harm: what is recorded over is no longer found.

## Main definitions

* `Client.Expires`: The expiration that a policy is to have.
* `Resource.Coded`: A statement in codes that fit a resource.
* `Client.Says`: A message says what a request asked for.
* `Client.Recorded`: A transaction can be traced back.

## Theorems

* `Client.toNat_saturatingAdd`: Times are added up to the last second.
* `Client.says_message`: What is sent says what was asked for.
* `Client.records_traced`: Every transaction that is found can be traced back.
-/

namespace StoragePolicy

open Text

/-- A statement in codes: an effect, and actions that the resource permits. -/
structure Resource.Coded (r : Resource) (s : CodedStatement) : Prop where
  effect : s.effect = 1 ∨ s.effect = 2
  actions : ∀ code ∈ s.actions, 1 ≤ code ∧ code ≤ 10 ∧
    ∃ a : Action, a.code = code ∧ r.permits a = true

/-- A checked configuration allows at most sixty-four statements. -/
theorem Config.maxStatements_le {c : Config} (h : c.check = .ok ()) :
    c.permission.maxStatements.toNat ≤ 64 := by
  -- The section is checked last, and all that is checked before it has passed.
  have hpermission : c.permission.check = .ok () := by
    by_cases hversion : c.version = 1
    · simp only [check, hversion, ne_eq, not_true, if_false] at h
      rcases bind_eq_ok_iff.mp h with ⟨_, -, h⟩
      rcases bind_eq_ok_iff.mp h with ⟨_, -, h⟩
      exact h
    · simp only [check, hversion, ne_eq, not_false_eq_true, if_true] at h
      injection h
  by_cases hlimit : 1 ≤ c.permission.maxStatements ∧ c.permission.maxStatements ≤ 64
  · exact UInt64.le_iff_toNat_le.mp hlimit.2
  · rw [PermissionSection.check, if_neg hlimit] at hpermission
    injection hpermission

theorem Effect.code_eq (e : Effect) : e.code = 1 ∨ e.code = 2 := by
  cases e with
  | allow => exact Or.inl rfl
  | deny => exact Or.inr rfl

theorem Action.code_bounds (a : Action) : 1 ≤ a.code ∧ a.code ≤ 10 := by
  cases a <;> decide

/-- A statement whose actions are permitted has codes that are in order. -/
theorem Statement.coded_fits {s : Statement} {r : Resource}
    (h : ∀ a : Action, a.tag ∈ s.tags → r.permits a = true) : r.Coded s.coded where
  effect := s.effect.code_eq
  actions := by
    intro code hcode
    rcases List.mem_map.mp hcode with ⟨a, ha, rfl⟩
    exact ⟨a.code_bounds.1, a.code_bounds.2, a, rfl, h a (Statement.mem_known.mp ha)⟩

namespace Client

/-- The expiration that a policy is to have: the one that it names, or the
    configured time from now, but never more than the last second. -/
def Expires (config : Config) (asked clock expiration : Option UInt64) : Prop :=
  match asked with
  | some time => expiration = some time
  | none =>
    let seconds := config.permission.defaultExpiration
    if seconds = 0 then expiration = none
    else ∃ now time, clock = some now ∧ expiration = some time ∧
      time.toNat = min (now.toNat + seconds.toNat) (2 ^ 64 - 1)

/-- The message says what the request asked for. -/
def Says (config : Config) (operator : Address) (m : Message) : Request → Prop
  | .put r q p asked clock => ∃ statements expiration,
    m = .put ⟨operator.text, r.text, ⟨q.code, q.value⟩⟩ statements expiration ∧
      (p.statements.mapM fun s => CodedStatement.ofStatement s r) = .ok statements ∧
      statements.length ≤ config.permission.maxStatements.toNat ∧
      config.permission.maxStatements.toNat ≤ 64 ∧ (∀ s ∈ statements, r.Coded s) ∧
      Expires config asked clock expiration
  | .delete r q => m = .delete ⟨operator.text, r.text, ⟨q.code, q.value⟩⟩

/-- A transaction that was found under a hash can be traced back: to the chain of the
    node, to an answer of the signer, and to a request that was answered with the
    hash. -/
structure Recorded (config : Config) (signer : Signer) (chainId : String)
    (run : Transcript Request (Except Fault String) Session) (hash : String)
    (tx : Transaction) : Prop where
  /-- It is for the chain of the configuration, which is that of the node. -/
  chain : tx.chainId = config.chain.chainId ∧ tx.chainId = chainId
  /-- It is signed as the operator of the configuration. -/
  operator : config.operator = .ok tx.signer
  payload : tx.payload = tx.message.signBytes tx.chainId
  /-- It is signed with what the signer answered for the payload. -/
  signature : tx.signature ≠ [] ∧ ∃ earlier later,
    run.state.journal = earlier ++ .signing tx.payload (.ok tx.signature) :: later ∧
      signer.sign tx.payload (earlier.countP Event.isSigning) = .ok tx.signature
  /-- It was answered with the hash, and says what was asked for. -/
  request : ∃ request, (request, .ok hash) ∈ run.exchanges ∧
    Says config tx.signer tx.message request

/-- Times are added up to the last second that can be represented. An expiration
    that is too far away is therefore dated there, and never in the past. -/
theorem toNat_saturatingAdd (a b : UInt64) :
    (saturatingAdd a b).toNat = min (a.toNat + b.toNat) (2 ^ 64 - 1) := by
  unfold saturatingAdd
  -- The sum fits, or the last second stands for it.
  by_cases hfits : a.toNat + b.toNat < UInt64.size
  · rw [if_pos hfits, UInt64.toNat_add]
    have hsize : UInt64.size = 2 ^ 64 := rfl
    omega
  · rw [if_neg hfits]
    have hsize : UInt64.size = 2 ^ 64 := rfl
    have hlast : (UInt64.ofNat (UInt64.size - 1)).toNat = 2 ^ 64 - 1 := by decide
    rw [hlast]
    omega

/-- The expiration that is sent is the one that the policy is to have. -/
theorem expires_dated {client : Client} {asked clock : Option UInt64}
    (h : asked = none → client.config.permission.defaultExpiration = 0 ∨ clock ≠ none) :
    Expires client.config asked clock (client.dated asked clock) := by
  cases asked with
  | some time => rfl
  | none =>
      by_cases hnever : client.config.permission.defaultExpiration = 0
      · cases clock with
        | none => simp only [Expires, dated, hnever, if_true, Option.bind_none]
        | some now => simp only [Expires, dated, defaultExpiration, hnever, if_true,
            Option.bind_some]
      -- A time is to be added, so there was a clock.
      · rcases Option.ne_none_iff_exists'.mp ((h rfl).resolve_left hnever) with ⟨now, rfl⟩
        simp only [Expires, dated, defaultExpiration, hnever, if_false, Option.bind_some]
        exact ⟨now, _, rfl, rfl, toNat_saturatingAdd _ _⟩

/-- What is sent says what was asked for. This is about requests that the client
    itself does not refuse; of others there is no message to speak of. The
    configuration comes in through the operator and the usual time after which a
    policy expires. -/
theorem says_message {client : Client} (hcheck : client.config.check = .ok ())
    {request : Request} (h : client.Passes request) :
    Says client.config client.operator (client.message request) request := by
  cases request with
  | delete r q => rfl
  | put r q p asked clock =>
      rcases h with ⟨hlimit, hclock, hregistered, hpermitted⟩
      -- With its tags registered and its actions permitted, the policy has its translation.
      have hcoded := Policy.mapM_ofStatement_eq hregistered r
      rw [Policy.scopeFault_eq_none_iff.mpr hpermitted] at hcoded
      refine ⟨p.coded, client.dated asked clock, rfl, hcoded, ?_, ?_, ?_, expires_dated hclock⟩
      · rw [Policy.coded, List.length_map]
        exact hlimit
      · exact Config.maxStatements_le hcheck
      · intro s hs
        rcases List.mem_map.mp hs with ⟨s', hs', rfl⟩
        exact Statement.coded_fits (hpermitted s' hs')

/-! ## Runs of calls -/

/-- One more call leaves the calls and answers that were there. -/
theorem Recorded.later {config : Config} {client : Client} {chainId : String}
    {run : Transcript Request (Except Fault String) Session} {hash : String} {tx : Transaction}
    (h : Recorded config client.signer chainId run hash tx) (request : Request) :
    Recorded config client.signer chainId (run.ask client.perform request) hash tx where
  chain := h.chain
  operator := h.operator
  payload := h.payload
  signature := by
    rcases h.signature with ⟨hsigned, earlier, later, hjournal, hanswer⟩
    refine ⟨hsigned, earlier, later ++ client.events request run.state, ?_, hanswer⟩
    rw [Transcript.ask, journal_perform, hjournal, List.append_assoc, List.cons_append]
  request := by
    rcases h.request with ⟨asked, hasked, hsays⟩
    exact ⟨asked, List.mem_append_left _ hasked, hsays⟩

/-- What a call records can be traced back to it. The journal shows the signature
    behind everything that was asked before, and the answer of the call is the
    last one, so both are found at the end of the run. -/
theorem Recorded.of_signed {client : Client} {chainId : String}
    {run : Transcript Request (Except Fault String) Session} {request : Request}
    {signature : Octets} {hash : String}
    (hcheck : client.config.check = .ok ())
    (hoperator : client.config.operator = .ok client.operator)
    (hpasses : client.Passes request)
    (hanswer : client.signer.sign (client.payload request) run.state.signCalls = .ok signature)
    (hchain : client.config.chain.chainId = chainId) (hsigned : signature ≠ [])
    (hgranted : (client.perform request run.state).1 = .ok hash) :
    Recorded client.config client.signer chainId (run.ask client.perform request) hash
      (client.signed request signature) where
  chain := ⟨rfl, hchain⟩
  operator := hoperator
  payload := rfl
  signature := by
    -- Of what a call can ask, only the row with a signature and a submission is left.
    rcases client.events_cases request run.state with
      ⟨hfails, -⟩ | ⟨-, ⟨f, hrefused, -⟩ | ⟨signature', answer, hanswer', hevents⟩⟩
    · exact absurd hpasses hfails
    · rw [hanswer] at hrefused
      injection hrefused
    · rw [hanswer] at hanswer'
      injection hanswer' with hsignature
      subst hsignature
      refine ⟨hsigned, run.state.journal,
        [.submission (client.signed request signature) answer], ?_, hanswer⟩
      rw [Transcript.ask, journal_perform, hevents]
      rfl
  request := by
    refine ⟨request, ?_, says_message hcheck hpasses⟩
    rw [Transcript.ask, hgranted]
    exact List.mem_append_right _ List.mem_cons_self

/-- The node is a ledger of the chain, and every transaction that is found in it
    can be traced back. -/
def Traced (config : Config) (signer : Signer) (chainId : String)
    (run : Transcript Request (Except Fault String) Session) : Prop :=
  ∃ ledger, run.state.node = .ledger ledger ∧ ledger.chainId = chainId ∧
    ∀ hash tx, ledger.transaction? hash = some tx → Recorded config signer chainId run hash tx

/-- One more call keeps what could be traced back and adds at most one
    transaction of that kind. -/
theorem Traced.ask (client : Client) {chainId : String}
    {run : Transcript Request (Except Fault String) Session}
    (h : Traced client.config client.signer chainId run)
    (hcheck : client.config.check = .ok ())
    (hoperator : client.config.operator = .ok client.operator) (request : Request) :
    Traced client.config client.signer chainId (run.ask client.perform request) := by
  rcases h with ⟨ledger, hnode, hchain, htraced⟩
  have hlater := fun hash tx hfound => (htraced hash tx hfound).later request
  rcases client.perform_node_cases request run.state with ⟨f, -, hstate⟩ |
    ⟨signature, ledger', hpasses, hanswer, hnode', hfaultless, hgranted, hstate⟩
  · exact ⟨ledger, hstate.trans hnode, hchain, hlater⟩
  · rw [hnode] at hnode'
    injection hnode' with hnode'
    subst hnode'
    rcases (Ledger.faults_eq_none_iff _ _).mp hfaultless with ⟨hsame, hsigned, -⟩
    have hnew : Recorded client.config client.signer chainId (run.ask client.perform request)
        (hashOf ledger.next) (client.signed request signature) :=
      Recorded.of_signed hcheck hoperator (localFaults_eq_none_iff.mp hpasses) hanswer
        (hsame.trans hchain) hsigned hgranted
    refine ⟨ledger.accepted (client.signed request signature), hstate, hchain,
      fun hash tx hfound => ?_⟩
    -- Under the new hash is the new transaction, under all others what was there.
    rw [Ledger.transaction?_accepted] at hfound
    by_cases hhash : hashOf ledger.next = hash
    · rw [if_pos hhash] at hfound
      rw [← hhash, ← Option.some.inj hfound]
      exact hnew
    · rw [if_neg hhash] at hfound
      exact hlater hash tx hfound

/-- Every transaction that is found in the ledger after a run of calls can be
    traced back to one of them. The ledger is new, so all that is in it came from
    this client; what the calls were, and what the signer answered, is left open. -/
theorem records_traced (config : Config) (signer : Signer) (client : Client)
    (hclient : Client.new config signer = .ok client) (chainId : String)
    (requests : List Request) :
    Traced config signer chainId
      (Transcript.of client.perform { node := .ledger (.new chainId) } requests) := by
  rcases new_eq_ok_iff.mp hclient with ⟨hcheck, hoperator, rfl⟩
  -- Being traceable is kept by every call and holds where nothing is recorded.
  induction requests using List.reverseRecOn with
  | nil =>
      refine ⟨_, rfl, rfl, fun hash tx hfound => ?_⟩
      injection hfound
  | append_singleton requests request ih =>
      rw [Transcript.of_concat]
      exact Traced.ask ⟨config, signer.address, signer⟩ ih hcheck hoperator request

/-- A run that leaves one transaction: a policy that is dated by the clock half a
    minute before the last second, and a removal of what is not there. -/
theorem records_traced_dated :
    let config : Config :=
      ⟨1, ⟨"here", "node:443", "node:9090"⟩, ⟨"0x0000000000000000000000000000000000000000"⟩,
        ⟨60, 2⟩⟩
    let address : Address := ⟨List.replicate 20 0, rfl⟩
    let signer : Signer := ⟨address, fun payload _ => .ok payload⟩
    let client : Client := ⟨config, address, signer⟩
    let late : UInt64 := 0xFFFFFFFFFFFFFFE1
    let requests : List Request := [
      .put (.bucket "photos") (.group 7) ⟨[⟨.allow, ["get-object"]⟩]⟩ none (some late),
      .delete (.bucket "photos") (.account address)]
    let run := Transcript.of client.perform { node := .ledger (.new "here") } requests
    Client.new config signer = .ok client ∧ run.state.node.size = 1 ∧
      Traced config signer "here" run := by
  intro config address signer client late requests run
  have hclient : Client.new config signer = .ok client :=
    new_eq_ok_iff.mpr ⟨by decide +kernel, by decide +kernel, rfl⟩
  have hsize : run.state.node.size = 1 := by decide +kernel
  exact ⟨hclient, hsize, records_traced config signer client hclient "here" requests⟩

end Client

end StoragePolicy
