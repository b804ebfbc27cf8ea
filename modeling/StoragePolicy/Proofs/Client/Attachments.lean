import StoragePolicy.Proofs.Client.Calls
import StoragePolicy.Proofs.Ledger.Replay
import StoragePolicy.Proofs.Names.Principals
import StoragePolicy.Proofs.Names.Resources

/-!
# What Is Attached

Seen from outside, a client keeps statements for pairs of a resource and a
principal. Attaching sets the statements of one pair, detaching removes them,
and a call that fails changes nothing. That is a map, and nothing in it says
how a resource or a principal is written.

The ledger behind it is a table under three texts. It shows the same as the map
because names that were read from text are written differently when they are
different, so that no call about one pair touches what is shown for another.
The map is made from the calls and their answers alone, and what follows is
that the answers are those that the map would give.

The signer has to be one that always signs. Nothing is assumed about the number
of calls: the hashes may begin again, but the policies are not kept under them.

## Main definitions

* `Attachments`, `Attachments.of`: The map, and the map after calls.
* `Attachments.ShownBy`: The node shows the map.

## Theorems

* `Resource.key_injective`: Pairs are told apart by what is written.
* `Client.accepts_removal_iff`: A removal is accepted if there is something to
  remove.
* `Attachments.ShownBy.after_call`: A call does to the node what it does to the map.
* `Client.attachments_shown`: Every run of calls is the map.
-/

namespace StoragePolicy

open Text

/-- The statements that are attached to a resource for a principal. -/
abbrev Attachments := Resource → Principal → Option (List CodedStatement)

namespace Attachments

/-- Nothing is attached. -/
def empty : Attachments := fun _ _ => none

/-- Sets what is attached to one resource for one principal. -/
def set (m : Attachments) (r : Resource) (q : Principal)
    (statements : Option (List CodedStatement)) : Attachments :=
  fun r' q' => if r = r' ∧ q = q' then statements else m r' q'

/-- The translation of a policy for a resource, if there is one. -/
def translated? (p : Policy) (r : Resource) : Option (List CodedStatement) :=
  (p.statements.mapM fun s => CodedStatement.ofStatement s r).toOption

/-- What a call does, from its answer. -/
def after (m : Attachments) : Request × Except Fault String → Attachments
  | (.put r q p _ _, .ok _) => m.set r q (translated? p r)
  | (.delete r q, .ok _) => m.set r q none
  | (_, .error _) => m

/-- What is attached after calls. -/
def of (exchanges : List (Request × Except Fault String)) : Attachments :=
  exchanges.foldl after empty

theorem after_error (m : Attachments) (request : Request) (f : Fault) :
    m.after (request, .error f) = m := by
  cases request with
  | put r q p asked clock => rfl
  | delete r q => rfl

theorem of_concat (exchanges : List (Request × Except Fault String))
    (exchange : Request × Except Fault String) :
    of (exchanges ++ [exchange]) = (of exchanges).after exchange := by
  rw [of, List.foldl_append]
  rfl

end Attachments

/-- What is attached to a resource for a principal is kept under this key. -/
def Resource.key (r : Resource) (q : Principal) : PolicyKey := ⟨r.text, q.code, q.value⟩

/-- Pairs are told apart by what is written. The table knows only texts and codes,
    so this is what lets it stand for a map on resources and principals. A
    resource that was not read from a text could be written like another one, so
    it is asked that both were. -/
theorem Resource.key_injective {r r' : Resource} (h : r.Parsed) (h' : r'.Parsed)
    {q q' : Principal} : r.key q = r'.key q' ↔ r = r' ∧ q = q' := by
  constructor
  · intro heq
    injection heq with htext hkind hvalue
    -- The code and the value of a principal are what a message has of it.
    have hgrantee : Grantee.ofPrincipal q = Grantee.ofPrincipal q' := by
      rw [Grantee.ofPrincipal, hkind, hvalue]
      rfl
    exact ⟨Resource.text_injective h h' htext, Grantee.ofPrincipal_injective hgrantee⟩
  · rintro ⟨rfl, rfl⟩
    rfl

namespace Client

theorem key_message (client : Client) (request : Request) :
    (client.message request).key = request.resource.key request.principal := by
  cases request with
  | put r q p asked clock => rfl
  | delete r q => rfl

/-- What a message attaches is the translation of the policy. -/
theorem attached?_message {client : Client} {r : Resource} {q : Principal} {p : Policy}
    {asked clock : Option UInt64}
    (h : firstFault (client.localFaults (.put r q p asked clock)) = none) :
    (client.message (.put r q p asked clock)).attached? = Attachments.translated? p r := by
  have hfaultless := firstFault_eq_none_iff.mp h
  simp only [localFaults, List.mem_cons, List.not_mem_nil, or_false, forall_eq_or_imp,
    forall_eq] at hfaultless
  -- Of the four checks, the last two make the translation succeed.
  rcases hfaultless with ⟨-, -, htag, hscope⟩
  have hcoded := Policy.mapM_ofStatement_eq (Policy.registered_iff.mpr htag) r
  rw [Attachments.translated?, hcoded, hscope]
  rfl

end Client

namespace Attachments

/-- The node is a ledger of the chain and shows the map: what it has under a key is
    what the map has for the resource and the principal of that key. -/
def ShownBy (m : Attachments) (chainId : String) (node : ChainNode) : Prop :=
  ∃ ledger, node = .ledger ledger ∧ ledger.chainId = chainId ∧
    ∀ (r : Resource) (q : Principal), r.Parsed →
      ledger.policy? r.text q.code q.value = m r q

theorem shownBy_new (chainId : String) : empty.ShownBy chainId (.ledger (.new chainId)) :=
  ⟨_, rfl, rfl, fun _ _ _ => rfl⟩

/-- An accepted call sets what its message attaches and nothing else. -/
theorem after_ok {client : Client} {request : Request}
    (h : firstFault (client.localFaults request) = none) (m : Attachments) (hash : String) :
    m.after (request, .ok hash) =
      m.set request.resource request.principal (client.message request).attached? := by
  cases request with
  | put r q p asked clock =>
      rw [Client.attached?_message h]
      rfl
  | delete r q => rfl

/-- A call does to the node what it does to the map. A call that is refused does
    nothing to either. This is the step of the invariant, and the only place where
    a single call is looked at. -/
theorem ShownBy.after_call {m : Attachments} {chainId : String} {session : Session}
    (h : m.ShownBy chainId session.node) (client : Client) {request : Request}
    (hparsed : request.resource.Parsed) :
    (m.after (request, (client.perform request session).1)).ShownBy chainId
      (client.perform request session).2.node := by
  rcases client.perform_node_cases request session with
    ⟨f, hanswer, hnode⟩ | ⟨signature, ledger, hpasses, -, hledger, -, hanswer, hnode⟩
  -- A call that fails changes neither side.
  · rw [hanswer, hnode, after_error]
    exact h
  · rcases h with ⟨ledger', hledger', hchain, hshown⟩
    rw [hledger] at hledger'
    injection hledger' with hledger'
    subst hledger'
    refine ⟨_, hnode, hchain, fun r q hr => ?_⟩
    -- The message is about the key of one pair, and no other pair has that key.
    have hfind := PolicyTable.find?_after ledger.policies (client.message request) (r.key q)
    simp only [client.key_message, Resource.key_injective hparsed hr] at hfind
    rw [hanswer, after_ok hpasses, set, ← hshown r q hr]
    exact hfind

end Attachments

namespace Client

/-- A removal is accepted by a ledger of the client's chain if there is
    something to remove. The client checks nothing of a removal and its signer
    signs, so this is the only thing that can be in the way. -/
theorem accepts_removal_iff {client : Client} {m : Attachments} {session : Session}
    (hshown : m.ShownBy client.config.chain.chainId session.node)
    (hsigner : ∀ payload before, ∃ signature, client.signer.sign payload before = .ok signature ∧
      signature ≠ [])
    {r : Resource} (hr : r.Parsed) (q : Principal) :
    (∃ hash, (client.perform (.delete r q) session).1 = .ok hash) ↔
      ∃ statements, m r q = some statements := by
  rcases hshown with ⟨ledger, hnode, hchain, hshown⟩
  rcases hsigner (client.payload (.delete r q)) session.signCalls with ⟨signature, hanswer, hsigned⟩
  -- The faults of the call are those of the ledger.
  have hfaults : firstFault (client.faults (.delete r q) session) =
      firstFault (ledger.faults (client.signed (.delete r q) signature)) := by
    rw [faults, hanswer, hnode]
    rfl
  rw [← faultOf?_eq_none_iff, faultOf?_perform, hfaults, Ledger.faults_eq_none_iff, ← hshown r q hr]
  constructor
  · rintro ⟨-, -, hattached⟩
    exact hattached _ rfl
  · intro hattached
    refine ⟨hchain.symm, hsigned, fun target htarget => ?_⟩
    injection htarget with htarget
    subst htarget
    exact hattached

/-- A run of calls is the map: what the ledger shows after any of them is what is
    attached, and a removal is accepted if there is something to remove. The map
    is made of the calls and their answers alone, so it can be kept by whoever
    makes the calls, who never has to ask the node for it. -/
theorem attachments_shown (config : Config) (address : Address) (seed : Octets) (client : Client)
    (hclient : Client.new config (.ofSeed address seed) = .ok client) (requests : List Request)
    (hparsed : ∀ request ∈ requests, request.resource.Parsed) :
    let run := Transcript.of client.perform { node := .ledger (.new config.chain.chainId) }
    (∀ before later, before ++ later = requests →
      (Attachments.of (run before).exchanges).ShownBy config.chain.chainId
        (run before).state.node) ∧
    ∀ before r q later, before ++ .delete r q :: later = requests →
      ((∃ hash, (client.perform (.delete r q) (run before).state).1 = .ok hash) ↔
        ∃ statements, Attachments.of (run before).exchanges r q = some statements) := by
  intro run
  rcases new_eq_ok_iff.mp hclient with ⟨-, -, rfl⟩
  have hshown : ∀ before : List Request, (∀ request ∈ before, request.resource.Parsed) →
      (Attachments.of (run before).exchanges).ShownBy config.chain.chainId
        (run before).state.node := by
    intro before
    -- Call by call; the map and the ledger change together.
    induction before using List.reverseRecOn with
    | nil => exact fun _ => Attachments.shownBy_new _
    | append_singleton before request ih =>
        intro hbefore
        have hrequest := hbefore request (List.mem_append_right _ List.mem_cons_self)
        have hshown := ih fun other hother => hbefore other (List.mem_append_left _ hother)
        simp only [run, Transcript.of_concat, Transcript.ask, Attachments.of_concat]
        exact hshown.after_call _ hrequest
  refine ⟨fun before later hrequests => ?_, fun before r q later hrequests => ?_⟩
  · exact hshown before fun request hrequest =>
      hparsed request (hrequests ▸ List.mem_append_left later hrequest)
  · have hr : r.Parsed := hparsed (.delete r q)
      (hrequests ▸ List.mem_append_right before List.mem_cons_self)
    have hbefore := hshown before fun request hrequest =>
      hparsed request (hrequests ▸ List.mem_append_left _ hrequest)
    -- A signature of this signer has its fixed length and so is never empty.
    refine accepts_removal_iff hbefore (fun payload n => ⟨_, rfl, ?_⟩) hr q
    exact List.ne_nil_of_length_eq_add_one (Signature.Key.sign_length _ _)

/-- A run on an object whose name has both separators, with a policy that does
    not fit it and a removal too many. -/
theorem attachments_shown_object :
    let config : Config :=
      ⟨1, ⟨"greenfield", "node:443", "node:9090"⟩, ⟨"0x0000000000000000000000000000000000000000"⟩,
        .usual⟩
    let address : Address := ⟨List.replicate 20 0, rfl⟩
    let object : Resource := .object "photos" "2024/a::b"
    let policy (tag : String) : Policy := ⟨[⟨.allow, [tag]⟩]⟩
    let requests : List Request := [.put object (.group 7) (policy "get-object") none none,
      .put object (.group 7) (policy "delete-bucket") none none, .delete object (.group 7),
      .delete object (.account address)]
    ∃ client, Client.new config (.ofSeed address []) = .ok client ∧
      let run := Transcript.of client.perform { node := .ledger (.new config.chain.chainId) }
      (Attachments.of (run requests).exchanges).ShownBy config.chain.chainId
        (run requests).state.node ∧
      ((∃ hash, (client.perform (.delete object (.group 7)) (run (requests.take 2)).state).1 =
        .ok hash) ↔
        ∃ statements, Attachments.of (run (requests.take 2)).exchanges object (.group 7) =
          some statements) := by
  intro config address object policy requests
  have hclient : Client.new config (.ofSeed address []) =
      .ok ⟨config, address, .ofSeed address []⟩ :=
    new_eq_ok_iff.mpr ⟨by decide +kernel, by decide +kernel, rfl⟩
  have hobject : object.Parsed := ⟨"grn:o::photos/2024/a::b", by decide +kernel⟩
  have hparsed : ∀ request ∈ requests, request.resource.Parsed := by
    simp only [requests, List.forall_mem_cons, List.not_mem_nil, false_implies, implies_true,
      and_true]
    exact ⟨hobject, hobject, hobject, hobject⟩
  rcases attachments_shown config address [] _ hclient requests hparsed with ⟨hshown, hremoval⟩
  exact ⟨_, hclient, hshown requests [] (List.append_nil _),
    hremoval (requests.take 2) object (.group 7) [.delete object (.account address)] rfl⟩

end Client

end StoragePolicy
