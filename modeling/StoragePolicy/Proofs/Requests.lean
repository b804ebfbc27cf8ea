import StoragePolicy.Proofs.Coding
import StoragePolicy.Proofs.Names.Principals
import StoragePolicy.Proofs.Names.Resources

/-!
# What a Message Was Made Of

A message has texts and codes in place of what was asked for: an account in
digits, a resource by its written name, a principal as a kind and a value, and
the words of a policy as codes. Any of these could make two requests look alike,
and then the chain could not tell which of them it was sent. A resource with a
bad name can in fact be written like another one, and of a tag outside the
registry nothing is left among the codes.

What is sent is made of neither. The names come from texts that were read, and
every tag of a policy has passed the check by the time it is coded, so that the
codes give the tags back, in their order and with repeats. This is why the
codes are read back here instead of being compared: a comparison would have to
know beforehand that two lists of tags are of the same length.

## Main definitions

* `CodedStatement.tags`: The tags behind the codes.

## Theorems

* `Statement.tags_coded`: The codes of registered tags give the tags back.
* `Policy.coded_injective`: Registered policies are told apart by their codes.
* `Target.ofRequest_injective`: So are operators, resources and principals by
  what is written of them.
* `Message.ofPolicy_eq_ok_iff`: When there is a message, and which.
* `Message.request_determined`: A message determines its request.
-/

namespace StoragePolicy

/-- The tags behind the codes. -/
def CodedStatement.tags (s : CodedStatement) : List String :=
  (s.actions.filterMap Action.ofCode?).map Action.tag

namespace Statement

/-- Every registered tag names the action that is found for it. -/
theorem map_tag_known {s : Statement} (h : s.Registered) : s.known.map Action.tag = s.tags := by
  rcases s with ⟨effect, tags⟩
  simp only [known]
  induction tags with
  | nil => rfl
  | cons tag tags ih =>
      rcases List.forall_mem_cons.mp h with ⟨⟨a, rfl⟩, hrest⟩
      have htail := ih hrest
      rw [List.filterMap_cons, Action.ofTag?_tag]
      simp only [List.map_cons, htail]

/-- The codes of registered tags give the tags back. A tag outside the registry would
    be lost, which is why it is asked that there is none. -/
theorem tags_coded {s : Statement} (h : s.Registered) : s.coded.tags = s.tags := by
  have hfound : (s.known.map Action.code).filterMap Action.ofCode? = s.known := by
    rw [List.filterMap_map]
    have hback : Action.ofCode? ∘ Action.code = some := funext Action.ofCode?_code
    rw [hback, List.filterMap_some]
  calc
    s.coded.tags = ((s.known.map Action.code).filterMap Action.ofCode?).map Action.tag := rfl
    _ = s.known.map Action.tag := by rw [hfound]
    _ = s.tags := map_tag_known h

/-- Statements with registered tags are told apart by their codes. Unregistered
    tags have no codes and would all look alike. -/
theorem coded_injective {s s' : Statement} (h : s.Registered) (h' : s'.Registered)
    (heq : s.coded = s'.coded) : s = s' := by
  have heffect : s.effect = s'.effect :=
    Effect.code_injective (congrArg CodedStatement.effect heq)
  have htags : s.tags = s'.tags := by
    rw [← tags_coded h, ← tags_coded h', heq]
  rcases s with ⟨effect, tags⟩
  rcases s' with ⟨effect', tags'⟩
  simp only [] at heffect htags
  rw [heffect, htags]

end Statement

/-- Registered policies are told apart by their codes, also if they have different
    numbers of statements. -/
theorem Policy.coded_injective {p p' : Policy} (h : p.Registered) (h' : p'.Registered)
    (heq : p.coded = p'.coded) : p = p' := by
  rcases p with ⟨ss⟩
  rcases p' with ⟨ss'⟩
  simp only [coded] at heq
  -- On the first list, for any second one: codes of different lengths are different.
  induction ss generalizing ss' with
  | nil =>
      have hnil : ss' = [] := List.map_eq_nil_iff.mp heq.symm
      rw [hnil]
  | cons s ss ih =>
      rcases List.map_eq_cons_iff.mp heq.symm with ⟨s', rest, rfl, hone, hmore⟩
      rcases List.forall_mem_cons.mp h with ⟨hs, hss⟩
      rcases List.forall_mem_cons.mp h' with ⟨hs', hss'⟩
      have hhead : s = s' := Statement.coded_injective hs hs' hone.symm
      have htail : (⟨ss⟩ : Policy) = ⟨rest⟩ := ih hss rest hss' hmore.symm
      injection htail with htail
      rw [hhead, htail]

/-- An account is known by its digits. -/
theorem Address.text_injective {a b : Address} (h : a.text = b.text) : a = b :=
  Address.chars_injective (String.ofList_injective h)

/-- Who asks, on which resource and for whom is told apart by what is written of
    them, as long as the resources were read from texts. A resource that was put
    together by hand can have a name with a separator in it, and is then written
    like another one. -/
theorem Target.ofRequest_injective {o o' : Address} {r r' : Resource} (hr : r.Parsed)
    (hr' : r'.Parsed) {q q' : Principal} (h : ofRequest o r q = ofRequest o' r' q') :
    o = o' ∧ r = r' ∧ q = q' := by
  have hoperator : o.text = o'.text := congrArg Target.operator h
  have hresource : r.text = r'.text := congrArg Target.resource h
  have hgrantee : Grantee.ofPrincipal q = Grantee.ofPrincipal q' := congrArg Target.grantee h
  exact ⟨Address.text_injective hoperator, Resource.text_injective hr hr' hresource,
    Grantee.ofPrincipal_injective hgrantee⟩

namespace Message

/-- There is a message for a policy if all tags are registered and the resource
    permits all actions, and then there is one. -/
theorem ofPolicy_eq_ok_iff {o : Address} {r : Resource} {q : Principal} {p : Policy}
    {expiration : Option UInt64} {m : Message} :
    ofPolicy o r q p expiration = .ok m ↔
      p.Registered ∧ (∀ s ∈ p.statements, ∀ a : Action, a.tag ∈ s.tags → r.permits a = true) ∧
        m = .put (.ofRequest o r q) p.coded expiration := by
  rw [ofPolicy_eq, granting_eq_ok_iff, firstFault_eq_none_iff]
  simp only [List.mem_cons, List.not_mem_nil, or_false, forall_eq_or_imp, forall_eq]
  rw [← Policy.registered_iff, Policy.scopeFault_eq_none_iff, and_assoc, eq_comm (b := m)]

/-- A message determines its request: who asks, on which resource, for whom, and
    for a policy its every word and its expiration. So a message on the ledger
    leaves no doubt about what was asked for, although it holds codes and texts
    only. -/
theorem request_determined (o o' : Address) (r r' : Resource) (hr : r.Parsed) (hr' : r'.Parsed)
    (q q' : Principal) :
    (∀ (p p' : Policy) (expiration expiration' : Option UInt64) (m : Message),
      ofPolicy o r q p expiration = .ok m → ofPolicy o' r' q' p' expiration' = .ok m →
        o = o' ∧ r = r' ∧ q = q' ∧ p = p' ∧ expiration = expiration') ∧
    (ofRemoval o r q = ofRemoval o' r' q' → o = o' ∧ r = r' ∧ q = q') := by
  constructor
  · intro p p' expiration expiration' m hm hm'
    -- Both policies passed the check, so both are given back by their codes.
    rcases ofPolicy_eq_ok_iff.mp hm with ⟨hregistered, -, rfl⟩
    rcases ofPolicy_eq_ok_iff.mp hm' with ⟨hregistered', -, heq⟩
    injection heq with htarget hcoded hexpiration
    rcases Target.ofRequest_injective hr hr' htarget with ⟨ho, hr, hq⟩
    have hp : p = p' := Policy.coded_injective hregistered hregistered' hcoded
    exact ⟨ho, hr, hq, hp, hexpiration⟩
  · intro h
    injection h with htarget
    exact Target.ofRequest_injective hr hr' htarget

/-- A group whose owner is not spelled as it is written, with a policy that
    repeats a tag and one that does not, and an object whose name looks like the
    end of the group's. -/
theorem request_determined_respelled :
    let owner : Address := ⟨List.replicate 20 0xAB, rfl⟩
    let group : Resource := .group owner "team::a/b"
    let object : Resource := .object "team" "a/b::a/b"
    let policy (tags : List String) : Policy := ⟨[⟨.allow, tags⟩, ⟨.deny, []⟩]⟩
    let m : Message :=
      .put (.ofRequest owner group (.group 7)) [⟨1, [10, 10]⟩, ⟨2, []⟩] (some 60)
    Resource.parse "grn:g:0XABABABABABABABABABABABABABABABABABABABAB::team::a/b" = .ok group ∧
      Resource.parse "grn:o::team/a/b::a/b" = .ok object ∧
      ofPolicy owner group (.group 7) (policy ["delete-group", "delete-group"]) (some 60) =
        .ok m ∧
      ofPolicy owner group (.group 7) (policy ["delete-group"]) (some 60) ≠ .ok m ∧
      ofRemoval owner group (.group 7) ≠ ofRemoval owner object (.group 7) := by
  intro owner group object policy m
  have hgroup : Resource.parse "grn:g:0XABABABABABABABABABABABABABABABABABABABAB::team::a/b" =
      .ok group := by decide +kernel
  have hobject : Resource.parse "grn:o::team/a/b::a/b" = .ok object := by decide +kernel
  have hm : ofPolicy owner group (.group 7) (policy ["delete-group", "delete-group"]) (some 60) =
      .ok m := by decide +kernel
  refine ⟨hgroup, hobject, hm, fun hm' => ?_, fun heq => ?_⟩
  · have hsame := (request_determined owner owner group group ⟨_, hgroup⟩ ⟨_, hgroup⟩ (.group 7)
      (.group 7)).1 _ _ (some 60) (some 60) m hm hm'
    exact absurd hsame.2.2.2.1 (by decide)
  · have hsame := (request_determined owner owner group object ⟨_, hgroup⟩ ⟨_, hobject⟩
      (.group 7) (.group 7)).2 heq
    exact Resource.noConfusion hsame.2.1

end Message

end StoragePolicy
