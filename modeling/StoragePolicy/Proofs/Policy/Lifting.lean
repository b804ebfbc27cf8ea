import StoragePolicy.Proofs.Itemwise
import StoragePolicy.Proofs.Policy.RoundTrip

/-!
# Policies Statement by Statement

Encoding and decoding policies is nothing but encoding and decoding statements,
in both directions and for the refusals too. Put the texts of statements between
the brackets of a policy, with commas between them, and the policy is read as
the statements would be one by one; and a policy is written by putting its
written statements there.

Reading is the direction in which this could fail. The texts are any that are
read alone, so they bring their own white space, order of members, spelling of
records and escapes, and the reader of the policy has to stop in each of them
where the reader of a statement would. Then all of them are read before the
first word is judged, while separate requests would judge the first before the
second is even looked at. The first is settled by the grammar: a list of values
with white space around them is a spelling of the list. The second makes no
difference, because what is not malformed is refused for its words only, and
words are judged in their order.

## Main definitions

* `enclosed`: The octets of a policy around those of its statements.

## Theorems

* `statementTexts_of_not_malformed`: Texts that are read alone have words.
* `decodePolicy_enclosed`: Reading a policy is a loop that reads statements.
* `encodePolicy_eq_mapM`: Writing one is a loop that writes them.
* `policy_itemwise`: Policies go statement by statement.
-/

namespace StoragePolicy

open Text Json

/-- The octets of a policy around those of its statements, with commas between
    them. -/
def enclosed (ds : List Octets) : Octets :=
  utf8 "\x7b\"GnfdStatement\":[" ++ List.intercalate [0x2C] ds ++ utf8 "]\x7d"

namespace Json

/-- The printer puts its commas where they would be expected. -/
theorem separated_eq_intercalate (items : List Octets) :
    separated items = List.intercalate [0x2C] items := by
  induction items with
  | nil => rfl
  | cons s items ih =>
      cases items with
      | nil => rw [separated, List.intercalate_singleton]
      | cons t items =>
          rw [List.intercalate_cons_cons, ← ih, separated, List.append_assoc]
          · rfl
          · exact List.cons_ne_nil t items

/-- Values with white space around them, when the values are not known but only
    what they say. -/
theorem exists_values_of_texts {β : Type} {shape : β → Value → Prop} {words : List β}
    {ds : List Octets}
    (h : List.Forall₂ (fun w d => ∃ x, shape w x ∧ Padded x.Spelled d) words ds) :
    ∃ xs, List.Forall₂ shape words xs ∧
      List.Forall₂ (fun x d => Padded x.Spelled d) xs ds := by
  induction h with
  | nil => exact ⟨[], .nil, .nil⟩
  | cons hfirst _ ih =>
      rcases hfirst with ⟨x, hx, hd⟩
      rcases ih with ⟨xs, hxs, hds⟩
      exact ⟨x :: xs, .cons hx hxs, .cons hd hds⟩

end Json

/-- What stands around the statements is an object with one member, which is a
    list. -/
theorem enclosed_eq_object (ds : List Octets) :
    enclosed ds = object [member "GnfdStatement" (list ds)] := by
  have hopening : utf8 "\x7b\"GnfdStatement\":[" =
      0x7B :: (quoted "GnfdStatement" ++ [0x3A, 0x5B]) := by decide +kernel
  have hclosing : utf8 "]\x7d" = [0x5D, 0x7D] := by decide +kernel
  simp only [enclosed, hopening, hclosing, object, member, list, separated,
    separated_eq_intercalate, List.cons_append, List.append_assoc, List.nil_append]

/-! ## Reading -/

/-- Texts that are not malformed alone are texts of statements, in whatever way each
    of them is spelled. -/
theorem statementTexts_of_not_malformed {ds : List Octets}
    (h : ∀ d ∈ ds, ¬ Malformed (decodeStatement d)) :
    ∃ W, List.Forall₂ StatementText W ds := by
  induction ds with
  | nil => exact ⟨[], .nil⟩
  | cons d ds ih =>
      rcases List.forall_mem_cons.mp h with ⟨hd, hds⟩
      -- Which words the text has does not matter here, only that it has some.
      rcases decodeStatement_twoPass.entire_of_not_malformed hd with ⟨raw, hentire⟩
      rcases ih hds with ⟨W, hW⟩
      exact ⟨raw :: W, .cons (entire_statement_iff.mp hentire) hW⟩

/-- Reading texts of statements one by one is judging their words. -/
theorem mapM_decodeStatement {W : List RawStatement} {ds : List Octets}
    (h : List.Forall₂ StatementText W ds) :
    ds.mapM decodeStatement = W.mapM RawStatement.parse := by
  induction h with
  | nil => rfl
  | cons hd _ ih =>
      rw [List.mapM_cons, List.mapM_cons, ih,
        decodeStatement_twoPass.second (entire_statement_iff.mpr hd)]

/-- Texts of statements between the brackets of a policy are a text of it. -/
theorem policyText_enclosed {W : List RawStatement} {ds : List Octets}
    (h : List.Forall₂ StatementText W ds) : PolicyText W (enclosed ds) := by
  rcases exists_values_of_texts h with ⟨xs, hxs, hds⟩
  have hlist : (Value.list xs).Spelled (list ds) := list_padded hds
  have hobject := object_spelled (.cons (member_spelled "GnfdStatement" hlist) .nil)
  refine ⟨_, IsPolicy.named hxs, ?_⟩
  rw [enclosed_eq_object]
  exact hobject.padded

/-- Reading a policy is a loop that reads its statements, if each of them is a
    document of the right shape. The first fault of a statement is that of the
    policy. -/
theorem decodePolicy_enclosed {ds : List Octets}
    (h : ∀ d ∈ ds, ¬ Malformed (decodeStatement d)) :
    decodePolicy (enclosed ds) = (ds.mapM decodeStatement >>= fun ss => .ok ⟨ss⟩) := by
  rcases statementTexts_of_not_malformed h with ⟨W, hW⟩
  -- Each side judges the same words, the first pass being over on both.
  rw [decodePolicy_twoPass.second (entire_policy_iff.mpr (policyText_enclosed hW)),
    Policy.ofWords, mapM_decodeStatement hW]

/-! ## Writing -/

theorem writePolicy_eq_enclosed (p : Policy) :
    writePolicy p = enclosed (p.statements.map writeStatement) :=
  (enclosed_eq_object _).symm

/-- Writing a policy is a loop that writes its statements, although all of them
    are checked before the first is written. -/
theorem encodePolicy_eq_mapM (p : Policy) :
    encodePolicy p = (p.statements.mapM encodeStatement >>= fun cs => .ok (enclosed cs)) := by
  have hloop : p.statements.mapM encodeStatement =
      (p.check >>= fun _ => .ok (p.statements.map writeStatement)) :=
    mapM_check Statement.check writeStatement p.statements
  change (p.check >>= fun _ => .ok (writePolicy p)) = _
  rw [hloop, writePolicy_eq_enclosed]
  -- What is put around the written statements cannot fail.
  cases p.check with
  | error f => rfl
  | ok _ => rfl

/-! ## Both -/

/-- Policies are read and written statement by statement. Reading asks of the
    texts that none is malformed alone; writing asks nothing. The fault of a
    policy is that of its first statement that has one, with nothing in it to say
    that it was found in a policy. -/
theorem policy_itemwise :
    (∀ ds : List Octets, (∀ d ∈ ds, ¬ Malformed (decodeStatement d)) →
      Itemwise decodeStatement Policy.mk ds (decodePolicy (enclosed ds))) ∧
    ∀ p : Policy, Itemwise encodeStatement enclosed p.statements (encodePolicy p) := by
  constructor
  · intro ds hds
    rw [decodePolicy_enclosed hds]
    exact itemwise_mapM decodeStatement Policy.mk ds
  · intro p
    rw [encodePolicy_eq_mapM]
    exact itemwise_mapM encodeStatement enclosed p.statements

/-- Statements as other writers might spell them, with and without one whose
    effect is unknown before one whose action is, and a policy that is written
    and one that is not. -/
theorem policy_itemwise_respelled :
    let a := utf8 " \x7b\"Action\" : [\"get\\u002Dobject\"],\"Effect\":\"Allow\"\x7d\n"
    let b := utf8 "[\"\\u0044eny\" ,[ ] ]"
    let c := utf8 "\t[\"Permit\",[\"get-object\"]]"
    let d := utf8 "[\"Allow\",[\"fly\"]]"
    let s : Statement := ⟨.allow, ["get-object"]⟩
    let t : Statement := ⟨.deny, []⟩
    let u : Statement := ⟨.allow, ["list-object", "fly", "swim"]⟩
    decodePolicy (enclosed [a, b]) = .ok ⟨[s, t]⟩ ∧
      decodePolicy (enclosed [a, b, c, d]) = .error (.unknownEffect "Permit") ∧
      encodePolicy ⟨[s, t]⟩ = .ok (enclosed [writeStatement s, writeStatement t]) ∧
      encodePolicy ⟨[s, u, t]⟩ = .error (.unknownAction "fly") := by
  intro a b c d s t u
  rcases policy_itemwise with ⟨hdecode, hencode⟩
  have ha : decodeStatement a = .ok s := by decide +kernel +zetaReduce
  have hb : decodeStatement b = .ok t := by decide +kernel +zetaReduce
  have hc : decodeStatement c = .error (.unknownEffect "Permit") := by decide +kernel +zetaReduce
  have hs : encodeStatement s = .ok (writeStatement s) := by decide +kernel +zetaReduce
  have ht : encodeStatement t = .ok (writeStatement t) := by decide +kernel +zetaReduce
  have hu : encodeStatement u = .error (.unknownAction "fly") := by decide +kernel +zetaReduce
  have hread : ∀ x ∈ [a, b, c, d], ¬ Malformed (decodeStatement x) := by decide +kernel +zetaReduce
  have hread' : ∀ x ∈ [a, b], ¬ Malformed (decodeStatement x) := by decide +kernel +zetaReduce
  refine ⟨((hdecode _ hread').granted _).mpr ⟨[s, t], .cons ha (.cons hb .nil), rfl⟩,
    ((hdecode _ hread).refused _).mpr ⟨[a, b], c, ⟨?_, ⟨_, hc⟩, [d], rfl⟩, hc⟩,
    ((hencode _).granted _).mpr ⟨_, .cons hs (.cons ht .nil), rfl⟩,
    ((hencode _).refused _).mpr ⟨[s], u, ⟨?_, ⟨_, hu⟩, [t], rfl⟩, hu⟩⟩
  · -- Both texts before the first that is refused are read.
    intro x hx
    rw [not_failing_iff]
    rcases List.mem_pair.mp hx with rfl | rfl
    · exact ⟨s, ha⟩
    · exact ⟨t, hb⟩
  · intro x hx
    rw [not_failing_iff, List.mem_singleton.mp hx]
    exact ⟨_, hs⟩

end StoragePolicy
