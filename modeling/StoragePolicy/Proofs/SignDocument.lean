import StoragePolicy.Message
import StoragePolicy.Proofs.Json.Canonical
import StoragePolicy.Proofs.Json.Unambiguous

/-!
# What a Signature Binds

The octets that are signed determine the chain and the message. No two pairs of
a chain id and a message are written alike, whatever characters their texts
hold, so a signature cannot be taken over to another message or to another
chain.

The argument never compares two runs of octets. What is signed is one of the
spellings of a value, a document has one meaning, and so the values are the
same. What is left is to get the message back from the value that it is written
as, field by field: an absent expiration is an absent member, and the two kinds
of message are told apart by the name of their type.

## Main definitions

* `Message.toValue`: The value that a message is written as.
* `Message.signed`: The value that is signed.

## Theorems

* `Message.signBytes_spelled`: What is signed is a spelling of its value.
* `Message.toValue_injective`: Different messages are written as different values.
* `Message.signBytes_eq_iff`: What is signed determines chain and message.
-/

namespace StoragePolicy

open Text Json

/-- A whole number as a value. -/
def wholeNumber (n : Int) : Value := .number (number n)

theorem wholeNumber_spelled (n : Int) : (wholeNumber n).Spelled (number n) :=
  ⟨number_spelled n, rfl⟩

/-- A number is given back by its value. -/
theorem wholeNumber_injective {m n : Int} (h : wholeNumber m = wholeNumber n) : m = n := by
  injection h with h
  exact number_injective h

namespace CodedStatement

/-- The value that a coded statement is written as. -/
def toValue (s : CodedStatement) : Value :=
  .object [("effect", wholeNumber s.effect.toInt),
    ("actions", .list (s.actions.map fun code => wholeNumber code.toInt))]

theorem toValue_spelled (s : CodedStatement) : s.toValue.Spelled (Message.writeStatement s) :=
  object_spelled (.cons (member_spelled "effect" (wholeNumber_spelled s.effect.toInt))
    (.cons (member_spelled "actions"
      (list_map_spelled (fun code : Int32 => wholeNumber_spelled code.toInt) s.actions)) .nil))

theorem toValue_injective {s t : CodedStatement} (h : s.toValue = t.toValue) : s = t := by
  rcases s with ⟨effect, actions⟩
  rcases t with ⟨effect', actions'⟩
  simp only [toValue, Value.object.injEq, List.cons.injEq, Prod.mk.injEq, Value.list.injEq,
    true_and, and_true] at h
  rcases h with ⟨heffect, hactions⟩
  have hcode : ∀ a b : Int32, wholeNumber a.toInt = wholeNumber b.toInt → a = b :=
    fun a b hab => Int32.toInt_inj.mp (wholeNumber_injective hab)
  rw [hcode effect effect' heffect, (List.map_inj_right hcode).mp hactions]

end CodedStatement

namespace Grantee

/-- The value that a grantee is written as. -/
def toValue (g : Grantee) : Value :=
  .object [("type", wholeNumber g.kind.toInt), ("value", .string g.value)]

theorem toValue_spelled (g : Grantee) : g.toValue.Spelled (Message.writeGrantee g) :=
  object_spelled (.cons (member_spelled "type" (wholeNumber_spelled g.kind.toInt))
    (.cons (member_spelled "value" (quoted_spelled g.value)) .nil))

theorem toValue_injective {g k : Grantee} (h : g.toValue = k.toValue) : g = k := by
  rcases g with ⟨kind, value⟩
  rcases k with ⟨kind', value'⟩
  simp only [toValue, Value.object.injEq, List.cons.injEq, Prod.mk.injEq, Value.string.injEq,
    true_and, and_true] at h
  rcases h with ⟨hkind, rfl⟩
  rw [Int32.toInt_inj.mp (wholeNumber_injective hkind)]

end Grantee

namespace Target

/-- The members of a message that name its type and its target. -/
def toMembers (typeUrl : String) (t : Target) : List (String × Value) :=
  [("@type", .string typeUrl), ("operator", .string t.operator), ("resource", .string t.resource),
    ("principal", t.grantee.toValue)]

theorem toMembers_spelled (typeUrl : String) (t : Target) :
    List.Forall₂ memberSpelling (t.toMembers typeUrl) (Message.writeTarget typeUrl t) :=
  .cons (member_spelled "@type" (quoted_spelled typeUrl))
    (.cons (member_spelled "operator" (quoted_spelled t.operator))
      (.cons (member_spelled "resource" (quoted_spelled t.resource))
        (.cons (member_spelled "principal" t.grantee.toValue_spelled) .nil)))

/-- The members in front of a message's own give its type and its target. -/
theorem toMembers_injective {url url' : String} {t t' : Target} {ms ms' : List (String × Value)}
    (h : t.toMembers url ++ ms = t'.toMembers url' ++ ms') : url = url' ∧ t = t' ∧ ms = ms' := by
  rcases t with ⟨operator, resource, grantee⟩
  rcases t' with ⟨operator', resource', grantee'⟩
  simp only [toMembers, List.cons_append, List.nil_append, List.cons.injEq, Prod.mk.injEq,
    Value.string.injEq, true_and] at h
  -- The four members agree one by one, and then so does what follows them.
  rcases h with ⟨rfl, rfl, rfl, hgrantee, rfl⟩
  rw [Grantee.toValue_injective hgrantee]
  exact ⟨rfl, rfl, rfl⟩

end Target

namespace Message

/-- The member for an expiration, which may be absent. -/
def expirationMember : Option UInt64 → List (String × Value)
  | some time => [("expiration_time", wholeNumber time.toNat)]
  | none => []

theorem expirationMember_injective {a b : Option UInt64}
    (h : expirationMember a = expirationMember b) : a = b := by
  cases a with
  | none =>
      cases b with
      | none => rfl
      | some _ => injection h
  | some a =>
      cases b with
      | none => injection h
      | some b =>
          simp only [expirationMember, List.cons.injEq, Prod.mk.injEq, true_and, and_true] at h
          rw [UInt64.toNat_inj.mp (Int.ofNat_inj.mp (wholeNumber_injective h))]

/-- The members of a message beyond its type and its target. -/
def ownMembers : Message → List (String × Value)
  | .put _ statements expiration =>
    ("statements", .list (statements.map CodedStatement.toValue)) :: expirationMember expiration
  | .delete _ => []

/-- The value that a message is written as. -/
def toValue (m : Message) : Value := .object (m.target.toMembers m.typeUrl ++ m.ownMembers)

/-- The value that is signed: the chain first, so that no message can be taken over
    to another one. -/
def signed (m : Message) (chainId : String) : Value :=
  .object [("chain_id", .string chainId), ("msg", m.toValue)]

theorem write_spelled (m : Message) : m.toValue.Spelled m.write := by
  cases m with
  | put target statements expiration =>
      have hstatements := member_spelled "statements"
        (list_map_spelled CodedStatement.toValue_spelled statements)
      -- The target comes first in either kind of message.
      refine object_spelled (List.rel_append (target.toMembers_spelled _) ?_)
      cases expiration with
      | none => exact .cons hstatements .nil
      | some time =>
          exact .cons hstatements
            (.cons (member_spelled "expiration_time" (wholeNumber_spelled time.toNat)) .nil)
  | delete target =>
      -- A message that detaches has no members of its own.
      rw [toValue, ownMembers, List.append_nil]
      exact object_spelled (target.toMembers_spelled _)

/-- What is signed is one spelling of its value, which takes the octets out of the
    argument. -/
theorem signBytes_spelled (m : Message) (chainId : String) :
    (m.signed chainId).Spelled (m.signBytes chainId) :=
  object_spelled (.cons (member_spelled "chain_id" (quoted_spelled chainId))
    (.cons (member_spelled "msg" m.write_spelled) .nil))

/-- The name of its type tells what a message is. -/
theorem typeUrl_put_ne (t t' : Target) (ss : List CodedStatement) (e : Option UInt64) :
    (put t ss e).typeUrl ≠ (delete t').typeUrl := by
  change "/greenfield.storage.MsgPutPolicy" ≠ "/greenfield.storage.MsgDeletePolicy"
  decide

/-- Different messages are written as different values. Nothing of a message is left
    out of what is written, and nothing in it could stand for something else. -/
theorem toValue_injective {m n : Message} (h : m.toValue = n.toValue) : m = n := by
  injection h with h
  -- All messages begin with the same four members.
  rcases Target.toMembers_injective h with ⟨htype, htarget, hown⟩
  cases m with
  | put target statements expiration =>
      cases n with
      | put target' statements' expiration' =>
          have htarget : target = target' := htarget
          simp only [ownMembers, List.cons.injEq, Prod.mk.injEq, Value.list.injEq, true_and] at hown
          rcases hown with ⟨hstatements, hexpiration⟩
          have hall :=
            (List.map_inj_right fun _ _ => CodedStatement.toValue_injective).mp hstatements
          rw [htarget, hall, expirationMember_injective hexpiration]
      | delete target' => exact absurd htype (typeUrl_put_ne _ _ _ _)
  | delete target =>
      cases n with
      | put target' statements' expiration' => exact absurd htype.symm (typeUrl_put_ne _ _ _ _)
      | delete target' => exact congrArg Message.delete htarget

/-- What is signed determines the chain and the message: a signature for one is
    not a signature for any other. No text in the message, however it is chosen,
    can imitate what stands around it, since all texts are written with their
    quotes escaped. -/
theorem signBytes_eq_iff (m n : Message) (c d : String) :
    m.signBytes c = n.signBytes d ↔ c = d ∧ m = n := by
  constructor
  · intro h
    -- The same octets are a spelling of both values.
    have hn := n.signBytes_spelled d
    rw [← h] at hn
    have hvalue := Value.eq_of_padded (m.signBytes_spelled c).padded hn.padded
    simp only [signed, Value.object.injEq, List.cons.injEq, Prod.mk.injEq, Value.string.injEq,
      true_and, and_true] at hvalue
    rcases hvalue with ⟨hchain, hmessage⟩
    exact ⟨hchain, toValue_injective hmessage⟩
  · rintro ⟨rfl, rfl⟩
    rfl

end Message

end StoragePolicy
