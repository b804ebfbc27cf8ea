import StoragePolicy.Proofs.Json.Canonical
import StoragePolicy.Proofs.Policy.Decoding

/-!
# Writing and Reading Back

Encoding and decoding undo each other as far as they can. A value that may be
written is read back as it was, repeats and order included. A document that was
read can be written again, and although that need not give the same octets, it
gives the same value, and writing settles after one turn.

Both are consequences of what is known about decoding, since the canonical
spelling is a text with the words of the value.

## Main definitions

* `Statement.toValue`, `Policy.toValue`: What the canonical spelling says.
* `RoundTrip`: Encoding and decoding fit together.

## Theorems

* `statementText_write`, `policyText_write`: The canonical spelling is a text
  with the words of the value.
* `roundTrip_of_write`: What writing has to satisfy.
* `encode_decode_roundTrip`: Statements and policies make the round trip.
-/

namespace StoragePolicy

open Text Json

variable {α : Type}

/-- What the canonical spelling of a statement says. -/
def Statement.toValue (s : Statement) : Value :=
  .object [("Effect", .string s.effect.text), ("Action", texts s.tags)]

/-- What the canonical spelling of a policy says. -/
def Policy.toValue (p : Policy) : Value :=
  .object [("GnfdStatement", .list (p.statements.map Statement.toValue))]

theorem texts_spelled (ts : List String) : (texts ts).Spelled (list (ts.map quoted)) :=
  list_map_spelled quoted_spelled ts

theorem Statement.toValue_spelled (s : Statement) : s.toValue.Spelled (writeStatement s) :=
  object_spelled (.cons (member_spelled "Effect" (quoted_spelled s.effect.text))
    (.cons (member_spelled "Action" (texts_spelled s.tags)) .nil))

theorem Policy.toValue_spelled (p : Policy) : p.toValue.Spelled (writePolicy p) :=
  object_spelled (.cons (member_spelled "GnfdStatement"
    (list_map_spelled Statement.toValue_spelled p.statements)) .nil)

theorem Statement.isStatement_toValue (s : Statement) : IsStatement s.raw s.toValue :=
  IsStatement.effectFirst

theorem Policy.isPolicy_toValue (p : Policy) : IsPolicy p.raw p.toValue := by
  refine IsPolicy.named ?_
  rw [Policy.raw, List.forall₂_map_left_iff, List.forall₂_map_right_iff, List.forall₂_same]
  exact fun s _ => s.isStatement_toValue

/-- The canonical spelling of a statement is a text with its words. -/
theorem statementText_write (s : Statement) : StatementText s.raw (writeStatement s) :=
  ⟨s.toValue, s.isStatement_toValue, s.toValue_spelled.padded⟩

/-- The canonical spelling of a policy is a text with its words, one of the many that
    there are. -/
theorem policyText_write (p : Policy) : PolicyText p.raw (writePolicy p) :=
  ⟨p.toValue, p.isPolicy_toValue, p.toValue_spelled.padded⟩

theorem decodeStatement_eq_ok_iff {s : Octets} {st : Statement} :
    decodeStatement s = .ok st ↔ StatementText st.raw s ∧ st.Registered :=
  decodeStatement_twoPass.eq_ok_iff RawStatement.judged_parse

/-- A policy is read from the texts with its words, if all of its tags are
    registered. -/
theorem decodePolicy_eq_ok_iff {s : Octets} {p : Policy} :
    decodePolicy s = .ok p ↔ PolicyText p.raw s ∧ p.Registered :=
  decodePolicy_twoPass.eq_ok_iff Policy.judged_ofWords

/-- A statement is written as its canonical spelling, if it is written at all. -/
theorem encodeStatement_eq_ok_iff {s : Statement} {c : Octets} :
    encodeStatement s = .ok c ↔ s.Registered ∧ c = writeStatement s := by
  rw [← Statement.check_eq_ok_iff]
  exact check_bind_eq_ok_iff

/-- A policy is written as its canonical spelling, if it is written at all. -/
theorem encodePolicy_eq_ok_iff {p : Policy} {c : Octets} :
    encodePolicy p = .ok c ↔ p.Registered ∧ c = writePolicy p := by
  rw [← Policy.check_eq_ok_iff]
  exact check_bind_eq_ok_iff

/-- Encoding and decoding fit together, as far as two functions can of which one
    forgets the spelling. -/
structure RoundTrip (registered : α → Prop) (check : α → Except Fault Unit)
    (encode : α → Except Fault Octets) (decode : Octets → Except Fault α) : Prop where
  /-- A value is written exactly if all of its tags are registered. -/
  encode_iff : ∀ a, (∃ c, encode a = .ok c) ↔ registered a
  /-- What was written is read back. -/
  decode_encode : ∀ a c, encode a = .ok c → decode c = .ok a
  /-- What was read is valid and can be written, in a form that is read as the
      same value and then written in the same form. -/
  accepted : ∀ s a, decode s = .ok a →
    check a = .ok () ∧ ∃ c, encode a = .ok c ∧ decode c = .ok a ∧ (decode c >>= encode) = .ok c

/-- Values make the round trip if a check stands before the writing, and if
    reading finds exactly the texts of values that pass it, the written form
    among them. -/
theorem roundTrip_of_write {registered : α → Prop} {check : α → Except Fault Unit}
    {encode : α → Except Fault Octets} {decode : Octets → Except Fault α} {write : α → Octets}
    {text : α → Spelling} (hcheck : ∀ {a}, check a = .ok () ↔ registered a)
    (hencode : ∀ a, encode a = (check a >>= fun _ => .ok (write a)))
    (hdecode : ∀ {s a}, decode s = .ok a ↔ text a s ∧ registered a)
    (hwrite : ∀ a, text a (write a)) : RoundTrip registered check encode decode := by
  -- Writing is the check and nothing else that could fail.
  have hok : ∀ {a c}, encode a = .ok c ↔ registered a ∧ c = write a := by
    intro a c
    rw [hencode, check_bind_eq_ok_iff, hcheck]
  have hback : ∀ {a}, registered a → decode (write a) = .ok a :=
    fun ha => hdecode.mpr ⟨hwrite _, ha⟩
  refine ⟨fun a => ?_, fun a c hc => ?_, fun s a hs => ?_⟩
  · constructor
    · rintro ⟨c, hc⟩
      exact (hok.mp hc).1
    · intro ha
      exact ⟨write a, hok.mpr ⟨ha, rfl⟩⟩
  · rcases hok.mp hc with ⟨ha, rfl⟩
    exact hback ha
  -- What was read passed the check, so it can be written, and read once more.
  · have ha := (hdecode.mp hs).2
    have hc : encode a = .ok (write a) := hok.mpr ⟨ha, rfl⟩
    exact ⟨hcheck.mpr ha, write a, hc, hback ha, bind_eq_ok_iff.mpr ⟨a, hback ha, hc⟩⟩

/-- Policies and statements make the round trip. The reasons are the same for
    both, so the argument is made once. In the one direction what was written is
    read back, and in the other what was read is written in the canonical
    spelling, which is then left as it is. -/
theorem encode_decode_roundTrip :
    RoundTrip Policy.Registered Policy.check encodePolicy decodePolicy ∧
    RoundTrip Statement.Registered Statement.check encodeStatement decodeStatement :=
  ⟨roundTrip_of_write Policy.check_eq_ok_iff (fun _ => rfl) decodePolicy_eq_ok_iff
      policyText_write,
    roundTrip_of_write Statement.check_eq_ok_iff (fun _ => rfl) decodeStatement_eq_ok_iff
      statementText_write⟩

/-- A document that is not in the canonical spelling, with a repeated tag. -/
theorem encode_decode_roundTrip_respelled :
    let s := utf8 "[ [[\"\\u0041llow\",[\"get-object\",\"get-object\"]]] ]"
    let p : Policy := ⟨[⟨.allow, ["get-object", "get-object"]⟩]⟩
    decodePolicy s = .ok p ∧ p.check = .ok () ∧
      ∃ c, encodePolicy p = .ok c ∧ decodePolicy c = .ok p ∧
        (decodePolicy c >>= encodePolicy) = .ok c := by
  intro s p
  have hs : decodePolicy s = .ok p := by decide +kernel +zetaReduce
  exact ⟨hs, encode_decode_roundTrip.1.accepted s p hs⟩

end StoragePolicy
