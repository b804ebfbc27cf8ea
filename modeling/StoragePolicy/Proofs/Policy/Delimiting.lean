import StoragePolicy.Proofs.Policy.RoundTrip

/-!
# Documents Show Their Own End

A document is over where its last bracket closes. What stands behind can only be
white space, and what is cut off before that is no document at all, wherever the
cut falls: between two members, inside a string, between the halves of an escape
or the octets of a character.

Nothing of this is looked at cut by cut. The reader of the first pass stops where
the grammar says that a value ends, and the same value with more octets behind it
is still read as that value, so two readings of which one prolongs the other can
only differ in white space. A beginning of a document that could be read would
have to be followed by white space up to the document's end, and a canonical
document ends with a bracket.

This holds of the shape, so also of documents whose words are refused. A request
that arrives in part, or with another behind it, is therefore refused as
malformed and never as something else.

## Main definitions

* `SelfDelimiting`: Documents show where they end.

## Theorems

* `entire_append_eq_ok`: White space behind a document changes nothing.
* `TwoPass.selfDelimiting`: Reading in two passes is self-delimiting.
* `decode_self_delimiting`: Policies and statements show where they end.
-/

namespace StoragePolicy

open Text Json

variable {α β : Type}

namespace Json

/-- An entire document with white space behind is read as before. Nothing is left
    for whoever reads on but blank octets. -/
theorem entire_append_eq_ok {reader : Reader α} {shape : α → Value → Prop}
    (hreader : Reads reader.read shape) {s t : Octets} {a : α} (hs : entire reader s = .ok a)
    (ht : Blank t) : entire reader (s ++ t) = .ok a := by
  rcases (entire_eq_ok_iff hreader).mp hs with ⟨x, hx, l, v, r, hl, hv, hr, rfl⟩
  exact (entire_eq_ok_iff hreader).mpr
    ⟨x, hx, l, v, r ++ t, hl, hv, hr.append ht, List.append_assoc _ _ _⟩

end Json

/-- Documents show where they end, given how they are written and read. A part of a
    request is never taken for a whole one. -/
structure SelfDelimiting (encode : α → Except Fault Octets) (decode : Octets → Except Fault α) :
    Prop where
  /-- Of two texts that are not malformed, one prolongs the other only by white
      space, and both are judged alike. -/
  prolonged : ∀ s t, ¬ Malformed (decode s) → ¬ Malformed (decode (s ++ t)) →
    Blank t ∧ decode (s ++ t) = decode s
  /-- White space can be added without being noticed. -/
  padded : ∀ s t, ¬ Malformed (decode s) → Blank t → decode (s ++ t) = decode s
  /-- A written document that is cut short anywhere is malformed. -/
  truncated : ∀ a c s t, encode a = .ok c → c = s ++ t → t ≠ [] → Malformed (decode s)
  /-- So is one with anything but white space behind it. -/
  continued : ∀ a c t, encode a = .ok c → ¬ Blank t → Malformed (decode (c ++ t))

namespace TwoPass

variable {decode : Octets → Except Fault α} {reader : Reader β} {shape : β → Value → Prop}
  {ofWords : β → Except Fault α}

/-- White space behind a text changes nothing in how it is judged. -/
theorem decode_append_of_blank (h : TwoPass decode reader shape ofWords) {s t : Octets}
    (hs : ¬ Malformed (decode s)) (ht : Blank t) : decode (s ++ t) = decode s := by
  rcases h.entire_of_not_malformed hs with ⟨words, hentire⟩
  rw [h.second hentire, h.second (entire_append_eq_ok h.reads hentire ht)]

/-- What prolongs a text to another one is white space. -/
theorem blank_of_not_malformed (h : TwoPass decode reader shape ofWords) {s t : Octets}
    (hs : ¬ Malformed (decode s)) (hst : ¬ Malformed (decode (s ++ t))) : Blank t := by
  by_contra ht
  exact hst (h.malformed_of_trailing hs ht)

/-- Reading in two passes is self-delimiting, if what is written is read back
    and ends with a brace. -/
theorem selfDelimiting (h : TwoPass decode reader shape ofWords)
    {encode : α → Except Fault Octets}
    (hback : ∀ a c, encode a = .ok c → decode c = .ok a)
    (hlast : ∀ a c, encode a = .ok c → c.getLast? = some 0x7D) :
    SelfDelimiting encode decode := by
  -- What can be read back is not malformed.
  have hread : ∀ {a c}, encode a = .ok c → ¬ Malformed (decode c) := by
    rintro a c hc ⟨f, hf, -⟩
    rw [hback a c hc] at hf
    injection hf
  refine ⟨fun s t hs hst => ?_, fun s t hs ht => h.decode_append_of_blank hs ht,
    fun a c s t hc hsplit ht => ?_, fun a c t hc ht => h.malformed_of_trailing (hread hc) ht⟩
  · have ht := h.blank_of_not_malformed hs hst
    exact ⟨ht, h.decode_append_of_blank hs ht⟩
  · -- If the beginning could be read, then what was cut off would be white space.
    by_contra hs
    have hwhole := hread hc
    rw [hsplit] at hwhole
    have hblank := h.blank_of_not_malformed hs hwhole
    -- But the last brace was cut off with it.
    have hbrace := hlast a c hc
    rw [hsplit, List.getLast?_append_of_ne_nil _ ht] at hbrace
    exact absurd (hblank _ (List.mem_of_getLast? hbrace)) (by decide)

end TwoPass

/-- What is written between braces ends with one. -/
theorem getLast?_object (members : List Octets) : (object members).getLast? = some 0x7D :=
  List.getLast?_concat

/-- Policies and statements show where they end. What is behind a document can
    only be white space, and what is cut off from it is missed. A reader that gets
    documents in pieces can therefore tell whether it has all of one, and never
    takes a piece for the whole. -/
theorem decode_self_delimiting :
    SelfDelimiting encodePolicy decodePolicy ∧ SelfDelimiting encodeStatement decodeStatement := by
  constructor
  · refine decodePolicy_twoPass.selfDelimiting (fun p c hc => ?_) fun p c hc => ?_
    · rcases encodePolicy_eq_ok_iff.mp hc with ⟨hregistered, rfl⟩
      exact decodePolicy_eq_ok_iff.mpr ⟨policyText_write p, hregistered⟩
    · rw [(encodePolicy_eq_ok_iff.mp hc).2]
      exact getLast?_object _
  · refine decodeStatement_twoPass.selfDelimiting (fun s c hc => ?_) fun s c hc => ?_
    · rcases encodeStatement_eq_ok_iff.mp hc with ⟨hregistered, rfl⟩
      exact decodeStatement_eq_ok_iff.mpr ⟨statementText_write s, hregistered⟩
    · rw [(encodeStatement_eq_ok_iff.mp hc).2]
      exact getLast?_object _

/-- A document with an unknown effect, without and with white space behind it,
    and a written policy that is cut inside its tag or followed by itself. -/
theorem decode_self_delimiting_cut :
    let s := utf8 "[[[\"Permit\",[]]]]"
    let w := utf8 "\r\n"
    let p : Policy := ⟨[⟨.allow, ["get-object"]⟩]⟩
    let c := writePolicy p
    decodePolicy s = .error (.unknownEffect "Permit") ∧ Blank w ∧
      decodePolicy (s ++ w) = .error (.unknownEffect "Permit") ∧ encodePolicy p = .ok c ∧
      Malformed (decodePolicy (c.take 50)) ∧ Malformed (decodePolicy (c ++ c)) := by
  intro s w p c
  rcases decode_self_delimiting.1 with ⟨hprolonged, hpadded, htruncated, hcontinued⟩
  have hread : ¬ Malformed (decodePolicy s) := by decide +kernel +zetaReduce
  have hread' : ¬ Malformed (decodePolicy (s ++ w)) := by decide +kernel +zetaReduce
  have hs : decodePolicy s = .error (.unknownEffect "Permit") := by decide +kernel +zetaReduce
  have hw : Blank w := (hprolonged s w hread hread').1
  have hc : encodePolicy p = .ok c := by decide +kernel +zetaReduce
  have hcut : c.drop 50 ≠ [] := by decide +kernel +zetaReduce
  have hvisible : ¬ Blank c := fun h => absurd (h 0x7B List.mem_cons_self) (by decide)
  exact ⟨hs, hw, (hpadded s w hread hw).trans hs, hc,
    htruncated p c _ _ hc (List.take_append_drop 50 c).symm hcut, hcontinued p c c hc hvisible⟩

end StoragePolicy
