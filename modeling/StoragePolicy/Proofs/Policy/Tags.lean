import StoragePolicy.Policy.Document
import StoragePolicy.Proofs.Json.Canonical
import StoragePolicy.Proofs.Json.Records

/-!
# Tags by Themselves

A tag is free text, and nobody asks the registry about it when it is written or
read by itself. Its written form has to keep apart what the tag says and where it
ends, whatever characters it is made of, since this form is what every message
that is signed and every document that is decoded is put together from.

What ends a string is the first quote that no backslash has taken. Whether one
has is a matter of everything in front, as a backslash may itself have been taken
by another: `isEscaped` goes through it once. An octet between the quotes can
therefore move the end of the string in two ways, by being such a quote or by
being a backslash that takes the closing one, and `Enclosed` says that neither
happens. It is kept by putting octets in a row, so it needs to be shown of the
spellings of single characters only.

## Main definitions

* `isEscaped`: Whether a backslash takes what stands behind some octets.
* `Enclosed`: Octets that can stand between two quotes.

## Theorems

* `Enclosed.append`: Enclosed octets can stand in a row.
* `enclosed_of_contentSpelling`: What spells a text can stand between quotes.
* `decodeTag_eq_ok_iff`: What is read as a tag.
* `tag_roundTrip`: A tag survives being written.
-/

namespace StoragePolicy

open Text Json

namespace Json

/-- Whether a backslash takes what stands behind the octets. A backslash that was
    taken itself takes nothing. -/
def isEscaped (before : Octets) : Bool := before.foldl (fun taken b => !taken && b == 0x5C) false

/-- Octets that can stand between two quotes without moving the second. -/
structure Enclosed (s : Octets) : Prop where
  /-- There is no raw control character. -/
  visible : ∀ b ∈ s, ¬ b < 0x20
  /-- Every quote is taken by a backslash. -/
  quotes : ∀ before after, s = before ++ 0x22 :: after → isEscaped before = true
  /-- What stands behind is not. -/
  complete : isEscaped s = false

/-- Behind octets that take nothing, the count begins anew. -/
theorem isEscaped_append {s : Octets} (h : isEscaped s = false) (t : Octets) :
    isEscaped (s ++ t) = isEscaped t := by
  rw [isEscaped, List.foldl_append, ← isEscaped, h]
  rfl

theorem isEscaped_concat (s : Octets) (b : UInt8) :
    isEscaped (s ++ [b]) = (!isEscaped s && b == 0x5C) := by
  rw [isEscaped, List.foldl_append]
  rfl

/-- Enclosed octets can stand in a row: a backslash at the end of the first run
    cannot reach over into the second, as nothing behind the first run is taken. -/
theorem Enclosed.append {s t : Octets} (hs : Enclosed s) (ht : Enclosed t) :
    Enclosed (s ++ t) := by
  refine ⟨fun b hb => ?_, fun before after h => ?_, ?_⟩
  · exact (List.mem_append.mp hb).elim (hs.visible b) (ht.visible b)
  · -- The quote stands in one of the two parts.
    rcases List.append_eq_append_iff.mp h with ⟨k, rfl, hk⟩ | ⟨k, hk, hafter⟩
    · rw [isEscaped_append hs.complete]
      exact ht.quotes k after hk
    · cases k with
      | nil => exact absurd (ht.quotes [] after hafter.symm) (by decide)
      | cons b k =>
          injection hafter with hb
          subst hb
          exact hs.quotes before k hk
  · rw [isEscaped_append hs.complete, ht.complete]

/-- Octets that mean nothing to a string can stand in one. -/
theorem Enclosed.raw {s : Octets} (h : ∀ b ∈ s, b ≠ 0x22 ∧ b ≠ 0x5C ∧ ¬ b < 0x20) :
    Enclosed s := by
  refine ⟨fun b hb => (h b hb).2.2, fun before after hsplit => ?_, ?_⟩
  · have hmem : 0x22 ∈ s := hsplit ▸ List.mem_append_right before List.mem_cons_self
    exact absurd rfl (h 0x22 hmem).1
  -- Only the last octet could take what stands behind, and it is no backslash.
  · rcases List.eq_nil_or_concat' s with rfl | ⟨t, b, rfl⟩
    · rfl
    · have hb : b ≠ 0x5C := (h b (List.mem_append_right t List.mem_cons_self)).2.1
      rw [isEscaped_concat, beq_eq_false_iff_ne.mpr hb, Bool.and_false]

/-- A backslash can stand in a string with the octet that it takes. A quote there
    does not end the string. -/
theorem Enclosed.taken {b : UInt8} (h : ¬ b < 0x20) : Enclosed [0x5C, b] := by
  refine ⟨List.forall_mem_cons.mpr ⟨by decide, List.forall_mem_singleton.mpr h⟩,
    fun before after hsplit => ?_, rfl⟩
  -- A quote can only be the second of the two octets.
  rcases before with _ | ⟨c, _ | ⟨d, before⟩⟩
  · injection hsplit with hfirst
    exact absurd hfirst (by decide)
  · injection hsplit with hfirst
    rw [← hfirst]
    rfl
  · injection hsplit with _ hsplit
    injection hsplit with _ hsplit
    exact absurd hsplit.symm (List.append_ne_nil_of_right_ne_nil before (List.cons_ne_nil _ _))

theorem HexDigit.raw {v : Nat} {b : UInt8} (h : HexDigit v b) :
    b ≠ 0x22 ∧ b ≠ 0x5C ∧ ¬ b < 0x20 := by
  have hrange : 0x30 ≤ b.toNat ∧ b.toNat ≠ 0x5C := by
    -- The three ranges of digits lie above the controls and miss the backslash.
    cases h <;> omega
  refine ⟨?_, ?_, ?_⟩
  · rintro rfl
    exact absurd hrange.1 (by decide)
  · rintro rfl
    exact hrange.2 rfl
  · rw [UInt8.lt_iff_toNat_lt]
    change ¬ b.toNat < 32
    omega

/-- A unit behind its mark. -/
theorem UnitSpelling.enclosed {n : Nat} {s : Octets} (h : UnitSpelling n s) :
    Enclosed (0x5C :: 0x75 :: s) := by
  refine Enclosed.append (s := [0x5C, 0x75]) (Enclosed.taken (by decide)) (Enclosed.raw ?_)
  cases h with
  | mk ha hb hc hd =>
      simp only [List.forall_mem_cons]
      exact ⟨ha.raw, hb.raw, hc.raw, hd.raw, List.forall_mem_nil _⟩

/-- The spelling of a character, in each of the ways it can be spelled, moves no
    quote. -/
theorem CharSpelling.enclosed {c : Char} {s : Octets} (h : CharSpelling c s) : Enclosed s := by
  cases h with
  | raw hquote hbackslash hcontrol => exact Enclosed.raw (octets_of_raw hquote hbackslash hcontrol)
  | escaped he =>
      cases he with
      | letter hletter =>
          -- The letters are few, so that none is a control can be looked up.
          have hall : letterEscapes.all (fun e => decide (¬ e.1 < 0x20)) = true := by decide
          exact Enclosed.taken (of_decide_eq_true (List.all_eq_true.mp hall _ hletter))
      | unit hunit => exact hunit.enclosed
      | pair _ _ _ hhigh hlow => exact hhigh.enclosed.append hlow.enclosed

/-- What spells a text can stand between two quotes, since each of its characters is
    spelled by octets that can. -/
theorem enclosed_of_contentSpelling {cs : List Char} {s : Octets} (h : ContentSpelling cs s) :
    Enclosed s := by
  induction h with
  | nil => exact Enclosed.raw (List.forall_mem_nil _)
  | cons hc _ ih => exact hc.enclosed.append ih

end Json

/-- A tag is read from its spellings as a string, and from nothing else. It need
    not be registered, since reading a tag alone does not look it up. -/
theorem decodeTag_eq_ok_iff {s : Octets} {tag : String} :
    decodeTag s = .ok tag ↔ Padded (StringSpelling tag) s := by
  rw [decodeTag, entire_eq_ok_iff readString_reads]
  constructor
  · rintro ⟨x, rfl, hs⟩
    exact hs
  · intro hs
    exact ⟨.string tag, rfl, hs⟩

/-- A tag survives being written, whether or not it is registered. What it is made
    of can neither end it nor let anything behind it be taken for a part of it. A
    tag can hold quotes, backslashes and control characters, and is no danger to
    the document that it is put into. -/
theorem tag_roundTrip :
    (∀ tag, ∃ text body, utf8 text = encodeTag tag ∧
      encodeTag tag = 0x22 :: body ++ [0x22] ∧ Enclosed body) ∧
    (∀ tag, decodeTag (encodeTag tag) = .ok tag) ∧
    (∀ s tag, decodeTag s = .ok tag ↔ Padded (StringSpelling tag) s) ∧
    (∀ tag w, Blank w → decodeTag (encodeTag tag ++ w) = .ok tag) ∧
    ∀ tag t, ¬ Blank t → decodeTag (encodeTag tag ++ t) = .error .trailingCharacters := by
  have hread : ∀ tag w, Blank w → decodeTag (encodeTag tag ++ w) = .ok tag := by
    intro tag w hw
    exact decodeTag_eq_ok_iff.mpr ⟨[], encodeTag tag, w, Blank.nil, quoted_spelled tag, hw, rfl⟩
  have hback : ∀ tag, decodeTag (encodeTag tag) = .ok tag := by
    intro tag
    have := hread tag [] Blank.nil
    rwa [List.append_nil] at this
  refine ⟨fun tag => ?_, hback, fun s tag => decodeTag_eq_ok_iff, hread, fun tag t ht => ?_⟩
  · rcases quoted_spelled tag with ⟨body, hbody, hquoted⟩
    refine ⟨String.ofList (quotedChars tag.toList), body, ?_, hquoted,
      enclosed_of_contentSpelling hbody⟩
    rw [utf8, String.toList_ofList, encodeTag, quoted]
  · exact entire_append_eq_error readString_reads (hback tag) ht

/-- A tag of characters that are escaped in all three ways, of one that need not be
    and of some with several octets, followed by white space and by a second quote. -/
theorem tag_roundTrip_hostile :
    let tag := "\"\\\n\x00\x1f\x7f é😀"
    Action.isRegistered tag = false ∧
      encodeTag tag = utf8 "\"\\\"\\\\\\n\\u0000\\u001f\x7f é😀\"" ∧
      decodeTag (encodeTag tag) = .ok tag ∧ Blank [0x20, 0x0A] ∧
      decodeTag (encodeTag tag ++ [0x20, 0x0A]) = .ok tag ∧ ¬ Blank [0x22] ∧
      decodeTag (encodeTag tag ++ [0x22]) = .error .trailingCharacters := by
  intro tag
  rcases tag_roundTrip with ⟨-, hback, -, hpadded, htrailing⟩
  have hblank : ∀ b ∈ ([0x20, 0x0A] : Octets), BlankOctet b := by decide +kernel
  have hvisible : ¬ Blank [0x22] := fun h => absurd (h 0x22 List.mem_cons_self) (by decide)
  exact ⟨by decide +kernel, by decide +kernel, hback tag, hblank, hpadded tag _ hblank, hvisible,
    htrailing tag _ hvisible⟩

end StoragePolicy
