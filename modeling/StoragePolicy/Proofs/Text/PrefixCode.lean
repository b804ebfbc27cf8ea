import StoragePolicy.Text.Octets

/-!
# UTF-8 as a Prefix Code

What a reader of octets may rely on when it cuts a text into characters. No
character's octets begin another's, so the first character of a run of octets
is determined, and with it what follows. An octet that opens a character never
stands inside one, so a cut in front of such an octet falls between
characters, even where the octets around it were put together from different
sources.

## Theorems

* `utf8EncodeChar_append_inj`: The first character of a run is determined.
* `utf8EncodeChar_eq_cons`: A character is one opening octet and others that
  open nothing.
* `toNat_of_mem_utf8EncodeChar`: An octet below `0x80` stands for itself.
* `utf8EncodeChar_of_lt`: A character below `0x80` is one octet.
* `length_utf8Chars_of_lt`: So a text of such characters can be measured in
  either.
-/

namespace StoragePolicy

namespace Text

/-- The first character of a run of octets is determined, and so is the rest. No
    character is written as the beginning of another. -/
theorem utf8EncodeChar_append_inj {c d : Char} {x y : Octets}
    (h : String.utf8EncodeChar c ++ x = String.utf8EncodeChar d ++ y) : c = d ∧ x = y := by
  have hbytes := congrArg List.toByteArray h
  rw [List.toByteArray_append, List.toByteArray_append] at hbytes
  -- Decoding the first character of either run gives the character in front.
  have hc := ByteArray.utf8DecodeChar?_utf8EncodeChar_append (b := x.toByteArray) (c := c)
  rw [hbytes, ByteArray.utf8DecodeChar?_utf8EncodeChar_append] at hc
  have hcd : c = d := (Option.some.inj hc).symm
  subst hcd
  exact ⟨rfl, List.append_cancel_left h⟩

/-- A character is one octet that opens it and others that open nothing. So octets
    show by themselves where a character begins. -/
theorem utf8EncodeChar_eq_cons (c : Char) :
    ∃ b k, String.utf8EncodeChar c = b :: k ∧ b.IsUTF8FirstByte ∧
      ∀ x ∈ k, ¬ x.IsUTF8FirstByte := by
  rcases hk : String.utf8EncodeChar c with _ | ⟨b, k⟩
  · exact absurd hk String.utf8EncodeChar_ne_nil
  · refine ⟨b, k, rfl, ?_, ?_⟩
    · have h0 := UInt8.isUTF8FirstByte_getElem_zero_utf8EncodeChar (c := c)
      simpa only [hk, List.getElem_cons_zero] using h0
    · intro x hx
      rcases List.getElem_of_mem hx with ⟨i, hi, rfl⟩
      have hlen : i + 1 < (String.utf8EncodeChar c).length := by
        rw [hk, List.length_cons]
        omega
      have hne : ¬ (String.utf8EncodeChar c)[i + 1].IsUTF8FirstByte := by
        rw [UInt8.isUTF8FirstByte_getElem_utf8EncodeChar]
        omega
      simpa only [hk, List.getElem_cons_succ] using hne

/-- A character below `0x80` is the one octet of that number, and all that the
    grammars here are made of is below it. -/
theorem utf8EncodeChar_of_lt {c : Char} (h : c.toNat < 0x80) :
    String.utf8EncodeChar c = [UInt8.ofNat c.toNat] := by
  have hv : c.val.toNat ≤ 0x7f := Nat.le_of_lt_succ h
  rw [String.utf8EncodeChar, if_pos hv]
  rfl

/-- A text of characters below `0x80` has as many octets as characters. This is
    why some checks may count either. -/
theorem length_utf8Chars_of_lt {cs : List Char} (h : ∀ c ∈ cs, c.toNat < 0x80) :
    (utf8Chars cs).length = cs.length := by
  induction cs with
  | nil => rfl
  | cons c cs ih =>
      rcases List.forall_mem_cons.mp h with ⟨hc, hcs⟩
      rw [utf8Chars_cons, utf8EncodeChar_of_lt hc, List.length_append, ih hcs,
        List.length_singleton, List.length_cons, Nat.add_comm]

/-- An octet below `0x80` stands only for the character of that number. A quote
    among the octets is therefore a quote among the characters. -/
theorem toNat_of_mem_utf8EncodeChar {c : Char} {b : UInt8}
    (hb : b ∈ String.utf8EncodeChar c) (hlt : b.toNat < 0x80) : c.toNat = b.toNat := by
  have hc : c.toNat = c.val.toNat := rfl
  simp only [String.utf8EncodeChar] at hb
  -- Only the shortest of the four forms has an octet that low.
  by_cases hone : c.val.toNat ≤ 0x7f
  · rw [if_pos hone, List.mem_singleton] at hb
    subst hb
    rw [UInt8.toNat_ofNat']
    omega
  · rw [if_neg hone] at hb
    by_cases htwo : c.val.toNat ≤ 0x7ff
    · rw [if_pos htwo] at hb
      simp only [List.mem_cons, List.not_mem_nil, or_false] at hb
      rcases hb with rfl | rfl <;> rw [UInt8.toNat_ofNat'] at hlt <;> omega
    · rw [if_neg htwo] at hb
      by_cases hthree : c.val.toNat ≤ 0xffff
      · rw [if_pos hthree] at hb
        simp only [List.mem_cons, List.not_mem_nil, or_false] at hb
        rcases hb with rfl | rfl | rfl <;> rw [UInt8.toNat_ofNat'] at hlt <;> omega
      · rw [if_neg hthree] at hb
        simp only [List.mem_cons, List.not_mem_nil, or_false] at hb
        rcases hb with rfl | rfl | rfl | rfl <;> rw [UInt8.toNat_ofNat'] at hlt <;> omega

end Text

end StoragePolicy
