import StoragePolicy.Json.Printer
import StoragePolicy.Proofs.Json.Reading

/-!
# The Canonical Spelling Is a Spelling

What the printer writes, held against the grammar. Every piece of the printer
writes one of the spellings of what it was given: texts, whole numbers, lists,
members and objects. A printer for a record of the library is then covered by
naming the value that it writes.

A number's digits begin with a zero only if the number is zero, which is what
the grammar asks of a whole part, and the digits give the number back.

## Theorems

* `quoted_spelled`: A text is written as one of its spellings.
* `number_spelled`, `number_injective`: So is a whole number, and as no other.
* `list_padded`: A list of written values with white space around them.
* `list_spelled`, `object_spelled`: Lists and objects of written things.
-/

namespace StoragePolicy

namespace Json

open Text

/-! ## Strings -/

/-- A lower-case digit is one octet and stands for its value. -/
theorem hexDigit_digitChar {d : Nat} (h : d < 16) :
    ∃ b, String.utf8EncodeChar (Nat.digitChar d) = [b] ∧ HexDigit d b := by
  by_cases hd : d < 10
  · have hn : (Nat.digitChar d).toNat = 48 + d := Nat.toNat_digitChar_of_lt_ten hd
    refine ⟨_, utf8EncodeChar_of_lt (by omega), HexDigit.decimal hd ?_⟩
    rw [UInt8.toNat_ofNat', hn]
    omega
  -- The letters begin anew at ten.
  · have hn : ∀ v < 6, (Nat.digitChar (10 + v)).toNat = 0x61 + v := by decide
    have hv := hn (d - 10) (by omega)
    have hsum : 10 + (d - 10) = d := by omega
    rw [← hsum]
    refine ⟨_, utf8EncodeChar_of_lt (by omega), HexDigit.lower (by omega) ?_⟩
    rw [UInt8.toNat_ofNat', hv]
    omega

/-- The letters are the printer's own; each is one that the grammar knows. -/
theorem shortForm?_spelled {c letter : Char} (h : shortForm? c = some letter) :
    CharSpelling c (utf8Chars ['\\', letter]) := by
  simp only [shortForm?, ite_eq_iff, Option.some.injEq, reduceCtorEq, and_false, or_false] at h
  rcases h with ⟨rfl, rfl⟩ | ⟨-, ⟨rfl, rfl⟩ | ⟨-, ⟨rfl, rfl⟩ | ⟨-, ⟨rfl, rfl⟩ | ⟨-, ⟨rfl, rfl⟩ |
    ⟨-, ⟨rfl, rfl⟩ | ⟨-, rfl, rfl⟩⟩⟩⟩⟩⟩
  all_goals exact CharSpelling.escaped (EscapeSpelling.letter (by decide))

/-- A control character is written with two zeros and the digits of its number. -/
theorem control_spelled {c : Char} (hlow : c.toNat < 0x20) :
    CharSpelling c (utf8Chars ['\\', 'u', '0', '0', Nat.digitChar (c.toNat / 16),
      Nat.digitChar (c.toNat % 16)]) := by
  rcases hexDigit_digitChar (show c.toNat / 16 < 16 by omega) with ⟨a, ha, hda⟩
  rcases hexDigit_digitChar (show c.toNat % 16 < 16 by omega) with ⟨b, hb, hdb⟩
  have hzero : HexDigit 0 0x30 := HexDigit.decimal (by decide) (by decide)
  have hunit := UnitSpelling.mk hzero hzero hda hdb
  have hn : ((0 * 16 + 0) * 16 + c.toNat / 16) * 16 + c.toNat % 16 = c.toNat := by omega
  rw [hn] at hunit
  have hwritten : utf8Chars ['\\', 'u', '0', '0', Nat.digitChar (c.toNat / 16),
      Nat.digitChar (c.toNat % 16)] = [0x5C, 0x75, 0x30, 0x30, a, b] := by
    simp only [utf8Chars_cons, utf8Chars_nil, ha, hb]
    rfl
  rw [hwritten]
  exact CharSpelling.escaped (EscapeSpelling.unit hunit)

/-- A character is written as one of its spellings: by its letter, by its number if
    it is a control, and raw otherwise. -/
theorem escaped_spelled (c : Char) : CharSpelling c (utf8Chars (escaped c)) := by
  cases hshort : shortForm? c with
  | some letter =>
      simp only [escaped, hshort]
      exact shortForm?_spelled hshort
  | none =>
      by_cases hlow : c.toNat < 0x20
      · simp only [escaped, hshort, hlow, if_true]
        exact control_spelled hlow
      · simp only [escaped, hshort, hlow, if_false]
        rw [utf8Chars_cons, utf8Chars_nil, List.append_nil]
        refine CharSpelling.raw ?_ ?_ (by omega)
        -- A quote and a backslash have a letter.
        · rintro rfl
          exact absurd hshort (by decide)
        · rintro rfl
          exact absurd hshort (by decide)

theorem content_spelled (cs : List Char) :
    ContentSpelling cs (utf8Chars (cs.flatMap escaped)) := by
  induction cs with
  | nil => exact ContentSpelling.nil
  | cons c cs ih =>
      rw [List.flatMap_cons, utf8Chars_append]
      exact ContentSpelling.cons (escaped_spelled c) ih

/-- A text is written as one of its spellings, whatever characters it is made of.
    So a reader that is right about the spellings reads back what was written. -/
theorem quoted_spelled (t : String) : StringSpelling t (quoted t) := by
  refine ⟨_, content_spelled t.toList, ?_⟩
  rw [quoted, quotedChars, List.cons_append, utf8Chars_cons, utf8Chars_append]
  rfl

/-! ## Whole numbers -/

theorem digits_toDigits (n : Nat) : Digits (utf8Chars (Nat.toDigits 10 n)) := by
  constructor
  · intro h
    rcases hd : Nat.toDigits 10 n with _ | ⟨c, cs⟩
    · exact Nat.toDigits_ne_nil hd
    · rw [hd, utf8Chars_cons] at h
      exact String.utf8EncodeChar_ne_nil (List.append_eq_nil_iff.mp h).1
  · intro b hb
    rcases List.mem_flatMap.mp hb with ⟨c, hc, hb⟩
    have hdigit := Nat.isDigit_of_mem_toDigits (by decide) (by decide) hc
    rcases Char.isDigit_iff_toNat.mp hdigit with ⟨hlo, hhi⟩
    change 48 ≤ c.toNat at hlo
    change c.toNat ≤ 57 at hhi
    rw [utf8EncodeChar_of_lt (by omega), List.mem_singleton] at hb
    subst hb
    -- The bounds are compared as numbers, since the octet is a number cut to eight bits.
    rw [UInt8.le_iff_toNat_le, UInt8.le_iff_toNat_le, UInt8.toNat_ofNat']
    change 48 ≤ c.toNat % 256 ∧ c.toNat % 256 ≤ 57
    omega

/-- The first digit of a number that is not zero is not zero. -/
theorem toDigits_head (n : Nat) (hn : 0 < n) :
    ∃ d cs, 0 < d ∧ d < 10 ∧ Nat.toDigits 10 n = Nat.digitChar d :: cs := by
  induction n using Nat.strong_induction_on with
  | _ n ih =>
    by_cases hlt : n < 10
    · exact ⟨n, [], hn, hlt, Nat.toDigits_of_lt_base hlt⟩
    · -- The last digit is put behind those of a smaller number, which is not zero either.
      rcases ih (n / 10) (by omega) (by omega) with ⟨d, cs, hd, hd', hcs⟩
      refine ⟨d, cs ++ [Nat.digitChar (n % 10)], hd, hd', ?_⟩
      rw [Nat.toDigits_of_base_le (by decide) (by omega), hcs, List.cons_append]

/-- No zero is written in front of other digits. -/
theorem wholePart_toDigits (n : Nat) : WholePart (utf8Chars (Nat.toDigits 10 n)) := by
  rcases Nat.eq_zero_or_pos n with rfl | hn
  · exact Or.inl rfl
  · refine Or.inr ⟨digits_toDigits n, ?_⟩
    rcases toDigits_head n hn with ⟨d, cs, hd, hd', hcs⟩
    have hnum : (Nat.digitChar d).toNat = 48 + d := Nat.toNat_digitChar_of_lt_ten hd'
    rw [hcs, utf8Chars_cons, utf8EncodeChar_of_lt (by omega), hnum]
    -- The first digit is at least `1`, so its octet is not that of `0`.
    intro hzero
    injection hzero with hzero
    have h48 := congrArg UInt8.toNat hzero
    rw [UInt8.toNat_ofNat'] at h48
    change (48 + d) % 256 = 48 at h48
    omega

/-- A whole number is written as one of its spellings, with the sign in front of
    the digits. -/
theorem number_spelled (n : Int) : NumberSpelling (number n) := by
  -- A whole number has neither a fraction nor an exponent.
  cases n with
  | ofNat n =>
      refine ⟨[], utf8Chars (Nat.toDigits 10 n), [], [], Or.inl rfl, wholePart_toDigits n,
        Or.inl rfl, Or.inl rfl, ?_⟩
      simp only [number, List.nil_append, List.append_nil]
  | negSucc n =>
      refine ⟨[0x2D], utf8Chars (Nat.toDigits 10 (n + 1)), [], [], Or.inr rfl,
        wholePart_toDigits (n + 1), Or.inl rfl, Or.inl rfl, ?_⟩
      simp only [number, utf8Chars_cons, List.append_nil]
      rfl

theorem toDigits_injective {m n : Nat}
    (h : utf8Chars (Nat.toDigits 10 m) = utf8Chars (Nat.toDigits 10 n)) : m = n := by
  -- The octets give the characters back, and these the number.
  have hchars : Nat.toDigits 10 m = Nat.toDigits 10 n := by
    have hs : utf8 (String.ofList (Nat.toDigits 10 m)) =
        utf8 (String.ofList (Nat.toDigits 10 n)) := by
      rw [utf8, utf8, String.toList_ofList, String.toList_ofList, h]
    have hlist := congrArg String.toList (utf8_injective hs)
    rwa [String.toList_ofList, String.toList_ofList] at hlist
  calc m = Nat.ofDigitChars 10 (Nat.toDigits 10 m) 0 := Nat.ofDigitChars_ten_toDigits.symm
    _ = Nat.ofDigitChars 10 (Nat.toDigits 10 n) 0 := by rw [hchars]
    _ = n := Nat.ofDigitChars_ten_toDigits

/-- Different numbers are written differently. The digits can be read back from
    the written form, and the sign from its first octet. -/
theorem number_injective {m n : Int} (h : number m = number n) : m = n := by
  -- A sign is no digit.
  have hsign : ∀ a b : Nat, number (Int.ofNat a) ≠ number (Int.negSucc b) := by
    intro a b hab
    have hmem : (0x2D : UInt8) ∈ number (Int.ofNat a) := by
      rw [hab]
      exact List.mem_cons_self
    exact absurd ((digits_toDigits a).2 _ hmem).1 (by decide)
  cases m with
  | ofNat m =>
      cases n with
      | ofNat n => exact congrArg Int.ofNat (toDigits_injective h)
      | negSucc n => exact absurd h (hsign m n)
  | negSucc m =>
      cases n with
      | ofNat n => exact absurd h.symm (hsign n m)
      | negSucc n =>
          simp only [number, utf8Chars_cons] at h
          have := toDigits_injective (List.append_cancel_left h)
          rw [Nat.succ.inj this]

/-! ## Lists and objects -/

/-- What can stand first can also follow a comma. -/
theorem Separated.further {P : Spelling} {Ps : List Spelling} {s : Octets}
    (h : Separated (P :: Ps) s) : Further (P :: Ps) (0x2C :: s) := by
  cases h with
  | some hp hs => exact Further.cons hp hs

/-- Items may bring their own white space. -/
theorem separated_padded {Ps : List Spelling} {items : List Octets}
    (h : List.Forall₂ Padded Ps items) : Separated Ps (separated items) := by
  induction h with
  | nil => exact Separated.none Blank.nil
  | cons hp hps ih =>
      -- The last item has no comma behind it.
      cases hps with
      | nil =>
          have hlast := Separated.some hp Further.nil
          rw [List.append_nil] at hlast
          exact hlast
      | cons hq hqs => exact Separated.some hp ih.further

theorem separated_spelled {Ps : List Spelling} {items : List Octets}
    (h : List.Forall₂ (fun P s => P s) Ps items) : Separated Ps (separated items) :=
  separated_padded (h.imp fun _ _ => padded_of_bare)

/-- Written values between square brackets are a written list, whatever white
    space is around them. -/
theorem list_padded {xs : List Value} {items : List Octets}
    (h : List.Forall₂ (fun x s => Padded x.Spelled s) xs items) :
    (Value.list xs).Spelled (list items) := by
  rw [Value.spelled_list]
  refine ⟨separated items, separated_padded ?_, rfl⟩
  rw [List.forall₂_map_left_iff]
  exact h

theorem list_spelled {xs : List Value} {items : List Octets}
    (h : List.Forall₂ Value.Spelled xs items) : (Value.list xs).Spelled (list items) :=
  list_padded (h.imp fun _ _ => padded_of_bare)

/-- A list written item by item. -/
theorem list_map_spelled {α : Type} {f : α → Value} {g : α → Octets}
    (h : ∀ a, (f a).Spelled (g a)) (as : List α) :
    (Value.list (as.map f)).Spelled (list (as.map g)) := by
  refine list_spelled ?_
  rw [List.forall₂_map_left_iff, List.forall₂_map_right_iff, List.forall₂_same]
  exact fun a _ => h a

theorem member_spelled {x : Value} {s : Octets} (name : String) (h : x.Spelled s) :
    memberSpelling (name, x) (member name s) :=
  ⟨quoted name, [], [], s, quoted_spelled name, Blank.nil, Blank.nil, h, by
    simp only [member, List.append_nil, List.append_assoc, List.cons_append, List.nil_append]⟩

/-- Written members between braces are a written object. Their order is kept, and
    nothing is asked of their names. -/
theorem object_spelled {ms : List (String × Value)} {items : List Octets}
    (h : List.Forall₂ memberSpelling ms items) : (Value.object ms).Spelled (object items) := by
  rw [Value.spelled_object]
  refine ⟨separated items, separated_spelled ?_, rfl⟩
  rw [List.forall₂_map_left_iff]
  exact h

end Json

end StoragePolicy
