import Mathlib.Algebra.Group.Nat.Defs
import Mathlib.Data.List.Induction
import StoragePolicy.Message
import StoragePolicy.Proofs.Names.Addresses

/-!
# Written Principals

A principal is carried on chain as a kind and a value, which share one column of
text between accounts and groups. The kind is what keeps them apart, since it
does not matter then what a group's number looks like as an address.

A written principal has no kind beside it. There the marker of groups decides:
a text that begins with it is a group's or nobody's, and any other text is left
to addresses, whose faults are passed on as they are.

The number of a group can be spelled in as many ways as there are zeros to put
in front of it, so the length of a spelling says nothing about whether the
number fits sixty-four bits. That is a question about the value alone, which is
why a numeral is described by the value that it has so far, one digit after the
other. A value that does not fit is refused and never cut to size.

Every text behind the marker is a number that fits or has one of four things
wrong with it, and those are told apart without running the reader.

## Main definitions

* `Text.Numeral`: The decimal digits of a number, with any zeros in front.
* `Principal.IdSpells`: The spellings of a group's number.
* `Principal.IdRefused`: Why a text is no group's number.

## Theorems

* `Text.numeral_iff`: Numerals are digits, and their value is what these count.
* `groupId?_eq_some_iff`: What is read as a group's number.
* `Principal.spelled_or_refused`: There is no third case.
* `Grantee.ofPrincipal_injective`: Principals are told apart by what is carried.
* `Principal.texts_read`: What reading a principal is.
-/

namespace StoragePolicy

open Text Json

/-! ## Numerals -/

namespace Text

/-- The digits are those of the number, behind any zeros. One more digit makes
    the number ten times what it was, and adds to it. -/
inductive Numeral : Nat → List Char → Prop where
  | digit {d : Nat} (hd : d < 10) : Numeral d [Nat.digitChar d]
  | further {n d : Nat} {digits : List Char} (h : Numeral n digits) (hd : d < 10) :
      Numeral (10 * n + d) (digits ++ [Nat.digitChar d])

theorem isDigit_iff {c : Char} : c.isDigit = true ↔ ∃ d < 10, c = Nat.digitChar d := by
  constructor
  · intro h
    rcases Char.isDigit_iff_toNat.mp h with ⟨hlo, hhi⟩
    change 48 ≤ c.toNat at hlo
    change c.toNat ≤ 57 at hhi
    refine ⟨c.toNat - 48, by omega, Char.toNat_inj.mp ?_⟩
    rw [Nat.toNat_digitChar_of_lt_ten (by omega)]
    omega
  · rintro ⟨d, hd, rfl⟩
    rw [Nat.isDigit_digitChar]
    exact decide_eq_true hd

/-- The value of digits with one more behind them. -/
theorem ofDigitChars_concat (digits : List Char) {d : Nat} (hd : d < 10) :
    Nat.ofDigitChars 10 (digits ++ [Nat.digitChar d]) 0 =
      10 * Nat.ofDigitChars 10 digits 0 + d := by
  rw [Nat.ofDigitChars_append, Nat.ofDigitChars_cons_digitChar_of_lt_ten hd,
    Nat.ofDigitChars_nil]

/-- A numeral is at least one digit and nothing else, and stands for what its
    digits come to. -/
theorem numeral_iff {n : Nat} {digits : List Char} :
    Numeral n digits ↔ digits ≠ [] ∧ (∀ c ∈ digits, c.isDigit = true) ∧
      Nat.ofDigitChars 10 digits 0 = n := by
  constructor
  · intro h
    -- Digit by digit, as the numeral was put together.
    induction h with
    | digit hd =>
        refine ⟨List.cons_ne_nil _ _, List.forall_mem_singleton.mpr (isDigit_iff.mpr ⟨_, hd, rfl⟩),
          ?_⟩
        rw [Nat.ofDigitChars_cons_digitChar_of_lt_ten hd, Nat.ofDigitChars_nil, Nat.mul_zero,
          Nat.zero_add]
    | further h hd ih =>
        rcases ih with ⟨-, hdigits, hvalue⟩
        refine ⟨List.concat_ne_nil _ _, ?_, ?_⟩
        · intro c hc
          rcases List.mem_append.mp hc with hmem | hlast
          · exact hdigits c hmem
          · rw [List.mem_singleton] at hlast
            exact isDigit_iff.mpr ⟨_, hd, hlast⟩
        · rw [ofDigitChars_concat _ hd, hvalue]
  · rintro ⟨hne, hdigits, rfl⟩
    -- From the last digit, since that is where a numeral is prolonged.
    induction digits using List.reverseRecOn with
    | nil => exact absurd rfl hne
    | append_singleton digits c ih =>
        rcases isDigit_iff.mp (hdigits c (List.mem_append_right _ List.mem_cons_self)) with
          ⟨d, hd, rfl⟩
        by_cases hempty : digits = []
        · subst hempty
          rw [List.nil_append, Nat.ofDigitChars_cons_digitChar_of_lt_ten hd, Nat.ofDigitChars_nil,
            Nat.mul_zero, Nat.zero_add]
          exact Numeral.digit hd
        · rw [ofDigitChars_concat _ hd]
          exact Numeral.further
            (ih hempty fun c hc => hdigits c (List.mem_append_left _ hc)) hd

theorem Numeral.ne_nil {n : Nat} {digits : List Char} (h : Numeral n digits) : digits ≠ [] :=
  (numeral_iff.mp h).1

theorem Numeral.isDigit {n : Nat} {digits : List Char} (h : Numeral n digits) :
    ∀ c ∈ digits, c.isDigit = true := (numeral_iff.mp h).2.1

/-- Digits have one value. -/
theorem Numeral.unique {m n : Nat} {digits : List Char} (hm : Numeral m digits)
    (hn : Numeral n digits) : m = n :=
  (numeral_iff.mp hm).2.2.symm.trans (numeral_iff.mp hn).2.2

/-- A numeral has no sign. -/
theorem not_numeral_sign {n : Nat} {digits : List Char} : ¬ Numeral n ('+' :: digits) :=
  fun h => absurd (h.isDigit '+' List.mem_cons_self) (by decide)

/-- A number is written as one of its numerals. -/
theorem numeral_toDigits (n : Nat) : Numeral n (Nat.toDigits 10 n) :=
  numeral_iff.mpr ⟨Nat.toDigits_ne_nil,
    fun _ hc => Nat.isDigit_of_mem_toDigits (by decide) (by decide) hc,
    Nat.ofDigitChars_ten_toDigits⟩

/-- What is no numeral has a character in it that is no digit. -/
theorem numeral_or_character {digits : List Char} (hne : digits ≠ []) :
    (∃ n, Numeral n digits) ∨
      ∃ before c after, digits = before ++ c :: after ∧ c.isDigit = false := by
  by_cases hdigits : ∀ c ∈ digits, c.isDigit = true
  · exact Or.inl ⟨_, numeral_iff.mpr ⟨hne, hdigits, rfl⟩⟩
  · simp only [not_forall, exists_prop, Bool.not_eq_true] at hdigits
    rcases hdigits with ⟨c, hc, hbad⟩
    rcases List.append_of_mem hc with ⟨before, after, hsplit⟩
    exact Or.inr ⟨before, c, after, hsplit, hbad⟩

end Text

/-! ## Numbers of groups -/

/-- Digits are read as the number that they come to, if it fits. -/
theorem decimalId?_eq_some_iff {digits : List Char} {id : UInt64} :
    decimalId? digits = some id ↔ Numeral id.toNat digits := by
  have hform : (digits.isEmpty || !digits.all Char.isDigit) = false ↔
      digits ≠ [] ∧ ∀ c ∈ digits, c.isDigit = true := by
    rw [Bool.or_eq_false_iff, List.isEmpty_eq_false_iff, Bool.not_eq_false', List.all_eq_true]
  rw [numeral_iff]
  -- The reader stops at once at a text that is empty or has a character that is no digit.
  cases hstop : (digits.isEmpty || !digits.all Char.isDigit) with
  | true =>
      rw [decimalId?, if_pos hstop]
      constructor
      · intro h
        injection h
      · rintro ⟨hne, hdigits, -⟩
        rw [hform.mpr ⟨hne, hdigits⟩] at hstop
        injection hstop
  | false =>
      rcases hform.mp hstop with ⟨hne, hdigits⟩
      simp only [decimalId?, hstop, Bool.false_eq_true, if_false]
      constructor
      · intro h
        rcases Option.ite_none_right_eq_some.mp h with ⟨hfits, h⟩
        injection h with h
        refine ⟨hne, hdigits, ?_⟩
        -- Nothing is cut off, because the number was held against the size first.
        rw [← h, UInt64.toNat_ofNat_of_lt' hfits]
      · rintro ⟨-, -, hvalue⟩
        rw [hvalue, if_pos id.toNat_lt, UInt64.ofNat_toNat]

namespace Principal

/-- The spellings of a group's number: its digits, with or without a plus sign
    in front. -/
inductive IdSpells (n : Nat) : List Char → Prop where
  | plain {digits : List Char} (h : Numeral n digits) : IdSpells n digits
  | plus {digits : List Char} (h : Numeral n digits) : IdSpells n ('+' :: digits)

/-- Why a text is no group's number. -/
inductive IdRefused : List Char → Prop where
  /-- There is nothing. -/
  | empty : IdRefused []
  /-- There is nothing but a plus sign. -/
  | sign : IdRefused ['+']
  /-- There is a character that is no digit, and it is no plus sign in front. -/
  | character {before after : List Char} {c : Char} (hdigit : c.isDigit = false)
    (hplace : before = [] → c ≠ '+') : IdRefused (before ++ c :: after)
  /-- There is a number, but not one of sixty-four bits. -/
  | tooLarge {s : List Char} {n : Nat} (h : IdSpells n s) (hlarge : 2 ^ 64 ≤ n) : IdRefused s

/-- A text spells one number at most, since no numeral has a sign. -/
theorem IdSpells.unique {m n : Nat} {s : List Char} (hm : IdSpells m s) (hn : IdSpells n s) :
    m = n := by
  cases hm with
  | plain hm =>
      cases hn with
      | plain hn => exact hm.unique hn
      | plus hn => exact absurd hm not_numeral_sign
  | plus hm =>
      cases hn with
      | plain hn => exact absurd hn not_numeral_sign
      | plus hn => exact hm.unique hn

/-- Every character of a spelling is a digit, or the sign in front. -/
theorem IdSpells.isDigit_or_sign {n : Nat} {before after : List Char} {c : Char}
    (h : IdSpells n (before ++ c :: after)) : c.isDigit = true ∨ (before = [] ∧ c = '+') := by
  -- The text is taken apart in two ways, at the character and at the sign.
  generalize hs : before ++ c :: after = s at h
  cases h with
  | plain hn => exact Or.inl (hn.isDigit c (hs ▸ List.mem_append_right _ List.mem_cons_self))
  | plus hn =>
      cases before with
      | nil =>
          injection hs with hc
          exact Or.inr ⟨rfl, hc⟩
      | cons _ before =>
          injection hs with _ hs
          exact Or.inl (hn.isDigit c (hs ▸ List.mem_append_right _ List.mem_cons_self))

/-- A text that is refused spells no number of sixty-four bits. -/
theorem IdRefused.not_spells {s : List Char} (h : IdRefused s) (id : UInt64) :
    ¬ IdSpells id.toNat s := by
  intro hid
  -- Each reason against a spelling rules out both kinds of it.
  cases h with
  | empty =>
      cases hid with
      | plain hn => exact hn.ne_nil rfl
  | sign =>
      cases hid with
      | plain hn => exact not_numeral_sign hn
      | plus hn => exact hn.ne_nil rfl
  | character hdigit hplace =>
      rcases hid.isDigit_or_sign with hc | ⟨hbefore, hc⟩
      · rw [hdigit] at hc
        exact Bool.false_ne_true hc
      · exact hplace hbefore hc
  | tooLarge hn hlarge =>
      have hlt : id.toNat < 2 ^ 64 := id.toNat_lt
      have hsame := hid.unique hn
      omega

/-- Digits are a number that fits, or have something wrong with them. -/
theorem fits_or_refused {n : Nat} {s : List Char} (h : IdSpells n s) :
    (∃ id : UInt64, IdSpells id.toNat s) ∨ IdRefused s := by
  by_cases hfits : n < UInt64.size
  · refine Or.inl ⟨UInt64.ofNat n, ?_⟩
    rw [UInt64.toNat_ofNat_of_lt' hfits]
    exact h
  · exact Or.inr (.tooLarge h (Nat.not_lt.mp hfits))

/-- Either a text spells the number of some group, or there is a reason
    against. -/
theorem spelled_or_refused (s : List Char) :
    (∃ id : UInt64, IdSpells id.toNat s) ∨ IdRefused s := by
  -- With the sign gone, what is left is a numeral, empty, or has a bad character.
  by_cases hplus : ∃ digits, s = '+' :: digits
  · rcases hplus with ⟨digits, rfl⟩
    by_cases hne : digits = []
    · exact Or.inr (hne ▸ .sign)
    · rcases numeral_or_character hne with ⟨n, hn⟩ | ⟨before, c, after, rfl, hbad⟩
      · exact fits_or_refused (.plus hn)
      · -- The sign in front is one character more before the bad one.
        have hrefused : IdRefused (('+' :: before) ++ c :: after) :=
          .character hbad fun h => absurd h (List.cons_ne_nil '+' before)
        exact Or.inr hrefused
  · by_cases hne : s = []
    · exact Or.inr (hne ▸ .empty)
    · rcases numeral_or_character hne with ⟨n, hn⟩ | ⟨before, c, after, rfl, hbad⟩
      · exact fits_or_refused (.plain hn)
      · refine Or.inr (.character hbad ?_)
        rintro rfl rfl
        exact hplus ⟨after, rfl⟩

end Principal

open Principal

/-- A group's number is read from its spellings and from nothing else. There are many
    of them, as zeros may stand in front. -/
theorem groupId?_eq_some_iff {s : List Char} {id : UInt64} :
    groupId? s = some id ↔ IdSpells id.toNat s := by
  -- The sign is taken off by the reader, and by one of the two kinds of spelling.
  by_cases hplus : ∃ digits, s = '+' :: digits
  · rcases hplus with ⟨digits, rfl⟩
    rw [groupId?, decimalId?_eq_some_iff]
    constructor
    · exact IdSpells.plus
    · intro h
      cases h with
      | plain hn => exact absurd hn not_numeral_sign
      | plus hn => exact hn
  · have hread : groupId? s = decimalId? s := by
      rw [groupId?]
      exact fun digits hs => hplus ⟨digits, hs⟩
    rw [hread, decimalId?_eq_some_iff]
    constructor
    · exact IdSpells.plain
    · intro h
      cases h with
      | plain hn => exact hn
      | plus => exact absurd ⟨_, rfl⟩ hplus

/-- Nothing is read exactly where there is a reason against it. -/
theorem groupId?_eq_none_iff {s : List Char} : groupId? s = none ↔ IdRefused s := by
  constructor
  · intro h
    rcases spelled_or_refused s with ⟨id, hid⟩ | hrefused
    · rw [groupId?_eq_some_iff.mpr hid] at h
      injection h
    · exact hrefused
  · intro h
    cases hid : groupId? s with
    | none => rfl
    | some id => exact absurd (groupId?_eq_some_iff.mp hid) (h.not_spells id)

/-! ## Principals -/

/-- A principal is determined by what is carried on chain. The kind keeps
    accounts and groups apart, whatever their values look like. -/
theorem Grantee.ofPrincipal_injective {p q : Principal}
    (h : Grantee.ofPrincipal p = Grantee.ofPrincipal q) : p = q := by
  injection h with hkind hvalue
  have hkinds : (1 : Int32) ≠ 2 := by decide
  -- Two accounts, two groups, or one of each, which differ in their kind.
  cases p with
  | account a =>
      cases q with
      | account b =>
          have haddress := Address.chars_injective (String.ofList_injective hvalue)
          exact congrArg Principal.account haddress
      | group n => exact absurd hkind hkinds
  | group m =>
      cases q with
      | account b => exact absurd hkind.symm hkinds
      | group n =>
          have hdigits := toDigits_injective (congrArg utf8Chars (String.ofList_injective hvalue))
          exact congrArg Principal.group (UInt64.toNat_inj.mp hdigits)

namespace Principal

/-- Behind the marker of groups, a text is a group's number or nothing. -/
theorem parse_of_marked {s : String} {rest : List Char} (h : s.toList = groupMarker ++ rest) :
    parse s = match groupId? rest with
      | some id => .ok (.group id)
      | none => .error (.badGroupId (String.ofList rest)) := by
  have hafter : after? groupMarker s.toList = some rest := after?_eq_some_iff.mpr h
  cases hid : groupId? rest with
  | none => simp only [parse, hafter, hid]
  | some id => simp only [parse, hafter, hid]

/-- Without the marker, a text is left to addresses. -/
theorem parse_of_unmarked {s : String} (h : ∀ rest, s.toList ≠ groupMarker ++ rest) :
    parse s = (Address.parse s).map .account := by
  have hafter : after? groupMarker s.toList = none := by
    cases hrest : after? groupMarker s.toList with
    | none => rfl
    | some rest => exact absurd (after?_eq_some_iff.mp hrest) (h rest)
  simp only [parse, hafter]

/-- No address is written with the marker of groups in front. -/
theorem text_account_unmarked (a : Address) (rest : List Char) :
    (account a).text.toList ≠ groupMarker ++ rest := by
  intro h
  have hchars : a.chars = groupMarker ++ rest := by
    rw [← h, text, Address.text, String.toList_ofList]
  injection hchars with hfirst
  exact absurd hfirst (by decide)

/-- A written principal is read back. -/
theorem parse_text (p : Principal) : parse p.text = .ok p := by
  cases p with
  | account a =>
      have haddress : Address.parse (account a).text = .ok a := by
        rw [Address.parse_eq_ok_iff, text, Address.text, String.toList_ofList, Address.read_chars]
      rw [parse_of_unmarked (text_account_unmarked a), haddress]
      rfl
  | group id =>
      have hwritten : (group id).text.toList = groupMarker ++ Nat.toDigits 10 id.toNat := by
        rw [text, String.toList_ofList]
      have hid : groupId? (Nat.toDigits 10 id.toNat) = some id :=
        groupId?_eq_some_iff.mpr (.plain (numeral_toDigits id.toNat))
      rw [parse_of_marked hwritten, hid]

/-- A group is read from a spelling of its number behind the marker. -/
theorem parse_eq_group_iff {s : String} {id : UInt64} :
    parse s = .ok (.group id) ↔
      ∃ digits, s.toList = groupMarker ++ digits ∧ IdSpells id.toNat digits := by
  constructor
  · intro h
    by_cases hmarked : ∃ rest, s.toList = groupMarker ++ rest
    · rcases hmarked with ⟨rest, hrest⟩
      rw [parse_of_marked hrest] at h
      cases hid : groupId? rest with
      | none => simp only [hid, reduceCtorEq] at h
      | some id' =>
          simp only [hid, Except.ok.injEq, Principal.group.injEq] at h
          exact ⟨rest, hrest, groupId?_eq_some_iff.mp (h ▸ hid)⟩
    · -- An address makes an account, never a group.
      rw [parse_of_unmarked (not_exists.mp hmarked)] at h
      cases haddress : Address.parse s with
      | ok a =>
          rw [haddress] at h
          injection h with h
          injection h
      | error f =>
          rw [haddress] at h
          injection h
  · rintro ⟨digits, hdigits, hid⟩
    rw [parse_of_marked hdigits, groupId?_eq_some_iff.mpr hid]

/-- A text with the marker is refused for what stands behind it. -/
theorem parse_eq_error_iff_of_marked {s : String} {rest : List Char}
    (h : s.toList = groupMarker ++ rest) {f : Fault} :
    parse s = .error f ↔ IdRefused rest ∧ f = .badGroupId (String.ofList rest) := by
  rw [parse_of_marked h, ← groupId?_eq_none_iff]
  cases groupId? rest with
  | some id => simp only [reduceCtorEq, false_and]
  | none => simp only [Except.error.injEq, true_and, eq_comm (b := f)]

/-- What reading a principal is. A written principal is read back, and what is
    carried on chain tells principals apart. A group is read from the spellings
    of its number behind the marker, any other text behind the marker is a bad
    principal, and a text without the marker is read as an address is, with the
    address's own fault. -/
theorem texts_read :
    (∀ p : Principal, parse p.text = .ok p) ∧
    (∀ p q : Principal, p = q ↔ p.code = q.code ∧ p.value = q.value) ∧
    (∀ (s : String) (id : UInt64), parse s = .ok (.group id) ↔
      ∃ digits, s.toList = groupMarker ++ digits ∧ IdSpells id.toNat digits) ∧
    (∀ (s : String) (rest : List Char), s.toList = groupMarker ++ rest →
      ∀ f, parse s = .error f ↔
        IdRefused rest ∧ f = .badGroupId (String.ofList rest) ∧ f.code = .invalidPrincipal) ∧
    ∀ s : String, (∀ rest, s.toList ≠ groupMarker ++ rest) →
      (∀ p, parse s = .ok p ↔ ∃ a, Address.parse s = .ok a ∧ p = .account a) ∧
      ∀ f, parse s = .error f ↔ Address.parse s = .error f := by
  refine ⟨parse_text, fun p q => ?_, fun s id => parse_eq_group_iff, fun s rest hrest f => ?_,
    fun s hs => ?_⟩
  · constructor
    · rintro rfl
      exact ⟨rfl, rfl⟩
    · rintro ⟨hcode, hvalue⟩
      refine Grantee.ofPrincipal_injective ?_
      rw [Grantee.ofPrincipal, Grantee.ofPrincipal, hcode, hvalue]
  · rw [parse_eq_error_iff_of_marked hrest]
    constructor
    · rintro ⟨hrefused, rfl⟩
      exact ⟨hrefused, rfl, rfl⟩
    · rintro ⟨hrefused, hf, -⟩
      exact ⟨hrefused, hf⟩
  -- Either way, the outcome is that of the address.
  · rw [parse_of_unmarked hs]
    cases Address.parse s with
    | ok a =>
        refine ⟨fun p => ?_, fun f => ?_⟩
        · simp only [Except.map, Except.ok.injEq, exists_eq_left', eq_comm (b := p)]
        · simp only [Except.map, reduceCtorEq]
    | error f' =>
        refine ⟨fun p => ?_, fun f => ?_⟩
        · simp only [Except.map, reduceCtorEq, false_and, exists_false]
        · simp only [Except.map, Except.error.injEq]

/-- The largest number behind a sign and so many zeros that it is longer than
    the one above it, which is refused; a sign of the other kind; and a text
    that is no address either. -/
theorem texts_read_wide :
    let largest : UInt64 := 18446744073709551615
    let zeros := "group:+0000018446744073709551615"
    let above := "18446744073709551616".toList
    (Principal.group largest).text = "group:18446744073709551615" ∧
      parse (Principal.group largest).text = .ok (.group largest) ∧
      parse zeros = .ok (.group largest) ∧
      parse (String.ofList (groupMarker ++ above)) = .error (.badGroupId (String.ofList above)) ∧
      parse (String.ofList (groupMarker ++ ['-', '1'])) =
        .error (.badGroupId (String.ofList ['-', '1'])) ∧
      parse "0x12" = .error (.badAddress "0x12" .wrongLength) := by
  intro largest zeros above
  rcases texts_read with ⟨hback, -, hgroup, hrefused, hunmarked⟩
  have hzeros : Numeral largest.toNat "0000018446744073709551615".toList :=
    numeral_iff.mpr ⟨by decide +kernel, List.all_eq_true.mp (by decide +kernel), by decide +kernel⟩
  have habove : Numeral (2 ^ 64) above :=
    numeral_iff.mpr ⟨by decide +kernel, List.all_eq_true.mp (by decide +kernel), by decide +kernel⟩
  have hminus : IdRefused ([] ++ '-' :: ['1']) := .character (by decide) fun _ => by decide
  have haddress : ∀ rest, "0x12".toList ≠ groupMarker ++ rest := by
    intro rest h
    injection h with hfirst
    exact absurd hfirst (by decide)
  exact ⟨by decide +kernel, hback _,
    (hgroup zeros largest).mpr ⟨_, by decide +kernel, .plus hzeros⟩,
    (hrefused _ above String.toList_ofList _).mpr ⟨.tooLarge (.plain habove) (by decide), rfl, rfl⟩,
    (hrefused _ _ String.toList_ofList _).mpr ⟨hminus, rfl, rfl⟩,
    ((hunmarked "0x12" haddress).2 _).mpr (by decide +kernel)⟩

end Principal

end StoragePolicy
