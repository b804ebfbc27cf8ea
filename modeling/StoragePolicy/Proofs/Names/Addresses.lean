import StoragePolicy.Address
import StoragePolicy.Proofs.FirstFault
import StoragePolicy.Proofs.Json.Canonical

/-!
# The Spellings of an Address

An address has many spellings, as each letter among its digits can have either
case and so can the letter of the marker. It has one written form, which is any
of its spellings in lower case. Two texts therefore name one account exactly if
they are the same but for case, and comparing what is written is enough to tell.

The reader goes over octets and not over characters. This makes no difference to
what is accepted, since digits are characters of one octet and no part of any
other, but it does to what is refused: a text is too long or too short by its
octets, and the place of a bad digit counts octets too. The octet that is named
there may be a part of a character only.

A refusal is one of three, in the order in which they are looked for. The digits
are looked at only if there are forty octets, so they fall into pairs and the
reader never meets a digit without a partner.

## Main definitions

* `Text.hexDigits`, `Text.HexOctet`: The digits, as characters and as octets.
* `Address.Spelled`: Forty digits behind the marker.
* `Address.Spells`: A spelling of the address.
* `Address.Refused`: Why a text is no address.

## Theorems

* `Text.fromHex_of_digits`, `Text.fromHex_of_firstWith`: What pairs of digits
  come to, and where a bad one is found.
* `Address.read_eq_ok_iff`, `Address.read_eq_error_iff`: What is read, and why
  a text is refused.
* `Address.chars_of_read`: The written form is the text in lower case.
* `Address.Spells.of_map_toLower`: An address is spelled in either case.
* `Address.spellings_read`: What reading an address is.
-/

namespace StoragePolicy

open Text Json

namespace Text

/-! ## Octets as digits -/

/-- An octet is written as two digits with the values of its halves. -/
theorem utf8Chars_hexText_cons (b : UInt8) (octets : Octets) :
    ∃ high low, utf8Chars (hexText (b :: octets)) = high :: low :: utf8Chars (hexText octets) ∧
      hexValue? high = some (b.toNat / 16) ∧ hexValue? low = some (b.toNat % 16) := by
  have hlt : b.toNat < 256 := b.toNat_lt
  rcases hexDigit_digitChar (show b.toNat / 16 < 16 by omega) with ⟨high, hhigh, hdhigh⟩
  rcases hexDigit_digitChar (show b.toNat % 16 < 16 by omega) with ⟨low, hlow, hdlow⟩
  refine ⟨high, low, ?_, hexValue?_eq_some_iff.mpr hdhigh, hexValue?_eq_some_iff.mpr hdlow⟩
  simp only [hexText, List.flatMap_cons, hexPair, List.cons_append, List.nil_append,
    utf8Chars_cons, hhigh, hlow]

theorem fromHex_hexText (octets : Octets) (position : Nat) :
    fromHex position (utf8Chars (hexText octets)) = .ok octets := by
  -- On the octets; the place counts on, but is only for reports.
  induction octets generalizing position with
  | nil => rfl
  | cons b octets ih =>
      rcases utf8Chars_hexText_cons b octets with ⟨high, low, hpair, hhigh, hlow⟩
      rw [hpair, fromHex, hhigh, hlow, ih]
      simp only [Except.map, Nat.div_add_mod, UInt8.ofNat_toNat]

theorem length_utf8Chars_hexText (octets : Octets) :
    (utf8Chars (hexText octets)).length = 2 * octets.length := by
  induction octets with
  | nil => rfl
  | cons b octets ih =>
      rcases utf8Chars_hexText_cons b octets with ⟨high, low, hpair, -, -⟩
      rw [hpair, List.length_cons, List.length_cons, List.length_cons, ih]
      omega

/-! ## Digits of either case -/

/-- The hexadecimal digits, with the letters in either case. -/
def hexDigits : List Char :=
  ['0', '1', '2', '3', '4', '5', '6', '7', '8', '9', 'a', 'b', 'c', 'd', 'e', 'f',
    'A', 'B', 'C', 'D', 'E', 'F']

/-- The octet is the number of a hexadecimal digit. -/
def HexOctet (b : UInt8) : Prop := b.toNat ∈ hexDigits.map Char.toNat

instance (b : UInt8) : Decidable (HexOctet b) :=
  inferInstanceAs (Decidable (b.toNat ∈ hexDigits.map Char.toNat))

theorem toNat_hexDigits : hexDigits.map Char.toNat =
    List.range' 0x30 10 ++ List.range' 0x61 6 ++ List.range' 0x41 6 := by decide

/-- The octets with a value are the digits. -/
theorem hexOctet_iff {b : UInt8} : HexOctet b ↔ ∃ v, hexValue? b = some v := by
  rw [HexOctet, toNat_hexDigits]
  simp only [List.mem_append, List.mem_range'_1, hexValue?]
  -- The reader tries its three ranges in a row, and they do not overlap.
  by_cases hdecimal : 0x30 ≤ b.toNat ∧ b.toNat ≤ 0x39
  · rw [if_pos hdecimal]
    simp only [Option.some.injEq, exists_eq', iff_true]
    omega
  · by_cases hupper : 0x41 ≤ b.toNat ∧ b.toNat ≤ 0x46
    · rw [if_neg hdecimal, if_pos hupper]
      simp only [Option.some.injEq, exists_eq', iff_true]
      omega
    · by_cases hlower : 0x61 ≤ b.toNat ∧ b.toNat ≤ 0x66
      · rw [if_neg hdecimal, if_neg hupper, if_pos hlower]
        simp only [Option.some.injEq, exists_eq', iff_true]
        omega
      · rw [if_neg hdecimal, if_neg hupper, if_neg hlower]
        simp only [reduceCtorEq, exists_false, iff_false]
        omega

/-- Lower case moves the twenty-six capital letters by the same distance, and
    nothing else. -/
theorem toNat_toLower (c : Char) :
    c.toLower.toNat = if 0x41 ≤ c.toNat ∧ c.toNat ≤ 0x5A then c.toNat + 0x20 else c.toNat := by
  have hiff : (c.val ≥ 'A'.val ∧ c.val ≤ 'Z'.val) ↔ 0x41 ≤ c.toNat ∧ c.toNat ≤ 0x5A := by
    rw [ge_iff_le, UInt32.le_iff_toNat_le, UInt32.le_iff_toNat_le]
    rfl
  unfold Char.toLower
  by_cases hn : 0x41 ≤ c.toNat ∧ c.toNat ≤ 0x5A
  · rw [if_pos hn, dif_pos (hiff.mpr hn)]
    change (c.val + 32).toNat = _
    rw [UInt32.toNat_add]
    change (c.toNat + 32) % 2 ^ 32 = c.toNat + 32
    omega
  · rw [if_neg hn, dif_neg fun h => hn (hiff.mp h)]

/-- What is `d` in lower case was `d` before, or the capital letter of `d`. -/
theorem eq_or_capital_of_toLower {c d : Char} (h : c.toLower = d) :
    c = d ∨ (c.toNat + 0x20 = d.toNat ∧ 0x41 ≤ c.toNat ∧ c.toNat ≤ 0x5A) := by
  have hn := toNat_toLower c
  rw [h] at hn
  by_cases hcapital : 0x41 ≤ c.toNat ∧ c.toNat ≤ 0x5A
  · rw [if_pos hcapital] at hn
    exact Or.inr ⟨hn.symm, hcapital⟩
  · rw [if_neg hcapital] at hn
    exact Or.inl (Char.toNat_inj.mp hn.symm)

theorem mem_hexDigits_iff {c : Char} :
    c ∈ hexDigits ↔ (0x30 ≤ c.toNat ∧ c.toNat ≤ 0x39) ∨ (0x61 ≤ c.toNat ∧ c.toNat ≤ 0x66) ∨
      (0x41 ≤ c.toNat ∧ c.toNat ≤ 0x46) := by
  have hmem : c ∈ hexDigits ↔ c.toNat ∈ hexDigits.map Char.toNat :=
    (List.mem_map_of_injective fun _ _ => Char.toNat_inj.mp).symm
  rw [hmem, toNat_hexDigits]
  simp only [List.mem_append, List.mem_range'_1]
  omega

/-- A digit is one in either case. -/
theorem toLower_mem_hexDigits_iff {c : Char} : c.toLower ∈ hexDigits ↔ c ∈ hexDigits := by
  rw [mem_hexDigits_iff, mem_hexDigits_iff, toNat_toLower]
  by_cases hcapital : 0x41 ≤ c.toNat ∧ c.toNat ≤ 0x5A
  · -- The capital letters are moved onto the small ones, `A` to `F` onto `a` to `f`.
    rw [if_pos hcapital]
    omega
  · rw [if_neg hcapital]

theorem toNat_lt_of_mem_hexDigits {c : Char} (h : c ∈ hexDigits) : c.toNat < 0x80 := by
  have hall : hexDigits.all (fun c => decide (c.toNat < 0x80)) = true := by decide
  exact of_decide_eq_true (List.all_eq_true.mp hall c h)

/-- A digit is one octet. Its value is written as the digit in lower case. -/
theorem octet_of_mem_hexDigits {c : Char} (h : c ∈ hexDigits) :
    ∃ b v, String.utf8EncodeChar c = [b] ∧ HexOctet b ∧ hexValue? b = some v ∧ v < 16 ∧
      Nat.digitChar v = c.toLower := by
  -- There are twenty-two digits, and this is true of each of them.
  have hall : hexDigits.all (fun c => (hexValue? (UInt8.ofNat c.toNat)).any fun v =>
      decide (v < 16) && Nat.digitChar v == c.toLower) = true := by decide
  have hc := List.all_eq_true.mp hall c h
  simp only [Option.any_eq_true, Bool.and_eq_true, decide_eq_true_eq, beq_iff_eq] at hc
  rcases hc with ⟨v, hvalue, hv, hlower⟩
  exact ⟨_, v, utf8EncodeChar_of_lt (toNat_lt_of_mem_hexDigits h),
    hexOctet_iff.mpr ⟨v, hvalue⟩, hvalue, hv, hlower⟩

/-- A character with a digit among its octets is that digit. -/
theorem mem_hexDigits_of_octet {c : Char} {b : UInt8} (hb : b ∈ String.utf8EncodeChar c)
    (hdigit : HexOctet b) : c ∈ hexDigits := by
  rcases List.mem_map.mp hdigit with ⟨d, hd, hdb⟩
  -- Octets of longer characters are all higher than a digit is.
  have hlt : b.toNat < 0x80 := by
    rw [← hdb]
    exact toNat_lt_of_mem_hexDigits hd
  have hsame : c = d := Char.toNat_inj.mp ((toNat_of_mem_utf8EncodeChar hb hlt).trans hdb.symm)
  rw [hsame]
  exact hd

/-- A text has only digits as octets exactly if it has only digits as
    characters. -/
theorem forall_hexOctet_iff {cs : List Char} :
    (∀ b ∈ utf8Chars cs, HexOctet b) ↔ ∀ c ∈ cs, c ∈ hexDigits := by
  constructor
  · -- One octet of a character is enough to know it by, and each has at least one.
    intro h c hc
    rcases utf8EncodeChar_eq_cons c with ⟨b, k, hbk, -, -⟩
    have hb : b ∈ String.utf8EncodeChar c := hbk ▸ List.mem_cons_self
    exact mem_hexDigits_of_octet hb (h b (List.mem_flatMap.mpr ⟨c, hc, hb⟩))
  · intro h b hb
    rcases List.mem_flatMap.mp hb with ⟨c, hc, hbc⟩
    rcases octet_of_mem_hexDigits (h c hc) with ⟨b', v, hoctet, hdigit, -⟩
    rw [hoctet, List.mem_singleton] at hbc
    rw [hbc]
    exact hdigit

theorem toList_toLower (s : String) : s.toLower.toList = s.toList.map Char.toLower :=
  String.toList_map

theorem length_utf8Chars_of_digits {cs : List Char} (h : ∀ c ∈ cs, c ∈ hexDigits) :
    (utf8Chars cs).length = cs.length :=
  length_utf8Chars_of_lt fun c hc => toNat_lt_of_mem_hexDigits (h c hc)

/-- Pairs of digits are read, and what is read is written as the digits in lower
    case. -/
theorem fromHex_of_digits (position : Nat) {n : Nat} {cs : List Char}
    (hlength : cs.length = 2 * n) (h : ∀ c ∈ cs, c ∈ hexDigits) :
    ∃ octets, fromHex position (utf8Chars cs) = .ok octets ∧ octets.length = n ∧
      hexText octets = cs.map Char.toLower := by
  -- On the number of pairs, since the reader takes two digits at a time.
  induction n generalizing cs position with
  | zero =>
      rw [List.eq_nil_of_length_eq_zero hlength]
      exact ⟨[], rfl, rfl, rfl⟩
  | succ n ih =>
      rcases cs with _ | ⟨high, _ | ⟨low, rest⟩⟩
      · rw [List.length_nil] at hlength
        omega
      · rw [List.length_singleton] at hlength
        omega
      · simp only [List.length_cons] at hlength
        simp only [List.forall_mem_cons] at h
        rcases h with ⟨hhigh, hlow, hrest⟩
        rcases octet_of_mem_hexDigits hhigh with ⟨b, v, hb, -, hv, hvlt, hvlower⟩
        rcases octet_of_mem_hexDigits hlow with ⟨d, w, hd, -, hw, hwlt, hwlower⟩
        rcases ih (position + 2) (show rest.length = 2 * n by omega) hrest with
          ⟨octets, hread, hcount, hwritten⟩
        have hnat : (UInt8.ofNat (16 * v + w)).toNat = 16 * v + w := by
          rw [UInt8.toNat_ofNat']
          omega
        have hdiv : (16 * v + w) / 16 = v := by omega
        have hmod : (16 * v + w) % 16 = w := by omega
        refine ⟨UInt8.ofNat (16 * v + w) :: octets, ?_, ?_, ?_⟩
        · simp only [utf8Chars_cons, hb, hd, List.cons_append, List.nil_append, fromHex, hv, hw,
            hread, Except.map]
        · rw [List.length_cons, hcount]
        · rw [hexText, List.flatMap_cons, ← hexText, hwritten, hexPair, hnat, hdiv, hmod, hvlower,
            hwlower]
          rfl

/-- Of pairs of octets, the first that is no digit is found at its place, whether
    it is the first or the second of its pair. -/
theorem fromHex_of_firstWith (position : Nat) {n : Nat} {octets before : Octets} {b : UInt8}
    (hlength : octets.length = 2 * n)
    (h : FirstWith (fun b => ¬ HexOctet b) octets before b) :
    fromHex position octets = .error (b, position + before.length) := by
  rcases h with ⟨hpassed, hbad, after, rfl⟩
  have hnone : hexValue? b = none := by
    by_contra hsome
    exact hbad (hexOctet_iff.mpr (Option.ne_none_iff_exists'.mp hsome))
  have hvalue : ∀ x ∈ before, ∃ v, hexValue? x = some v :=
    fun x hx => hexOctet_iff.mp (not_not.mp (hpassed x hx))
  -- Whole pairs in front are passed over until the octet is in the next pair.
  induction n generalizing before position with
  | zero =>
      rw [List.length_append, List.length_cons] at hlength
      omega
  | succ n ih =>
      rcases before with _ | ⟨x, _ | ⟨y, before⟩⟩
      · rcases after with _ | ⟨low, after⟩
        · rw [List.nil_append, List.length_singleton] at hlength
          omega
        · simp only [List.nil_append, fromHex, hnone, List.length_nil, Nat.add_zero]
      · rcases hvalue x List.mem_cons_self with ⟨v, hv⟩
        simp only [List.cons_append, List.nil_append, fromHex, hv, hnone, List.length_singleton]
      · simp only [List.forall_mem_cons] at hpassed hvalue
        rcases hvalue with ⟨⟨v, hv⟩, ⟨w, hw⟩, hrest⟩
        simp only [List.cons_append, List.length_cons] at hlength
        have hread := ih (position + 2) hpassed.2.2 (by omega) hrest
        simp only [List.cons_append, fromHex, hv, hw, hread, Except.map, List.length_cons,
          Except.error.injEq, Prod.mk.injEq, true_and]
        omega

end Text

namespace Address

/-- A written address is read back. -/
theorem read_chars (a : Address) : read a.chars = .ok a := by
  have hlength : (utf8Chars (hexText a.octets)).length = 40 := by
    rw [length_utf8Chars_hexText, a.size_eq]
  simp only [read, chars, body?, hlength, ne_eq, not_true, if_false, fromHex_hexText, a.size_eq,
    dite_true]

/-- Different addresses are written differently. -/
theorem chars_injective {a b : Address} (h : a.chars = b.chars) : a = b := by
  have hread := a.read_chars
  rw [h, b.read_chars] at hread
  exact (Except.ok.inj hread).symm

/-! ## Spellings -/

/-- The marker stands before the body, with its letter in either case. -/
def Marked (body s : List Char) : Prop := s = '0' :: 'x' :: body ∨ s = '0' :: 'X' :: body

/-- Forty digits of either case stand behind the marker. -/
structure Spelled (digits s : List Char) : Prop where
  marked : Marked digits s
  length : digits.length = 40
  hex : ∀ c ∈ digits, c ∈ hexDigits

/-- The text is a spelling of the address, which is written in lower case. -/
def Spells (a : Address) (s : List Char) : Prop :=
  ∃ digits, Spelled digits s ∧ a.chars = '0' :: 'x' :: digits.map Char.toLower

/-- Why a text is no address. Each reason supposes that those before it do not
    apply. -/
inductive Refused (s : List Char) : AddressFault → Prop where
  /-- There is no marker. -/
  | noMarker (unmarked : ∀ body, ¬ Marked body s) : Refused s .noMarker
  /-- There are not forty octets behind it. -/
  | wrongLength {body : List Char} (marked : Marked body s)
    (length : (utf8Chars body).length ≠ 40) : Refused s .wrongLength
  /-- The first of the forty that is no digit stands behind this many others. -/
  | badDigit {body : List Char} {before : Octets} {b : UInt8} (marked : Marked body s)
    (length : (utf8Chars body).length = 40)
    (first : FirstWith (fun b => ¬ HexOctet b) (utf8Chars body) before b) :
    Refused s (.badDigit b before.length)

theorem body?_eq_some_iff {s body : List Char} : body? s = some body ↔ Marked body s := by
  constructor
  · intro h
    unfold body? at h
    split at h
    next rest =>
      injection h with h
      exact Or.inl (h ▸ rfl)
    next rest =>
      injection h with h
      exact Or.inr (h ▸ rfl)
    next => injection h
  · rintro (rfl | rfl) <;> rfl

/-- Either the text is spelled as an address is, or there is a reason against. -/
theorem spelled_or_refused (s : List Char) :
    (∃ digits, Spelled digits s) ∨ ∃ cause, Refused s cause := by
  cases hbody : body? s with
  | none =>
      refine Or.inr ⟨.noMarker, .noMarker fun body hmarked => ?_⟩
      rw [body?_eq_some_iff.mpr hmarked] at hbody
      injection hbody
  | some body =>
      have hmarked : Marked body s := body?_eq_some_iff.mp hbody
      -- Length before digits, as the reasons suppose.
      by_cases hlength : (utf8Chars body).length = 40
      · by_cases hhex : ∀ b ∈ utf8Chars body, HexOctet b
        · -- Digits are one octet each, so there are forty characters too.
          have hdigits := forall_hexOctet_iff.mp hhex
          have hforty : body.length = 40 := by rw [← length_utf8Chars_of_digits hdigits, hlength]
          exact Or.inl ⟨body, hmarked, hforty, hdigits⟩
        · simp only [not_forall, exists_prop] at hhex
          rcases exists_firstWith hhex with ⟨before, b, hfirst⟩
          exact Or.inr ⟨_, .badDigit hmarked hlength hfirst⟩
      · exact Or.inr ⟨_, .wrongLength hmarked hlength⟩

/-- What is spelled as an address is read, and written in lower case. -/
theorem read_of_spelled {digits s : List Char} (h : Spelled digits s) :
    ∃ a, read s = .ok a ∧ a.chars = '0' :: 'x' :: digits.map Char.toLower := by
  have hlength : (utf8Chars digits).length = 40 := by
    rw [length_utf8Chars_of_digits h.hex, h.length]
  rcases fromHex_of_digits 0 (n := 20) h.length h.hex with
    ⟨octets, hread, hcount, hwritten⟩
  refine ⟨⟨octets, hcount⟩, ?_, by rw [chars, hwritten]⟩
  simp only [read, body?_eq_some_iff.mpr h.marked, hlength, ne_eq, not_true, if_false, hread,
    hcount, dite_true]

/-- What there is a reason against is refused for it. -/
theorem read_of_refused {s : List Char} {cause : AddressFault} (h : Refused s cause) :
    read s = .error cause := by
  cases h with
  | noMarker hunmarked =>
      have hnone : body? s = none := by
        by_contra hsome
        rcases Option.ne_none_iff_exists'.mp hsome with ⟨body, hbody⟩
        exact hunmarked body (body?_eq_some_iff.mp hbody)
      simp only [read, hnone]
  | wrongLength hmarked hlength =>
      simp only [read, body?_eq_some_iff.mpr hmarked, ne_eq, hlength, not_false_eq_true, if_true]
  | badDigit hmarked hlength hfirst =>
      have hread := fromHex_of_firstWith 0 (n := 20) hlength hfirst
      rw [Nat.zero_add] at hread
      simp only [read, body?_eq_some_iff.mpr hmarked, ne_eq, hlength, not_true, if_false, hread]

/-- An address is read from its spellings and from nothing else. The case of its
    letters is all that is free. -/
theorem read_eq_ok_iff {s : List Char} {a : Address} : read s = .ok a ↔ a.Spells s := by
  constructor
  · intro h
    -- A reason against would have been reported, so there is none.
    rcases spelled_or_refused s with ⟨digits, hspelled⟩ | ⟨cause, hrefused⟩
    · rcases read_of_spelled hspelled with ⟨b, hb, hchars⟩
      rw [h] at hb
      injection hb with hb
      exact ⟨digits, hspelled, hb ▸ hchars⟩
    · rw [read_of_refused hrefused] at h
      injection h
  · rintro ⟨digits, hspelled, hchars⟩
    rcases read_of_spelled hspelled with ⟨b, hb, hchars'⟩
    rw [hb, chars_injective (hchars.trans hchars'.symm)]

/-- A text is refused for the reason that there is. The reasons exclude one another,
    so this also says which of several faults is reported. -/
theorem read_eq_error_iff {s : List Char} {cause : AddressFault} :
    read s = .error cause ↔ Refused s cause := by
  constructor
  · intro h
    rcases spelled_or_refused s with ⟨digits, hspelled⟩ | ⟨cause', hrefused⟩
    · rcases read_of_spelled hspelled with ⟨a, ha, -⟩
      rw [h] at ha
      injection ha
    · have hsame := read_of_refused hrefused
      rw [h] at hsame
      injection hsame with hsame
      rw [hsame]
      exact hrefused
  · exact read_of_refused

/-- No spelling of an address has a colon in it. -/
theorem Spells.colon_not_mem {a : Address} {s : List Char} (h : a.Spells s) : ':' ∉ s := by
  rcases h with ⟨digits, hspelled, -⟩
  have hdigits : ':' ∉ digits := fun hmem => absurd (hspelled.hex ':' hmem) (by decide)
  intro hmem
  rcases hspelled.marked with rfl | rfl
  · simp only [List.mem_cons, Char.reduceEq, false_or] at hmem
    exact hdigits hmem
  · simp only [List.mem_cons, Char.reduceEq, false_or] at hmem
    exact hdigits hmem

/-- The written form is a spelling itself. -/
theorem spells_chars (a : Address) : a.Spells a.chars := read_eq_ok_iff.mp a.read_chars

/-- In lower case, the marker of a spelling is the one that is written. -/
theorem Marked.map_toLower {body s : List Char} (h : Marked body s) :
    s.map Char.toLower = '0' :: 'x' :: body.map Char.toLower := by
  rcases h with rfl | rfl <;> rfl

/-- The written form of what was read is the text in lower case. Two texts can thus
    be compared as accounts without being read. -/
theorem chars_of_read {s : List Char} {a : Address} (h : read s = .ok a) :
    a.chars = s.map Char.toLower := by
  rcases read_eq_ok_iff.mp h with ⟨digits, hspelled, hchars⟩
  rw [hchars, hspelled.marked.map_toLower]

/-- A text that is marked in lower case is marked. The `0` has no other case, and
    the `x` may be a capital. -/
theorem Marked.of_map_toLower {body s : List Char} (h : s.map Char.toLower = '0' :: 'x' :: body) :
    ∃ body', Marked body' s ∧ body'.map Char.toLower = body := by
  rcases s with _ | ⟨zero, _ | ⟨letter, rest⟩⟩
  · injection h
  · injection h with _ h
    injection h
  · simp only [List.map_cons, List.cons.injEq] at h
    rcases h with ⟨hzero, hletter, hrest⟩
    -- A zero has no case, and the letter has two.
    have hz : zero = '0' := by
      rcases eq_or_capital_of_toLower hzero with hz | ⟨hn, hle, -⟩
      · exact hz
      · change _ = 0x30 at hn
        omega
    refine ⟨rest, ?_, hrest⟩
    rw [hz]
    rcases eq_or_capital_of_toLower hletter with rfl | ⟨hn, -, -⟩
    · exact Or.inl rfl
    · change _ = 0x78 at hn
      have hl : letter.toNat = 'X'.toNat := by
        change _ = 0x58
        omega
      exact Or.inr (by rw [Char.toNat_inj.mp hl])

/-- An address is spelled in either case, and the cases of its digits may differ. -/
theorem Spells.of_map_toLower {a : Address} {s t : List Char} (h : a.Spells s)
    (hcase : s.map Char.toLower = t.map Char.toLower) : a.Spells t := by
  rcases h with ⟨digits, hspelled, hchars⟩
  rw [hspelled.marked.map_toLower] at hcase
  rcases Marked.of_map_toLower hcase.symm with ⟨digits', hmarked, hdigits⟩
  refine ⟨digits', ⟨hmarked, ?_, fun c hc => ?_⟩, by rw [hchars, hdigits]⟩
  · rw [← hspelled.length, ← List.length_map Char.toLower, hdigits, List.length_map]
  · have hlower : c.toLower ∈ digits.map Char.toLower := hdigits ▸ List.mem_map_of_mem hc
    rcases List.mem_map.mp hlower with ⟨d, hd, hsame⟩
    rw [← toLower_mem_hexDigits_iff, ← hsame, toLower_mem_hexDigits_iff]
    exact hspelled.hex d hd

/-! ## Texts -/

theorem parse_eq_ok_iff {s : String} {a : Address} : parse s = .ok a ↔ read s.toList = .ok a :=
  mapError_eq_ok_iff

theorem parse_eq_error_iff {s : String} {f : Fault} :
    parse s = .error f ↔ ∃ cause, read s.toList = .error cause ∧ f = .badAddress s cause :=
  mapError_eq_error_iff

/-- What reading an address is. The written form is read back. A text is read
    exactly if it has forty digits behind the marker, and is then written with
    these digits in lower case. Two texts name one account exactly if they are
    the same but for case. Any other text is a bad principal, for the first of
    three reasons that applies. -/
theorem spellings_read :
    (∀ a : Address, parse a.text = .ok a) ∧
    (∀ s, (∃ a, parse s = .ok a) ↔ ∃ digits, Spelled digits s.toList) ∧
    (∀ (s : String) (digits : List Char) (a : Address), Spelled digits s.toList →
      parse s = .ok a → a.text = String.ofList ('0' :: 'x' :: digits.map Char.toLower)) ∧
    (∀ (s t : String) (a b : Address), parse s = .ok a → parse t = .ok b →
      (a = b ↔ s.toLower = t.toLower)) ∧
    ∀ (s : String) (f : Fault), parse s = .error f ↔
      ∃ cause, Refused s.toList cause ∧ f = .badAddress s cause ∧ f.code = .invalidPrincipal := by
  refine ⟨fun a => ?_, fun s => ?_, fun s digits a hspelled h => ?_, fun s t a b hs ht => ?_,
    fun s f => ?_⟩
  · rw [parse_eq_ok_iff, text, String.toList_ofList, read_chars]
  · simp only [parse_eq_ok_iff]
    constructor
    · rintro ⟨a, h⟩
      rcases read_eq_ok_iff.mp h with ⟨digits, hspelled, -⟩
      exact ⟨digits, hspelled⟩
    · rintro ⟨digits, hspelled⟩
      rcases read_of_spelled hspelled with ⟨a, ha, -⟩
      exact ⟨a, ha⟩
  · have hchars := chars_of_read (parse_eq_ok_iff.mp h)
    rw [text, hchars, hspelled.marked.map_toLower]
  · have hchars := chars_of_read (parse_eq_ok_iff.mp hs)
    have hchars' := chars_of_read (parse_eq_ok_iff.mp ht)
    constructor
    · rintro rfl
      rw [hchars] at hchars'
      rw [← String.toList_inj, toList_toLower, toList_toLower, hchars']
    · intro hlower
      rw [← String.toList_inj, toList_toLower, toList_toLower, ← hchars, ← hchars'] at hlower
      exact chars_injective hlower
  · rw [parse_eq_error_iff]
    simp only [read_eq_error_iff]
    constructor
    · rintro ⟨cause, hrefused, rfl⟩
      exact ⟨cause, hrefused, rfl, rfl⟩
    · rintro ⟨cause, hrefused, hf, -⟩
      exact ⟨cause, hrefused, hf⟩

/-- Letters of both cases, in the marker as in the digits, and a text of forty
    octets of which two belong to one character. -/
theorem spellings_read_mixed :
    let digits := (List.replicate 10 ['A', 'B', 'a', 'b']).flatten
    let zeros := List.replicate 36 '0'
    let s := String.ofList ('0' :: 'X' :: digits)
    let t := String.ofList ('0' :: 'x' :: (List.replicate 20 ['a', 'b']).flatten)
    let u := String.ofList ('0' :: 'x' :: '0' :: '0' :: 'é' :: zeros)
    let a : Address := ⟨List.replicate 20 0xAB, rfl⟩
    Spelled digits s.toList ∧ parse s = .ok a ∧ a.text = t ∧ parse t = .ok a ∧
      s.toLower = t.toLower ∧ parse u = .error (.badAddress u (.badDigit 0xC3 2)) := by
  intro digits zeros s t u a
  rcases spellings_read with ⟨-, -, htext, hcase, herror⟩
  have hall : digits.all (hexDigits.contains ·) = true := by decide +kernel
  have hspelled : Spelled digits s.toList :=
    ⟨Or.inr String.toList_ofList, by decide +kernel,
      fun c hc => List.contains_iff_mem.mp (List.all_eq_true.mp hall c hc)⟩
  have hs : parse s = .ok a := by decide +kernel
  have ht : parse t = .ok a := by decide +kernel
  have hfirst : FirstWith (fun b => ¬ HexOctet b) (utf8Chars ('0' :: '0' :: 'é' :: zeros))
      [0x30, 0x30] 0xC3 :=
    ⟨by decide +kernel, by decide +kernel, 0xA9 :: utf8Chars zeros, by decide +kernel⟩
  have hrefused : Refused u.toList (.badDigit 0xC3 2) :=
    .badDigit (Or.inl String.toList_ofList) (by decide +kernel) hfirst
  exact ⟨hspelled, hs, (htext s digits a hspelled hs).trans (by decide +kernel), ht,
    (hcase s t a a hs ht).mp rfl, (herror u _).mpr ⟨_, hrefused, rfl, rfl⟩⟩

end Address

end StoragePolicy
