import StoragePolicy.Config.Reading
import StoragePolicy.Proofs.Names.Principals

/-!
# Written Integers

A document has no numbers in it, only scalars, and one number can be written in
many ways: in decimal without zeros in front, or behind a mark in one of three
other bases, with letters of either case and as many zeros as one likes, and
either way with a sign before it. `Integer` describes all of them, whatever their
size. What a reader of numbers takes are those that do not begin with a minus,
again whatever their size; only afterwards is the number compared with the width
of its field. That order is why nothing is ever cut to size: the number that is
compared is the one that is written.

A minus is not taken even before a zero.

## Main definitions

* `Config.DigitsTo`: The digits of a number to some base.
* `Config.Figures`, `Config.Counted`, `Config.Integer`: Numbers without a sign,
  with at most a plus, and with any sign.

## Theorems

* `Config.hexDigit?_eq_some_iff`: The value of a digit.
* `Config.markedNumber?_eq_some_iff`, `Config.plainNumber?_eq_some_iff`: What is
  read as a number.
* `Config.Counted.eq_of_integer`: What is counted is the integer that is written.
-/

namespace StoragePolicy

open Yaml Text

namespace Config

/-! ## Digits -/

theorem toNat_digitChar {d : Nat} (h : d < 16) :
    (Nat.digitChar d).toNat = if d < 10 then 0x30 + d else 0x57 + d := by
  have hall : ∀ d < 16, (Nat.digitChar d).toNat = if d < 10 then 0x30 + d else 0x57 + d := by
    decide
  exact hall d h

/-- The three ranges of digits, by number. -/
theorem hexDigit?_eq (c : Char) :
    hexDigit? c =
      if 0x30 ≤ c.toNat ∧ c.toNat ≤ 0x39 then some (c.toNat - 0x30)
      else if 0x61 ≤ c.toNat ∧ c.toNat ≤ 0x66 then some (c.toNat - 0x61 + 10)
      else if 0x41 ≤ c.toNat ∧ c.toNat ≤ 0x46 then some (c.toNat - 0x41 + 10)
      else none := by
  have hle : ∀ a b : Char, a ≤ b ↔ a.toNat ≤ b.toNat := fun _ _ => UInt32.le_iff_toNat_le
  simp only [hexDigit?, Char.isDigit_iff_toNat, Bool.and_eq_true, decide_eq_true_eq, hle]
  rfl

/-- A digit has the value whose digit it is in lower case. So one equation stands
    for both ways in which the letters can be written. -/
theorem hexDigit?_eq_some_iff {c : Char} {d : Nat} :
    hexDigit? c = some d ↔ d < 16 ∧ c.toLower = Nat.digitChar d := by
  -- By number, both sides are a choice between the same ranges.
  have hnat : (d < 16 ∧ c.toLower = Nat.digitChar d) ↔
      d < 16 ∧ c.toLower.toNat = if d < 10 then 0x30 + d else 0x57 + d := by
    refine and_congr_right fun hd => ?_
    rw [← toNat_digitChar hd, Char.toNat_inj]
  rw [hnat, hexDigit?_eq, toNat_toLower]
  split_ifs <;> simp only [Option.some.injEq, false_iff] <;> omega

/-- The characters are digits to the base, the letters among them in either case,
    and are those of the number, behind any zeros. -/
inductive DigitsTo (base : Nat) : Nat → List Char → Prop where
  | digit {d : Nat} {c : Char} (hc : c.toLower = Nat.digitChar d) (hd : d < base) :
      DigitsTo base d [c]
  | further {n d : Nat} {c : Char} {digits : List Char} (h : DigitsTo base n digits)
      (hc : c.toLower = Nat.digitChar d) (hd : d < base) :
      DigitsTo base (base * n + d) (digits ++ [c])

theorem DigitsTo.ne_nil {base n : Nat} {digits : List Char} (h : DigitsTo base n digits) :
    digits ≠ [] := by
  cases h with
  | digit => exact List.cons_ne_nil _ _
  | further => exact List.concat_ne_nil _ _

/-- The last digit counts once, and those in front of it, if there are any, count
    as often as the base says. -/
theorem digitsTo_concat_iff {base n : Nat} {digits : List Char} {c : Char} :
    DigitsTo base n (digits ++ [c]) ↔
      ∃ m d, (digits = [] ∧ m = 0 ∨ DigitsTo base m digits) ∧
        c.toLower = Nat.digitChar d ∧ d < base ∧ n = base * m + d := by
  constructor
  · intro h
    generalize hs : digits ++ [c] = s at h
    cases h with
    | digit hc hd =>
        rcases List.append_eq_singleton_iff.mp hs with ⟨hempty, hlast⟩ | ⟨-, hlast⟩
        · injection hlast with hlast
          subst hlast
          exact ⟨0, n, Or.inl ⟨hempty, rfl⟩, hc, hd, by omega⟩
        · exact absurd hlast (List.cons_ne_nil _ _)
    | further h hc hd =>
        rcases List.append_inj' hs rfl with ⟨rfl, hlast⟩
        injection hlast with hlast
        subst hlast
        exact ⟨_, _, Or.inr h, hc, hd, rfl⟩
  · rintro ⟨m, d, hinit, hc, hd, rfl⟩
    rcases hinit with ⟨rfl, rfl⟩ | hinit
    · rw [Nat.mul_zero, Nat.zero_add]
      exact .digit hc hd
    · exact .further hinit hc hd

/-- A number with one more digit. -/
def nextDigit? (base n : Nat) (c : Char) : Option Nat :=
  match hexDigit? c with
  | some d => if d < base then some (base * n + d) else none
  | none => none

theorem nextDigit?_eq_some_iff {base m n : Nat} {c : Char} (hbase : base ≤ 16) :
    nextDigit? base m c = some n ↔
      ∃ d, c.toLower = Nat.digitChar d ∧ d < base ∧ n = base * m + d := by
  constructor
  · intro h
    cases hd : hexDigit? c with
    | none => simp only [nextDigit?, hd, reduceCtorEq] at h
    | some d =>
        by_cases hlt : d < base
        · simp only [nextDigit?, hd, hlt, if_true, Option.some.injEq] at h
          exact ⟨d, (hexDigit?_eq_some_iff.mp hd).2, hlt, h.symm⟩
        · simp only [nextDigit?, hd, hlt, if_false, reduceCtorEq] at h
  -- A digit of the base is a hexadecimal one, so its value is found.
  · rintro ⟨d, hc, hlt, rfl⟩
    have hd : hexDigit? c = some d := hexDigit?_eq_some_iff.mpr ⟨by omega, hc⟩
    simp only [nextDigit?, hd, hlt, if_true]

/-- The reader starts at zero, so no digits at all come to zero for it. -/
theorem foldlM_nextDigit?_eq_some_iff {base n : Nat} {digits : List Char} (hbase : base ≤ 16) :
    digits.foldlM (nextDigit? base) 0 = some n ↔
      digits = [] ∧ n = 0 ∨ DigitsTo base n digits := by
  -- From the last digit, which is the one that was read last.
  induction digits using List.reverseRecOn generalizing n with
  | nil =>
      rw [List.foldlM_nil]
      constructor
      · intro h
        injection h with h
        exact Or.inl ⟨rfl, h.symm⟩
      · rintro (⟨-, rfl⟩ | h)
        · rfl
        · exact absurd rfl h.ne_nil
  | append_singleton digits c ih =>
      have hne : digits ++ [c] ≠ [] := List.concat_ne_nil _ _
      simp only [List.foldlM_append, List.foldlM_cons, List.foldlM_nil, bind_pure,
        Option.bind_eq_bind, Option.bind_eq_some_iff, ih, nextDigit?_eq_some_iff hbase,
        digitsTo_concat_iff, hne, false_and, false_or]
      simp only [exists_and_left]

/-- What is read behind a mark. Zeros in front are allowed there, as many as one
    likes, and letters may have either case. -/
theorem markedNumber?_eq_some_iff {base n : Nat} {digits : List Char} (hbase : base ≤ 16) :
    markedNumber? base digits = some n ↔ DigitsTo base n digits := by
  have hread : markedNumber? base digits =
      if digits.isEmpty then none else digits.foldlM (nextDigit? base) 0 := rfl
  rw [hread]
  by_cases hempty : digits = []
  · subst hempty
    rw [if_pos List.isEmpty_nil]
    constructor
    · intro h
      injection h
    · intro h
      exact absurd rfl h.ne_nil
  · rw [if_neg (by rwa [List.isEmpty_iff]), foldlM_nextDigit?_eq_some_iff hbase]
    simp only [hempty, false_and, false_or]

/-! ## Numbers -/

/-- The letters of marks, with their bases. -/
def marks : List (Char × Nat) := [('x', 16), ('o', 8), ('b', 2)]

/-- The number is written without a sign. In decimal there is no zero in front. -/
inductive Figures : Nat → List Char → Prop where
  | decimal {n : Nat} {digits : List Char} (h : Numeral n digits)
    (hlead : digits.head? = some '0' → digits = ['0']) : Figures n digits
  | marked {n base : Nat} {mark : Char} {digits : List Char} (hmark : (mark, base) ∈ marks)
    (h : DigitsTo base n digits) : Figures n ('0' :: mark :: digits)

/-- The number is written with a plus sign at most. -/
inductive Counted : Nat → List Char → Prop where
  | plain {n : Nat} {s : List Char} (h : Figures n s) : Counted n s
  | plus {n : Nat} {s : List Char} (h : Figures n s) : Counted n ('+' :: s)

/-- The integer is written, whatever its sign and its size. -/
inductive Integer : Int → List Char → Prop where
  | counted {n : Nat} {s : List Char} (h : Counted n s) : Integer n s
  | minus {n : Nat} {s : List Char} (h : Figures n s) : Integer (-n) ('-' :: s)

/-- A number that has no sign begins with a digit. -/
theorem Figures.head {n : Nat} {c : Char} {s : List Char} (h : Figures n (c :: s)) :
    c.isDigit = true := by
  cases h with
  | decimal h _ => exact h.isDigit c List.mem_cons_self
  | marked _ _ => rfl

theorem not_figures_plus {n : Nat} {s : List Char} : ¬ Figures n ('+' :: s) :=
  fun h => absurd h.head (by decide)

theorem not_figures_minus {n : Nat} {s : List Char} : ¬ Figures n ('-' :: s) :=
  fun h => absurd h.head (by decide)

/-- What the reader asks of decimal digits. -/
theorem digits_iff {s : List Char} :
    ¬ (s.isEmpty || !s.all Char.isDigit) = true ↔ s ≠ [] ∧ ∀ c ∈ s, c.isDigit = true := by
  rw [Bool.or_eq_true, not_or, List.isEmpty_iff, Bool.not_eq_true', Bool.not_eq_false,
    List.all_eq_true]

/-- What is read behind a plus are figures. -/
theorem figures_of_plus {n : Nat} {s : List Char} (h : plainNumber? ('+' :: s) = some n) :
    Figures n s := by
  simp only [plainNumber?] at h
  -- The marks, a lone zero, a zero with more behind it, and everything else.
  split at h
  next digits => exact .marked (by decide) ((markedNumber?_eq_some_iff (by decide)).mp h)
  next digits => exact .marked (by decide) ((markedNumber?_eq_some_iff (by decide)).mp h)
  next digits => exact .marked (by decide) ((markedNumber?_eq_some_iff (by decide)).mp h)
  next =>
    injection h with h
    subst h
    exact .decimal (.digit (by decide)) fun _ => rfl
  next => injection h
  next hzeros =>
    by_cases hstop : (s.isEmpty || !s.all Char.isDigit) = true
    · rw [if_pos hstop] at h
      injection h
    · rw [if_neg hstop] at h
      injection h with h
      rcases digits_iff.mp hstop with ⟨hne, hdigits⟩
      refine .decimal (numeral_iff.mpr ⟨hne, hdigits, h⟩) fun hlead => ?_
      rcases List.head?_eq_some_iff.mp hlead with ⟨rest, rfl⟩
      exact absurd rfl (hzeros rest)

theorem plus_of_figures {n : Nat} {s : List Char} (h : Figures n s) :
    plainNumber? ('+' :: s) = some n := by
  simp only [plainNumber?]
  cases h with
  | decimal h hlead =>
      rcases numeral_iff.mp h with ⟨hne, hdigits, rfl⟩
      -- The reader looks for marks first, and no numeral looks like one.
      have hone : ∀ {c t}, '0' :: c :: t ≠ s := by
        rintro c t rfl
        exact List.cons_ne_nil _ _ (List.cons.inj (hlead rfl)).2
      split
      next => exact absurd rfl hone
      next => exact absurd rfl hone
      next => exact absurd rfl hone
      next => rfl
      next hmore => exact absurd (List.cons.inj (hlead rfl)).2 hmore
      next => rw [if_neg (digits_iff.mpr ⟨hne, hdigits⟩)]
  | marked hmark h =>
      simp only [marks, List.mem_cons, Prod.mk.injEq, List.not_mem_nil, or_false] at hmark
      rcases hmark with ⟨rfl, rfl⟩ | ⟨rfl, rfl⟩ | ⟨rfl, rfl⟩
      · exact (markedNumber?_eq_some_iff (by decide)).mpr h
      · exact (markedNumber?_eq_some_iff (by decide)).mpr h
      · exact (markedNumber?_eq_some_iff (by decide)).mpr h

/-- Without a plus, a text is read as if there were one. -/
theorem plainNumber?_of_unsigned {s : List Char} (h : ∀ t, s ≠ '+' :: t) :
    plainNumber? s = plainNumber? ('+' :: s) := by
  unfold plainNumber?
  split
  next t => exact absurd rfl (h t)
  next => rfl

/-- What is read as a number: figures with a plus in front at most. The width of a
    field plays no part yet. -/
theorem plainNumber?_eq_some_iff {n : Nat} {s : List Char} :
    plainNumber? s = some n ↔ Counted n s := by
  have hplus : ∀ s, plainNumber? ('+' :: s) = some n ↔ Figures n s :=
    fun _ => ⟨figures_of_plus, plus_of_figures⟩
  by_cases hsign : ∃ t, s = '+' :: t
  · rcases hsign with ⟨t, rfl⟩
    rw [hplus]
    constructor
    · exact .plus
    · intro h
      cases h with
      | plain h => exact absurd h not_figures_plus
      | plus h => exact h
  · rw [plainNumber?_of_unsigned fun t ht => hsign ⟨t, ht⟩, hplus]
    constructor
    · exact .plain
    · intro h
      cases h with
      | plain h => exact h
      | plus h => exact absurd ⟨_, rfl⟩ hsign

example : plainNumber? "+0x1f".toList = some 31 ∧ plainNumber? "-0".toList = none ∧
    plainNumber? "010".toList = none := by decide

/-- What is counted is the integer that is written. A text could be figures in one
    way and an integer in another; the reader tells that it is not. -/
theorem Counted.eq_of_integer {n : Nat} {z : Int} {s : List Char} (hn : Counted n s)
    (hz : Integer z s) : z = n := by
  cases hz with
  | counted hm =>
      -- The reader has one answer, whichever way of writing is found in the text.
      have hread := plainNumber?_eq_some_iff.mpr hm
      rw [plainNumber?_eq_some_iff.mpr hn] at hread
      injection hread with hread
      rw [hread]
  | minus _ =>
      cases hn with
      | plain hn => exact absurd hn not_figures_minus

end Config

end StoragePolicy
