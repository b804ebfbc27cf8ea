import Mathlib.Data.List.Lex
import Mathlib.Data.Nat.Digits.Defs
import StoragePolicy.Text.Hex

/-!
# Numbers of a Fixed Width

A number that is written with a fixed count of hexadecimal digits is its usual
hexadecimal form with zeros in front. Below the power of sixteen that the width
allows, nothing is cut off, so different numbers are written differently.

The usual form drops leading zeros and the fixed one does not, which is why the
two agree only once the width is positive: zero has one digit, not none.

## Main definitions

* `paddedHex`: The usual form behind zeros.

## Theorems

* `fixedHex_eq_paddedHex`: The fixed form is the usual one behind zeros.
* `fixedHex_injective`: Different numbers are written differently.
* `fixedHex_lt`: They are ordered as texts as they are as numbers.
-/

namespace StoragePolicy

namespace Text

/-- A number in lower-case hexadecimal, with zeros in front up to a width. -/
def paddedHex (width n : Nat) : List Char := List.leftpad width '0' (Nat.toDigits 16 n)

theorem fixedHex_zero (width : Nat) : fixedHex width 0 = List.replicate width '0' := by
  induction width with
  | zero => rfl
  | succ width ih =>
      rw [fixedHex, ih, List.replicate_succ']
      rfl

/-- The fixed form is the usual one behind zeros, as long as the number fits the
    width. -/
theorem fixedHex_eq_paddedHex {width n : Nat} (hpos : 0 < width) (hn : n < 16 ^ width) :
    fixedHex width n = paddedHex width n := by
  -- The last digit is split off on both sides.
  induction width generalizing n with
  | zero => exact absurd hpos (Nat.lt_irrefl 0)
  | succ width ih =>
      rw [fixedHex, paddedHex, List.leftpad]
      by_cases hlt : n < 16
      · rw [Nat.toDigits_of_lt_base hlt, Nat.div_eq_of_lt hlt, Nat.mod_eq_of_lt hlt, fixedHex_zero]
        rfl
      · have hdiv : n / 16 < 16 ^ width := by
          rw [Nat.pow_succ] at hn
          omega
        have hwidth : 0 < width := by
          rcases Nat.eq_zero_or_pos width with rfl | h
          · rw [Nat.pow_zero] at hdiv
            omega
          · exact h
        have hdigits : Nat.toDigits 16 n = Nat.toDigits 16 (n / 16) ++ [Nat.digitChar (n % 16)] :=
          Nat.toDigits_of_base_le (by omega) (by omega)
        rw [ih hwidth hdiv, paddedHex, List.leftpad, hdigits, List.length_append,
          List.length_singleton, Nat.add_sub_add_right, List.append_assoc]

theorem digitChar_injective {m n : Nat} (hm : m < 16) (hn : n < 16)
    (h : Nat.digitChar m = Nat.digitChar n) : m = n := by
  have hall : ∀ a < 16, ∀ b < 16, Nat.digitChar a = Nat.digitChar b → a = b := by decide
  exact hall m hm n hn h

/-- Numbers that fit the width are written differently. A number that does not fit
    loses its first digits and would be taken for another. -/
theorem fixedHex_injective {width m n : Nat} (hm : m < 16 ^ width) (hn : n < 16 ^ width)
    (h : fixedHex width m = fixedHex width n) : m = n := by
  induction width generalizing m n with
  | zero =>
      rw [Nat.pow_zero] at hm hn
      omega
  | succ width ih =>
      rw [Nat.pow_succ] at hm hn
      rcases List.append_inj' h rfl with ⟨hinit, hlast⟩
      have hdiv : m / 16 = n / 16 := ih (by omega) (by omega) hinit
      have hmod : m % 16 = n % 16 := by
        injection hlast with hlast
        exact digitChar_injective (by omega) (by omega) hlast
      omega

theorem fixedHex_length (width n : Nat) : (fixedHex width n).length = width := by
  induction width generalizing n with
  | zero => rfl
  | succ width ih => rw [fixedHex, List.length_append, ih, List.length_singleton]

theorem digitChar_lt {m n : Nat} (h : m < n) (hn : n < 16) : Nat.digitChar m < Nat.digitChar n := by
  have hall : ∀ b < 16, ∀ a < b, Nat.digitChar a < Nat.digitChar b := by decide
  exact hall n hn m h

/-- What decides the order of two texts of one length also decides it when more
    follows. -/
theorem lex_append {s t : List Char} (h : List.Lex (· < ·) s t) (hlength : s.length = t.length)
    (u v : List Char) : List.Lex (· < ·) (s ++ u) (t ++ v) := by
  induction h with
  | nil => injection hlength
  | rel hlt => exact List.Lex.rel hlt
  | cons _ ih => exact List.Lex.cons (ih (Nat.succ.inj hlength))

/-- Numbers that fit the width are ordered as texts as they are as numbers. It is the
    zeros in front that make it so. -/
theorem fixedHex_lt {width m n : Nat} (h : m < n) (hn : n < 16 ^ width) :
    List.Lex (· < ·) (fixedHex width m) (fixedHex width n) := by
  induction width generalizing m n with
  | zero =>
      rw [Nat.pow_zero] at hn
      omega
  | succ width ih =>
      rw [Nat.pow_succ] at hn
      rw [fixedHex, fixedHex]
      -- Either the leading digits decide, or they agree and the last one does.
      by_cases hdiv : m / 16 < n / 16
      · have hlength : (fixedHex width (m / 16)).length = (fixedHex width (n / 16)).length := by
          rw [fixedHex_length, fixedHex_length]
        exact lex_append (ih hdiv (by omega)) hlength _ _
      · have heq : m / 16 = n / 16 := by omega
        rw [heq]
        exact List.Lex.append_left _ (List.Lex.rel (digitChar_lt (by omega) (by omega))) _

end Text

end StoragePolicy
