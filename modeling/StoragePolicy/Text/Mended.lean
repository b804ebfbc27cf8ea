import StoragePolicy.Text.Octets

/-!
# Octets Shown as Text

Octets that are to be shown as text need not be the octets of any. Where they
are not, a replacement character is shown: one for every octet that cannot be
part of a character where it stands, and one for the octets together that begin
a character and are broken off.

The octets are gone through one by one. What has been shown already is skipped,
so that the number of octets that a character takes does not enter into how far
the reading has come.

## Main definitions

* `brokenOff`: How many octets belong to a broken character besides the first.
* `mended`: The text that is shown.

## Theorems

* `mendedChars_append`: What has been shown is skipped.
* `mended_utf8`: The octets of a text are shown as the text.
-/

namespace StoragePolicy

namespace Text

/-- Whether an octet only continues a character. -/
def isContinuation (b : UInt8) : Bool := 0x80 ≤ b && b ≤ 0xBF

/-- Whether a character of three or four octets may begin with these two. Some
    first octets narrow the second: a character takes no more octets than it
    needs, is no half of a pair, and does not lie beyond the last one. -/
def beginsCharacter (first second : UInt8) : Bool :=
  if first = 0xE0 then 0xA0 ≤ second && second ≤ 0xBF
  else if first = 0xED then 0x80 ≤ second && second ≤ 0x9F
  else if first = 0xF0 then 0x90 ≤ second && second ≤ 0xBF
  else if first = 0xF4 then 0x80 ≤ second && second ≤ 0x8F
  else 0xE1 ≤ first && first ≤ 0xF3 && isContinuation second

/-- How many of the octets behind the first belong to the same broken
    character. -/
def brokenOff (first : UInt8) : Octets → Nat
  | [] => 0
  | second :: rest =>
    if beginsCharacter first second then
      match rest with
      | third :: _ => if 0xF0 ≤ first && isContinuation third then 2 else 1
      | [] => 1
    else 0

/-- The character that octets begin with, if they begin with one. -/
def firstChar? (octets : Octets) : Option Char :=
  (octets.take 4).toByteArray.utf8DecodeChar? 0

/-- The characters that are shown for octets, of which the given number has
    been shown already. -/
def mendedChars : Nat → Octets → List Char
  | _, [] => []
  | shown + 1, _ :: rest => mendedChars shown rest
  | 0, b :: rest =>
    match firstChar? (b :: rest) with
    | some c => c :: mendedChars (c.utf8Size - 1) rest
    | none => '\uFFFD' :: mendedChars (brokenOff b rest) rest

/-- The text that is shown for octets. -/
def mended (octets : Octets) : String := String.ofList (mendedChars 0 octets)

/-- What has been shown is skipped. -/
theorem mendedChars_append (shown rest : Octets) :
    mendedChars shown.length (shown ++ rest) = mendedChars 0 rest := by
  induction shown with
  | nil => rfl
  | cons b shown ih => exact ih

theorem firstChar?_utf8EncodeChar (c : Char) (rest : Octets) :
    firstChar? (String.utf8EncodeChar c ++ rest) = some c := by
  -- A character takes no more octets than are looked at.
  have hsize : (String.utf8EncodeChar c).length ≤ 4 := by
    rw [String.length_utf8EncodeChar]
    exact Char.utf8Size_le_four c
  rw [firstChar?, List.take_append, List.take_of_length_le hsize, List.toByteArray_append]
  exact ByteArray.utf8DecodeChar?_utf8EncodeChar_append

/-- The octets of a text are shown as the text. -/
theorem mended_utf8 (s : String) : mended (utf8 s) = s := by
  have hchars : ∀ cs : List Char, mendedChars 0 (utf8Chars cs) = cs := by
    intro cs
    induction cs with
    | nil => rfl
    | cons c cs ih =>
      have hfirst := firstChar?_utf8EncodeChar c (utf8Chars cs)
      have hsize : (String.utf8EncodeChar c).length = c.utf8Size := String.length_utf8EncodeChar c
      rw [utf8Chars_cons]
      cases hc : String.utf8EncodeChar c with
      | nil => exact absurd hc String.utf8EncodeChar_ne_nil
      | cons b tail =>
        rw [hc] at hfirst hsize
        have htail : c.utf8Size - 1 = tail.length := by
          rw [← hsize, List.length_cons, Nat.add_sub_cancel]
        rw [List.cons_append] at hfirst ⊢
        rw [mendedChars, hfirst]
        simp only []
        rw [htail, mendedChars_append, ih]
  rw [mended, utf8, hchars, String.ofList_toList]

end Text

end StoragePolicy
