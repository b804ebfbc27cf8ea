/-!
# Blank Text

What counts as nothing written: text in which every character is white space
in the sense of the Unicode property, which is wider than the ASCII blanks and
reaches the ideographic space. The property has twenty-five members and has
not changed in years, so they are listed.

## Main definitions

* `isWhiteSpace`: The Unicode `White_Space` property.
* `isBlank`: Whether a text holds no other character.
-/

namespace StoragePolicy

namespace Text

/-- The Unicode `White_Space` property. -/
def isWhiteSpace (c : Char) : Bool :=
  let n := c.toNat
  (0x9 ≤ n && n ≤ 0xD) || n == 0x20 || n == 0x85 || n == 0xA0 || n == 0x1680
    || (0x2000 ≤ n && n ≤ 0x200A) || n == 0x2028 || n == 0x2029 || n == 0x202F
    || n == 0x205F || n == 0x3000

/-- Whether nothing but white space is written; the empty text is blank. -/
def isBlank (s : String) : Bool := s.toList.all isWhiteSpace

theorem isBlank_eq_false_iff {s : String} :
    isBlank s = false ↔ ∃ c ∈ s.toList, isWhiteSpace c = false := by
  simp [isBlank]

end Text

end StoragePolicy
