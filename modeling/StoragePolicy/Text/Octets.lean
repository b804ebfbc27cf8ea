/-!
# Text as Octets

Documents, payloads and files are handled as lists of octets, because a reader
has to say what it does with any of them, well formed or not. Text enters and
leaves that world through UTF-8. The two directions are inverse to each other,
which is what lets a document's meaning be stated over text while its reader
works on octets.

## Main definitions

* `Octets`: A run of octets.
* `utf8`: The octets of a text.
* `ofUtf8?`: The text of octets that are valid UTF-8.

## Theorems

* `ofUtf8?_utf8`: A text is read back from its own octets.
* `utf8_of_ofUtf8?`: What is read as a text has exactly these octets.
* `utf8_append`: The octets of joined texts are joined octets.
* `utf8_injective`: Different texts have different octets.
-/

namespace StoragePolicy

namespace Text

/-- A run of octets, the form in which documents and payloads are handled. -/
abbrev Octets := List UInt8

/-- The UTF-8 octets of a list of characters. -/
def utf8Chars (cs : List Char) : Octets := cs.flatMap String.utf8EncodeChar

/-- The UTF-8 octets of a text. -/
def utf8 (s : String) : Octets := utf8Chars s.toList

/-- The text whose UTF-8 octets are the given ones, if there is such a text. -/
def ofUtf8? (octets : Octets) : Option String := String.fromUTF8? octets.toByteArray

@[simp] theorem utf8Chars_nil : utf8Chars [] = [] := rfl

@[simp] theorem utf8Chars_cons (c : Char) (cs : List Char) :
    utf8Chars (c :: cs) = String.utf8EncodeChar c ++ utf8Chars cs := by
  simp [utf8Chars]

@[simp] theorem utf8Chars_append (xs ys : List Char) :
    utf8Chars (xs ++ ys) = utf8Chars xs ++ utf8Chars ys := by
  simp [utf8Chars]

@[simp] theorem utf8_append (s t : String) : utf8 (s ++ t) = utf8 s ++ utf8 t := by
  simp [utf8]

theorem utf8_toByteArray (s : String) : (utf8 s).toByteArray = s.toByteArray := by
  simpa [utf8, utf8Chars, List.utf8Encode] using (String.utf8Encode_toList (b := s))

theorem ofUtf8?_utf8 (s : String) : ofUtf8? (utf8 s) = some s := by
  rw [ofUtf8?, utf8_toByteArray, String.fromUTF8?, dif_pos s.isValidUTF8]
  rfl

theorem utf8_of_ofUtf8? {octets : Octets} {s : String} (h : ofUtf8? octets = some s) :
    utf8 s = octets := by
  by_cases hvalid : octets.toByteArray.IsValidUTF8
  · rw [ofUtf8?, String.fromUTF8?, dif_pos hvalid] at h
    injection h with h
    have hs : s.toByteArray = octets.toByteArray := by rw [← h]; rfl
    have := (utf8_toByteArray s).trans hs
    simpa using congrArg (·.data.toList) this
  · rw [ofUtf8?, String.fromUTF8?, dif_neg hvalid] at h
    injection h

theorem utf8_injective {s t : String} (h : utf8 s = utf8 t) : s = t := by
  have hs := ofUtf8?_utf8 s
  rw [h, ofUtf8?_utf8] at hs
  exact (Option.some.inj hs).symm

end Text

end StoragePolicy
