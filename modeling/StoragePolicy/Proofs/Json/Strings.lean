import Mathlib.Logic.Basic
import StoragePolicy.Json.Content
import StoragePolicy.Proofs.Json.Spelling
import StoragePolicy.Proofs.Text.PrefixCode

/-!
# Reading a String

The string reader against the grammar: what it takes off the front of a
document is a spelling of the text it returns, and every spelling of a text is
taken off whole.

The reader checks UTF-8 only at the closing quote, over octets of which some
stood in the document and some were put there by escapes. `Pieces` describes
that state of affairs, octet by octet. That the check at the end comes to the
same as a check character by character is `contentSpelling_of_pieces`: an
escape contributes a whole character, so the octets of a raw character cannot
be completed by an escape.

## Main definitions

* `Pieces`: The octets that a string stands for, beside what was written.

## Theorems

* `escape_eq_ok_iff`: The escape reader takes exactly the escapes.
* `content_eq_ok_iff`: The content reader takes exactly the pieces.
* `text_eq_ok_iff`: The string reader takes exactly the spellings.
* `StringSpelling.unique`: A spelling determines its text and its end.
-/

namespace StoragePolicy

namespace Json

open Text

theorem hexValue?_eq_some_iff {b : UInt8} {v : Nat} :
    hexValue? b = some v ↔ HexDigit v b := by
  constructor
  · intro h
    rw [hexValue?] at h
    by_cases hdecimal : 0x30 ≤ b.toNat ∧ b.toNat ≤ 0x39
    · rw [if_pos hdecimal] at h
      injection h with h
      exact HexDigit.decimal (by omega) (by omega)
    · by_cases hupper : 0x41 ≤ b.toNat ∧ b.toNat ≤ 0x46
      · rw [if_neg hdecimal, if_pos hupper] at h
        injection h with h
        have hv : v = 10 + (b.toNat - 0x41) := by omega
        rw [hv]
        exact HexDigit.upper (by omega) (by omega)
      · by_cases hlower : 0x61 ≤ b.toNat ∧ b.toNat ≤ 0x66
        · rw [if_neg hdecimal, if_neg hupper, if_pos hlower] at h
          injection h with h
          have hv : v = 10 + (b.toNat - 0x61) := by omega
          rw [hv]
          exact HexDigit.lower (by omega) (by omega)
        · rw [if_neg hdecimal, if_neg hupper, if_neg hlower] at h
          injection h
  · intro h
    rw [hexValue?]
    cases h with
    | decimal hv hb =>
        rw [if_pos (by omega)]
        exact congrArg some (by omega)
    | upper hv hb =>
        rw [if_neg (by omega), if_pos (by omega)]
        exact congrArg some (by omega)
    | lower hv hb =>
        rw [if_neg (by omega), if_neg (by omega), if_pos (by omega)]
        exact congrArg some (by omega)

theorem HexDigit.lt {v : Nat} {b : UInt8} (h : HexDigit v b) : v < 16 := by
  cases h with
  | decimal hv hb => omega
  | upper hv hb => omega
  | lower hv hb => omega

theorem UnitSpelling.lt {n : Nat} {s : Octets} (h : UnitSpelling n s) : n < 0x10000 := by
  cases h with
  | mk ha hb hc hd =>
      have := ha.lt
      have := hb.lt
      have := hc.lt
      have := hd.lt
      omega

theorem unit_eq_ok_iff {s rest : Octets} {n : Nat} :
    unit s = .ok (n, rest) ↔ ∃ u, UnitSpelling n u ∧ s = u ++ rest := by
  constructor
  · intro h
    rcases unit_inv h with ⟨a, b, c, d, w, x, y, z, rfl, ha, hb, hc, hd, rfl⟩
    rw [hexValue?_eq_some_iff] at ha hb hc hd
    exact ⟨[a, b, c, d], UnitSpelling.mk ha hb hc hd, rfl⟩
  · rintro ⟨u, hu, rfl⟩
    cases hu with
    | mk ha hb hc hd =>
        rw [← hexValue?_eq_some_iff] at ha hb hc hd
        simp only [unit, List.cons_append, List.nil_append, ha, hb, hc, hd]

theorem isHighSurrogate_iff {n : Nat} :
    isHighSurrogate n = true ↔ 0xD800 ≤ n ∧ n ≤ 0xDBFF := by
  simp only [isHighSurrogate, Bool.and_eq_true, decide_eq_true_eq]

theorem isLowSurrogate_iff {n : Nat} :
    isLowSurrogate n = true ↔ 0xDC00 ≤ n ∧ n ≤ 0xDFFF := by
  simp only [isLowSurrogate, Bool.and_eq_true, decide_eq_true_eq]

/-- Numbers in the range of characters, surrogates left out, are the numbers
    of their characters. -/
theorem toNat_charOfNat {n : Nat} (h : n < 0xD800 ∨ (0xDFFF < n ∧ n < 0x110000)) :
    (Char.ofNat n).toNat = n := by
  have hv : n.isValidChar := h
  rw [Char.ofNat, dif_pos hv]
  rfl

/-- No character has the number of a surrogate. -/
theorem toNat_valid (c : Char) :
    c.toNat < 0xD800 ∨ (0xDFFF < c.toNat ∧ c.toNat < 0x110000) := c.valid

/-- Two halves give the character that the grammar names: ten bits each, counted
    from the first number that takes more than one unit. -/
theorem toNat_joinSurrogates {high low : Nat} (hh : 0xD800 ≤ high ∧ high ≤ 0xDBFF)
    (hl : 0xDC00 ≤ low ∧ low ≤ 0xDFFF) :
    (joinSurrogates high low).toNat = 0x10000 + (high - 0xD800) * 0x400 + (low - 0xDC00) := by
  rw [joinSurrogates, toNat_charOfNat (by omega)]
  omega

theorem longForm?_eq_some_iff {b : UInt8} {c : Char} :
    longForm? b = some c ↔ (b, c) ∈ letterEscapes := by
  constructor
  · intro h
    -- One letter after the other is looked for, and each is in the list.
    simp only [longForm?, ite_eq_iff, Option.some.injEq, reduceCtorEq, and_false, or_false] at h
    rcases h with ⟨rfl, rfl⟩ | ⟨-, ⟨rfl, rfl⟩ | ⟨-, ⟨rfl, rfl⟩ | ⟨-, ⟨rfl, rfl⟩ | ⟨-, ⟨rfl, rfl⟩ |
      ⟨-, ⟨rfl, rfl⟩ | ⟨-, ⟨rfl, rfl⟩ | ⟨-, ⟨rfl, rfl⟩⟩⟩⟩⟩⟩⟩⟩
    all_goals decide
  · intro h
    simp only [letterEscapes, List.mem_cons, Prod.mk.injEq, List.not_mem_nil, or_false] at h
    rcases h with ⟨rfl, rfl⟩ | ⟨rfl, rfl⟩ | ⟨rfl, rfl⟩ | ⟨rfl, rfl⟩ | ⟨rfl, rfl⟩ | ⟨rfl, rfl⟩ |
      ⟨rfl, rfl⟩ | ⟨rfl, rfl⟩
    all_goals rfl

theorem unitEscape_sound {s rest : Octets} {c : Char} (h : unitEscape s = .ok (c, rest)) :
    ∃ e, EscapeSpelling c (0x75 :: e) ∧ s = e ++ rest := by
  rcases unitEscape_inv h with
    ⟨n, hunit, hlow, hhigh, hc⟩ | ⟨n, m, r, hfirst, hhigh, hsecond, hlow, hc⟩
  · -- Neither kind of surrogate: the unit is the number of its character.
    rw [isLowSurrogate_iff] at hlow
    rw [isHighSurrogate_iff] at hhigh
    rcases unit_eq_ok_iff.mp hunit with ⟨u, hu, rfl⟩
    have hn := hu.lt
    refine ⟨u, EscapeSpelling.unit ?_, rfl⟩
    rw [hc, toNat_charOfNat (by omega)]
    exact hu
  · -- A high unit, completed by a low one.
    rw [isHighSurrogate_iff] at hhigh
    rw [isLowSurrogate_iff] at hlow
    rcases unit_eq_ok_iff.mp hfirst with ⟨u, hu, rfl⟩
    rcases unit_eq_ok_iff.mp hsecond with ⟨v, hv, rfl⟩
    refine ⟨u ++ 0x5C :: 0x75 :: v, ?_, ?_⟩
    · exact EscapeSpelling.pair hhigh hlow (hc ▸ toNat_joinSurrogates hhigh hlow) hu hv
    · simp only [List.append_assoc, List.cons_append]

theorem unitEscape_complete {e : Octets} {c : Char} (he : EscapeSpelling c (0x75 :: e))
    (rest : Octets) : unitEscape (e ++ rest) = .ok (c, rest) := by
  cases he with
  | letter h =>
      -- The letter of units is none of the letters that stand for a character.
      rw [← longForm?_eq_some_iff] at h
      injection h
  | unit hu =>
      have hread : unit (e ++ rest) = .ok (c.toNat, rest) := unit_eq_ok_iff.mpr ⟨e, hu, rfl⟩
      have hc := toNat_valid c
      have hlow : ¬ isLowSurrogate c.toNat = true := by
        rw [isLowSurrogate_iff]
        omega
      have hhigh : ¬ isHighSurrogate c.toNat = true := by
        rw [isHighSurrogate_iff]
        omega
      simp only [unitEscape, hread]
      rw [if_neg hlow, if_neg hhigh, Char.ofNat_toNat]
  | @pair high low s t hhigh hlow hc hs ht =>
      have hfirst : unit (s ++ 0x5C :: 0x75 :: (t ++ rest)) =
          .ok (high, 0x5C :: 0x75 :: (t ++ rest)) := unit_eq_ok_iff.mpr ⟨s, hs, rfl⟩
      have hsecond : unit (t ++ rest) = .ok (low, rest) := unit_eq_ok_iff.mpr ⟨t, ht, rfl⟩
      have hnot : ¬ isLowSurrogate high = true := by
        rw [isLowSurrogate_iff]
        omega
      have hjoin : joinSurrogates high low = c := by
        rw [← Char.toNat_inj, toNat_joinSurrogates hhigh hlow, hc]
      rw [List.append_assoc, List.cons_append, List.cons_append]
      simp only [unitEscape, hfirst, partner, if_true, hsecond]
      rw [if_neg hnot, if_pos (isHighSurrogate_iff.mpr hhigh),
        if_pos (isLowSurrogate_iff.mpr hlow), hjoin]

/-- Behind the letter of units, one unit or a pair of them is taken. -/
theorem unitEscape_eq_ok_iff {s rest : Octets} {c : Char} :
    unitEscape s = .ok (c, rest) ↔ ∃ e, EscapeSpelling c (0x75 :: e) ∧ s = e ++ rest :=
  ⟨unitEscape_sound, fun ⟨_, he, hs⟩ => hs ▸ unitEscape_complete he rest⟩

/-- The escape reader takes exactly the escapes: one letter, a character by its
    number, or two halves of a character that has too large a number for one. -/
theorem escape_eq_ok_iff {s rest : Octets} {c : Char} :
    escape s = .ok (c, rest) ↔ ∃ e, EscapeSpelling c e ∧ s = e ++ rest := by
  rw [escape_eq_ok_iff_cases]
  constructor
  · rintro (⟨r, rfl, hunits⟩ | ⟨b, -, rfl, hlong⟩)
    · rcases unitEscape_eq_ok_iff.mp hunits with ⟨e, he, rfl⟩
      exact ⟨0x75 :: e, he, rfl⟩
    · exact ⟨[b], EscapeSpelling.letter (longForm?_eq_some_iff.mp hlong), rfl⟩
  · rintro ⟨e, he, rfl⟩
    cases he with
    | @letter b h =>
        have hlong := longForm?_eq_some_iff.mpr h
        -- The letter of units is none of the letters that stand for a character.
        have hb : b ≠ 0x75 := by
          rintro rfl
          injection hlong
        exact Or.inr ⟨b, hb, rfl, hlong⟩
    | @unit e h =>
        exact Or.inl ⟨e ++ rest, rfl, unitEscape_eq_ok_iff.mpr ⟨e, EscapeSpelling.unit h, rfl⟩⟩
    | @pair high low s t hhigh hlow hc hs ht =>
        exact Or.inl ⟨_, rfl,
          unitEscape_eq_ok_iff.mpr ⟨_, EscapeSpelling.pair hhigh hlow hc hs ht, rfl⟩⟩

/-- What a string's octets stand for, beside the octets that were written: an
    octet for itself, or an escape for the octets of its character. -/
inductive Pieces : Octets → Spelling where
  | nil : Pieces [] []
  | raw {b : UInt8} {o s : Octets} (hquote : b ≠ 0x22) (hbackslash : b ≠ 0x5C)
      (hcontrol : ¬ b < 0x20) (h : Pieces o s) : Pieces (b :: o) (b :: s)
  | escaped {c : Char} {e o s : Octets} (he : EscapeSpelling c e) (h : Pieces o s) :
      Pieces (String.utf8EncodeChar c ++ o) (0x5C :: (e ++ s))

/-- What is taken as the content of a string consists of pieces, up to the quote
    that no backslash has taken. -/
theorem content_sound {s o rest : Octets} (h : content s = .ok (o, rest)) :
    ∃ body, Pieces o body ∧ s = body ++ 0x22 :: rest := by
  fun_induction content s generalizing o rest with
  | case1 => injection h
  -- The closing quote.
  | case2 after =>
      injection h with h
      injection h with ho hrest
      subst ho hrest
      exact ⟨[], Pieces.nil, rfl⟩
  | case3 => injection h
  | case4 => injection h
  -- A backslash, an escape behind it, and more content.
  | case5 after c r hescape hlt o' r' hcontent _ ih =>
      injection h with h
      injection h with ho hrest
      subst ho hrest
      rcases escape_eq_ok_iff.mp hescape with ⟨e, he, rfl⟩
      rcases ih hcontent with ⟨body, hbody, rfl⟩
      refine ⟨0x5C :: (e ++ body), Pieces.escaped he hbody, ?_⟩
      simp only [List.cons_append, List.append_assoc]
  | case6 => injection h
  | case7 => injection h
  -- A raw octet and more content.
  | case8 b after hquote hbackslash hcontrol o' r' hcontent ih =>
      injection h with h
      injection h with ho hrest
      subst ho hrest
      rcases ih hcontent with ⟨body, hbody, rfl⟩
      exact ⟨b :: body, Pieces.raw hquote hbackslash hcontrol hbody, rfl⟩

/-- What follows a backslash in a string, without the equation that the loop
    keeps of it to end. -/
theorem content_cons_escape (after : Octets) :
    content (0x5C :: after) =
      match escape after with
      | .error e => .error e
      | .ok (c, rest) =>
        match content rest with
        | .error e => .error e
        | .ok (octets, rest) => .ok (String.utf8EncodeChar c ++ octets, rest) := by
  rw [content, if_neg (by decide), if_pos rfl]
  split
  next e hescape => simp only [hescape]
  next c rest hescape =>
    cases hcontent : content rest with
    | error e => simp only [hescape, hcontent]
    | ok taken => simp only [hescape, hcontent]

/-- Pieces in front of a quote are taken as content. The induction is on the
    pieces, so every step knows which branch of the loop it is in. -/
theorem content_complete {o body : Octets} (h : Pieces o body) (rest : Octets) :
    content (body ++ 0x22 :: rest) = .ok (o, rest) := by
  induction h with
  | nil => rw [List.nil_append, content, if_pos rfl]
  -- Neither a quote nor a backslash nor a control, so the loop keeps it.
  | raw hquote hbackslash hcontrol _ ih =>
      rw [List.cons_append, content, if_neg hquote, if_neg hbackslash, if_neg hcontrol, ih]
  | @escaped c e o s he _ ih =>
      have hread : escape (e ++ (s ++ 0x22 :: rest)) = .ok (c, s ++ 0x22 :: rest) :=
        escape_eq_ok_iff.mpr ⟨e, he, rfl⟩
      rw [List.cons_append, List.append_assoc, content_cons_escape, hread]
      simp only [ih]

/-- The content reader takes exactly the pieces, up to and with the quote. Whether
    the octets make a text is not its concern yet. -/
theorem content_eq_ok_iff {s o rest : Octets} :
    content s = .ok (o, rest) ↔ ∃ body, Pieces o body ∧ s = body ++ 0x22 :: rest :=
  ⟨content_sound, fun ⟨_, hbody, hs⟩ => hs ▸ content_complete hbody rest⟩

/-- Octets that open no character were not put there by an escape. -/
theorem Pieces.of_append {k o body : Octets} (hk : ∀ x ∈ k, ¬ x.IsUTF8FirstByte)
    (h : Pieces (k ++ o) body) : ∃ t, Pieces o t ∧ body = k ++ t := by
  induction k generalizing body with
  | nil => exact ⟨body, h, rfl⟩
  | cons b k ih =>
      -- The octets become an index of their own before the pieces are taken apart.
      generalize hd : b :: k ++ o = d at h
      cases h with
      | nil => exact absurd hd (List.cons_ne_nil _ _)
      | raw hquote hbackslash hcontrol h =>
          injection hd with hb hd
          subst hb hd
          rcases ih (fun x hx => hk x (List.mem_cons_of_mem _ hx)) h with ⟨t, ht, rfl⟩
          exact ⟨t, ht, rfl⟩
      | @escaped c e o s he h =>
          -- An escape begins with an octet that opens its character.
          rcases utf8EncodeChar_eq_cons c with ⟨b', k', hc, hb', -⟩
          rw [hc] at hd
          injection hd with hb
          subst hb
          exact absurd hb' (hk _ List.mem_cons_self)

/-- If the octets of a string are those of a text, then its characters are
    spelled one by one. -/
theorem contentSpelling_of_pieces {cs : List Char} {body : Octets}
    (h : Pieces (utf8Chars cs) body) : ContentSpelling cs body := by
  induction cs generalizing body with
  -- No octets are those of no characters, so no piece gave any.
  | nil =>
      generalize hd : utf8Chars [] = d at h
      cases h with
      | nil => exact ContentSpelling.nil
      | raw => exact absurd hd (List.cons_ne_nil _ _).symm
      | escaped =>
          have hnil := (List.append_eq_nil_iff.mp hd.symm).1
          exact absurd hnil String.utf8EncodeChar_ne_nil
  | cons c cs ih =>
      rw [utf8Chars_cons] at h
      generalize hd : String.utf8EncodeChar c ++ utf8Chars cs = d at h
      cases h with
      | nil =>
          have hnil := (List.append_eq_nil_iff.mp hd).1
          exact absurd hnil String.utf8EncodeChar_ne_nil
      | @raw b o s hquote hbackslash hcontrol h =>
          -- The character begins with a raw octet, so all of it stands raw.
          rcases utf8EncodeChar_eq_cons c with ⟨b', k, hc, -, hk⟩
          rw [hc] at hd
          injection hd with hb hd
          subst hb hd
          rcases h.of_append hk with ⟨t, ht, rfl⟩
          rw [← List.cons_append, ← hc]
          refine ContentSpelling.cons (CharSpelling.raw ?_ ?_ ?_) (ih ht)
          · rintro rfl
            injection hc with hb
            exact hquote hb.symm
          · rintro rfl
            injection hc with hb
            exact hbackslash hb.symm
          · rcases Nat.lt_or_ge c.toNat 0x20 with hlow | hlow
            · -- A control character is its own octet, which was refused above.
              rw [utf8EncodeChar_of_lt (by omega)] at hc
              injection hc with hb
              refine absurd ?_ hcontrol
              rw [← hb, UInt8.lt_iff_toNat_lt, UInt8.toNat_ofNat']
              change c.toNat % 256 < 32
              omega
            · exact hlow
      | escaped he h =>
          -- No character's octets begin another's, so the escape is for this one.
          rcases utf8EncodeChar_append_inj hd with ⟨rfl, rfl⟩
          exact ContentSpelling.cons (CharSpelling.escaped he) (ih h)

/-- A raw run of octets in front of pieces makes pieces. -/
theorem Pieces.raw_append {k o s : Octets}
    (hk : ∀ b ∈ k, b ≠ 0x22 ∧ b ≠ 0x5C ∧ ¬ b < 0x20) (h : Pieces o s) :
    Pieces (k ++ o) (k ++ s) := by
  induction k with
  | nil => exact h
  | cons b k ih =>
      rcases hk b List.mem_cons_self with ⟨hquote, hbackslash, hcontrol⟩
      exact Pieces.raw hquote hbackslash hcontrol
        (ih fun x hx => hk x (List.mem_cons_of_mem _ hx))

/-- The octets of a character that may stand raw mean nothing to a string. -/
theorem octets_of_raw {c : Char} (hquote : c ≠ '"') (hbackslash : c ≠ '\\')
    (hcontrol : 0x20 ≤ c.toNat) :
    ∀ b ∈ String.utf8EncodeChar c, b ≠ 0x22 ∧ b ≠ 0x5C ∧ ¬ b < 0x20 := by
  intro b hb
  -- A forbidden octet is below `0x80`, so it would be the whole character.
  refine ⟨?_, ?_, ?_⟩
  · rintro rfl
    exact hquote (Char.toNat_inj.mp (toNat_of_mem_utf8EncodeChar hb (by decide)))
  · rintro rfl
    exact hbackslash (Char.toNat_inj.mp (toNat_of_mem_utf8EncodeChar hb (by decide)))
  · intro hlt
    rw [UInt8.lt_iff_toNat_lt] at hlt
    have hlt' : b.toNat < 0x20 := hlt
    have := toNat_of_mem_utf8EncodeChar hb (by omega)
    omega

/-- Characters that are spelled one by one are pieces: each raw octet for itself. -/
theorem pieces_of_contentSpelling {cs : List Char} {body : Octets}
    (h : ContentSpelling cs body) : Pieces (utf8Chars cs) body := by
  induction h with
  | nil => exact Pieces.nil
  | cons hc _ ih =>
      rw [utf8Chars_cons]
      cases hc with
      | escaped he => exact Pieces.escaped he ih
      | raw hquote hbackslash hcontrol =>
          exact Pieces.raw_append (octets_of_raw hquote hbackslash hcontrol) ih

/-- The string reader takes exactly the spellings of what it returns. The check of
    the octets at the end comes to reading character by character. -/
theorem text_eq_ok_iff {s rest : Octets} {t : String} :
    text s = .ok (t, rest) ↔ ∃ body, ContentSpelling t.toList body ∧ s = body ++ 0x22 :: rest := by
  constructor
  · intro h
    rcases text_eq_ok_iff_content.mp h with ⟨octets, hcontent, htext⟩
    rcases content_eq_ok_iff.mp hcontent with ⟨body, hbody, rfl⟩
    -- The octets passed the check, so they are those of the text.
    rw [← utf8_of_ofUtf8? htext] at hbody
    exact ⟨body, contentSpelling_of_pieces hbody, rfl⟩
  · rintro ⟨body, hbody, rfl⟩
    exact text_eq_ok_iff_content.mpr ⟨utf8 t,
      content_complete (pieces_of_contentSpelling hbody) rest, ofUtf8?_utf8 t⟩

/-- A spelling determines its text, and nothing that follows can change where
    it ends. -/
theorem StringSpelling.unique {t t' : String} {s s' r r' : Octets} (h : StringSpelling t s)
    (h' : StringSpelling t' s') (heq : s ++ r = s' ++ r') : t = t' ∧ s = s' := by
  rcases h with ⟨body, hbody, rfl⟩
  rcases h' with ⟨body', hbody', rfl⟩
  simp only [List.cons_append, List.append_assoc, List.nil_append, List.cons.injEq, true_and] at heq
  -- Both are read off the same octets, and the reader is a function.
  have hread : text (body ++ 0x22 :: r) = .ok (t, r) := text_eq_ok_iff.mpr ⟨body, hbody, rfl⟩
  rw [heq, text_eq_ok_iff.mpr ⟨body', hbody', rfl⟩] at hread
  injection hread with hread
  injection hread with ht hr
  subst ht hr
  exact ⟨rfl, by rw [List.append_cancel_right heq]⟩

end Json

end StoragePolicy
