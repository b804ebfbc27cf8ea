import StoragePolicy.Json.Fault
import StoragePolicy.Text.Hex

/-!
# The Content of a String

Reading a string from just after its opening quote. Octets are taken as they
come and escapes are replaced by the UTF-8 octets of what they stand for, so
the check that the whole is UTF-8 can wait until the closing quote. An octet
below `0x20` ends the attempt on sight.

A character beyond the sixteen-bit range is escaped as two units in a row, a
high one and a low one. A unit of either kind without its partner stands for
nothing and is refused, with different causes for a second unit that is wrong
and for one that is missing altogether.

Every function returns what it has not read, and none of them returns more
than it was given; `content_length` is what makes the readers built on top of
them terminate.

## Main definitions

* `unit`: Four hexadecimal digits as a sixteen-bit unit.
* `escape`: What follows a backslash.
* `content`: All octets up to the closing quote.
* `text`: The same as text.

## Theorems

* `unit_inv`, `unitEscape_inv`, `escape_eq_ok_iff_cases`: The ways in which each
  of the steps succeeds; everything else about them is read off these.
* `escape_length`: An escape takes at least one octet.
* `content_length`: A string takes at least its closing quote.
* `text_length`: So does a string read as text.
-/

namespace StoragePolicy

namespace Json

open Text

/-- Four hexadecimal digits as a sixteen-bit unit. -/
def unit : Octets → Except Fault (Nat × Octets)
  | a :: b :: c :: d :: rest =>
    match hexValue? a, hexValue? b, hexValue? c, hexValue? d with
    | some a, some b, some c, some d => .ok (((a * 16 + b) * 16 + c) * 16 + d, rest)
    | _, _, _, _ => .error .badEscape
  | _ => .error .endInString

/-- Whether a unit opens a pair. -/
def isHighSurrogate (n : Nat) : Bool := 0xD800 ≤ n && n ≤ 0xDBFF

/-- Whether a unit closes a pair. -/
def isLowSurrogate (n : Nat) : Bool := 0xDC00 ≤ n && n ≤ 0xDFFF

/-- The character that a high and a low unit stand for together. -/
def joinSurrogates (high low : Nat) : Char :=
  Char.ofNat ((high - 0xD800) * 0x400 + (low - 0xDC00) + 0x10000)

/-- One octet that has to be the given one; the second half of a pair must
    follow the first at once. -/
def partner (expected : UInt8) : Octets → Except Fault Octets
  | [] => .error .endInString
  | b :: rest => if b = expected then .ok rest else .error .unfinishedSurrogate

/-- The escape that names a character by its unit, or by a pair of units. -/
def unitEscape (s : Octets) : Except Fault (Char × Octets) :=
  match unit s with
  | .error e => .error e
  | .ok (n, rest) =>
    if isLowSurrogate n then .error .loneSurrogate
    else if isHighSurrogate n then
      match partner 0x5C rest with
      | .error e => .error e
      | .ok rest =>
        match partner 0x75 rest with
        | .error e => .error e
        | .ok rest =>
          match unit rest with
          | .error e => .error e
          | .ok (m, rest) =>
            if isLowSurrogate m then .ok (joinSurrogates n m, rest) else .error .loneSurrogate
    else .ok (Char.ofNat n, rest)

/-- The character that a letter after a backslash stands for. -/
def longForm? (letter : UInt8) : Option Char :=
  if letter = 0x22 then some '"'
  else if letter = 0x5C then some '\\'
  else if letter = 0x2F then some '/'
  else if letter = 0x62 then some '\x08'
  else if letter = 0x66 then some '\x0c'
  else if letter = 0x6E then some '\n'
  else if letter = 0x72 then some '\r'
  else if letter = 0x74 then some '\t'
  else none

/-- What follows a backslash. -/
def escape : Octets → Except Fault (Char × Octets)
  | [] => .error .endInString
  | b :: rest =>
    if b = 0x75 then unitEscape rest
    else match longForm? b with
      | some c => .ok (c, rest)
      | none => .error .badEscape

/-- A unit is read from four digits. -/
theorem unit_inv {s rest : Octets} {n : Nat} (h : unit s = .ok (n, rest)) :
    ∃ a b c d w x y z, s = a :: b :: c :: d :: rest ∧ hexValue? a = some w ∧
      hexValue? b = some x ∧ hexValue? c = some y ∧ hexValue? d = some z ∧
      n = ((w * 16 + x) * 16 + y) * 16 + z := by
  rcases s with _ | ⟨a, _ | ⟨b, _ | ⟨c, _ | ⟨d, s⟩⟩⟩⟩
  · injection h
  · injection h
  · injection h
  · injection h
  · rw [unit] at h
    cases ha : hexValue? a with
    | none => rw [ha] at h; injection h
    | some w =>
        cases hb : hexValue? b with
        | none => rw [ha, hb] at h; injection h
        | some x =>
            cases hc : hexValue? c with
            | none => rw [ha, hb, hc] at h; injection h
            | some y =>
                cases hd : hexValue? d with
                | none => rw [ha, hb, hc, hd] at h; injection h
                | some z =>
                    rw [ha, hb, hc, hd] at h
                    injection h with h
                    injection h with hn hrest
                    subst hn hrest
                    exact ⟨a, b, c, d, w, x, y, z, rfl, ha, hb, hc, hd, rfl⟩

theorem partner_eq_ok_iff {b : UInt8} {s rest : Octets} :
    partner b s = .ok rest ↔ s = b :: rest := by
  cases s with
  | nil => exact ⟨fun h => by injection h, fun h => by injection h⟩
  | cons c s =>
      by_cases hc : c = b
      · simp only [partner, hc, if_true, Except.ok.injEq, List.cons.injEq, true_and]
      · simp only [partner, hc, if_false, reduceCtorEq, List.cons.injEq, false_and]

/-- There are two ways in which units make a character: one that is no half of
    a pair, or a high one with its low partner right behind it. -/
theorem unitEscape_inv {s rest : Octets} {c : Char} (h : unitEscape s = .ok (c, rest)) :
    (∃ n, unit s = .ok (n, rest) ∧ ¬ isLowSurrogate n = true ∧ ¬ isHighSurrogate n = true ∧
      c = Char.ofNat n) ∨
    ∃ n m r, unit s = .ok (n, 0x5C :: 0x75 :: r) ∧ isHighSurrogate n = true ∧
      unit r = .ok (m, rest) ∧ isLowSurrogate m = true ∧ c = joinSurrogates n m := by
  unfold unitEscape at h
  rcases hfirst : unit s with e | ⟨n, r₁⟩
  · rw [hfirst] at h
    injection h
  · simp only [hfirst] at h
    by_cases hlow : isLowSurrogate n = true
    · rw [if_pos hlow] at h
      injection h
    · rw [if_neg hlow] at h
      by_cases hhigh : isHighSurrogate n = true
      · rw [if_pos hhigh] at h
        rcases hbackslash : partner 0x5C r₁ with e | r₂
        · rw [hbackslash] at h
          injection h
        · rcases hletter : partner 0x75 r₂ with e | r₃
          · simp only [hbackslash, hletter] at h
            injection h
          · rcases hsecond : unit r₃ with e | ⟨m, r₄⟩
            · simp only [hbackslash, hletter, hsecond] at h
              injection h
            · simp only [hbackslash, hletter, hsecond] at h
              rw [partner_eq_ok_iff] at hbackslash hletter
              subst hbackslash hletter
              by_cases hm : isLowSurrogate m = true
              · rw [if_pos hm] at h
                injection h with h
                injection h with hc hrest
                subst hc hrest
                exact Or.inr ⟨n, m, r₃, rfl, hhigh, hsecond, hm, rfl⟩
              · rw [if_neg hm] at h
                injection h
      · rw [if_neg hhigh] at h
        injection h with h
        injection h with hc hrest
        subst hc hrest
        exact Or.inl ⟨n, rfl, hlow, hhigh, rfl⟩

/-- What follows a backslash is a letter with units behind it, or a letter that
    stands for a character by itself. -/
theorem escape_eq_ok_iff_cases {s rest : Octets} {c : Char} :
    escape s = .ok (c, rest) ↔
      (∃ r, s = 0x75 :: r ∧ unitEscape r = .ok (c, rest)) ∨
        ∃ b, b ≠ 0x75 ∧ s = b :: rest ∧ longForm? b = some c := by
  cases s with
  | nil => simp only [escape, reduceCtorEq, false_and, and_false, exists_false, or_self]
  | cons b r =>
      by_cases hb : b = 0x75
      · subst hb
        simp only [escape, if_true, List.cons.injEq, true_and, exists_eq_left', ne_eq]
        constructor
        · exact Or.inl
        · rintro (h | ⟨b, hne, ⟨rfl, -⟩, -⟩)
          · exact h
          · exact absurd rfl hne
      · cases hlong : longForm? b with
        | none =>
            simp only [escape, hb, if_false, hlong, reduceCtorEq, List.cons.injEq, false_and,
              exists_false, false_or, false_iff, not_exists, not_and]
            rintro b' - ⟨rfl, -⟩ hsome
            rw [hlong] at hsome
            injection hsome
        | some c' =>
            simp only [escape, hb, if_false, hlong, Except.ok.injEq, Prod.mk.injEq,
              List.cons.injEq, false_and, exists_false, false_or]
            constructor
            · rintro ⟨rfl, rfl⟩
              exact ⟨b, hb, ⟨rfl, rfl⟩, hlong⟩
            · rintro ⟨b', -, ⟨rfl, rfl⟩, hsome⟩
              rw [hlong] at hsome
              injection hsome with hc
              exact ⟨hc, rfl⟩

theorem unit_length {s rest : Octets} {n : Nat} (h : unit s = .ok (n, rest)) :
    rest.length < s.length := by
  rcases unit_inv h with ⟨a, b, c, d, w, x, y, z, rfl, -⟩
  simp only [List.length_cons]
  omega

theorem unitEscape_length {s rest : Octets} {c : Char} (h : unitEscape s = .ok (c, rest)) :
    rest.length < s.length := by
  rcases unitEscape_inv h with ⟨n, hunit, -⟩ | ⟨n, m, r, hfirst, -, hsecond, -⟩
  · exact unit_length hunit
  · have hfirst := unit_length hfirst
    have hsecond := unit_length hsecond
    simp only [List.length_cons] at hfirst
    omega

theorem escape_length {s rest : Octets} {c : Char} (h : escape s = .ok (c, rest)) :
    rest.length < s.length := by
  rcases escape_eq_ok_iff_cases.mp h with ⟨r, rfl, hunits⟩ | ⟨b, -, rfl, -⟩
  · exact Nat.lt_succ_of_lt (unitEscape_length hunits)
  · exact Nat.lt_succ_self _

/-- Everything up to the closing quote, escapes replaced by the octets of what
    they stand for. -/
def content (s : Octets) : Except Fault (Octets × Octets) :=
  match s with
  | [] => .error .endInString
  | b :: after =>
    if b = 0x22 then .ok ([], after)
    else if b = 0x5C then
      match h : escape after with
      | .error e => .error e
      | .ok (c, rest) =>
        have : rest.length < after.length + 1 := Nat.lt_succ_of_lt (escape_length h)
        match content rest with
        | .error e => .error e
        | .ok (octets, rest) => .ok (String.utf8EncodeChar c ++ octets, rest)
    else if b < 0x20 then .error .controlCharacter
    else
      match content after with
      | .error e => .error e
      | .ok (octets, rest) => .ok (b :: octets, rest)
termination_by s.length

/-- A string from just after its opening quote, as text. -/
def text (s : Octets) : Except Fault (String × Octets) :=
  match content s with
  | .error e => .error e
  | .ok (octets, rest) =>
    match ofUtf8? octets with
    | some t => .ok (t, rest)
    | none => .error .badCodePoint

theorem content_length {s octets rest : Octets} (h : content s = .ok (octets, rest)) :
    rest.length < s.length := by
  fun_induction content s generalizing octets rest with
  | case1 => injection h
  | case2 after =>
      injection h with h
      injection h with _ hrest
      subst hrest
      exact Nat.lt_succ_self _
  | case3 => injection h
  | case4 => injection h
  | case5 after c r hescape hlt octets' rest' hmore _ ih =>
      injection h with h
      injection h with _ hrest
      subst hrest
      have hshorter := ih hmore
      rw [List.length_cons]
      omega
  | case6 => injection h
  | case7 => injection h
  | case8 b after hquote hbackslash hcontrol octets' rest' hmore ih =>
      injection h with h
      injection h with _ hrest
      subst hrest
      exact Nat.lt_succ_of_lt (ih hmore)

/-- A text is read if the octets up to the closing quote are those of one. -/
theorem text_eq_ok_iff_content {s rest : Octets} {t : String} :
    text s = .ok (t, rest) ↔ ∃ octets, content s = .ok (octets, rest) ∧ ofUtf8? octets = some t := by
  rcases hcontent : content s with e | ⟨octets, r⟩
  · simp only [text, hcontent, reduceCtorEq, false_and, exists_false]
  · cases htext : ofUtf8? octets with
    | none =>
        simp only [text, hcontent, htext, reduceCtorEq, Except.ok.injEq, Prod.mk.injEq, false_iff,
          not_exists, not_and]
        rintro octets' ⟨rfl, -⟩ hsome
        rw [htext] at hsome
        injection hsome
    | some t' =>
        simp only [text, hcontent, htext, Except.ok.injEq, Prod.mk.injEq]
        constructor
        · rintro ⟨rfl, rfl⟩
          exact ⟨octets, ⟨rfl, rfl⟩, htext⟩
        · rintro ⟨octets', ⟨rfl, rfl⟩, hsome⟩
          rw [htext] at hsome
          injection hsome with ht
          exact ⟨ht, rfl⟩

theorem text_length {s rest : Octets} {t : String} (h : text s = .ok (t, rest)) :
    rest.length < s.length := by
  rcases text_eq_ok_iff_content.mp h with ⟨octets, hcontent, -⟩
  exact content_length hcontent

end Json

end StoragePolicy
