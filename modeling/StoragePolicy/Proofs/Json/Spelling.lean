import StoragePolicy.Text.Octets

/-!
# How Documents Are Spelled

The grammar of documents, kept apart from the readers and the printer so that
both can be held against it. A value is what a document says; a spelling is a
run of octets that says it. One value has many spellings, because white space,
the choice of escapes and the case of hexadecimal digits are free, and the
grammar says exactly how free.

Strings are spelled character by character. A character stands raw as its
UTF-8 octets, or behind a backslash as a letter, as one sixteen-bit unit or as
a pair of units. A unit names a character only if it has the character's
number, and since no character has the number of a surrogate, a lone surrogate
spells nothing.

Members of an object keep their order and their repetitions: what a record may
look like is for whoever reads the record to say, not for the grammar.

## Main definitions

* `Value`: What a document says.
* `Blank`, `Padded`: White space, and a thing with white space around it.
* `CharSpelling`, `StringSpelling`: Characters and strings.
* `NumberSpelling`: Numbers, which are kept as they are written.
* `Bracketed`: Spellings between brackets, with commas between them.
* `Value.Spelled`: The spellings of a value.
-/

namespace StoragePolicy

namespace Json

open Text

/-- The spellings of one thing: which octets stand for it. -/
abbrev Spelling := Octets → Prop

/-- The four octets of white space. -/
def BlankOctet (b : UInt8) : Prop := b = 0x20 ∨ b = 0x09 ∨ b = 0x0A ∨ b = 0x0D

instance (b : UInt8) : Decidable (BlankOctet b) :=
  inferInstanceAs (Decidable (b = 0x20 ∨ b = 0x09 ∨ b = 0x0A ∨ b = 0x0D))

/-- White space. -/
def Blank : Spelling := fun w => ∀ b ∈ w, BlankOctet b

/-- A thing with white space around it. -/
def Padded (P : Spelling) : Spelling := fun s =>
  ∃ l v r, Blank l ∧ P v ∧ Blank r ∧ s = l ++ v ++ r

/-- The values of hexadecimal digits, in either case. -/
inductive HexDigit : Nat → UInt8 → Prop where
  | decimal {v : Nat} {b : UInt8} (hv : v < 10) (hb : b.toNat = 0x30 + v) : HexDigit v b
  | upper {v : Nat} {b : UInt8} (hv : v < 6) (hb : b.toNat = 0x41 + v) : HexDigit (10 + v) b
  | lower {v : Nat} {b : UInt8} (hv : v < 6) (hb : b.toNat = 0x61 + v) : HexDigit (10 + v) b

/-- A sixteen-bit unit as four hexadecimal digits. -/
inductive UnitSpelling : Nat → Spelling where
  | mk {m n o p : Nat} {a b c d : UInt8} (ha : HexDigit m a) (hb : HexDigit n b)
      (hc : HexDigit o c) (hd : HexDigit p d) :
      UnitSpelling (((m * 16 + n) * 16 + o) * 16 + p) [a, b, c, d]

/-- The letters that stand for a character behind a backslash. -/
def letterEscapes : List (UInt8 × Char) :=
  [(0x22, '"'), (0x5C, '\\'), (0x2F, '/'), (0x62, '\x08'), (0x66, '\x0c'), (0x6E, '\n'),
    (0x72, '\r'), (0x74, '\t')]

/-- What may stand behind a backslash for a character. -/
inductive EscapeSpelling : Char → Spelling where
  | letter {c : Char} {b : UInt8} (h : (b, c) ∈ letterEscapes) : EscapeSpelling c [b]
  | unit {c : Char} {s : Octets} (h : UnitSpelling c.toNat s) : EscapeSpelling c (0x75 :: s)
  | pair {c : Char} {high low : Nat} {s t : Octets}
      (hhigh : 0xD800 ≤ high ∧ high ≤ 0xDBFF) (hlow : 0xDC00 ≤ low ∧ low ≤ 0xDFFF)
      (hc : c.toNat = 0x10000 + (high - 0xD800) * 0x400 + (low - 0xDC00))
      (hs : UnitSpelling high s) (ht : UnitSpelling low t) :
      EscapeSpelling c (0x75 :: (s ++ 0x5C :: 0x75 :: t))

/-- The spellings of a character inside a string. Quotes, backslashes and
    control characters cannot stand raw. -/
inductive CharSpelling : Char → Spelling where
  | raw {c : Char} (hquote : c ≠ '"') (hbackslash : c ≠ '\\') (hcontrol : 0x20 ≤ c.toNat) :
      CharSpelling c (String.utf8EncodeChar c)
  | escaped {c : Char} {e : Octets} (h : EscapeSpelling c e) : CharSpelling c (0x5C :: e)

/-- The spellings of what stands between two quotes. -/
inductive ContentSpelling : List Char → Spelling where
  | nil : ContentSpelling [] []
  | cons {c : Char} {cs : List Char} {s t : Octets} (h : CharSpelling c s)
      (hs : ContentSpelling cs t) : ContentSpelling (c :: cs) (s ++ t)

/-- The spellings of a text as a string: its characters between quotes, each in one
    of the ways in which it can be spelled. -/
def StringSpelling (text : String) : Spelling := fun s =>
  ∃ body, ContentSpelling text.toList body ∧ s = 0x22 :: body ++ [0x22]

/-- At least one decimal digit. -/
def Digits : Spelling := fun s => s ≠ [] ∧ ∀ b ∈ s, 0x30 ≤ b ∧ b ≤ 0x39

/-- The whole part of a number: no zero stands in front of other digits. -/
def WholePart : Spelling := fun s => s = [0x30] ∨ (Digits s ∧ s.head? ≠ some 0x30)

/-- The fraction of a number, which may be absent. -/
def FractionPart : Spelling := fun s => s = [] ∨ ∃ d, Digits d ∧ s = 0x2E :: d

/-- The exponent of a number, which may be absent. -/
def ExponentPart : Spelling := fun s =>
  s = [] ∨ ∃ mark sign d, (mark = 0x65 ∨ mark = 0x45) ∧
    (sign = [] ∨ sign = [0x2B] ∨ sign = [0x2D]) ∧ Digits d ∧ s = mark :: sign ++ d

/-- The spelling of a number, which is all that is known of it: no record of the
    library has a number, so its value is never asked for. -/
def NumberSpelling : Spelling := fun s =>
  ∃ sign w f e, (sign = [] ∨ sign = [0x2D]) ∧ WholePart w ∧ FractionPart f ∧ ExponentPart e ∧
    s = sign ++ w ++ f ++ e

/-- Things that each follow a comma, with white space around them. -/
inductive Further : List Spelling → Spelling where
  | nil : Further [] []
  | cons {P : Spelling} {Ps : List Spelling} {s t : Octets} (h : Padded P s)
      (hs : Further Ps t) : Further (P :: Ps) (0x2C :: s ++ t)

/-- Things with commas between them and white space around them. -/
inductive Separated : List Spelling → Spelling where
  | none {w : Octets} (h : Blank w) : Separated [] w
  | some {P : Spelling} {Ps : List Spelling} {s t : Octets} (h : Padded P s)
      (hs : Further Ps t) : Separated (P :: Ps) (s ++ t)

/-- Things between an opening and a closing octet. -/
def Bracketed (opening closing : UInt8) (Ps : List Spelling) : Spelling := fun s =>
  ∃ t, Separated Ps t ∧ s = opening :: t ++ [closing]

/-- A member of an object: its name, a colon and its value. -/
def MemberSpelling (name : String) (P : Spelling) : Spelling := fun s =>
  ∃ key w u v, StringSpelling name key ∧ Blank w ∧ Blank u ∧ P v ∧
    s = key ++ w ++ 0x3A :: u ++ v

/-- What a document says. Numbers are kept as they are written, and members with
    their order and their repetitions. -/
inductive Value where
  | null
  | boolean (value : Bool)
  | number (written : Octets)
  | string (text : String)
  | list (items : List Value)
  | object (members : List (String × Value))

mutual

/-- The spellings of a value, without white space around it. -/
def Value.Spelled : Value → Spelling
  | .null => fun s => s = [0x6E, 0x75, 0x6C, 0x6C]
  | .boolean true => fun s => s = [0x74, 0x72, 0x75, 0x65]
  | .boolean false => fun s => s = [0x66, 0x61, 0x6C, 0x73, 0x65]
  | .number written => fun s => NumberSpelling written ∧ s = written
  | .string text => StringSpelling text
  | .list items => Bracketed 0x5B 0x5D (Value.itemSpellings items)
  | .object members => Bracketed 0x7B 0x7D (Value.memberSpellings members)

/-- The spellings of each of several values. -/
def Value.itemSpellings : List Value → List Spelling
  | [] => []
  | x :: xs => x.Spelled :: Value.itemSpellings xs

/-- The spellings of each of several members. -/
def Value.memberSpellings : List (String × Value) → List Spelling
  | [] => []
  | (name, x) :: ms => MemberSpelling name x.Spelled :: Value.memberSpellings ms

end

/-- The recursion is written out for the sake of termination; it is a map, and
    the lemmas on `Separated` speak of maps. -/
@[simp] theorem Value.itemSpellings_eq_map (xs : List Value) :
    Value.itemSpellings xs = xs.map Value.Spelled := by
  induction xs with
  | nil => rfl
  | cons x xs ih => rw [Value.itemSpellings, ih, List.map_cons]

/-- The spellings of a member with its value. -/
abbrev memberSpelling (m : String × Value) : Spelling := MemberSpelling m.1 m.2.Spelled

@[simp] theorem Value.memberSpellings_eq_map (ms : List (String × Value)) :
    Value.memberSpellings ms = ms.map memberSpelling := by
  induction ms with
  | nil => rfl
  | cons m ms ih => rw [Value.memberSpellings, ih, List.map_cons]

theorem Value.spelled_list (xs : List Value) :
    (Value.list xs).Spelled = Bracketed 0x5B 0x5D (xs.map Value.Spelled) := by
  rw [Value.Spelled, Value.itemSpellings_eq_map]

theorem Value.spelled_object (ms : List (String × Value)) :
    (Value.object ms).Spelled = Bracketed 0x7B 0x7D (ms.map memberSpelling) := by
  rw [Value.Spelled, Value.memberSpellings_eq_map]

theorem Blank.nil : Blank [] := fun _ hb => absurd hb List.not_mem_nil

theorem Blank.append {u w : Octets} (hu : Blank u) (hw : Blank w) : Blank (u ++ w) := by
  intro b hb
  rcases List.mem_append.mp hb with h | h
  · exact hu b h
  · exact hw b h

/-- Nothing around a thing is white space around it. -/
theorem padded_of_bare {P : Spelling} {s : Octets} (h : P s) : Padded P s :=
  ⟨[], s, [], Blank.nil, h, Blank.nil, (List.append_nil s).symm⟩

theorem Value.Spelled.padded {x : Value} {s : Octets} (h : x.Spelled s) : Padded x.Spelled s :=
  padded_of_bare h

theorem further_nil_iff {s : Octets} : Further [] s ↔ s = [] := by
  constructor
  · intro h
    cases h
    rfl
  · rintro rfl
    exact Further.nil

/-- The pieces of some further things, apart: the white space around the first, the
    first itself and the rest. Proofs cut a text here, octet by octet, so all is
    bracketed to the right. -/
theorem further_cons_iff {P : Spelling} {Ps : List Spelling} {s : Octets} :
    Further (P :: Ps) s ↔ ∃ l v r t, Blank l ∧ P v ∧ Blank r ∧ Further Ps t ∧
      s = 0x2C :: (l ++ (v ++ (r ++ t))) := by
  constructor
  · intro h
    cases h with
    | cons hp ht =>
        rcases hp with ⟨l, v, r, hl, hv, hr, rfl⟩
        exact ⟨l, v, r, _, hl, hv, hr, ht, by simp only [List.cons_append, List.append_assoc]⟩
  · rintro ⟨l, v, r, t, hl, hv, hr, ht, rfl⟩
    have h := Further.cons ⟨l, v, r, hl, hv, hr, rfl⟩ ht
    simpa only [List.cons_append, List.append_assoc] using h

theorem separated_nil_iff {s : Octets} : Separated [] s ↔ Blank s := by
  constructor
  · intro h
    cases h with
    | none hw => exact hw
  · exact Separated.none

/-- The pieces of some things between commas, apart. Only the first has no comma
    in front. -/
theorem separated_cons_iff {P : Spelling} {Ps : List Spelling} {s : Octets} :
    Separated (P :: Ps) s ↔ ∃ l v r t, Blank l ∧ P v ∧ Blank r ∧ Further Ps t ∧
      s = l ++ (v ++ (r ++ t)) := by
  constructor
  · intro h
    cases h with
    | some hp ht =>
        rcases hp with ⟨l, v, r, hl, hv, hr, rfl⟩
        exact ⟨l, v, r, _, hl, hv, hr, ht, by simp only [List.append_assoc]⟩
  · rintro ⟨l, v, r, t, hl, hv, hr, ht, rfl⟩
    have h := Separated.some ⟨l, v, r, hl, hv, hr, rfl⟩ ht
    simpa only [List.append_assoc] using h

/-- The octets that a value may begin with. They tell the kinds of values
    apart. -/
def Value.Opens : Value → UInt8 → Prop
  | .null, b => b = 0x6E
  | .boolean true, b => b = 0x74
  | .boolean false, b => b = 0x66
  | .number _, b => b = 0x2D ∨ (0x30 ≤ b ∧ b ≤ 0x39)
  | .string _, b => b = 0x22
  | .list _, b => b = 0x5B
  | .object _, b => b = 0x7B

theorem Digits.opens {s : Octets} (h : Digits s) : ∃ b t, s = b :: t ∧ 0x30 ≤ b ∧ b ≤ 0x39 := by
  rcases s with _ | ⟨b, t⟩
  · exact absurd rfl h.1
  · exact ⟨b, t, rfl, h.2 b List.mem_cons_self⟩

theorem NumberSpelling.opens {s : Octets} (h : NumberSpelling s) :
    ∃ b t, s = b :: t ∧ (b = 0x2D ∨ (0x30 ≤ b ∧ b ≤ 0x39)) := by
  rcases h with ⟨sign, w, f, e, hsign, hw, -, -, rfl⟩
  rcases hsign with rfl | rfl
  -- Without a sign the whole part comes first, and it is never empty.
  · rcases hw with rfl | ⟨hw, -⟩
    · exact ⟨0x30, f ++ e, rfl, Or.inr (by decide)⟩
    · rcases hw.opens with ⟨b, t, rfl, hb⟩
      exact ⟨b, t ++ f ++ e, rfl, Or.inr hb⟩
  · exact ⟨0x2D, w ++ f ++ e, rfl, Or.inl rfl⟩

/-- A value begins with an octet of its kind. -/
theorem Value.Spelled.opens {x : Value} {s : Octets} (h : x.Spelled s) :
    ∃ b t, s = b :: t ∧ x.Opens b := by
  cases x with
  | null => exact ⟨_, _, h, rfl⟩
  | boolean value => cases value <;> exact ⟨_, _, h, rfl⟩
  | number written =>
      rcases h with ⟨h, rfl⟩
      exact h.opens
  | string text =>
      rcases h with ⟨body, -, rfl⟩
      exact ⟨_, _, rfl, rfl⟩
  | list items =>
      rcases h with ⟨t, -, rfl⟩
      exact ⟨_, _, rfl, rfl⟩
  | object members =>
      rcases h with ⟨t, -, rfl⟩
      exact ⟨_, _, rfl, rfl⟩

theorem MemberSpelling.opens {name : String} {P : Spelling} {m : Octets}
    (h : MemberSpelling name P m) : ∃ t, m = 0x22 :: t := by
  rcases h with ⟨key, w, u, v, ⟨body, -, rfl⟩, -, -, -, rfl⟩
  exact ⟨body ++ [0x22] ++ w ++ 0x3A :: u ++ v, rfl⟩

/-- No value begins with white space, a comma or a closing bracket. -/
theorem Value.Opens.visible {x : Value} {b : UInt8} (h : x.Opens b) :
    ¬ BlankOctet b ∧ b ≠ 0x2C ∧ b ≠ 0x5D ∧ b ≠ 0x7D := by
  cases x with
  | boolean value =>
      cases value <;> (cases h; exact ⟨by decide, by decide, by decide, by decide⟩)
  | number written =>
      -- A range of octets: each of those in question lies outside.
      have hn : b = 0x2D ∨ (0x30 ≤ b ∧ b ≤ 0x39) := h
      clear h
      refine ⟨?_, ?_, ?_, ?_⟩
      · rintro (rfl | rfl | rfl | rfl) <;> exact absurd hn (by decide)
      all_goals
        rintro rfl
        exact absurd hn (by decide)
  | _ => cases h; exact ⟨by decide, by decide, by decide, by decide⟩

/-- Every value begins with an ASCII octet. -/
theorem Value.Opens.ascii {x : Value} {b : UInt8} (h : x.Opens b) : b < 0x80 := by
  cases x with
  | boolean value => cases value <;> (cases h; decide)
  | number written =>
      have hn : b = 0x2D ∨ (0x30 ≤ b ∧ b ≤ 0x39) := h
      rcases hn with rfl | ⟨-, hb⟩
      · decide
      · exact UInt8.lt_of_le_of_lt hb (by decide)
  | _ => cases h; decide

end Json

end StoragePolicy
