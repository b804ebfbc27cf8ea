import StoragePolicy.Json.Content
import StoragePolicy.Json.Number

/-!
# Readers

A reader takes one value of a known shape off the front of a document and
returns what is left. It reads once from left to right and stops at the first
thing that does not fit, so the fault it reports is the first one in the text.

Every reader comes with the fact that it leaves less than it was given. Lists
and objects are loops over readers, and that fact is why the loops end: no
counter is carried along, and none can run out.

A record may be written as an object, with its fields as members in any order,
or as a list of its values in the order of the shape. Members are met one by
one: a reader for an object says, for the fields it has so far and the next
name, either why the name is refused or how its value is read. Unknown and
repeated names are therefore refused before their value is looked at.

Each step can succeed in a few ways only. They are said once, in an equivalence
beside the step, and whatever else is proved of a step starts from there.

## Main definitions

* `skipBlank`: White space dropped from the front.
* `Reader`: A value taken off the front of a document.
* `wrongType`: The report on a value of another kind.
* `Reader.string`, `Reader.listOf`: Strings and lists.
* `members`: The members of an object.
* `readRecord`: A record in either spelling.
* `entire`: A reader applied to an entire document.

## Theorems

* `skipBlank_length`: Dropping white space never adds.
* `nextItem_eq_ok_iff`, `nextMember_eq_ok_iff`: What may stand where an item or a
  member is looked for.
* `elements_eq_ok_iff`, `members_eq_ok_iff`: One turn of the loops.
* `elements_length`, `members_length`: The loops leave less than they were given.
-/

namespace StoragePolicy

namespace Json

open Text

/-- The four octets that may stand between tokens. -/
def isSpace (b : UInt8) : Bool := b == 0x20 || b == 0x09 || b == 0x0A || b == 0x0D

/-- White space dropped from the front. -/
def skipBlank (s : Octets) : Octets := s.dropWhile isSpace

theorem skipBlank_length (s : Octets) : (skipBlank s).length ≤ s.length :=
  (List.dropWhile_sublist _).length_le

/-- What stands behind the first visible octet is shorter than the document. -/
theorem length_of_skipBlank {s rest : Octets} {b : UInt8} (h : skipBlank s = b :: rest) :
    rest.length < s.length := by
  have hs := skipBlank_length s
  rw [h, List.length_cons] at hs
  exact hs

/-- The result of a step that leaves part of the document. -/
abbrev Step (α : Type) := Except Fault (α × Octets)

/-- A value of a known shape, taken off the front of a document. -/
structure Reader (α : Type) where
  /-- Takes the value off, or says what is wrong. -/
  read : Octets → Step α
  /-- Something is always taken. -/
  shorter : ∀ {s rest : Octets} {a : α}, read s = .ok (a, rest) → rest.length < s.length

/-- A literal after its first letter. -/
def literal (found : Found) : Octets → Octets → Except Fault Found
  | [], _ => .ok found
  | _ :: _, [] => .error .endInValue
  | expected :: more, b :: rest =>
    if b = expected then literal found more rest else .error .badLiteral

/-- What a value of another kind is called in a report. Literals, numbers and
    strings are read to their end; lists and objects are not entered. -/
def found : Octets → Except Fault Found
  | [] => .error .noValue
  | b :: rest =>
    if b = 0x6E then literal .null [0x75, 0x6C, 0x6C] rest
    else if b = 0x74 then literal (.boolean true) [0x72, 0x75, 0x65] rest
    else if b = 0x66 then literal (.boolean false) [0x61, 0x6C, 0x73, 0x65] rest
    else if b = 0x2D then unsigned true rest
    else if isDigit b then unsigned false (b :: rest)
    else if b = 0x22 then (text rest).map fun (t, _) => .string t
    else if b = 0x5B then .ok .list
    else if b = 0x7B then .ok .object
    else .error .noValue

/-- The report on a value that is not of the wanted kind. -/
def wrongType (wanted : Wanted) (s : Octets) : Fault :=
  match found s with
  | .ok f => .wrongType f wanted
  | .error e => e

/-- A string. -/
def readString (s : Octets) : Step String :=
  match skipBlank s with
  | [] => .error .endInValue
  | b :: rest => if b = 0x22 then text rest else .error (wrongType .string (b :: rest))

theorem readString_eq_ok_iff {s rest : Octets} {t : String} :
    readString s = .ok (t, rest) ↔ ∃ r, skipBlank s = 0x22 :: r ∧ text r = .ok (t, rest) := by
  cases hskip : skipBlank s with
  | nil => simp only [readString, hskip, reduceCtorEq, false_and, exists_false]
  | cons b r =>
      by_cases hb : b = 0x22
      · simp only [readString, hskip, hb, if_true, List.cons.injEq, true_and, exists_eq_left']
      · simp only [readString, hskip, hb, if_false, reduceCtorEq, List.cons.injEq, false_and,
          exists_false]

theorem readString_length {s rest : Octets} {t : String} (h : readString s = .ok (t, rest)) :
    rest.length < s.length := by
  rcases readString_eq_ok_iff.mp h with ⟨r, hskip, htext⟩
  exact Nat.lt_trans (text_length htext) (length_of_skipBlank hskip)

/-- Reads a string. -/
def Reader.string : Reader String := ⟨readString, readString_length⟩

/-- What stands between the items of a list or the members of an object:
    either the end, already taken, or one more item. -/
inductive Next where
  | done (rest : Octets)
  | more (rest : Octets)

/-- What is left after a `Next`. -/
def Next.rest : Next → Octets
  | .done rest => rest
  | .more rest => rest

/-- Looks for the next item of a list. `first` tells whether the list has just
    been opened, where no comma is due. -/
def nextItem (first : Bool) (s : Octets) : Except Fault Next :=
  match skipBlank s with
  | [] => .error .endInList
  | b :: rest =>
    if b = 0x5D then .ok (.done rest)
    else if first then .ok (.more (b :: rest))
    else if b = 0x2C then
      match skipBlank rest with
      | [] => .error .endInValue
      | b :: rest => if b = 0x5D then .error .trailingComma else .ok (.more (b :: rest))
    else .error .noListEnd

/-- What may stand where the next item of a list is looked for: the end, an item
    if the list has just been opened, or one behind a comma. -/
inductive ItemAhead : Bool → Octets → Next → Prop where
  | done {first : Bool} {s rest : Octets} (hskip : skipBlank s = 0x5D :: rest) :
    ItemAhead first s (.done rest)
  | opened {s rest : Octets} {b : UInt8} (hskip : skipBlank s = b :: rest) (hb : b ≠ 0x5D) :
    ItemAhead true s (.more (b :: rest))
  | behind {s r rest : Octets} {b : UInt8} (hcomma : skipBlank s = 0x2C :: r)
    (hskip : skipBlank r = b :: rest) (hb : b ≠ 0x5D) : ItemAhead false s (.more (b :: rest))

/-- Nothing else may stand there. -/
theorem nextItem_eq_ok_iff {first : Bool} {s : Octets} {next : Next} :
    nextItem first s = .ok next ↔ ItemAhead first s next := by
  constructor
  · intro h
    cases hskip : skipBlank s with
    | nil => simp only [nextItem, hskip, reduceCtorEq] at h
    | cons b r =>
        simp only [nextItem, hskip] at h
        by_cases hb : b = 0x5D
        · rw [if_pos hb] at h
          injection h with h
          subst hb h
          exact .done hskip
        · rw [if_neg hb] at h
          cases first with
          | true =>
              injection h with h
              subst h
              exact .opened hskip hb
          | false =>
              by_cases hcomma : b = 0x2C
              · rw [if_neg Bool.false_ne_true, if_pos hcomma] at h
                subst hcomma
                cases hskip' : skipBlank r with
                | nil => simp only [hskip', reduceCtorEq] at h
                | cons b' r' =>
                    simp only [hskip'] at h
                    by_cases hb' : b' = 0x5D
                    · rw [if_pos hb'] at h
                      injection h
                    · rw [if_neg hb'] at h
                      injection h with h
                      subst h
                      exact .behind hskip hskip' hb'
              · rw [if_neg Bool.false_ne_true, if_neg hcomma] at h
                injection h
  · intro h
    cases h with
    | done hskip => simp only [nextItem, hskip, if_true]
    | opened hskip hb => simp only [nextItem, hskip, hb, if_false, if_true]
    | behind hcomma hskip hb =>
        simp only [nextItem, hcomma, hskip, hb, if_false, if_true, Bool.false_eq_true]
        rfl

theorem nextItem_length {first : Bool} {s : Octets} {next : Next}
    (h : nextItem first s = .ok next) : next.rest.length ≤ s.length := by
  cases nextItem_eq_ok_iff.mp h with
  | done hskip => exact Nat.le_of_lt (length_of_skipBlank hskip)
  | opened hskip hb => exact length_of_skipBlank hskip
  | behind hcomma hskip hb =>
      exact Nat.le_of_lt (Nat.lt_of_le_of_lt (length_of_skipBlank hskip)
        (length_of_skipBlank hcomma))

/-- The items of a list, up to and with its closing bracket. -/
def elements {α : Type} (item : Reader α) (first : Bool) (s : Octets) : Step (List α) :=
  match hn : nextItem first s with
  | .error e => .error e
  | .ok (.done rest) => .ok ([], rest)
  | .ok (.more r) =>
    match hr : item.read r with
    | .error e => .error e
    | .ok (a, rest) =>
      have : rest.length < s.length :=
        Nat.lt_of_lt_of_le (item.shorter hr) (nextItem_length hn)
      match elements item false rest with
      | .error e => .error e
      | .ok (as, rest) => .ok (a :: as, rest)
termination_by s.length

/-- One turn of the loop, without the equations that it keeps to end. -/
theorem elements_turn {α : Type} (item : Reader α) (first : Bool) (s : Octets) :
    elements item first s =
      match nextItem first s with
      | .error e => .error e
      | .ok (.done rest) => .ok ([], rest)
      | .ok (.more t) =>
        match item.read t with
        | .error e => .error e
        | .ok (a, r) =>
          match elements item false r with
          | .error e => .error e
          | .ok (as, rest) => .ok (a :: as, rest) := by
  rw [elements]
  split
  next e hnext => simp only [hnext]
  next rest hnext => simp only [hnext]
  next t hnext =>
    simp only [hnext]
    split
    next e hread => simp only [hread]
    next a r hread => simp only [hread]

/-- The loop ends with the list, or goes on behind one more item. -/
theorem elements_eq_ok_iff {α : Type} {item : Reader α} {first : Bool} {s rest : Octets}
    {as : List α} :
    elements item first s = .ok (as, rest) ↔
      (as = [] ∧ nextItem first s = .ok (.done rest)) ∨
      ∃ a bs r, as = a :: bs ∧ (∃ t, nextItem first s = .ok (.more t) ∧ item.read t = .ok (a, r)) ∧
        elements item false r = .ok (bs, rest) := by
  rw [elements_turn]
  constructor
  · intro h
    cases hnext : nextItem first s with
    | error e => simp only [hnext, reduceCtorEq] at h
    | ok next =>
        cases next with
        | done r =>
            simp only [hnext, Except.ok.injEq, Prod.mk.injEq] at h
            exact Or.inl ⟨h.1.symm, by rw [h.2]⟩
        | more t =>
            cases hread : item.read t with
            | error e => simp only [hnext, hread, reduceCtorEq] at h
            | ok taken =>
                rcases taken with ⟨a, r⟩
                cases hmore : elements item false r with
                | error e => simp only [hnext, hread, hmore, reduceCtorEq] at h
                | ok others =>
                    rcases others with ⟨bs, r'⟩
                    simp only [hnext, hread, hmore, Except.ok.injEq, Prod.mk.injEq] at h
                    rcases h with ⟨rfl, rfl⟩
                    exact Or.inr ⟨a, bs, r, rfl, ⟨t, rfl, hread⟩, hmore⟩
  · rintro (⟨rfl, hnext⟩ | ⟨a, bs, r, rfl, ⟨t, hnext, hread⟩, hmore⟩)
    · rw [hnext]
    · simp only [hnext, hread, hmore]

theorem elements_length {α : Type} {item : Reader α} {first : Bool} {s rest : Octets}
    {as : List α} (h : elements item first s = .ok (as, rest)) : rest.length ≤ s.length := by
  induction as generalizing first s with
  | nil =>
      rcases elements_eq_ok_iff.mp h with ⟨-, hnext⟩ | ⟨a, bs, r, hnil, -⟩
      · exact nextItem_length hnext
      · exact absurd hnil (List.cons_ne_nil a bs).symm
  | cons a as ih =>
      rcases elements_eq_ok_iff.mp h with ⟨hnil, -⟩ | ⟨a', bs, r, has, ⟨t, hnext, hread⟩, hmore⟩
      · exact absurd hnil (List.cons_ne_nil a as)
      · injection has with _ has
        subst has
        have hitem := item.shorter hread
        have hfound : t.length ≤ s.length := nextItem_length hnext
        have hrest := ih hmore
        omega

/-- A list, from its opening bracket on. -/
def readList {α : Type} (item : Reader α) (s : Octets) : Step (List α) :=
  match skipBlank s with
  | [] => .error .endInValue
  | b :: rest => if b = 0x5B then elements item true rest else .error (wrongType .list (b :: rest))

theorem readList_eq_ok_iff {α : Type} {item : Reader α} {s rest : Octets} {as : List α} :
    readList item s = .ok (as, rest) ↔
      ∃ r, skipBlank s = 0x5B :: r ∧ elements item true r = .ok (as, rest) := by
  cases hskip : skipBlank s with
  | nil => simp only [readList, hskip, reduceCtorEq, false_and, exists_false]
  | cons b r =>
      by_cases hb : b = 0x5B
      · simp only [readList, hskip, hb, if_true, List.cons.injEq, true_and, exists_eq_left']
      · simp only [readList, hskip, hb, if_false, reduceCtorEq, List.cons.injEq, false_and,
          exists_false]

theorem readList_length {α : Type} {item : Reader α} {s rest : Octets} {as : List α}
    (h : readList item s = .ok (as, rest)) : rest.length < s.length := by
  rcases readList_eq_ok_iff.mp h with ⟨r, hskip, hitems⟩
  exact Nat.lt_of_le_of_lt (elements_length hitems) (length_of_skipBlank hskip)

/-- Reads a list of values of one kind. -/
def Reader.listOf {α : Type} (item : Reader α) : Reader (List α) :=
  ⟨readList item, readList_length⟩

/-- Looks for the next member of an object, and takes the quote that opens its
    name. -/
def nextMember (first : Bool) (s : Octets) : Except Fault Next :=
  match skipBlank s with
  | [] => .error .endInObject
  | b :: rest =>
    if b = 0x7D then .ok (.done rest)
    else if first then
      if b = 0x22 then .ok (.more rest) else .error .keyNotString
    else if b = 0x2C then
      match skipBlank rest with
      | [] => .error .endInValue
      | b :: rest =>
        if b = 0x22 then .ok (.more rest)
        else if b = 0x7D then .error .trailingComma
        else .error .keyNotString
    else .error .noObjectEnd

/-- What may stand where the next member of an object is looked for: the end, a
    name if the object has just been opened, or one behind a comma. -/
inductive MemberAhead : Bool → Octets → Next → Prop where
  | done {first : Bool} {s rest : Octets} (hskip : skipBlank s = 0x7D :: rest) :
    MemberAhead first s (.done rest)
  | opened {s rest : Octets} (hskip : skipBlank s = 0x22 :: rest) :
    MemberAhead true s (.more rest)
  | behind {s r rest : Octets} (hcomma : skipBlank s = 0x2C :: r)
    (hskip : skipBlank r = 0x22 :: rest) : MemberAhead false s (.more rest)

/-- Nothing else may stand there. -/
theorem nextMember_eq_ok_iff {first : Bool} {s : Octets} {next : Next} :
    nextMember first s = .ok next ↔ MemberAhead first s next := by
  constructor
  · intro h
    cases hskip : skipBlank s with
    | nil => simp only [nextMember, hskip, reduceCtorEq] at h
    | cons b r =>
        simp only [nextMember, hskip] at h
        by_cases hb : b = 0x7D
        · rw [if_pos hb] at h
          injection h with h
          subst hb h
          exact .done hskip
        · rw [if_neg hb] at h
          cases first with
          | true =>
              by_cases hquote : b = 0x22
              · rw [if_pos rfl, if_pos hquote] at h
                injection h with h
                subst hquote h
                exact .opened hskip
              · rw [if_pos rfl, if_neg hquote] at h
                injection h
          | false =>
              by_cases hcomma : b = 0x2C
              · rw [if_neg Bool.false_ne_true, if_pos hcomma] at h
                subst hcomma
                cases hskip' : skipBlank r with
                | nil => simp only [hskip', reduceCtorEq] at h
                | cons b' r' =>
                    simp only [hskip'] at h
                    by_cases hquote : b' = 0x22
                    · rw [if_pos hquote] at h
                      injection h with h
                      subst hquote h
                      exact .behind hskip hskip'
                    · rw [if_neg hquote, ← apply_ite] at h
                      injection h
              · rw [if_neg Bool.false_ne_true, if_neg hcomma] at h
                injection h
  · intro h
    cases h with
    | done hskip => simp only [nextMember, hskip, if_true]
    | opened hskip =>
        simp only [nextMember, hskip, if_true]
        rfl
    | behind hcomma hskip =>
        simp only [nextMember, hcomma, hskip, if_true, Bool.false_eq_true, if_false]
        rfl

theorem nextMember_length {first : Bool} {s : Octets} {next : Next}
    (h : nextMember first s = .ok next) : next.rest.length < s.length := by
  cases nextMember_eq_ok_iff.mp h with
  | done hskip => exact length_of_skipBlank hskip
  | opened hskip => exact length_of_skipBlank hskip
  | behind hcomma hskip =>
      exact Nat.lt_trans (length_of_skipBlank hskip) (length_of_skipBlank hcomma)

/-- The colon between a name and its value. -/
def colon (s : Octets) : Except Fault Octets :=
  match skipBlank s with
  | [] => .error .endInObject
  | b :: rest => if b = 0x3A then .ok rest else .error .noColon

theorem colon_eq_ok_iff {s rest : Octets} : colon s = .ok rest ↔ skipBlank s = 0x3A :: rest := by
  cases hskip : skipBlank s with
  | nil => simp only [colon, hskip, reduceCtorEq]
  | cons b r =>
      by_cases hb : b = 0x3A
      · simp only [colon, hskip, hb, if_true, Except.ok.injEq, List.cons.injEq, true_and]
      · simp only [colon, hskip, hb, if_false, reduceCtorEq, List.cons.injEq, false_and]

theorem colon_length {s rest : Octets} (h : colon s = .ok rest) : rest.length < s.length :=
  length_of_skipBlank (colon_eq_ok_iff.mp h)

/-- How the members of an object are taken in: the reader that brings the
    fields so far one member further, or the reason to refuse its name. -/
abbrev Accept (σ : Type) := σ → String → Except Fault (Reader σ)

/-- The members of an object, up to and with its closing brace. -/
def members {σ : Type} (accept : Accept σ) (first : Bool) (fields : σ) (s : Octets) : Step σ :=
  match hn : nextMember first s with
  | .error e => .error e
  | .ok (.done rest) => .ok (fields, rest)
  | .ok (.more r) =>
    match hk : text r with
    | .error e => .error e
    | .ok (name, r₁) =>
      match accept fields name with
      | .error e => .error e
      | .ok reader =>
        match hc : colon r₁ with
        | .error e => .error e
        | .ok r₂ =>
          match hv : reader.read r₂ with
          | .error e => .error e
          | .ok (fields, rest) =>
            have : rest.length < s.length := by
              have h₀ : r.length < s.length := nextMember_length hn
              have h₁ := text_length hk
              have h₂ := colon_length hc
              have h₃ := reader.shorter hv
              omega
            members accept false fields rest
termination_by s.length

/-- One turn of the loop, without the equations that it keeps to end. -/
theorem members_turn {σ : Type} (accept : Accept σ) (first : Bool) (fields : σ) (s : Octets) :
    members accept first fields s =
      match nextMember first s with
      | .error e => .error e
      | .ok (.done rest) => .ok (fields, rest)
      | .ok (.more r) =>
        match text r with
        | .error e => .error e
        | .ok (name, r₁) =>
          match accept fields name with
          | .error e => .error e
          | .ok reader =>
            match colon r₁ with
            | .error e => .error e
            | .ok r₂ =>
              match reader.read r₂ with
              | .error e => .error e
              | .ok (fields, rest) => members accept false fields rest := by
  rw [members]
  split
  next e hnext => simp only [hnext]
  next rest hnext => simp only [hnext]
  next r hnext =>
    simp only [hnext]
    split
    next e htext => simp only [htext]
    next name r₁ htext =>
      simp only [htext]
      cases accept fields name with
      | error e => rfl
      | ok reader =>
          simp only []
          split
          next e hcolon => simp only [hcolon]
          next r₂ hcolon =>
            simp only [hcolon]
            split
            next e hread => simp only [hread]
            next after rest hread => simp only [hread]

/-- The steps of the loop over the members between finding the quote of a name
    and having read the value. -/
def memberStep {σ : Type} (accept : Accept σ) (fields : σ) (r : Octets) (name : String) (mid : σ)
    (rest : Octets) : Prop :=
  ∃ r₁ reader r₂, text r = .ok (name, r₁) ∧ accept fields name = .ok reader ∧
    colon r₁ = .ok r₂ ∧ reader.read r₂ = .ok (mid, rest)

theorem memberStep_length {σ : Type} {accept : Accept σ} {fields mid : σ} {r rest : Octets}
    {name : String} (h : memberStep accept fields r name mid rest) : rest.length < r.length := by
  rcases h with ⟨r₁, reader, r₂, htext, -, hcolon, hread⟩
  exact Nat.lt_trans (reader.shorter hread)
    (Nat.lt_trans (colon_length hcolon) (text_length htext))

/-- The loop ends with the object, or goes on behind one more member. -/
theorem members_eq_ok_iff {σ : Type} {accept : Accept σ} {first : Bool} {fields after : σ}
    {s rest : Octets} :
    members accept first fields s = .ok (after, rest) ↔
      (after = fields ∧ nextMember first s = .ok (.done rest)) ∨
      ∃ name mid t, (∃ r, nextMember first s = .ok (.more r) ∧
        memberStep accept fields r name mid t) ∧
        members accept false mid t = .ok (after, rest) := by
  rw [members_turn]
  constructor
  · intro h
    cases hnext : nextMember first s with
    | error e => simp only [hnext, reduceCtorEq] at h
    | ok next =>
        cases next with
        | done r =>
            simp only [hnext, Except.ok.injEq, Prod.mk.injEq] at h
            exact Or.inl ⟨h.1.symm, by rw [h.2]⟩
        | more r =>
            cases htext : text r with
            | error e => simp only [hnext, htext, reduceCtorEq] at h
            | ok key =>
                rcases key with ⟨name, r₁⟩
                cases hreader : accept fields name with
                | error e => simp only [hnext, htext, hreader, reduceCtorEq] at h
                | ok reader =>
                    cases hcolon : colon r₁ with
                    | error e => simp only [hnext, htext, hreader, hcolon, reduceCtorEq] at h
                    | ok r₂ =>
                        cases hread : reader.read r₂ with
                        | error e =>
                            simp only [hnext, htext, hreader, hcolon, hread, reduceCtorEq] at h
                        | ok taken =>
                            rcases taken with ⟨mid, t⟩
                            simp only [hnext, htext, hreader, hcolon, hread] at h
                            exact Or.inr ⟨name, mid, t,
                              ⟨r, rfl, r₁, reader, r₂, htext, hreader, hcolon, hread⟩, h⟩
  · rintro (⟨rfl, hnext⟩ | ⟨name, mid, t,
      ⟨r, hnext, r₁, reader, r₂, htext, hreader, hcolon, hread⟩, hmore⟩)
    · rw [hnext]
    · simp only [hnext, htext, hreader, hcolon, hread, hmore]

theorem members_length {σ : Type} {accept : Accept σ} {first : Bool} {fields fields' : σ}
    {s rest : Octets} (h : members accept first fields s = .ok (fields', rest)) :
    rest.length < s.length := by
  -- On the length, since the members themselves are not part of the result.
  induction hn : s.length using Nat.strongRecOn generalizing first fields s with
  | _ n ih =>
      subst hn
      rcases members_eq_ok_iff.mp h with ⟨-, hnext⟩ | ⟨name, mid, t, ⟨r, hnext, hstep⟩, hmore⟩
      · exact nextMember_length hnext
      · have hfound : r.length < s.length := nextMember_length hnext
        have htaken := Nat.lt_trans (memberStep_length hstep) hfound
        exact Nat.lt_trans (ih t.length htaken hmore rfl) htaken

/-- The end of a list whose values have all been read; a further value is as
    wrong as anything else that stands there. -/
def closeList (s : Octets) : Except Fault Octets :=
  match skipBlank s with
  | [] => .error .endInList
  | b :: rest =>
    if b = 0x5D then .ok rest
    else if b = 0x2C then
      match skipBlank rest with
      | [] => .error .trailingCharacters
      | b :: _ => .error (if b = 0x5D then .trailingComma else .trailingCharacters)
    else .error .trailingCharacters

theorem closeList_eq_ok_iff {s rest : Octets} :
    closeList s = .ok rest ↔ skipBlank s = 0x5D :: rest := by
  constructor
  · intro h
    cases hskip : skipBlank s with
    | nil => simp only [closeList, hskip, reduceCtorEq] at h
    | cons b r =>
        simp only [closeList, hskip] at h
        by_cases hb : b = 0x5D
        · rw [if_pos hb] at h
          injection h with h
          rw [hb, h]
        · rw [if_neg hb] at h
          -- A comma is refused for what it promises, but refused all the same.
          by_cases hcomma : b = 0x2C
          · rw [if_pos hcomma] at h
            cases hskip' : skipBlank r with
            | nil => simp only [hskip', reduceCtorEq] at h
            | cons b' r' => simp only [hskip', reduceCtorEq] at h
          · rw [if_neg hcomma] at h
            injection h
  · intro hskip
    simp only [closeList, hskip, if_true]

theorem closeList_length {s rest : Octets} (h : closeList s = .ok rest) :
    rest.length < s.length := length_of_skipBlank (closeList_eq_ok_iff.mp h)

/-- The value at the given place of a record that is written as a list. -/
def listField {α : Type} (shape : Shape) (place : Nat) (field : Reader α) (s : Octets) :
    Step α :=
  match nextItem (place == 0) s with
  | .error e => .error e
  | .ok (.done _) => .error (.tooShort place shape)
  | .ok (.more rest) => field.read rest

theorem listField_eq_ok_iff {α : Type} {shape : Shape} {place : Nat} {field : Reader α}
    {s rest : Octets} {a : α} : listField shape place field s = .ok (a, rest) ↔
      ∃ r, nextItem (place == 0) s = .ok (.more r) ∧ field.read r = .ok (a, rest) := by
  rcases hnext : nextItem (place == 0) s with e | r | r
  · simp only [listField, hnext, reduceCtorEq, false_and, exists_false]
  · simp only [listField, hnext, reduceCtorEq, Except.ok.injEq, false_and, exists_false]
  · simp only [listField, hnext, Except.ok.injEq, Next.more.injEq, exists_eq_left']

theorem listField_length {α : Type} {shape : Shape} {place : Nat} {field : Reader α}
    {s rest : Octets} {a : α} (h : listField shape place field s = .ok (a, rest)) :
    rest.length < s.length := by
  rcases listField_eq_ok_iff.mp h with ⟨r, hnext, hread⟩
  exact Nat.lt_of_lt_of_le (field.shorter hread) (nextItem_length hnext)

/-- A record in either spelling: `ofList` reads its values after the opening
    bracket, `ofObject` its members after the opening brace. -/
def readRecord {α : Type} (shape : Shape) (ofList ofObject : Octets → Step α) (s : Octets) :
    Step α :=
  match skipBlank s with
  | [] => .error .endInValue
  | b :: rest =>
    if b = 0x5B then ofList rest
    else if b = 0x7B then ofObject rest
    else .error (wrongType (.record shape) (b :: rest))

theorem readRecord_eq_ok_iff {α : Type} {shape : Shape} {ofList ofObject : Octets → Step α}
    {s rest : Octets} {a : α} :
    readRecord shape ofList ofObject s = .ok (a, rest) ↔
      (∃ r, skipBlank s = 0x5B :: r ∧ ofList r = .ok (a, rest)) ∨
        ∃ r, skipBlank s = 0x7B :: r ∧ ofObject r = .ok (a, rest) := by
  constructor
  · intro h
    cases hskip : skipBlank s with
    | nil => simp only [readRecord, hskip, reduceCtorEq] at h
    | cons b r =>
        simp only [readRecord, hskip] at h
        by_cases hlist : b = 0x5B
        · rw [if_pos hlist] at h
          exact Or.inl ⟨r, by rw [hlist], h⟩
        · rw [if_neg hlist] at h
          by_cases hobject : b = 0x7B
          · rw [if_pos hobject] at h
            exact Or.inr ⟨r, by rw [hobject], h⟩
          · rw [if_neg hobject] at h
            injection h
  · rintro (⟨r, hskip, h⟩ | ⟨r, hskip, h⟩)
    · simp only [readRecord, hskip, if_true]
      exact h
    · simp only [readRecord, hskip, if_true]
      exact h

theorem readRecord_length {α : Type} {shape : Shape} {ofList ofObject : Octets → Step α}
    (hl : ∀ {s rest : Octets} {a : α}, ofList s = .ok (a, rest) → rest.length ≤ s.length)
    (ho : ∀ {s rest : Octets} {a : α}, ofObject s = .ok (a, rest) → rest.length ≤ s.length)
    {s rest : Octets} {a : α} (h : readRecord shape ofList ofObject s = .ok (a, rest)) :
    rest.length < s.length := by
  rcases readRecord_eq_ok_iff.mp h with ⟨r, hskip, hlist⟩ | ⟨r, hskip, hobject⟩
  · exact Nat.lt_of_le_of_lt (hl hlist) (length_of_skipBlank hskip)
  · exact Nat.lt_of_le_of_lt (ho hobject) (length_of_skipBlank hskip)

/-- A reader applied to an entire document, after which only white space may
    stand. -/
def entire {α : Type} (reader : Reader α) (s : Octets) : Except Fault α :=
  match reader.read s with
  | .error e => .error e
  | .ok (a, rest) =>
    match skipBlank rest with
    | [] => .ok a
    | _ :: _ => .error .trailingCharacters

end Json

end StoragePolicy
