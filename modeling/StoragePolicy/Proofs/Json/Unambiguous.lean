import StoragePolicy.Proofs.Json.Strings

/-!
# A Document Has One Meaning

No octets spell two values. This is a fact about the grammar alone, for every
kind of value, also those that no record of the library holds, and it is what
turns a statement on how something is written into a statement on what is
written: two documents with the same octets say the same.

It is stated with more octets behind, since a value inside a list or an object
does not know where it ends. Only a number needs to be told: its end is where
an octet follows that could not prolong it. Everything else shows its own end.

Lists and objects are covered by one argument on things between commas, which
asks of the things only that they are unambiguous themselves and do not begin
like white space or a closing bracket.

## Main definitions

* `Stops`: Octets that do not prolong a number.
* `Unambiguous`: A family of spellings in which one thing cannot be mistaken.

## Theorems

* `separated_unique`: Things between commas are unambiguous if each is.
* `Value.unambiguous`: Values are unambiguous.
* `Value.eq_of_padded`: A document has one meaning.
-/

namespace StoragePolicy

namespace Json

open Text

variable {ι : Type}

/-- Octets that numbers are made of. -/
def NumberOctet (b : UInt8) : Prop :=
  (0x30 ≤ b ∧ b ≤ 0x39) ∨ b = 0x2D ∨ b = 0x2B ∨ b = 0x2E ∨ b = 0x65 ∨ b = 0x45

instance (b : UInt8) : Decidable (NumberOctet b) :=
  inferInstanceAs (Decidable ((0x30 ≤ b ∧ b ≤ 0x39) ∨ b = 0x2D ∨ b = 0x2B ∨ b = 0x2E ∨ b = 0x65 ∨
    b = 0x45))

/-- No octets, or some that begin with one that is not of a kind. -/
def StopsAt (P : UInt8 → Prop) (r : Octets) : Prop := ∀ b t, r = b :: t → ¬ P b

/-- Octets that do not prolong a number, of which it matters only how they begin. -/
abbrev Stops (r : Octets) : Prop := StopsAt NumberOctet r

/-- One thing of a family cannot be mistaken for another, whatever follows. This says
    two things, as the proofs need both: what was spelled, and where it ends. -/
def Unambiguous (P : ι → Spelling) (i : ι) : Prop :=
  ∀ (j : ι) (s t r q : Octets), P i s → P j t → s ++ r = t ++ q → Stops r → Stops q →
    i = j ∧ s = t

theorem StopsAt.nil (P : UInt8 → Prop) : StopsAt P [] :=
  fun b t h => absurd h.symm (List.cons_ne_nil b t)

theorem StopsAt.cons {P : UInt8 → Prop} {b : UInt8} (hb : ¬ P b) (r : Octets) :
    StopsAt P (b :: r) := by
  intro c t h
  injection h with hc
  rw [← hc]
  exact hb

/-- A run of octets of one kind ends where an octet of another kind follows. -/
theorem run_unique {P : UInt8 → Prop} {u v r q : Octets} (hu : ∀ b ∈ u, P b)
    (hv : ∀ b ∈ v, P b) (hr : StopsAt P r) (hq : StopsAt P q) (h : u ++ r = v ++ q) :
    u = v ∧ r = q := by
  induction u generalizing v with
  | nil =>
      cases v with
      | nil => exact ⟨rfl, h⟩
      -- The first run is over where the second goes on with an octet of the kind.
      | cons b v => exact absurd (hv b List.mem_cons_self) (hr b _ h)
  | cons a u ih =>
      cases v with
      | nil => exact absurd (hu a List.mem_cons_self) (hq a _ h.symm)
      | cons b v =>
          injection h with hab h
          subst hab
          rcases ih (fun b hb => hu b (List.mem_cons_of_mem _ hb))
            (fun b hb => hv b (List.mem_cons_of_mem _ hb)) h with ⟨rfl, hrest⟩
          exact ⟨rfl, hrest⟩

/-- A closing bracket. -/
def Closing (c : UInt8) : Prop := c = 0x5D ∨ c = 0x7D

instance (c : UInt8) : Decidable (Closing c) :=
  inferInstanceAs (Decidable (c = 0x5D ∨ c = 0x7D))

theorem Closing.visible {c : UInt8} (hc : Closing c) : ¬ BlankOctet c ∧ c ≠ 0x2C := by
  rcases hc with rfl | rfl <;> exact ⟨by decide, by decide⟩

theorem not_numberOctet_of_blank {b : UInt8} (hb : BlankOctet b) : ¬ NumberOctet b := by
  rcases hb with rfl | rfl | rfl | rfl <;> decide

theorem not_numberOctet_of_closing {c : UInt8} (hc : Closing c) : ¬ NumberOctet c := by
  rcases hc with rfl | rfl <;> decide

theorem stops_blank_append {w r : Octets} (hw : Blank w) (hr : Stops r) : Stops (w ++ r) := by
  cases w with
  | nil => exact hr
  | cons b w => exact StopsAt.cons (not_numberOctet_of_blank (hw b List.mem_cons_self)) _

/-- Behind a thing between commas stands nothing that could prolong it. -/
theorem stops_further {Ps : List Spelling} {s r : Octets} {c : UInt8} (hc : Closing c)
    (hs : Further Ps s) : Stops (s ++ c :: r) := by
  cases hs with
  | nil => exact StopsAt.cons (not_numberOctet_of_closing hc) r
  | cons => exact StopsAt.cons (by decide) _

/-- Things that begin neither like white space nor like a closing bracket. -/
def Visible (P : ι → Spelling) : Prop :=
  ∀ i s, P i s → ∃ b t, s = b :: t ∧ ¬ BlankOctet b ∧ ¬ Closing b

theorem Visible.stopsAt_append {P : ι → Spelling} (hP : Visible P) {i : ι} {s : Octets}
    (hs : P i s) (r : Octets) : StopsAt BlankOctet (s ++ r) := by
  rcases hP i s hs with ⟨b, t, rfl, hb, -⟩
  exact StopsAt.cons hb _

/-- White space and the thing behind it are unambiguous together. -/
theorem blank_thing_unique {P : ι → Spelling} (hP : Visible P) {i j : ι} (hi : Unambiguous P i)
    {l l' v v' r q : Octets} (hl : Blank l) (hl' : Blank l') (hv : P i v) (hv' : P j v')
    (hr : Stops r) (hq : Stops q) (h : l ++ (v ++ r) = l' ++ (v' ++ q)) :
    i = j ∧ l = l' ∧ v = v' ∧ r = q := by
  rcases run_unique hl hl' (hP.stopsAt_append hv r) (hP.stopsAt_append hv' q) h with ⟨rfl, hthing⟩
  rcases hi j v v' r q hv hv' hthing hr hq with ⟨rfl, rfl⟩
  exact ⟨rfl, rfl, rfl, List.append_cancel_left hthing⟩

/-- Where a thing begins, no bracket is closed. -/
theorem thing_ne_closing {P : ι → Spelling} (hP : Visible P) {c : UInt8} (hc : Closing c) {i : ι}
    {l v w r q : Octets} (hl : Blank l) (hv : P i v) (hw : Blank w) :
    l ++ (v ++ r) ≠ w ++ c :: q := by
  intro h
  rcases run_unique hl hw (hP.stopsAt_append hv r) (StopsAt.cons hc.visible.1 q) h with ⟨-, hthing⟩
  rcases hP i v hv with ⟨b, v, rfl, -, hb⟩
  injection hthing with hbc
  exact hb (hbc ▸ hc)

/-- Where a comma stands, no bracket is closed. -/
theorem comma_ne_closing {c : UInt8} (hc : Closing c) {w u r q : Octets} (hw : Blank w)
    (hu : Blank u) : w ++ 0x2C :: r ≠ u ++ c :: q := by
  intro h
  rcases run_unique hw hu (StopsAt.cons (by decide) r) (StopsAt.cons hc.visible.1 q) h with ⟨-, h⟩
  injection h with h
  exact hc.visible.2 h.symm

/-- Things behind commas are unambiguous up to the closing bracket, white space
    in front of them included. -/
theorem further_unique {P : ι → Spelling} (hP : Visible P) {c : UInt8} (hc : Closing c)
    {is js : List ι} (his : ∀ i ∈ is, Unambiguous P i) {w u s t r q : Octets}
    (hw : Blank w) (hu : Blank u) (hs : Further (is.map P) s) (ht : Further (js.map P) t)
    (h : w ++ (s ++ c :: r) = u ++ (t ++ c :: q)) : is = js ∧ w = u ∧ s = t := by
  induction is generalizing js w u s t with
  | nil =>
      rw [List.map_nil, further_nil_iff] at hs
      subst hs
      cases js with
      | nil =>
          rw [List.map_nil, further_nil_iff] at ht
          subst ht
          rcases run_unique hw hu (StopsAt.cons hc.visible.1 r) (StopsAt.cons hc.visible.1 q) h
            with ⟨rfl, -⟩
          exact ⟨rfl, rfl, rfl⟩
      | cons j js =>
          rcases further_cons_iff.mp ht with ⟨l, v, m, t', -, -, -, -, rfl⟩
          -- One text closes its bracket where the other has a comma.
          exact absurd h.symm (comma_ne_closing hc hu hw)
  | cons i is ih =>
      rcases further_cons_iff.mp hs with ⟨l, v, m, s', hl, hv, hm, hs', rfl⟩
      cases js with
      | nil =>
          rw [List.map_nil, further_nil_iff] at ht
          subst ht
          exact absurd h (comma_ne_closing hc hw hu)
      | cons j js =>
          rcases further_cons_iff.mp ht with ⟨l', v', m', t', hl', hv', hm', ht', rfl⟩
          simp only [List.cons_append, List.append_assoc] at h
          -- The comma, the thing behind it, and the induction for what follows.
          rcases run_unique hw hu (StopsAt.cons (by decide) _) (StopsAt.cons (by decide) _) h
            with ⟨rfl, hcut⟩
          injection hcut with _ hcut
          rcases blank_thing_unique hP (his i List.mem_cons_self) hl hl' hv hv'
            (stops_blank_append hm (stops_further hc hs'))
            (stops_blank_append hm' (stops_further hc ht')) hcut with ⟨rfl, rfl, rfl, hrest⟩
          rcases ih (fun i hi => his i (List.mem_cons_of_mem _ hi)) hm hm' hs' ht' hrest
            with ⟨rfl, rfl, rfl⟩
          exact ⟨rfl, rfl, rfl⟩

/-- Things between commas are unambiguous up to the closing bracket. Neither their
    number nor the white space around them leaves a choice. -/
theorem separated_unique {P : ι → Spelling} (hP : Visible P) {c : UInt8} (hc : Closing c)
    {is js : List ι} (his : ∀ i ∈ is, Unambiguous P i) {s t r q : Octets}
    (hs : Separated (is.map P) s) (ht : Separated (js.map P) t)
    (h : s ++ c :: r = t ++ c :: q) : is = js ∧ s = t := by
  cases is with
  | nil =>
      rw [List.map_nil, separated_nil_iff] at hs
      cases js with
      | nil =>
          rw [List.map_nil, separated_nil_iff] at ht
          rcases run_unique hs ht (StopsAt.cons hc.visible.1 r) (StopsAt.cons hc.visible.1 q) h
            with ⟨rfl, -⟩
          exact ⟨rfl, rfl⟩
      | cons j js =>
          rcases separated_cons_iff.mp ht with ⟨l, v, m, t', hl, hv, -, -, rfl⟩
          simp only [List.append_assoc] at h
          -- One text is empty where the other has a thing.
          exact absurd h.symm (thing_ne_closing hP hc hl hv hs)
  | cons i is =>
      rcases separated_cons_iff.mp hs with ⟨l, v, m, s', hl, hv, hm, hs', rfl⟩
      simp only [List.append_assoc] at h
      cases js with
      | nil =>
          rw [List.map_nil, separated_nil_iff] at ht
          exact absurd h (thing_ne_closing hP hc hl hv ht)
      | cons j js =>
          rcases separated_cons_iff.mp ht with ⟨l', v', m', t', hl', hv', hm', ht', rfl⟩
          simp only [List.append_assoc] at h
          -- The first things agree, so what is left are things that each follow a comma.
          rcases blank_thing_unique hP (his i List.mem_cons_self) hl hl' hv hv'
            (stops_blank_append hm (stops_further hc hs'))
            (stops_blank_append hm' (stops_further hc ht')) h with ⟨rfl, rfl, rfl, hrest⟩
          rcases further_unique hP hc (fun i hi => his i (List.mem_cons_of_mem _ hi)) hm hm' hs' ht'
            hrest with ⟨rfl, rfl, rfl⟩
          exact ⟨rfl, rfl⟩

/-- Things between brackets are unambiguous, whatever follows the closing one. -/
theorem bracketed_unique {P : ι → Spelling} (hP : Visible P) {o c : UInt8} (hc : Closing c)
    {is js : List ι} (his : ∀ i ∈ is, Unambiguous P i) {s t r q : Octets}
    (hs : Bracketed o c (is.map P) s) (ht : Bracketed o c (js.map P) t)
    (h : s ++ r = t ++ q) : is = js ∧ s = t := by
  rcases hs with ⟨s, hs, rfl⟩
  rcases ht with ⟨t, ht, rfl⟩
  simp only [List.cons_append, List.append_assoc, List.nil_append, List.cons.injEq, true_and] at h
  rcases separated_unique hP hc his hs ht h with ⟨rfl, rfl⟩
  exact ⟨rfl, rfl⟩

/-! ## Values -/

/-- A value that cannot be mistaken for another. -/
abbrev Value.Clear (x : Value) : Prop := Unambiguous Value.Spelled x

/-- Values of one kind; the two truth values are kinds of their own. -/
def Value.SameKind : Value → Value → Prop
  | .null, .null => True
  | .boolean a, .boolean b => a = b
  | .number _, .number _ => True
  | .string _, .string _ => True
  | .list _, .list _ => True
  | .object _, .object _ => True
  | _, _ => False

/-- The first octet gives the kind of a value away. -/
theorem Value.Opens.sameKind {x y : Value} {b : UInt8} (hx : x.Opens b) (hy : y.Opens b) :
    x.SameKind y := by
  -- Every pair of kinds is told apart by the octet, or is one kind.
  rcases x with _ | (_ | _) | _ | _ | _ | _ <;> rcases y with _ | (_ | _) | _ | _ | _ | _ <;>
    simp_all [Value.Opens, Value.SameKind]

/-- Octets that begin with two values begin with values of one kind. -/
theorem Value.sameKind_of_append_eq {x y : Value} {s t r q : Octets} (hs : x.Spelled s)
    (ht : y.Spelled t) (h : s ++ r = t ++ q) : x.SameKind y := by
  rcases hs.opens with ⟨b, s, rfl, hb⟩
  rcases ht.opens with ⟨c, t, rfl, hc⟩
  injection h with h
  subst h
  exact hb.sameKind hc

theorem visible_spelled : Visible Value.Spelled := by
  intro x s hs
  rcases Value.Spelled.opens hs with ⟨b, t, rfl, hb⟩
  refine ⟨b, t, rfl, hb.visible.1, ?_⟩
  rintro (hc | hc)
  · exact hb.visible.2.2.1 hc
  · exact hb.visible.2.2.2 hc

theorem visible_member : Visible memberSpelling := by
  intro m s hs
  rcases MemberSpelling.opens hs with ⟨t, rfl⟩
  exact ⟨0x22, t, rfl, by decide, by decide⟩

theorem NumberSpelling.numberOctet {s : Octets} (h : NumberSpelling s) :
    ∀ b ∈ s, NumberOctet b := by
  have hdigits : ∀ {d : Octets}, Digits d → ∀ b ∈ d, NumberOctet b :=
    fun hd b hb => Or.inl (hd.2 b hb)
  rcases h with ⟨sign, w, f, e, hsign, hw, hf, he, rfl⟩
  intro b hb
  rw [List.mem_append, List.mem_append, List.mem_append] at hb
  rcases hb with ((hb | hb) | hb) | hb
  · rcases hsign with rfl | rfl
    · exact absurd hb List.not_mem_nil
    · rw [List.mem_singleton] at hb
      exact Or.inr (Or.inl hb)
  · rcases hw with rfl | ⟨hw, -⟩
    · rw [List.mem_singleton] at hb
      subst hb
      decide
    · exact hdigits hw b hb
  · rcases hf with rfl | ⟨d, hd, rfl⟩
    · exact absurd hb List.not_mem_nil
    · rcases List.mem_cons.mp hb with rfl | hb
      · decide
      · exact hdigits hd b hb
  · rcases he with rfl | ⟨mark, sign, d, hmark, hsign, hd, rfl⟩
    · exact absurd hb List.not_mem_nil
    · rw [List.cons_append, List.mem_cons, List.mem_append] at hb
      rcases hb with rfl | hb | hb
      · rcases hmark with rfl | rfl <;> decide
      · rcases hsign with rfl | rfl | rfl
        · exact absurd hb List.not_mem_nil
        · rw [List.mem_singleton] at hb
          exact Or.inr (Or.inr (Or.inl hb))
        · rw [List.mem_singleton] at hb
          exact Or.inr (Or.inl hb)
      · exact hdigits hd b hb

theorem clear_null : Value.null.Clear := by
  intro y s t r q hs ht h _ _
  match y, Value.sameKind_of_append_eq hs ht h, ht with
  | .null, _, ht => exact ⟨rfl, hs.trans ht.symm⟩

theorem clear_boolean (a : Bool) : (Value.boolean a).Clear := by
  intro y s t r q hs ht h _ _
  match y, Value.sameKind_of_append_eq hs ht h, ht with
  | .boolean b, hab, ht =>
      have hab : a = b := hab
      subst hab
      cases a <;> exact ⟨rfl, hs.trans ht.symm⟩

/-- A number is the longest run of its octets. -/
theorem clear_number (written : Octets) : (Value.number written).Clear := by
  intro y s t r q hs ht h hr hq
  match y, Value.sameKind_of_append_eq hs ht h, ht with
  | .number written', _, ht =>
      rcases hs with ⟨hs, rfl⟩
      rcases ht with ⟨ht, rfl⟩
      rcases run_unique hs.numberOctet ht.numberOctet hr hq h with ⟨rfl, -⟩
      exact ⟨rfl, rfl⟩

/-- A string shows its own end, so what follows does not matter. -/
theorem clear_string (text : String) : (Value.string text).Clear := by
  intro y s t r q hs ht h _ _
  match y, Value.sameKind_of_append_eq hs ht h, ht with
  | .string text', _, ht =>
      rcases StringSpelling.unique hs ht h with ⟨rfl, rfl⟩
      exact ⟨rfl, rfl⟩

theorem clear_list {xs : List Value} (hxs : ∀ x ∈ xs, x.Clear) : (Value.list xs).Clear := by
  intro y s t r q hs ht h _ _
  match y, Value.sameKind_of_append_eq hs ht h, ht with
  | .list ys, _, ht =>
      rw [Value.spelled_list] at hs ht
      rcases bracketed_unique visible_spelled (Or.inl rfl) hxs hs ht h with ⟨rfl, rfl⟩
      exact ⟨rfl, rfl⟩

/-- A member is unambiguous if its value is: its name ends with a quote, and
    the colon ends the white space behind it. -/
theorem clear_member {m : String × Value} (hm : m.2.Clear) : Unambiguous memberSpelling m := by
  intro n s t r q hs ht h hr hq
  rcases hs with ⟨key, w, u, v, hkey, hw, hu, hv, rfl⟩
  rcases ht with ⟨key', w', u', v', hkey', hw', hu', hv', rfl⟩
  have hcolon : ¬ BlankOctet 0x3A := by decide
  simp only [List.cons_append, List.append_assoc] at h
  -- The name, white space up to the colon, white space behind it, and the value.
  rcases StringSpelling.unique hkey hkey' h with ⟨hname, rfl⟩
  rcases run_unique hw hw' (StopsAt.cons hcolon _) (StopsAt.cons hcolon _)
    (List.append_cancel_left h) with ⟨rfl, hvalue⟩
  injection hvalue with _ hvalue
  rcases blank_thing_unique visible_spelled hm hu hu' hv hv' hr hq hvalue with ⟨hx, rfl, rfl, -⟩
  exact ⟨Prod.ext hname hx, rfl⟩

theorem clear_object {ms : List (String × Value)} (hms : ∀ m ∈ ms, m.2.Clear) :
    (Value.object ms).Clear := by
  intro y s t r q hs ht h _ _
  match y, Value.sameKind_of_append_eq hs ht h, ht with
  | .object ns, _, ht =>
      rw [Value.spelled_object] at hs ht
      rcases bracketed_unique visible_member (Or.inr rfl) (fun m hm => clear_member (hms m hm))
        hs ht h with ⟨rfl, rfl⟩
      exact ⟨rfl, rfl⟩

/-- Values are unambiguous, at every depth. The recursion is on the value; what is
    spelled beside it can be anything. -/
theorem Value.unambiguous : (x : Value) → x.Clear
  | .null => clear_null
  | .boolean value => clear_boolean value
  | .number written => clear_number written
  | .string text => clear_string text
  | .list xs => clear_list fun x _ => x.unambiguous
  | .object ms => clear_object fun m _ => m.2.unambiguous
termination_by x => x
decreasing_by
  · have := List.sizeOf_lt_of_mem (by assumption : x ∈ xs)
    simp only [Value.list.sizeOf_spec]
    omega
  · have := List.sizeOf_lt_of_mem (by assumption : m ∈ ms)
    cases m
    simp only [Value.object.sizeOf_spec, Prod.mk.sizeOf_spec] at *
    omega

/-- A document has one meaning: octets that spell two values, with white space around
    them, spell the same value twice. -/
theorem Value.eq_of_padded {x y : Value} {s : Octets} (hx : Padded x.Spelled s)
    (hy : Padded y.Spelled s) : x = y := by
  rcases hx with ⟨l, v, r, hl, hv, hr, rfl⟩
  rcases hy with ⟨l', v', r', hl', hv', hr', h⟩
  rw [List.append_assoc, List.append_assoc] at h
  -- At the end of a document stands only white space, which prolongs no number.
  have hstops : ∀ {w : Octets}, Blank w → Stops w := fun {w} hw =>
    List.append_nil w ▸ stops_blank_append hw (StopsAt.nil NumberOctet)
  exact (blank_thing_unique visible_spelled x.unambiguous hl hl' hv hv' (hstops hr) (hstops hr')
    h).1

end Json

end StoragePolicy
