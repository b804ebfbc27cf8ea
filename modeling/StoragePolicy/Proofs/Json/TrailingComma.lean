import StoragePolicy.Proofs.Json.Unambiguous

/-!
# No Comma Before a Closing Bracket

A comma promises one more item. The grammar has no place for a comma that is
followed by a closing bracket, and this module proves that nothing can make
good for one: octets with such a comma in them, at any depth, are not the
beginning of any text, whatever stands behind the bracket.

The octets are described up to that bracket only. What was opened around it may
never be closed, since the text is already lost there, and this is what makes
the description easy to carry from an inner list to the list around it.

## Main definitions

* `Pending`: Things with a comma behind each of them.
* `TrailingComma`: A text up to a closing bracket behind a comma.

## Theorems

* `pending_next`: What has to follow a comma.
* `TrailingComma.not_spelled`: No text begins like this.
-/

namespace StoragePolicy

namespace Json

open Text

variable {ι : Type}

/-- Things with a comma behind each of them, and white space around them. -/
inductive Pending : List Spelling → Spelling where
  | none {w : Octets} (h : Blank w) : Pending [] w
  | some {P : Spelling} {Ps : List Spelling} {s t : Octets} (h : Padded P s)
      (hs : Pending Ps t) : Pending (P :: Ps) (s ++ 0x2C :: t)

/-- A text up to a closing bracket that stands behind a comma. The bracket may
    belong to a list or to an object, and these may lie in others. -/
inductive TrailingComma : Spelling where
  | list {x : Value} {xs : List Value} {t : Octets}
      (ht : Pending ((x :: xs).map Value.Spelled) t) : TrailingComma (0x5B :: t ++ [0x5D])
  | object {m : String × Value} {ms : List (String × Value)} {t : Octets}
      (ht : Pending ((m :: ms).map memberSpelling) t) : TrailingComma (0x7B :: t ++ [0x7D])
  | inList {xs : List Value} {t s : Octets} (ht : Pending (xs.map Value.Spelled) t)
      (hs : TrailingComma s) : TrailingComma (0x5B :: t ++ s)
  | inObject {ms : List (String × Value)} {name : String} {t key w u s : Octets}
      (ht : Pending (ms.map memberSpelling) t) (hkey : StringSpelling name key) (hw : Blank w)
      (hu : Blank u) (hs : TrailingComma s) :
      TrailingComma (0x7B :: t ++ (key ++ (w ++ 0x3A :: (u ++ s))))

theorem pending_nil_iff {s : Octets} : Pending [] s ↔ Blank s := by
  constructor
  · intro h
    cases h with
    | none hw => exact hw
  · exact Pending.none

theorem pending_cons_iff {P : Spelling} {Ps : List Spelling} {s : Octets} :
    Pending (P :: Ps) s ↔ ∃ l v r t, Blank l ∧ P v ∧ Blank r ∧ Pending Ps t ∧
      s = l ++ (v ++ (r ++ 0x2C :: t)) := by
  constructor
  · intro h
    cases h with
    | some hp ht =>
        rcases hp with ⟨l, v, r, hl, hv, hr, rfl⟩
        exact ⟨l, v, r, _, hl, hv, hr, ht, by simp only [List.append_assoc]⟩
  · rintro ⟨l, v, r, t, hl, hv, hr, ht, rfl⟩
    have h := Pending.some ⟨l, v, r, hl, hv, hr, rfl⟩ ht
    simpa only [List.append_assoc] using h

/-- Behind things that each have a comma, a text between brackets either ends,
    if there are none, or goes on with one more thing. -/
theorem pending_next {P : ι → Spelling} (hP : Visible P) {b c : UInt8} (hc : Closing c)
    (hb : ¬ BlankOctet b) {is js : List ι} (his : ∀ i ∈ is, Unambiguous P i) {s t r q : Octets}
    (hs : Pending (is.map P) s) (ht : Separated (js.map P) t) (h : s ++ b :: r = t ++ c :: q) :
    (is = [] ∧ js = [] ∧ b = c) ∨ ∃ j v p, P j v ∧ b :: r = v ++ p := by
  induction is generalizing js s t with
  -- No thing is left in front: the other text ends here too, or goes on.
  | nil =>
      rw [List.map_nil, pending_nil_iff] at hs
      cases js with
      | nil =>
          rw [List.map_nil, separated_nil_iff] at ht
          rcases run_unique hs ht (StopsAt.cons hb r) (StopsAt.cons hc.visible.1 q) h with ⟨-, hbc⟩
          injection hbc with hbc
          exact Or.inl ⟨rfl, rfl, hbc⟩
      | cons j js =>
          rcases separated_cons_iff.mp ht with ⟨l, v, m, t', hl, hv, -, -, rfl⟩
          simp only [List.append_assoc] at h
          rcases run_unique hs hl (StopsAt.cons hb r) (hP.stopsAt_append hv _) h with ⟨-, hthing⟩
          exact Or.inr ⟨j, v, _, hv, hthing⟩
  -- A thing and its comma in front: the other text begins with the same thing.
  | cons i is ih =>
      rcases pending_cons_iff.mp hs with ⟨l, v, m, s', hl, hv, hm, hs', rfl⟩
      simp only [List.append_assoc, List.cons_append] at h
      cases js with
      | nil =>
          rw [List.map_nil, separated_nil_iff] at ht
          exact absurd h (thing_ne_closing hP hc hl hv ht)
      | cons j js =>
          rcases separated_cons_iff.mp ht with ⟨l', v', m', t', hl', hv', hm', ht', rfl⟩
          simp only [List.append_assoc] at h
          rcases blank_thing_unique hP (his i List.mem_cons_self) hl hl' hv hv'
            (stops_blank_append hm (StopsAt.cons (by decide) _))
            (stops_blank_append hm' (stops_further hc ht')) h with ⟨rfl, rfl, rfl, hrest⟩
          -- The comma has to be that of a further thing, and the induction goes on with it.
          cases js with
          | nil =>
              rw [further_nil_iff.mp ht', List.nil_append] at hrest
              exact absurd hrest (comma_ne_closing hc hm hm')
          | cons k js =>
              rcases further_cons_iff.mp ht' with ⟨l₂, v₂, m₂, t₂, hl₂, hv₂, hm₂, ht₂, rfl⟩
              rw [List.cons_append] at hrest
              rcases run_unique hm hm' (StopsAt.cons (by decide) _) (StopsAt.cons (by decide) _)
                hrest with ⟨-, hcut⟩
              injection hcut with _ hcut
              have hmore : Separated ((k :: js).map P) (l₂ ++ (v₂ ++ (m₂ ++ t₂))) :=
                separated_cons_iff.mpr ⟨l₂, v₂, m₂, t₂, hl₂, hv₂, hm₂, ht₂, rfl⟩
              rcases ih (fun i hi => his i (List.mem_cons_of_mem _ hi)) hs' hmore hcut
                with ⟨-, hnil, -⟩ | hnext
              · exact absurd hnil (List.cons_ne_nil k js)
              · exact Or.inr hnext

/-- Such a text begins with an opening bracket, so neither with white space nor
    with the bracket that would close a list. -/
theorem TrailingComma.opens {s : Octets} (h : TrailingComma s) :
    ∃ b t, s = b :: t ∧ ¬ BlankOctet b ∧ b ≠ 0x5D := by
  cases h with
  | list | inList => exact ⟨0x5B, _, rfl, by decide, by decide⟩
  | object | inObject => exact ⟨0x7B, _, rfl, by decide, by decide⟩

/-- Only a list begins with a square bracket. -/
theorem Value.list_of_append_eq {x : Value} {v q r : Octets} (hv : x.Spelled v)
    (h : 0x5B :: r = v ++ q) :
    ∃ xs t, Separated (List.map Value.Spelled xs) t ∧ r = t ++ 0x5D :: q := by
  rcases hv.opens with ⟨b, v, rfl, hb⟩
  injection h with hb' h
  subst hb'
  have hkind := hb.sameKind (show (Value.list []).Opens 0x5B from rfl)
  match x, hkind, hv with
  | .list xs, _, hv =>
      rw [Value.spelled_list] at hv
      rcases hv with ⟨t, ht, hvt⟩
      injection hvt with _ hvt
      rw [hvt] at h
      exact ⟨xs, t, ht, h.trans (List.append_assoc t [0x5D] q)⟩

/-- Only an object begins with a brace. -/
theorem Value.object_of_append_eq {x : Value} {v q r : Octets} (hv : x.Spelled v)
    (h : 0x7B :: r = v ++ q) :
    ∃ ms t, Separated (List.map memberSpelling ms) t ∧ r = t ++ 0x7D :: q := by
  rcases hv.opens with ⟨b, v, rfl, hb⟩
  injection h with hb' h
  subst hb'
  have hkind := hb.sameKind (show (Value.object []).Opens 0x7B from rfl)
  match x, hkind, hv with
  | .object ms, _, hv =>
      rw [Value.spelled_object] at hv
      rcases hv with ⟨t, ht, hvt⟩
      injection hvt with _ hvt
      rw [hvt] at h
      exact ⟨ms, t, ht, h.trans (List.append_assoc t [0x7D] q)⟩

/-- Behind the name and the colon of a member begins its value. -/
theorem value_of_member {z : String × Value} {name : String} {m key w u g p : Octets}
    (hz : memberSpelling z m) (hkey : StringSpelling name key) (hw : Blank w) (hu : Blank u)
    (hg : StopsAt BlankOctet g) (h : key ++ (w ++ 0x3A :: (u ++ g)) = m ++ p) :
    ∃ v, z.2.Spelled v ∧ g = v ++ p := by
  have hcolon : ¬ BlankOctet 0x3A := by decide
  rcases hz with ⟨key', w', u', v, hkey', hw', hu', hv, rfl⟩
  simp only [List.cons_append, List.append_assoc] at h
  rcases StringSpelling.unique hkey hkey' h with ⟨-, rfl⟩
  rcases run_unique hw hw' (StopsAt.cons hcolon _) (StopsAt.cons hcolon _)
    (List.append_cancel_left h) with ⟨-, hvalue⟩
  injection hvalue with _ hvalue
  rcases run_unique hu hu' hg (visible_spelled.stopsAt_append hv p) hvalue with ⟨-, hvalue⟩
  exact ⟨v, hv, hvalue⟩

/-- No text of a value begins with a comma before a closing bracket. The
    induction goes from the bracket outwards, through the lists and objects
    that it lies in. -/
theorem TrailingComma.not_spelled {s : Octets} (h : TrailingComma s) :
    ∀ (x : Value) (v r q : Octets), x.Spelled v → s ++ r ≠ v ++ q := by
  have hlist : ∀ {xs : List Value}, ∀ x ∈ xs, Unambiguous Value.Spelled x :=
    fun {_} x _ => x.unambiguous
  have hobject : ∀ {ms : List (String × Value)}, ∀ m ∈ ms, Unambiguous memberSpelling m :=
    fun {_} m _ => clear_member m.2.unambiguous
  induction h with
  | @list x xs t ht =>
      intro y v r q hv heq
      rw [List.append_assoc] at heq
      rcases Value.list_of_append_eq hv heq with ⟨ys, t', ht', hrest⟩
      rcases pending_next visible_spelled (Or.inl rfl) (by decide) hlist ht ht'
        hrest with ⟨hnil, -, -⟩ | ⟨z, v', p, hz, hnext⟩
      · exact absurd hnil (List.cons_ne_nil x xs)
      · -- A further value would have to begin with the bracket.
        rcases visible_spelled z v' hz with ⟨b, v', rfl, -, hb⟩
        injection hnext with hnext
        exact hb (Or.inl hnext.symm)
  -- With braces for brackets, a further member would have to begin with the brace.
  | @object m ms t ht =>
      intro y v r q hv heq
      rw [List.append_assoc] at heq
      rcases Value.object_of_append_eq hv heq with ⟨ns, t', ht', hrest⟩
      rcases pending_next visible_member (Or.inr rfl) (by decide) hobject ht ht'
        hrest with ⟨hnil, -, -⟩ | ⟨z, v', p, hz, hnext⟩
      · exact absurd hnil (List.cons_ne_nil m ms)
      · rcases visible_member z v' hz with ⟨b, v', rfl, -, hb⟩
        injection hnext with hnext
        exact hb (Or.inr hnext.symm)
  | @inList xs t s ht hs ih =>
      intro y v r q hv heq
      -- The lost text stands where a value would, so it would begin one.
      rcases hs.opens with ⟨b, s', rfl, hb, hclosing⟩
      rw [List.append_assoc] at heq
      rcases Value.list_of_append_eq hv heq with ⟨ys, t', ht', hrest⟩
      rcases pending_next visible_spelled (Or.inl rfl) hb hlist ht ht' hrest
        with ⟨-, -, hb'⟩ | ⟨z, v', p, hz, hnext⟩
      · exact hclosing hb'
      · exact ih z v' r p hz hnext
  -- Here it stands behind the name of a member, so it would begin the value of one.
  | @inObject ms name t key w u s ht hkey hw hu hs ih =>
      intro y v r q hv heq
      rw [List.append_assoc] at heq
      rcases Value.object_of_append_eq hv heq with ⟨ns, t', ht', hrest⟩
      rcases hs.opens with ⟨b, s', rfl, hb, -⟩
      -- The name shows that the text goes on with a member and not with the brace.
      have hmember : ∃ body, key = 0x22 :: body := by
        rcases hkey with ⟨body, -, rfl⟩
        exact ⟨_, rfl⟩
      rcases hmember with ⟨body, rfl⟩
      rcases pending_next visible_member (Or.inr rfl) (by decide) hobject ht ht'
        hrest with ⟨-, -, hb'⟩ | ⟨z, m, p, hz, hnext⟩
      · exact absurd hb' (by decide)
      · have hcut : (0x22 :: body) ++ (w ++ 0x3A :: (u ++ (b :: s' ++ r))) = m ++ p := by
          have hwhole : 0x22 :: (body ++ (w ++ 0x3A :: (u ++ b :: s')) ++ r) = m ++ p := hnext
          rw [← hwhole]
          simp only [List.cons_append, List.append_assoc]
        rcases value_of_member hz hkey hw hu (StopsAt.cons hb _) hcut with ⟨v', hv', hvalue⟩
        exact ih z.2 v' r p hv' hvalue

/-- No document begins with one either, with white space in front. -/
theorem TrailingComma.not_padded {w s r : Octets} (hw : Blank w) (h : TrailingComma s)
    (x : Value) : ¬ Padded x.Spelled (w ++ (s ++ r)) := by
  rintro ⟨l, v, q, hl, hv, -, heq⟩
  rcases h.opens with ⟨b, s', hs, hb, -⟩
  rw [List.append_assoc] at heq
  have hstart : StopsAt BlankOctet (s ++ r) := by
    rw [hs]
    exact StopsAt.cons hb _
  rcases run_unique hw hl hstart (visible_spelled.stopsAt_append hv q) heq with ⟨-, hvalue⟩
  exact h.not_spelled x v r q hv hvalue

end Json

end StoragePolicy
