import StoragePolicy.Proofs.Json.Reading

/-!
# Reading Records

A record may be written as an object or as a list, and the readers of both
spellings are loops that were not made for any record in particular. Here they
are held against the grammar once for all records.

For an object, what a record contributes is a relation: taking a member of a
name and a value in leads from the fields so far to new ones. `Accepts` ties
that relation to the readers that the record hands out, and `TakeAll` carries
it over all members in the order of the document. Which lists of members a
record accepts is thereby a question about `TakeAll`, with no octets left in
it.

## Main definitions

* `Accepts`: What taking in one member does to the fields.
* `TakeAll`: What taking in all members does.
* `IsRecordOf`: The shape of a record.

## Theorems

* `members_first_iff`: The members of an object are read exactly.
* `listField_first_iff`, `listField_later_iff`: So are the values of a list.
* `readRecord_reads`: A record is read exactly if both of its spellings are.
* `entire_eq_ok_iff`: An entire document is a value and white space.
-/

namespace StoragePolicy

namespace Json

open Text

variable {α σ : Type}

/-- The readers that a record hands out take in members as `take` says:
    from fields, a name and a value to new fields. -/
structure Accepts (accept : Accept σ) (take : σ → String → Value → σ → Prop) : Prop where
  /-- A reader handed out for a name takes exactly the values for it. -/
  reads : ∀ {fields : σ} {name : String} {reader : Reader σ},
    accept fields name = .ok reader → Reads reader.read fun after x => take fields name x after
  /-- A name that can be taken in is handed a reader. -/
  handed : ∀ {fields after : σ} {name : String} {x : Value},
    take fields name x after → ∃ reader, accept fields name = .ok reader

/-- Taking in all members of an object, one after the other. A member that cannot be
    taken in ends it, and the object is then none of the shape. -/
inductive TakeAll (take : σ → String → Value → σ → Prop) :
    σ → List (String × Value) → σ → Prop where
  | nil {fields : σ} : TakeAll take fields [] fields
  | cons {fields mid after : σ} {name : String} {x : Value} {ms : List (String × Value)}
      (h : take fields name x mid) (hs : TakeAll take mid ms after) :
      TakeAll take fields ((name, x) :: ms) after

/-- A colon may have white space in front; what stands behind it is for the reader
    of the value. -/
theorem colon_eq_ok_iff_blank {s rest : Octets} :
    colon s = .ok rest ↔ ∃ w, Blank w ∧ s = w ++ 0x3A :: rest :=
  colon_eq_ok_iff.trans (skipBlank_eq_visible_iff (by decide))

theorem closeList_eq_ok_iff_blank {s rest : Octets} :
    closeList s = .ok rest ↔ ∃ w, Blank w ∧ s = w ++ 0x5D :: rest :=
  closeList_eq_ok_iff.trans (skipBlank_eq_visible_iff (by decide))

/-! ## Members of an object -/

theorem nextMember_eq_done_iff {first : Bool} {s rest : Octets} :
    nextMember first s = .ok (.done rest) ↔ ∃ w, Blank w ∧ s = w ++ 0x7D :: rest := by
  rw [nextMember_eq_ok_iff, ← skipBlank_eq_visible_iff (by decide)]
  constructor
  · rintro ⟨hskip⟩
    exact hskip
  · exact .done

theorem nextMember_first_iff {s r : Octets} :
    nextMember true s = .ok (.more r) ↔ ∃ w, Blank w ∧ s = w ++ 0x22 :: r := by
  rw [nextMember_eq_ok_iff, ← skipBlank_eq_visible_iff (by decide)]
  constructor
  · intro h
    cases h with
    | opened hskip => exact hskip
  · exact .opened

theorem nextMember_later_iff {s r : Octets} :
    nextMember false s = .ok (.more r) ↔
      ∃ w u, Blank w ∧ Blank u ∧ s = w ++ 0x2C :: (u ++ 0x22 :: r) := by
  rw [nextMember_eq_ok_iff]
  constructor
  · intro h
    cases h with
    | behind hcomma hskip =>
        rcases skipBlank_eq_cons_iff.mp hcomma with ⟨-, w, hw, rfl⟩
        rcases skipBlank_eq_cons_iff.mp hskip with ⟨-, u, hu, rfl⟩
        exact ⟨w, u, hw, hu, rfl⟩
  · rintro ⟨w, u, hw, hu, rfl⟩
    exact .behind ((skipBlank_eq_visible_iff (by decide)).mpr ⟨w, hw, rfl⟩)
      ((skipBlank_eq_visible_iff (by decide)).mpr ⟨u, hu, rfl⟩)

/-- From the quote of its name on, exactly the spellings of members are read. -/
theorem memberStep_iff {accept : Accept σ} {take : σ → String → Value → σ → Prop}
    (haccept : Accepts accept take) {fields mid : σ} {name : String} {r rest : Octets} :
    memberStep accept fields r name mid rest ↔
      ∃ x m, take fields name x mid ∧ memberSpelling (name, x) m ∧ 0x22 :: r = m ++ rest := by
  constructor
  · rintro ⟨r₁, reader, r₂, htext, hreader, hcolon, hread⟩
    rcases text_eq_ok_iff.mp htext with ⟨body, hbody, rfl⟩
    rcases colon_eq_ok_iff_blank.mp hcolon with ⟨w, hw, rfl⟩
    rcases (haccept.reads hreader _ _ _).mp hread with ⟨x, u, v, hx, hu, hv, rfl⟩
    refine ⟨x, 0x22 :: body ++ [0x22] ++ w ++ 0x3A :: u ++ v, hx,
      ⟨_, w, u, v, ⟨body, hbody, rfl⟩, hw, hu, hv, rfl⟩, ?_⟩
    simp only [List.cons_append, List.append_assoc, List.nil_append]
  · rintro ⟨x, m, hx, ⟨key, w, u, v, ⟨body, hbody, rfl⟩, hw, hu, hv, rfl⟩, hr⟩
    simp only [List.cons_append, List.append_assoc, List.nil_append, List.cons.injEq,
      true_and] at hr
    subst hr
    -- A name that can be taken in has a reader, whatever the value behind it.
    rcases haccept.handed hx with ⟨reader, hreader⟩
    exact ⟨w ++ 0x3A :: (u ++ (v ++ rest)), reader, u ++ (v ++ rest),
      text_eq_ok_iff.mpr ⟨body, hbody, rfl⟩, hreader, colon_eq_ok_iff_blank.mpr ⟨w, hw, rfl⟩,
      (haccept.reads hreader _ _ _).mpr ⟨x, u, v, hx, hu, hv, rfl⟩⟩

/-- The first member of an object is found and read in one step. -/
theorem member_first_iff {accept : Accept σ} {take : σ → String → Value → σ → Prop}
    (haccept : Accepts accept take) {fields mid : σ} {name : String} {s rest : Octets} :
    (∃ r, nextMember true s = .ok (.more r) ∧ memberStep accept fields r name mid rest) ↔
      ∃ x w m, take fields name x mid ∧ Blank w ∧ memberSpelling (name, x) m ∧
        s = w ++ (m ++ rest) := by
  constructor
  · rintro ⟨r, hnext, hstep⟩
    rcases nextMember_first_iff.mp hnext with ⟨w, hw, rfl⟩
    rcases (memberStep_iff haccept).mp hstep with ⟨x, m, hx, hm, hr⟩
    exact ⟨x, w, m, hx, hw, hm, by rw [hr]⟩
  · rintro ⟨x, w, m, hx, hw, hm, rfl⟩
    rcases hm.opens with ⟨m', rfl⟩
    exact ⟨m' ++ rest, nextMember_first_iff.mpr ⟨w, hw, rfl⟩,
      (memberStep_iff haccept).mpr ⟨x, 0x22 :: m', hx, hm, rfl⟩⟩

/-- A member behind a comma is found and read in one step, as the first one is. -/
theorem member_later_iff {accept : Accept σ} {take : σ → String → Value → σ → Prop}
    (haccept : Accepts accept take) {fields mid : σ} {name : String} {s rest : Octets} :
    (∃ r, nextMember false s = .ok (.more r) ∧ memberStep accept fields r name mid rest) ↔
      ∃ x w u m, take fields name x mid ∧ Blank w ∧ Blank u ∧ memberSpelling (name, x) m ∧
        s = w ++ 0x2C :: (u ++ (m ++ rest)) := by
  constructor
  · rintro ⟨r, hnext, hstep⟩
    rcases nextMember_later_iff.mp hnext with ⟨w, u, hw, hu, rfl⟩
    rcases (memberStep_iff haccept).mp hstep with ⟨x, m, hx, hm, hr⟩
    exact ⟨x, w, u, m, hx, hw, hu, hm, by rw [hr]⟩
  · rintro ⟨x, w, u, m, hx, hw, hu, hm, rfl⟩
    rcases hm.opens with ⟨m', rfl⟩
    exact ⟨m' ++ rest, nextMember_later_iff.mpr ⟨w, u, hw, hu, rfl⟩,
      (memberStep_iff haccept).mpr ⟨x, 0x22 :: m', hx, hm, rfl⟩⟩

/-- Members behind the first one are members of the grammar. The induction is
    on what is left of the document, which every member shortens. -/
theorem members_later_sound {accept : Accept σ} {take : σ → String → Value → σ → Prop}
    (haccept : Accepts accept take) (n : Nat) :
    ∀ (fields after : σ) (s rest : Octets), s.length = n →
      members accept false fields s = .ok (after, rest) →
      ∃ ms w t, TakeAll take fields ms after ∧ Blank w ∧ Further (ms.map memberSpelling) t ∧
        s = w ++ (t ++ 0x7D :: rest) := by
  induction n using Nat.strong_induction_on with
  | _ n ih =>
    intro fields after s rest hn h
    rcases members_eq_ok_iff.mp h with ⟨rfl, hdone⟩ | ⟨name, mid, t, hstep, hmore⟩
    · rcases nextMember_eq_done_iff.mp hdone with ⟨w, hw, rfl⟩
      exact ⟨[], w, [], TakeAll.nil, hw, Further.nil, rfl⟩
    · rcases (member_later_iff haccept).mp hstep with ⟨x, w, u, m, hx, hw, hu, hm, rfl⟩
      -- At least the comma was taken.
      have hlt : t.length < n := by
        rw [← hn]
        simp only [List.length_append, List.length_cons]
        omega
      rcases ih t.length hlt mid after t rest rfl hmore with ⟨ms, w', t', hms, hw', ht', rfl⟩
      refine ⟨(name, x) :: ms, w, 0x2C :: (u ++ (m ++ (w' ++ t'))), TakeAll.cons hx hms, hw,
        further_cons_iff.mpr ⟨u, m, w', t', hu, hm, hw', ht', rfl⟩, ?_⟩
      simp only [List.cons_append, List.append_assoc]

/-- Members of the grammar are taken behind the first one. Here the induction is
    on the members, which are known, and not on the octets. -/
theorem members_later_complete {accept : Accept σ} {take : σ → String → Value → σ → Prop}
    (haccept : Accepts accept take) {fields after : σ} {ms : List (String × Value)}
    (hms : TakeAll take fields ms after) {w t : Octets} (hw : Blank w)
    (ht : Further (ms.map memberSpelling) t) (rest : Octets) :
    members accept false fields (w ++ (t ++ 0x7D :: rest)) = .ok (after, rest) := by
  induction hms generalizing w t with
  | nil =>
      rw [List.map_nil, further_nil_iff] at ht
      subst ht
      exact members_eq_ok_iff.mpr (Or.inl ⟨rfl, nextMember_eq_done_iff.mpr ⟨w, hw, rfl⟩⟩)
  | @cons fields mid after name x ms hx _ ih =>
      rcases further_cons_iff.mp ht with ⟨l, m, u, t, hl, hm, hu, hmore, rfl⟩
      refine members_eq_ok_iff.mpr (Or.inr ⟨name, mid, u ++ (t ++ 0x7D :: rest), ?_, ih hu hmore⟩)
      refine (member_later_iff haccept).mpr ⟨x, w, l, m, hx, hw, hl, hm, ?_⟩
      simp only [List.cons_append, List.append_assoc]

/-- The members of an object behind its opening brace are read exactly if they can be
    taken in, one after the other, up to the closing one. -/
theorem members_first_iff {accept : Accept σ} {take : σ → String → Value → σ → Prop}
    (haccept : Accepts accept take) {fields after : σ} {s rest : Octets} :
    members accept true fields s = .ok (after, rest) ↔
      ∃ ms t, TakeAll take fields ms after ∧ Separated (ms.map memberSpelling) t ∧
        s = t ++ 0x7D :: rest := by
  rw [members_eq_ok_iff, nextMember_eq_done_iff]
  constructor
  · rintro (⟨rfl, w, hw, rfl⟩ | ⟨name, mid, t, hstep, hmore⟩)
    · exact ⟨[], w, TakeAll.nil, Separated.none hw, rfl⟩
    · -- The first member has no comma in front of it.
      rcases (member_first_iff haccept).mp hstep with ⟨x, l, m, hx, hl, hm, rfl⟩
      rcases members_later_sound haccept _ _ _ _ _ rfl hmore with ⟨ms, u, t', hms, hu, ht', rfl⟩
      refine ⟨(name, x) :: ms, l ++ (m ++ (u ++ t')), TakeAll.cons hx hms,
        separated_cons_iff.mpr ⟨l, m, u, t', hl, hm, hu, ht', rfl⟩, ?_⟩
      simp only [List.append_assoc]
  · rintro ⟨ms, t, hms, ht, rfl⟩
    cases hms with
    | nil => exact Or.inl ⟨rfl, t, separated_nil_iff.mp ht, rfl⟩
    | @cons _ mid _ name x ms hx hms =>
        rcases separated_cons_iff.mp ht with ⟨l, m, u, t, hl, hm, hu, hmore, rfl⟩
        refine Or.inr ⟨name, mid, u ++ (t ++ 0x7D :: rest), ?_,
          members_later_complete haccept hms hu hmore rest⟩
        refine (member_first_iff haccept).mpr ⟨x, l, m, hx, hl, hm, ?_⟩
        simp only [List.append_assoc]

/-! ## Values of a record written as a list -/

/-- The value at the first place of a list, where no comma stands in front. -/
theorem listField_first_iff {shape : Shape} {field : Reader α} {P : α → Value → Prop}
    (hfield : Reads field.read P) {s rest : Octets} {a : α} :
    listField shape 0 field s = .ok (a, rest) ↔
      ∃ x l v, P a x ∧ Blank l ∧ x.Spelled v ∧ s = l ++ (v ++ rest) := by
  rw [listField_eq_ok_iff]
  exact item_first_iff hfield

/-- The value at any other place of a list, with the comma in front that every
    later place needs. -/
theorem listField_later_iff {shape : Shape} {place : Nat} {field : Reader α}
    {P : α → Value → Prop} (hfield : Reads field.read P) {s rest : Octets} {a : α} :
    listField shape (place + 1) field s = .ok (a, rest) ↔
      ∃ x w l v, P a x ∧ Blank w ∧ Blank l ∧ x.Spelled v ∧ s = w ++ 0x2C :: (l ++ (v ++ rest)) := by
  rw [listField_eq_ok_iff]
  exact item_later_iff hfield

/-! ## Records -/

/-- The shape of a record, given what it may be as a list and as an object. -/
def IsRecordOf (asList : α → List Value → Prop) (asObject : α → List (String × Value) → Prop)
    (a : α) (x : Value) : Prop :=
  (∃ xs, asList a xs ∧ x = .list xs) ∨ ∃ ms, asObject a ms ∧ x = .object ms

/-- A record is read exactly if its two spellings are, behind their opening
    octets. -/
theorem readRecord_reads {shape : Shape} {ofList ofObject : Octets → Step α}
    {asList : α → List Value → Prop} {asObject : α → List (String × Value) → Prop}
    (hlist : ∀ {s rest : Octets} {a : α}, ofList s = .ok (a, rest) ↔
      ∃ xs t, asList a xs ∧ Separated (xs.map Value.Spelled) t ∧ s = t ++ 0x5D :: rest)
    (hobject : ∀ {s rest : Octets} {a : α}, ofObject s = .ok (a, rest) ↔
      ∃ ms t, asObject a ms ∧ Separated (ms.map memberSpelling) t ∧ s = t ++ 0x7D :: rest) :
    Reads (readRecord shape ofList ofObject) (IsRecordOf asList asObject) := by
  -- The opening octet decides which spelling is read, on either side.
  intro s rest a
  rw [readRecord_eq_ok_iff]
  constructor
  · rintro (⟨r, hskip, h⟩ | ⟨r, hskip, h⟩)
    · rcases (skipBlank_eq_visible_iff (by decide)).mp hskip with ⟨w, hw, rfl⟩
      rcases hlist.mp h with ⟨xs, t, hxs, ht, rfl⟩
      refine ⟨.list xs, w, 0x5B :: t ++ [0x5D], Or.inl ⟨xs, hxs, rfl⟩, hw, ?_, ?_⟩
      · rw [Value.spelled_list]
        exact ⟨t, ht, rfl⟩
      · rw [List.append_assoc]
        rfl
    · rcases (skipBlank_eq_visible_iff (by decide)).mp hskip with ⟨w, hw, rfl⟩
      rcases hobject.mp h with ⟨ms, t, hms, ht, rfl⟩
      refine ⟨.object ms, w, 0x7B :: t ++ [0x7D], Or.inr ⟨ms, hms, rfl⟩, hw, ?_, ?_⟩
      · rw [Value.spelled_object]
        exact ⟨t, ht, rfl⟩
      · rw [List.append_assoc]
        rfl
  · rintro ⟨x, w, v, ⟨xs, hxs, rfl⟩ | ⟨ms, hms, rfl⟩, hw, hv, rfl⟩
    · rw [Value.spelled_list] at hv
      rcases hv with ⟨t, ht, rfl⟩
      refine Or.inl ⟨t ++ 0x5D :: rest, ?_, hlist.mpr ⟨xs, t, hxs, ht, rfl⟩⟩
      rw [skipBlank_append hw, List.append_assoc, List.cons_append, skipBlank_cons (by decide)]
      rfl
    · rw [Value.spelled_object] at hv
      rcases hv with ⟨t, ht, rfl⟩
      refine Or.inr ⟨t ++ 0x7D :: rest, ?_, hobject.mpr ⟨ms, t, hms, ht, rfl⟩⟩
      rw [skipBlank_append hw, List.append_assoc, List.cons_append, skipBlank_cons (by decide)]
      rfl

/-- An entire document is a value of the shape and white space. Anything else behind
    the value makes it another text. -/
theorem entire_eq_ok_iff {reader : Reader α} {shape : α → Value → Prop}
    (hreader : Reads reader.read shape) {s : Octets} {a : α} :
    entire reader s = .ok a ↔ ∃ x, shape a x ∧ Padded x.Spelled s := by
  constructor
  · intro h
    cases hread : reader.read s with
    | error e => simp only [entire, hread, reduceCtorEq] at h
    | ok taken =>
        rcases taken with ⟨a', rest⟩
        rcases (hreader _ _ _).mp hread with ⟨x, w, v, hx, hw, hv, rfl⟩
        -- The reader stops behind the value; the rest has to be white space.
        cases hrest : skipBlank rest with
        | nil =>
            simp only [entire, hread, hrest, Except.ok.injEq] at h
            subst h
            refine ⟨x, hx, w, v, rest, hw, hv, skipBlank_eq_nil_iff.mp hrest, ?_⟩
            rw [List.append_assoc]
        | cons b r => simp only [entire, hread, hrest, reduceCtorEq] at h
  · rintro ⟨x, hx, l, v, r, hl, hv, hr, rfl⟩
    have hread : reader.read (l ++ v ++ r) = .ok (a, r) :=
      (hreader _ _ _).mpr ⟨x, l, v, hx, hl, hv, by rw [List.append_assoc]⟩
    simp only [entire, hread, skipBlank_eq_nil_iff.mpr hr]

/-- An entire document is no longer one with more than white space behind. -/
theorem entire_append_eq_error {reader : Reader α} {shape : α → Value → Prop}
    (hreader : Reads reader.read shape) {s t : Octets} {a : α} (hs : entire reader s = .ok a)
    (ht : ¬ Blank t) : entire reader (s ++ t) = .error .trailingCharacters := by
  rcases (entire_eq_ok_iff hreader).mp hs with ⟨x, hx, l, v, r, hl, hv, hr, rfl⟩
  have hread : reader.read (l ++ v ++ r ++ t) = .ok (a, r ++ t) :=
    (hreader _ _ _).mpr ⟨x, l, v, hx, hl, hv, by simp only [List.append_assoc]⟩
  have hrest : skipBlank (r ++ t) ≠ [] := by
    rw [skipBlank_append hr]
    exact fun h => ht (skipBlank_eq_nil_iff.mp h)
  cases hskip : skipBlank (r ++ t) with
  | nil => exact absurd hskip hrest
  | cons b q => simp only [entire, hread, hskip]

end Json

end StoragePolicy
