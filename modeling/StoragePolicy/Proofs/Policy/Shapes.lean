import StoragePolicy.Policy.Document
import StoragePolicy.Proofs.Json.Records

/-!
# The Shapes of Policy Documents

What a document may say to be a policy, stated on values and without a word on
how it is read. A statement is an object with exactly the two members of a
statement, in either order, or a list of their two values; a policy is an
object with exactly one member, or a list of one value, that holds statements.

The readers take exactly the spellings of these shapes. With the grammar of
values, this is the whole truth about the first pass: every freedom that a
writer has is in the grammar, and everything that is not in the shape, from a
missing member to a surplus one, is refused.

## Main definitions

* `texts`: A list of strings.
* `IsStatement`, `IsPolicy`: The shapes.
* `StatementText`, `PolicyText`: Their spellings, with white space around them.

## Theorems

* `statementReader_reads`, `policyReader_reads`: The readers take exactly the
  spellings of the shapes.
* `entire_statement_iff`, `entire_policy_iff`: So it is for entire documents.
-/

namespace StoragePolicy

open Text Json

variable {α β : Type}

/-- A list of strings. -/
def texts (ts : List String) : Value := .list (ts.map .string)

/-- What a statement may look like, given its words: an object with its members in
    either order, or the list of their values. -/
inductive IsStatement : RawStatement → Value → Prop where
  | effectFirst {effect : String} {tags : List String} :
      IsStatement ⟨effect, tags⟩ (.object [("Effect", .string effect), ("Action", texts tags)])
  | actionFirst {effect : String} {tags : List String} :
      IsStatement ⟨effect, tags⟩ (.object [("Action", texts tags), ("Effect", .string effect)])
  | bare {effect : String} {tags : List String} :
      IsStatement ⟨effect, tags⟩ (.list [.string effect, texts tags])

/-- What a policy may look like, given the words of its statements. -/
inductive IsPolicy : List RawStatement → Value → Prop where
  | named {W : List RawStatement} {xs : List Value} (h : List.Forall₂ IsStatement W xs) :
      IsPolicy W (.object [("GnfdStatement", .list xs)])
  | bare {W : List RawStatement} {xs : List Value} (h : List.Forall₂ IsStatement W xs) :
      IsPolicy W (.list [.list xs])

/-- The spellings of a statement that is alone in its document. -/
def StatementText (raw : RawStatement) : Spelling := fun s =>
  ∃ x, IsStatement raw x ∧ Padded x.Spelled s

/-- The spellings of a policy document. -/
def PolicyText (W : List RawStatement) : Spelling := fun s =>
  ∃ x, IsPolicy W x ∧ Padded x.Spelled s

namespace Json

theorem Reads.congr {read : Octets → Step α} {shape shape' : α → Value → Prop}
    (h : Reads read shape) (hshape : ∀ a x, shape a x ↔ shape' a x) : Reads read shape' := by
  have heq : shape = shape' := funext fun a => funext fun x => propext (hshape a x)
  rw [← heq]
  exact h

/-- A value that is put to use at once is read as before. -/
theorem Reads.map {reader : Reader α} {shape : α → Value → Prop} (h : Reads reader.read shape)
    (f : α → β) : Reads (reader.map f).read fun b x => ∃ a, b = f a ∧ shape a x := by
  intro s rest b
  constructor
  · intro hread
    rcases Step.map_eq_ok_iff.mp hread with ⟨a, ha, rfl⟩
    rcases (h _ _ _).mp ha with ⟨x, w, v, hx, hw, hv, rfl⟩
    exact ⟨x, w, v, ⟨a, rfl, hx⟩, hw, hv, rfl⟩
  · rintro ⟨x, w, v, ⟨a, rfl, hx⟩, hw, hv, rfl⟩
    exact Step.map_eq_ok_iff.mpr ⟨a, (h _ _ _).mpr ⟨x, w, v, hx, hw, hv, rfl⟩, rfl⟩

end Json

theorem isListOf_isString_iff {ts : List String} {x : Value} :
    IsListOf IsString ts x ↔ x = texts ts := by
  constructor
  · rintro ⟨xs, hxs, rfl⟩
    -- The shape of a string leaves no choice of the value.
    have hmap : xs = ts.map .string := by
      induction hxs with
      | nil => rfl
      | cons hx _ ih => rw [hx, ih, List.map_cons]
    rw [hmap, texts]
  · rintro rfl
    refine ⟨ts.map .string, ?_, rfl⟩
    rw [List.forall₂_map_right_iff, List.forall₂_same]
    exact fun t _ => rfl

theorem readTexts_reads : Reads Reader.string.listOf.read fun ts x => x = texts ts :=
  (readList_reads readString_reads).congr fun _ _ => isListOf_isString_iff

/-! ## Statements -/

/-- How a member brings the fields of a statement further. -/
inductive TakesStatement : StatementFields → String → Value → StatementFields → Prop where
  | effect {name : String} {tags : Option (List String)} (hname : name = "Effect")
      (word : String) : TakesStatement ⟨none, tags⟩ name (.string word) ⟨some word, tags⟩
  | action {name : String} {effect : Option String} (hname : name = "Action")
      (tags : List String) : TakesStatement ⟨effect, none⟩ name (texts tags) ⟨effect, some tags⟩

/-- What is handed out for the effect: a reader of strings, unless the field is
    filled. -/
theorem acceptStatement_effect (effect : Option String) (tags : Option (List String)) :
    acceptStatement ⟨effect, tags⟩ "Effect" =
      match effect with
      | some _ => .error (.duplicateField "Effect")
      | none => .ok (Reader.string.map fun effect => ⟨some effect, tags⟩) := rfl

theorem acceptStatement_action (effect : Option String) (tags : Option (List String)) :
    acceptStatement ⟨effect, tags⟩ "Action" =
      match tags with
      | some _ => .error (.duplicateField "Action")
      | none => .ok (Reader.string.listOf.map fun tags => ⟨effect, some tags⟩) := rfl

theorem acceptStatement_other {name : String} (heffect : name ≠ "Effect")
    (haction : name ≠ "Action") (fields : StatementFields) :
    acceptStatement fields name = .error (.unknownField name statementShape) := by
  rw [acceptStatement, if_neg heffect, if_neg haction]

theorem acceptStatement_accepts : Accepts acceptStatement TakesStatement where
  reads {fields name reader} h := by
    rcases fields with ⟨effect, tags⟩
    by_cases heffect : name = "Effect"
    · subst heffect
      rw [acceptStatement_effect] at h
      -- A field that is filled has no reader.
      cases effect with
      | some _ => injection h
      | none =>
          injection h with h
          subst h
          refine (readString_reads.map _).congr fun after x => ?_
          constructor
          · rintro ⟨word, rfl, rfl⟩
            exact TakesStatement.effect rfl word
          · intro hx
            cases hx with
            | effect _ word => exact ⟨word, rfl, rfl⟩
            | action hname => exact absurd hname (by decide)
    · by_cases haction : name = "Action"
      · subst haction
        rw [acceptStatement_action] at h
        cases tags with
        | some _ => injection h
        | none =>
            injection h with h
            subst h
            refine (readTexts_reads.map _).congr fun after x => ?_
            constructor
            · rintro ⟨tags, rfl, rfl⟩
              exact TakesStatement.action rfl tags
            · intro hx
              cases hx with
              | effect hname => exact absurd hname (by decide)
              | action _ tags => exact ⟨tags, rfl, rfl⟩
      · rw [acceptStatement_other heffect haction] at h
        injection h
  handed h := by
    cases h with
    | effect hname =>
        subst hname
        -- A member that brings the fields further finds its own field empty.
        exact ⟨_, acceptStatement_effect none _⟩
    | action hname =>
        subst hname
        exact ⟨_, acceptStatement_action _ none⟩

/-- The members that fill both fields of a statement. Once a field is filled,
    no further member can be taken in for it. -/
theorem takeAll_statement_iff {effect : String} {tags : List String}
    {ms : List (String × Value)} :
    TakeAll TakesStatement {} ms ⟨some effect, some tags⟩ ↔
      ms = [("Effect", .string effect), ("Action", texts tags)] ∨
      ms = [("Action", texts tags), ("Effect", .string effect)] := by
  constructor
  · intro h
    cases h with
    | cons h₁ h₂ =>
        cases h₁ with
        | effect hname =>
            subst hname
            cases h₂ with
            | cons h₂ h₃ =>
                -- The effect is filled, so the second member can only be the action.
                cases h₂ with
                | action hname =>
                    subst hname
                    cases h₃ with
                    | nil => exact Or.inl rfl
                    | cons h₃ => cases h₃
        | action hname =>
            subst hname
            cases h₂ with
            | cons h₂ h₃ =>
                cases h₂ with
                | effect hname =>
                    subst hname
                    cases h₃ with
                    | nil => exact Or.inr rfl
                    | cons h₃ => cases h₃
  · rintro (rfl | rfl)
    · exact .cons (.effect rfl effect) (.cons (.action rfl tags) .nil)
    · exact .cons (.action rfl tags) (.cons (.effect rfl effect) .nil)

/-- The two values of a statement, up to its closing bracket. -/
theorem statementOfList_iff {s rest : Octets} {raw : RawStatement} :
    statementOfList s = .ok (raw, rest) ↔
      ∃ xs t, xs = [.string raw.effect, texts raw.tags] ∧
        Separated (xs.map Value.Spelled) t ∧ s = t ++ 0x5D :: rest := by
  rw [statementOfList_eq_ok_iff]
  constructor
  · rintro ⟨r, r', heffect, htags, hclose⟩
    rcases (listField_first_iff readString_reads).mp heffect with ⟨x, l, v, rfl, hl, hv, rfl⟩
    rcases (listField_later_iff readTexts_reads).mp htags with
      ⟨y, w, u, v', rfl, hw, hu, hv', rfl⟩
    rcases closeList_eq_ok_iff_blank.mp hclose with ⟨q, hq, rfl⟩
    -- The readers of the two places and of the bracket share out one text.
    refine ⟨_, l ++ (v ++ (w ++ 0x2C :: (u ++ (v' ++ q)))), rfl,
      separated_cons_iff.mpr ⟨l, v, w, 0x2C :: (u ++ (v' ++ q)), hl, hv, hw,
        further_cons_iff.mpr ⟨u, v', q, [], hu, hv', hq, Further.nil, ?_⟩, rfl⟩, ?_⟩
    · rw [List.append_nil]
    · simp only [List.append_assoc, List.cons_append]
  · rintro ⟨xs, t, rfl, ht, rfl⟩
    -- The other way round, the text is cut where the readers will stop.
    rcases separated_cons_iff.mp ht with ⟨l, v, w, _, hl, hv, hw, hmore, rfl⟩
    rcases further_cons_iff.mp hmore with ⟨u, v', q, _, hu, hv', hq, hend, rfl⟩
    rw [further_nil_iff.mp hend]
    refine ⟨w ++ 0x2C :: (u ++ (v' ++ (q ++ 0x5D :: rest))), q ++ 0x5D :: rest,
      (listField_first_iff readString_reads).mpr ⟨_, l, v, rfl, hl, hv, ?_⟩,
      (listField_later_iff readTexts_reads).mpr ⟨_, w, u, v', rfl, hw, hu, hv', rfl⟩,
      closeList_eq_ok_iff_blank.mpr ⟨q, hq, rfl⟩⟩
    simp only [List.append_assoc, List.cons_append, List.append_nil]

/-- The members of a statement, up to its closing brace. -/
theorem statementOfObject_iff {s rest : Octets} {raw : RawStatement} :
    statementOfObject s = .ok (raw, rest) ↔
      ∃ ms t, TakeAll TakesStatement {} ms ⟨some raw.effect, some raw.tags⟩ ∧
        Separated (ms.map memberSpelling) t ∧ s = t ++ 0x7D :: rest := by
  rw [statementOfObject_eq_ok_iff]
  exact members_first_iff acceptStatement_accepts

/-- Exactly the spellings of statements are read as statements, in either of the two
    forms that a record may have. -/
theorem statementReader_reads : Reads statementReader.read IsStatement := by
  refine (readRecord_reads statementOfList_iff statementOfObject_iff).congr fun raw x => ?_
  constructor
  · rintro (⟨xs, rfl, rfl⟩ | ⟨ms, hms, rfl⟩)
    · exact IsStatement.bare
    · rcases takeAll_statement_iff.mp hms with rfl | rfl
      · exact IsStatement.effectFirst
      · exact IsStatement.actionFirst
  · intro h
    cases h with
    | bare => exact Or.inl ⟨_, rfl, rfl⟩
    | effectFirst => exact Or.inr ⟨_, takeAll_statement_iff.mpr (Or.inl rfl), rfl⟩
    | actionFirst => exact Or.inr ⟨_, takeAll_statement_iff.mpr (Or.inr rfl), rfl⟩

theorem entire_statement_iff {s : Octets} {raw : RawStatement} :
    entire statementReader s = .ok raw ↔ StatementText raw s :=
  entire_eq_ok_iff statementReader_reads

/-! ## Policies -/

/-- How a member brings a policy further. -/
inductive TakesPolicy :
    Option (List RawStatement) → String → Value → Option (List RawStatement) → Prop where
  | statements {name : String} {W : List RawStatement} {x : Value}
      (hname : name = "GnfdStatement") (hx : IsListOf IsStatement W x) :
      TakesPolicy none name x (some W)

theorem readStatements_reads :
    Reads statementReader.listOf.read (IsListOf IsStatement) := readList_reads statementReader_reads

theorem acceptPolicy_statements (statements : Option (List RawStatement)) :
    acceptPolicy statements "GnfdStatement" =
      match statements with
      | some _ => .error (.duplicateField "GnfdStatement")
      | none => .ok (statementReader.listOf.map some) := rfl

theorem acceptPolicy_other {name : String} (hname : name ≠ "GnfdStatement")
    (statements : Option (List RawStatement)) :
    acceptPolicy statements name = .error (.unknownField name policyShape) := if_neg hname

theorem acceptPolicy_accepts : Accepts acceptPolicy TakesPolicy where
  reads {fields name reader} h := by
    by_cases hname : name = "GnfdStatement"
    · subst hname
      rw [acceptPolicy_statements] at h
      -- A policy that has its statements takes in no more.
      cases fields with
      | some _ => injection h
      | none =>
          injection h with h
          subst h
          refine (readStatements_reads.map _).congr fun after x => ?_
          constructor
          · rintro ⟨W, rfl, hx⟩
            exact TakesPolicy.statements rfl hx
          · intro hx
            cases hx with
            | statements _ hx => exact ⟨_, rfl, hx⟩
    · rw [acceptPolicy_other hname] at h
      injection h
  handed h := by
    cases h with
    | statements hname =>
        subst hname
        exact ⟨_, acceptPolicy_statements none⟩

/-- The members that fill the one field of a policy. -/
theorem takeAll_policy_iff {W : List RawStatement} {ms : List (String × Value)} :
    TakeAll TakesPolicy none ms (some W) ↔
      ∃ x, IsListOf IsStatement W x ∧ ms = [("GnfdStatement", x)] := by
  constructor
  · intro h
    cases h with
    | cons h₁ h₂ =>
        cases h₁ with
        | statements hname hx =>
            subst hname
            cases h₂ with
            | nil => exact ⟨_, hx, rfl⟩
            | cons h₂ => cases h₂
  · rintro ⟨x, hx, rfl⟩
    exact .cons (.statements rfl hx) .nil

/-- The members of a policy, up to its closing brace. -/
theorem policyOfObject_iff {s rest : Octets} {W : List RawStatement} :
    policyOfObject s = .ok (W, rest) ↔
      ∃ ms t, TakeAll TakesPolicy none ms (some W) ∧
        Separated (ms.map memberSpelling) t ∧ s = t ++ 0x7D :: rest := by
  rw [policyOfObject_eq_ok_iff]
  exact members_first_iff acceptPolicy_accepts

/-- The one value of a policy, up to its closing bracket. -/
theorem policyOfList_iff {s rest : Octets} {W : List RawStatement} :
    policyOfList s = .ok (W, rest) ↔
      ∃ xs t, (∃ x, IsListOf IsStatement W x ∧ xs = [x]) ∧
        Separated (xs.map Value.Spelled) t ∧ s = t ++ 0x5D :: rest := by
  rw [policyOfList_eq_ok_iff]
  constructor
  · rintro ⟨r, hW, hclose⟩
    rcases (listField_first_iff readStatements_reads).mp hW with ⟨x, l, v, hx, hl, hv, rfl⟩
    rcases closeList_eq_ok_iff_blank.mp hclose with ⟨q, hq, rfl⟩
    refine ⟨_, l ++ (v ++ q), ⟨x, hx, rfl⟩,
      separated_cons_iff.mpr ⟨l, v, q, [], hl, hv, hq, Further.nil, ?_⟩, ?_⟩
    · rw [List.append_nil]
    · simp only [List.append_assoc]
  · rintro ⟨xs, t, ⟨x, hx, rfl⟩, ht, rfl⟩
    rcases separated_cons_iff.mp ht with ⟨l, v, q, _, hl, hv, hq, hend, rfl⟩
    rw [further_nil_iff.mp hend]
    refine ⟨q ++ 0x5D :: rest, (listField_first_iff readStatements_reads).mpr
      ⟨x, l, v, hx, hl, hv, ?_⟩, closeList_eq_ok_iff_blank.mpr ⟨q, hq, rfl⟩⟩
    simp only [List.append_assoc, List.append_nil]

/-- Exactly the spellings of policies are read as policies. Each of the statements may
    have its own form. -/
theorem policyReader_reads : Reads policyReader.read IsPolicy := by
  refine (readRecord_reads policyOfList_iff policyOfObject_iff).congr fun W x => ?_
  constructor
  · rintro (⟨xs, ⟨y, ⟨ys, hys, rfl⟩, rfl⟩, rfl⟩ | ⟨ms, hms, rfl⟩)
    · exact IsPolicy.bare hys
    · rcases takeAll_policy_iff.mp hms with ⟨y, ⟨ys, hys, rfl⟩, rfl⟩
      exact IsPolicy.named hys
  · intro h
    cases h with
    | bare hys => exact Or.inl ⟨_, ⟨_, ⟨_, hys, rfl⟩, rfl⟩, rfl⟩
    | named hys => exact Or.inr ⟨_, takeAll_policy_iff.mpr ⟨_, ⟨_, hys, rfl⟩, rfl⟩, rfl⟩

theorem entire_policy_iff {s : Octets} {W : List RawStatement} :
    entire policyReader s = .ok W ↔ PolicyText W s :=
  entire_eq_ok_iff policyReader_reads

end StoragePolicy
