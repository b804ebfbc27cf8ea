import StoragePolicy.Json.Printer
import StoragePolicy.Json.Reader
import StoragePolicy.Policy.Basic

/-!
# Policy Documents

The written form of policies and statements. Writing produces one canonical
spelling and only for values whose tags are all registered; a policy that fails
the check is not written at all. Reading accepts every spelling of the same
structure: members in any order, records as objects or as lists, any white
space, any escapes.

Reading is done in two passes that must not be mixed. The first takes the
document apart into raw statements, which are just the words that were
written; anything wrong with the shape of the document is found here, even
behind a word that would be refused later. The second checks the words, effect
before tags and statement after statement.

## Main definitions

* `RawStatement`: A statement as written.
* `statementShape`, `policyShape`: The records of a document.
* `statementReader`, `policyReader`: The first pass.
* `encodeStatement`, `encodePolicy`: Writing.
* `decodeStatement`, `decodePolicy`: Both passes of reading.
* `encodeTag`, `decodeTag`: A tag alone, which the registry has no say in.
-/

namespace StoragePolicy

open Text Json

/-- A statement as it is written, before any word of it is checked. It is what the
    first pass of a reader makes, and what the second judges. -/
structure RawStatement where
  effect : String
  tags : List String
  deriving DecidableEq

/-- The check of a statement's words. -/
def RawStatement.parse (raw : RawStatement) : Except Fault Statement :=
  Statement.parse raw.effect raw.tags

/-- The record of a statement. -/
def statementShape : Shape := ⟨"WireStatement", ["Effect", "Action"]⟩

/-- The record of a policy. -/
def policyShape : Shape := ⟨"WirePolicy", ["GnfdStatement"]⟩

/-- The fields of a statement met so far. -/
structure StatementFields where
  effect : Option String := none
  tags : Option (List String) := none

/-- A step whose value is put to use at once. -/
def Json.Step.map {α β : Type} (f : α → β) : Step α → Step β
  | .error e => .error e
  | .ok (a, rest) => .ok (f a, rest)

theorem Json.Step.map_eq_ok_iff {α β : Type} {f : α → β} {step : Step α} {b : β}
    {rest : Octets} : step.map f = .ok (b, rest) ↔ ∃ a, step = .ok (a, rest) ∧ f a = b := by
  rcases step with e | ⟨a, r⟩
  · simp only [Step.map, reduceCtorEq, false_and, exists_false]
  · simp only [Step.map, Except.ok.injEq, Prod.mk.injEq, and_assoc, exists_eq_left']
    exact and_comm

/-- A reader whose value is put to use at once. -/
def Json.Reader.map {α β : Type} (f : α → β) (reader : Reader α) : Reader β where
  read s := (reader.read s).map f
  shorter h := by
    rcases Step.map_eq_ok_iff.mp h with ⟨a, hread, -⟩
    exact reader.shorter hread

/-- How a statement takes in its members. -/
def acceptStatement : Accept StatementFields := fun fields name =>
  if name = "Effect" then
    match fields.effect with
    | some _ => .error (.duplicateField name)
    | none => .ok (Reader.string.map fun effect => { fields with effect := some effect })
  else if name = "Action" then
    match fields.tags with
    | some _ => .error (.duplicateField name)
    | none => .ok (Reader.string.listOf.map fun tags => { fields with tags := some tags })
  else .error (.unknownField name statementShape)

/-- A statement written as an object, after its opening brace. -/
def statementOfObject (s : Octets) : Step RawStatement :=
  match members acceptStatement true {} s with
  | .error e => .error e
  | .ok (fields, rest) =>
    match fields.effect with
    | none => .error (.missingField "Effect")
    | some effect =>
      match fields.tags with
      | none => .error (.missingField "Action")
      | some tags => .ok (⟨effect, tags⟩, rest)

/-- A statement written as a list, after its opening bracket. -/
def statementOfList (s : Octets) : Step RawStatement :=
  match listField statementShape 0 Reader.string s with
  | .error e => .error e
  | .ok (effect, rest) =>
    match listField statementShape 1 Reader.string.listOf rest with
    | .error e => .error e
    | .ok (tags, rest) =>
      match closeList rest with
      | .error e => .error e
      | .ok rest => .ok (⟨effect, tags⟩, rest)

/-- Both fields have to be filled when the object ends. -/
theorem statementOfObject_eq_ok_iff {s rest : Octets} {raw : RawStatement} :
    statementOfObject s = .ok (raw, rest) ↔
      members acceptStatement true {} s = .ok (⟨some raw.effect, some raw.tags⟩, rest) := by
  constructor
  · intro h
    cases hmembers : members acceptStatement true {} s with
    | error e => simp only [statementOfObject, hmembers, reduceCtorEq] at h
    | ok met =>
        rcases met with ⟨⟨effect, tags⟩, r⟩
        cases effect with
        | none => simp only [statementOfObject, hmembers, reduceCtorEq] at h
        | some effect =>
            cases tags with
            | none => simp only [statementOfObject, hmembers, reduceCtorEq] at h
            | some tags =>
                simp only [statementOfObject, hmembers, Except.ok.injEq, Prod.mk.injEq] at h
                rcases h with ⟨rfl, rfl⟩
                rfl
  · intro h
    simp only [statementOfObject, h]

/-- Both values have to be there, and nothing else up to the bracket. -/
theorem statementOfList_eq_ok_iff {s rest : Octets} {raw : RawStatement} :
    statementOfList s = .ok (raw, rest) ↔
      ∃ r r', listField statementShape 0 Reader.string s = .ok (raw.effect, r) ∧
        listField statementShape 1 Reader.string.listOf r = .ok (raw.tags, r') ∧
        closeList r' = .ok rest := by
  constructor
  · intro h
    cases heffect : listField statementShape 0 Reader.string s with
    | error e => simp only [statementOfList, heffect, reduceCtorEq] at h
    | ok first =>
        rcases first with ⟨effect, r⟩
        cases htags : listField statementShape 1 Reader.string.listOf r with
        | error e => simp only [statementOfList, heffect, htags, reduceCtorEq] at h
        | ok second =>
            rcases second with ⟨tags, r'⟩
            cases hclose : closeList r' with
            | error e => simp only [statementOfList, heffect, htags, hclose, reduceCtorEq] at h
            | ok r'' =>
                simp only [statementOfList, heffect, htags, hclose, Except.ok.injEq,
                  Prod.mk.injEq] at h
                rcases h with ⟨rfl, rfl⟩
                exact ⟨r, r', rfl, htags, hclose⟩
  · rintro ⟨r, r', heffect, htags, hclose⟩
    simp only [statementOfList, heffect, htags, hclose]

theorem statementOfObject_length {s rest : Octets} {raw : RawStatement}
    (h : statementOfObject s = .ok (raw, rest)) : rest.length ≤ s.length :=
  Nat.le_of_lt (members_length (statementOfObject_eq_ok_iff.mp h))

theorem statementOfList_length {s rest : Octets} {raw : RawStatement}
    (h : statementOfList s = .ok (raw, rest)) : rest.length ≤ s.length := by
  rcases statementOfList_eq_ok_iff.mp h with ⟨r, r', heffect, htags, hclose⟩
  exact Nat.le_of_lt (Nat.lt_trans (closeList_length hclose)
    (Nat.lt_trans (listField_length htags) (listField_length heffect)))

/-- Reads a statement in either spelling. -/
def statementReader : Reader RawStatement where
  read := readRecord statementShape statementOfList statementOfObject
  shorter := readRecord_length statementOfList_length statementOfObject_length

/-- How a policy takes in its members. -/
def acceptPolicy : Accept (Option (List RawStatement)) := fun statements name =>
  if name = "GnfdStatement" then
    match statements with
    | some _ => .error (.duplicateField name)
    | none => .ok (statementReader.listOf.map some)
  else .error (.unknownField name policyShape)

/-- A policy written as an object, after its opening brace. -/
def policyOfObject (s : Octets) : Step (List RawStatement) :=
  match members acceptPolicy true none s with
  | .error e => .error e
  | .ok (none, _) => .error (.missingField "GnfdStatement")
  | .ok (some statements, rest) => .ok (statements, rest)

/-- A policy written as a list, after its opening bracket. -/
def policyOfList (s : Octets) : Step (List RawStatement) :=
  match listField policyShape 0 statementReader.listOf s with
  | .error e => .error e
  | .ok (statements, rest) =>
    match closeList rest with
    | .error e => .error e
    | .ok rest => .ok (statements, rest)

theorem policyOfObject_eq_ok_iff {s rest : Octets} {W : List RawStatement} :
    policyOfObject s = .ok (W, rest) ↔ members acceptPolicy true none s = .ok (some W, rest) := by
  constructor
  · intro h
    rcases hmembers : members acceptPolicy true none s with e | ⟨_ | W', r⟩
    · simp only [policyOfObject, hmembers, reduceCtorEq] at h
    · simp only [policyOfObject, hmembers, reduceCtorEq] at h
    · simp only [policyOfObject, hmembers, Except.ok.injEq, Prod.mk.injEq] at h
      rw [h.1, h.2]
  · intro h
    simp only [policyOfObject, h]

theorem policyOfList_eq_ok_iff {s rest : Octets} {W : List RawStatement} :
    policyOfList s = .ok (W, rest) ↔
      ∃ r, listField policyShape 0 statementReader.listOf s = .ok (W, r) ∧
        closeList r = .ok rest := by
  constructor
  · intro h
    cases hW : listField policyShape 0 statementReader.listOf s with
    | error e => simp only [policyOfList, hW, reduceCtorEq] at h
    | ok first =>
        rcases first with ⟨W', r⟩
        cases hclose : closeList r with
        | error e => simp only [policyOfList, hW, hclose, reduceCtorEq] at h
        | ok r' =>
            simp only [policyOfList, hW, hclose, Except.ok.injEq, Prod.mk.injEq] at h
            rcases h with ⟨rfl, rfl⟩
            exact ⟨r, rfl, hclose⟩
  · rintro ⟨r, hW, hclose⟩
    simp only [policyOfList, hW, hclose]

theorem policyOfObject_length {s rest : Octets} {W : List RawStatement}
    (h : policyOfObject s = .ok (W, rest)) : rest.length ≤ s.length :=
  Nat.le_of_lt (members_length (policyOfObject_eq_ok_iff.mp h))

theorem policyOfList_length {s rest : Octets} {W : List RawStatement}
    (h : policyOfList s = .ok (W, rest)) : rest.length ≤ s.length := by
  rcases policyOfList_eq_ok_iff.mp h with ⟨r, hW, hclose⟩
  exact Nat.le_of_lt (Nat.lt_trans (closeList_length hclose) (listField_length hW))

/-- Reads a policy in either spelling. -/
def policyReader : Reader (List RawStatement) where
  read := readRecord policyShape policyOfList policyOfObject
  shorter := readRecord_length policyOfList_length policyOfObject_length

/-- The canonical spelling of a statement, whatever its tags. -/
def writeStatement (s : Statement) : Octets :=
  object [member "Effect" (quoted s.effect.text), member "Action" (list (s.tags.map quoted))]

/-- The canonical spelling of a policy, whatever its tags. -/
def writePolicy (p : Policy) : Octets :=
  object [member "GnfdStatement" (list (p.statements.map writeStatement))]

/-- Writes a statement whose tags are all registered. -/
def encodeStatement (s : Statement) : Except Fault Octets := do
  s.check
  return writeStatement s

/-- Writes a policy whose tags are all registered. -/
def encodePolicy (p : Policy) : Except Fault Octets := do
  p.check
  return writePolicy p

/-- Reads a statement that is alone in its document. -/
def decodeStatement (s : Octets) : Except Fault Statement :=
  match entire statementReader s with
  | .error cause => .error (.badDocument .statement cause)
  | .ok raw => raw.parse

/-- Reads a policy document. The whole document is read before the first word is
    judged, so a bad shape is reported in preference to a bad word. -/
def decodePolicy (s : Octets) : Except Fault Policy :=
  match entire policyReader s with
  | .error cause => .error (.badDocument .policy cause)
  | .ok raw => do return { statements := ← raw.mapM RawStatement.parse }

/-- The written form of a tag alone, registered or not. -/
def encodeTag (tag : String) : Octets := quoted tag

/-- Reads a tag that is alone in its document, registered or not. -/
def decodeTag (s : Octets) : Except Json.Fault String := entire Reader.string s

end StoragePolicy
