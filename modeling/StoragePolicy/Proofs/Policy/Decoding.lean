import StoragePolicy.Proofs.Json.Canonical
import StoragePolicy.Proofs.Json.TrailingComma
import StoragePolicy.Proofs.Policy.Shapes
import StoragePolicy.Proofs.Policy.Words

/-!
# Decoding

What becomes of any run of octets that is decoded. The two passes of reading
divide the question: the first asks only for the shape, so octets that are no
text of the shape are malformed whatever words stand in them, and the second
asks only for the words, so a text of the shape is judged like words that were
never written down.

Both documents that can be decoded follow this pattern, and `TwoPass` is what
they have in common. How strict decoding is follows from it once for both.

## Main definitions

* `Malformed`: A request is refused as malformed.
* `TwoPass`: First the shape, then the words.
* `Strict`: What can be said of octets that are not refused as malformed.

## Theorems

* `decodeStatement_twoPass`, `decodePolicy_twoPass`: Decoding is of two passes.
* `TwoPass.strict`: Reading in two passes is strict.
* `decode_eq_build`: Decoding a text and building a draft are the same gate.
* `decode_strict`: Only texts of the shape are not malformed.
-/

namespace StoragePolicy

open Text Json

variable {α β : Type}

/-- A request is refused as malformed. Which of the many causes it was is left open:
    no statement on what is refused depends on it. -/
def Malformed (result : Except Fault α) : Prop :=
  ∃ f, result = .error f ∧ f.code = .malformedInput

instance (result : Except Fault α) : Decidable (Malformed result) :=
  match result with
  | .ok _ => isFalse fun ⟨_, h, _⟩ => nomatch h
  | .error f => decidable_of_iff (f.code = .malformedInput)
      ⟨fun h => ⟨f, rfl, h⟩, fun ⟨_, h, hcode⟩ => Except.error.inj h ▸ hcode⟩

/-- A decoder reads the shape of an entire document first, and only then looks
    at its words. -/
structure TwoPass (decode : Octets → Except Fault α) (reader : Reader β)
    (shape : β → Value → Prop) (ofWords : β → Except Fault α) : Prop where
  /-- The first pass takes exactly the spellings of the shape. -/
  reads : Reads reader.read shape
  /-- What it returns is handed to the second pass. -/
  second : ∀ {s : Octets} {words : β}, entire reader s = .ok words → decode s = ofWords words
  /-- What it refuses is malformed. -/
  first : ∀ {s : Octets} {cause : Json.Fault},
    entire reader s = .error cause → Malformed (decode s)
  /-- What the second pass refuses is not. -/
  codes : ∀ {words : β} {f : Fault},
    ofWords words = .error f → f.code = .invalidEffect ∨ f.code = .invalidAction

theorem decodeStatement_twoPass :
    TwoPass decodeStatement statementReader IsStatement RawStatement.parse where
  reads := statementReader_reads
  second {s raw} h := by rw [decodeStatement, h]
  first {s cause} h := ⟨.badDocument .statement cause, by rw [decodeStatement, h], rfl⟩
  codes {raw f} h := RawStatement.code_of_refusal? ((raw.judged_parse.refused f).mp h)

/-- A policy is read in two passes: all of its statements are read before the first
    word of any is judged. -/
theorem decodePolicy_twoPass :
    TwoPass decodePolicy policyReader IsPolicy Policy.ofWords where
  reads := policyReader_reads
  second {s W} h := by
    rw [decodePolicy, h]
    rfl
  first {s cause} h := ⟨.badDocument .policy cause, by rw [decodePolicy, h], rfl⟩
  codes {W f} h := by
    rcases List.exists_of_findSome?_eq_some (((Policy.judged_ofWords W).refused f).mp h) with
      ⟨raw, -, hraw⟩
    exact RawStatement.code_of_refusal? hraw

/-- Values are read from exactly the texts with their words, if all of their
    tags are registered. -/
theorem TwoPass.eq_ok_iff {decode : Octets → Except Fault α} {reader : Reader β}
    {shape : β → Value → Prop} {ofWords : β → Except Fault α}
    (h : TwoPass decode reader shape ofWords) {raw : α → β} {registered : α → Prop}
    {refusal : β → Option Fault}
    (hjudged : ∀ words, Judged raw registered words (refusal words) (ofWords words))
    {s : Octets} {a : α} :
    decode s = .ok a ↔ (∃ x, shape (raw a) x ∧ Padded x.Spelled s) ∧ registered a := by
  rw [← entire_eq_ok_iff h.reads]
  constructor
  · intro ha
    cases hentire : entire reader s with
    | error cause =>
        -- What the first pass refuses is not read at all.
        rcases h.first hentire with ⟨f, hf, -⟩
        rw [ha] at hf
        injection hf
    | ok words =>
        rw [h.second hentire] at ha
        rcases ((hjudged words).accepted a).mp ha with ⟨rfl, hregistered⟩
        exact ⟨rfl, hregistered⟩
  · rintro ⟨hentire, hregistered⟩
    rw [h.second hentire]
    exact ((hjudged (raw a)).accepted a).mpr ⟨rfl, hregistered⟩

/-! ## Strictness -/

/-- What can be said of octets that a decoder does not refuse as malformed,
    given the shape of its documents and the names of their members. -/
structure Strict (decode : Octets → Except Fault α) (shape : β → Value → Prop)
    (names : List String) : Prop where
  /-- They are one text of the shape, and white space. All other octets are
      malformed, whatever words stand in them. -/
  text : ∀ s, Malformed (decode s) ↔ ¬ ∃ words x, shape words x ∧ Padded x.Spelled s
  /-- A text of any other value is malformed. -/
  value : ∀ s x, Padded x.Spelled s → (∀ words, ¬ shape words x) → Malformed (decode s)
  /-- An object has each of the members once and no other. -/
  members : ∀ s ms, Padded (Value.object ms).Spelled s → ¬ (ms.map Prod.fst).Perm names →
    Malformed (decode s)
  /-- A list has as many values as there are members. -/
  values : ∀ s xs, Padded (Value.list xs).Spelled s → xs.length ≠ names.length →
    Malformed (decode s)
  /-- No comma stands before a closing bracket, at any depth. -/
  comma : ∀ w s r, Blank w → TrailingComma s → Malformed (decode (w ++ (s ++ r)))
  /-- No mark of the order of octets stands in front. -/
  mark : ∀ s, Malformed (decode (0xEF :: 0xBB :: 0xBF :: s))
  /-- Only white space can be added behind. -/
  trailing : ∀ s t, ¬ Malformed (decode s) → ¬ Blank t → Malformed (decode (s ++ t))
  /-- Beyond being malformed, only words can be wrong. -/
  codes : ∀ s f, decode s = .error f →
    f.code = .malformedInput ∨ f.code = .invalidEffect ∨ f.code = .invalidAction

/-- No value begins with the mark of the order of octets. -/
theorem not_padded_mark (x : Value) (s : Octets) :
    ¬ Padded x.Spelled (0xEF :: 0xBB :: 0xBF :: s) := by
  rintro ⟨l, v, r, hl, hv, -, h⟩
  rcases hv.opens with ⟨b, t, rfl, hb⟩
  -- The mark would have to be white space or the beginning of the value.
  cases l with
  | nil =>
      injection h with h
      subst h
      exact absurd hb.ascii (by decide)
  | cons c l =>
      injection h with h
      subst h
      exact absurd (hl _ List.mem_cons_self) (by decide)

namespace TwoPass

variable {decode : Octets → Except Fault α} {reader : Reader β} {shape : β → Value → Prop}
  {ofWords : β → Except Fault α}

/-- What passes the first pass is not malformed, whatever the second says. -/
theorem not_malformed_of_entire (h : TwoPass decode reader shape ofWords) {s : Octets}
    {words : β} (hs : entire reader s = .ok words) : ¬ Malformed (decode s) := by
  -- Behind the first pass, only words are left to be refused.
  rintro ⟨f, hf, hcode⟩
  rw [h.second hs] at hf
  rcases h.codes hf with hc | hc <;>
  · rw [hcode] at hc
    injection hc

/-- What is not malformed has words, which are judged in the second pass. -/
theorem entire_of_not_malformed (h : TwoPass decode reader shape ofWords) {s : Octets}
    (hs : ¬ Malformed (decode s)) : ∃ words, entire reader s = .ok words := by
  cases hentire : entire reader s with
  | error cause => exact absurd (h.first hentire) hs
  | ok words => exact ⟨words, rfl⟩

/-- Octets are malformed exactly if they are no text of the shape. -/
theorem malformed_iff (h : TwoPass decode reader shape ofWords) {s : Octets} :
    Malformed (decode s) ↔ ¬ ∃ words x, shape words x ∧ Padded x.Spelled s := by
  constructor
  · rintro hs ⟨words, x, hx, hpadded⟩
    exact h.not_malformed_of_entire ((entire_eq_ok_iff h.reads).mpr ⟨x, hx, hpadded⟩) hs
  · intro hnone
    by_contra hs
    rcases h.entire_of_not_malformed hs with ⟨words, hentire⟩
    exact hnone ⟨words, (entire_eq_ok_iff h.reads).mp hentire⟩

/-- A text of a value that is not of the shape is malformed, because it is not
    also a text of another value. -/
theorem malformed_of_padded (h : TwoPass decode reader shape ofWords) {s : Octets} {x : Value}
    (hs : Padded x.Spelled s) (hx : ∀ words, ¬ shape words x) : Malformed (decode s) := by
  rw [h.malformed_iff]
  rintro ⟨words, y, hy, hpadded⟩
  -- If another value had been read, the octets would spell two.
  rw [Value.eq_of_padded hs hpadded] at hx
  exact hx words hy

theorem malformed_of_trailing (h : TwoPass decode reader shape ofWords) {s t : Octets}
    (hs : ¬ Malformed (decode s)) (ht : ¬ Blank t) : Malformed (decode (s ++ t)) := by
  rcases h.entire_of_not_malformed hs with ⟨words, hentire⟩
  -- The value is read as before, and stops where it did.
  exact h.first (entire_append_eq_error h.reads hentire ht)

/-- Reading in two passes is strict. What it needs to know of a shape is which names
    an object of it has, and how many values a list. -/
theorem strict (h : TwoPass decode reader shape ofWords) {names : List String}
    (hmembers : ∀ {words ms}, shape words (.object ms) → (ms.map Prod.fst).Perm names)
    (hvalues : ∀ {words xs}, shape words (.list xs) → xs.length = names.length) :
    Strict decode shape names where
  text _ := h.malformed_iff
  value _ _ hs hx := h.malformed_of_padded hs hx
  members _ _ hs hms := h.malformed_of_padded hs fun _ hx => hms (hmembers hx)
  values _ _ hs hxs := h.malformed_of_padded hs fun _ hx => hxs (hvalues hx)
  comma _ _ _ hw hs := h.malformed_iff.mpr fun ⟨_, x, _, hx⟩ => hs.not_padded hw x hx
  mark s := h.malformed_iff.mpr fun ⟨_, x, _, hx⟩ => not_padded_mark x s hx
  trailing _ _ hs ht := h.malformed_of_trailing hs ht
  codes s f hf := by
    -- A fault comes from one of the two passes.
    cases hentire : entire reader s with
    | error cause =>
        rcases h.first hentire with ⟨f', hf', hcode⟩
        rw [hf] at hf'
        injection hf' with hf'
        exact Or.inl (hf' ▸ hcode)
    | ok words =>
        rw [h.second hentire] at hf
        exact Or.inr (h.codes hf)

end TwoPass

theorem IsStatement.names_perm {raw : RawStatement} {ms : List (String × Value)}
    (h : IsStatement raw (.object ms)) : (ms.map Prod.fst).Perm statementShape.fields := by
  cases h with
  | effectFirst => exact List.Perm.refl _
  | actionFirst => exact List.Perm.swap _ _ _

theorem IsStatement.length_eq {raw : RawStatement} {xs : List Value}
    (h : IsStatement raw (.list xs)) : xs.length = statementShape.fields.length := by
  cases h with
  | bare => rfl

theorem IsPolicy.names_perm {W : List RawStatement} {ms : List (String × Value)}
    (h : IsPolicy W (.object ms)) : (ms.map Prod.fst).Perm policyShape.fields := by
  cases h with
  | named => exact List.Perm.refl _

theorem IsPolicy.length_eq {W : List RawStatement} {xs : List Value}
    (h : IsPolicy W (.list xs)) : xs.length = policyShape.fields.length := by
  cases h with
  | bare => rfl

/-- What a policy holds are statements. -/
theorem IsPolicy.isStatement_of_mem {W : List RawStatement} {x y : Value} {xs : List Value}
    (h : IsPolicy W x) (hx : x = .object [("GnfdStatement", .list xs)] ∨ x = .list [.list xs])
    (hy : y ∈ xs) : ∃ raw, IsStatement raw y := by
  have hall : List.Forall₂ IsStatement W xs := by
    rcases hx with rfl | rfl
    · cases h with
      | named hall => exact hall
    · cases h with
      | bare hall => exact hall
  rcases List.mem_iff_getElem.mp hy with ⟨i, hi, rfl⟩
  exact ⟨_, hall.get (hall.length_eq ▸ hi) hi⟩

/-- Decoding is strict: octets that are not refused as malformed are one text of
    the shape, and nothing else is wrong with them than their words. In a policy,
    this reaches into each of its statements. Every flaw of a shape is listed,
    among them members that are missing, repeated or unknown, and each is shown to
    be refused. -/
theorem decode_strict :
    Strict decodePolicy IsPolicy policyShape.fields ∧
    Strict decodeStatement IsStatement statementShape.fields ∧
    ∀ (s : Octets) (x y : Value) (xs : List Value),
      x = .object [("GnfdStatement", .list xs)] ∨ x = .list [.list xs] → Padded x.Spelled s →
      y ∈ xs → (∀ raw, ¬ IsStatement raw y) → Malformed (decodePolicy s) := by
  refine ⟨decodePolicy_twoPass.strict IsPolicy.names_perm IsPolicy.length_eq,
    decodeStatement_twoPass.strict IsStatement.names_perm IsStatement.length_eq, ?_⟩
  intro s x y xs hx hs hy hno
  refine decodePolicy_twoPass.malformed_of_padded hs fun W h => ?_
  rcases h.isStatement_of_mem hx hy with ⟨raw, hraw⟩
  exact hno raw hraw

/-- A statement with a member too many, behind one whose effect is unknown: the
    shape decides before any word does. -/
theorem decode_strict_unknown_member :
    Malformed (decodePolicy (utf8 ("[[[\"Permit\",[]]," ++
      "\x7b\"Effect\":\"Allow\",\"Action\":[],\"Sid\":\"one\"\x7d]]"))) := by
  have htext : ∀ t, (Value.string t).Spelled (quoted t) := quoted_spelled
  have hnone : (texts []).Spelled (list []) := list_spelled .nil
  have hfirst := list_spelled (.cons (htext "Permit") (.cons hnone .nil))
  have hsecond := object_spelled (.cons (member_spelled "Effect" (htext "Allow"))
    (.cons (member_spelled "Action" hnone) (.cons (member_spelled "Sid" (htext "one")) .nil)))
  have hpolicy := list_spelled (.cons (list_spelled (.cons hfirst (.cons hsecond .nil))) .nil)
  refine decode_strict.2.2 _ _ _ _ (Or.inr rfl) hpolicy.padded
    (List.mem_cons_of_mem _ List.mem_cons_self) fun raw hraw => ?_
  exact absurd hraw.names_perm.length_eq (by decide)

/-! ## The same gate -/

/-- A text of a policy is judged as a draft that was given its words would be, and
    so is a text of a statement. Which of the spellings was used is lost. Thus
    whatever is known of drafts is known of documents, the fault that is reported
    included. -/
theorem decode_eq_build :
    (∀ (W : List RawStatement) (s : Octets), PolicyText W s →
      decodePolicy s = (PolicyDraft.ofWords W).build ∧
      Judged Policy.raw Policy.Registered W (W.findSome? RawStatement.refusal?)
        (decodePolicy s)) ∧
    ∀ (raw : RawStatement) (s : Octets), StatementText raw s →
      decodeStatement s = raw.draft.build ∧
      Judged Statement.raw Statement.Registered raw raw.refusal? (decodeStatement s) := by
  constructor
  · intro W s hs
    have hdecode := decodePolicy_twoPass.second (entire_policy_iff.mpr hs)
    rw [hdecode]
    exact ⟨(PolicyDraft.build_ofWords W).symm, Policy.judged_ofWords W⟩
  · intro raw s hs
    have hdecode := decodeStatement_twoPass.second (entire_statement_iff.mpr hs)
    rw [hdecode]
    exact ⟨(RawStatement.build_draft raw).symm, raw.judged_parse⟩

/-- Both spellings of a record, escapes and white space in one document. The
    first unknown tag of its second statement decides, as it does in a draft. -/
theorem decode_eq_build_mixed :
    let W : List RawStatement :=
      [⟨"Allow", ["get-object"]⟩, ⟨"Deny", ["list-object", "😀", "rename-object"]⟩]
    let s := utf8 ("\x7b \"GnfdStatement\" :[ [\"\\u0041llow\" ,[\"get-object\"] ],\n\t" ++
      "\x7b\"Action\":[\"list\\u002Dobject\",\"\\uD83d\\uDe00\",\"rename-object\"]," ++
      "\"\\u0045ffect\":\"Deny\"\x7d] \x7d\r\n")
    let raw : RawStatement := ⟨"Permit", []⟩
    let t := utf8 "\n[\"\\u0050ermit\", [ ]]"
    PolicyText W s ∧ decodePolicy s = (PolicyDraft.ofWords W).build ∧
      (PolicyDraft.ofWords W).build = .error (.unknownAction "😀") ∧
      StatementText raw t ∧ decodeStatement t = raw.draft.build ∧
      raw.draft.build = .error (.unknownEffect "Permit") := by
  intro W s raw t
  have hs : PolicyText W s := entire_policy_iff.mp (by decide +kernel +zetaReduce)
  have ht : StatementText raw t := entire_statement_iff.mp (by decide +kernel +zetaReduce)
  exact ⟨hs, (decode_eq_build.1 W s hs).1, by decide +kernel +zetaReduce, ht,
    (decode_eq_build.2 raw t ht).1, by decide +kernel +zetaReduce⟩

end StoragePolicy
