import StoragePolicy.Proofs.Json.Strings
import StoragePolicy.Proofs.Policy.Words

/-!
# Plain Documents

The canonical spelling of a policy is one line of visible ASCII. Escapes see to
that only in part, since most characters stand in a string as they are. The rest
is the registry's doing: a policy is written only if all of its tags are
registered, and no registered tag, no effect and no name of a member has a
character in it that would need an escape.

What is plain is the text that its octets say, so it can be shown or sent as a
text without loss, and a reader that takes lines takes all of it.

## Main definitions

* `Plain`: Visible ASCII and nothing else.

## Theorems

* `Plain.isText`: Plain octets are those of a text.
* `Policy.plain_write`: A registered policy is written plainly.
-/

namespace StoragePolicy

open Text Json

/-- Every octet is a visible character of ASCII or a space. Such octets are a text,
    and a text of one line. -/
def Plain (s : Octets) : Prop := ∀ b ∈ s, 0x20 ≤ b ∧ b < 0x7F

instance (s : Octets) : Decidable (Plain s) :=
  List.decidableBAll (fun b => 0x20 ≤ b ∧ b < 0x7F) s

theorem Plain.nil : Plain [] := List.forall_mem_nil _

theorem Plain.append {s t : Octets} (hs : Plain s) (ht : Plain t) : Plain (s ++ t) := by
  intro b hb
  rcases List.mem_append.mp hb with h | h
  · exact hs b h
  · exact ht b h

theorem Plain.cons {b : UInt8} {s : Octets} (hb : 0x20 ≤ b ∧ b < 0x7F) (hs : Plain s) :
    Plain (b :: s) := List.forall_mem_cons.mpr ⟨hb, hs⟩

/-- Plain octets are those of a text. What shows octets as text therefore shows
    these as they are, and replaces none of them. -/
theorem Plain.isText {s : Octets} (h : Plain s) : ∃ text, utf8 text = s := by
  have hchars : utf8Chars (s.map fun b => Char.ofNat b.toNat) = s := by
    -- Octet by octet, as each is a character of its own.
    induction s with
    | nil => rfl
    | cons b s ih =>
        rcases List.forall_mem_cons.mp h with ⟨hb, hs⟩
        have hlt : b.toNat < 0x7F := UInt8.lt_iff_toNat_lt.mp hb.2
        have hnat : (Char.ofNat b.toNat).toNat = b.toNat := toNat_charOfNat (by omega)
        rw [List.map_cons, utf8Chars_cons, utf8EncodeChar_of_lt (by omega), hnat, ih hs,
          UInt8.ofNat_toNat]
        rfl
  refine ⟨String.ofList (s.map fun b => Char.ofNat b.toNat), ?_⟩
  rw [utf8, String.toList_ofList, hchars]

theorem plain_separated {items : List Octets} (h : ∀ item ∈ items, Plain item) :
    Plain (separated items) := by
  induction items with
  | nil => exact Plain.nil
  | cons item items ih =>
      rcases List.forall_mem_cons.mp h with ⟨hitem, hitems⟩
      have hrest := ih hitems
      -- A comma is added in front of the next item, so not behind the last.
      cases items with
      | nil => exact hitem
      | cons next items => exact hitem.append (hrest.cons (by decide))

theorem plain_list {items : List Octets} (h : ∀ item ∈ items, Plain item) :
    Plain (list items) :=
  .cons (by decide) ((plain_separated h).append (Plain.nil.cons (by decide)))

theorem plain_object {members : List Octets} (h : ∀ member ∈ members, Plain member) :
    Plain (object members) :=
  .cons (by decide) ((plain_separated h).append (Plain.nil.cons (by decide)))

theorem plain_member {name : String} {value : Octets} (hname : Plain (quoted name))
    (hvalue : Plain value) : Plain (member name value) :=
  hname.append (hvalue.cons (by decide))

/-- No registered tag needs an escape. -/
theorem Action.plain_tag (a : Action) : Plain (quoted a.tag) := by
  -- A fact about the registry, and so about each of its entries.
  cases a <;> decide +kernel

theorem Effect.plain_text (e : Effect) : Plain (quoted e.text) := by
  cases e <;> decide +kernel

/-- A statement with registered tags is written plainly. No tag of the registry
    has a character that would need an escape. -/
theorem Statement.plain_write {s : Statement} (h : s.Registered) : Plain (writeStatement s) := by
  -- The tags are the only part that is not fixed by the form of a statement.
  have htags : ∀ item ∈ s.tags.map quoted, Plain item := by
    intro item hitem
    rcases List.mem_map.mp hitem with ⟨tag, htag, rfl⟩
    rcases h tag htag with ⟨a, rfl⟩
    exact a.plain_tag
  refine plain_object (List.forall_mem_cons.mpr ⟨?_, List.forall_mem_singleton.mpr ?_⟩)
  · exact plain_member (by decide +kernel) s.effect.plain_text
  · exact plain_member (by decide +kernel) (plain_list htags)

/-- A registered policy is written plainly, as no tag of the registry has a character
    in it that would be escaped or take more than one octet. -/
theorem Policy.plain_write {p : Policy} (h : p.Registered) : Plain (writePolicy p) := by
  have hstatements : ∀ item ∈ p.statements.map writeStatement, Plain item := by
    intro item hitem
    rcases List.mem_map.mp hitem with ⟨s, hs, rfl⟩
    exact Statement.plain_write (h s hs)
  refine plain_object (List.forall_mem_singleton.mpr ?_)
  exact plain_member (by decide +kernel) (plain_list hstatements)

end StoragePolicy
