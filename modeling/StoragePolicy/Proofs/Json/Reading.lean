import Mathlib.Data.List.Forall2
import Mathlib.Data.List.TakeWhile
import StoragePolicy.Json.Reader
import StoragePolicy.Proofs.Json.Strings

/-!
# Readers Against the Grammar

A reader is right when it takes exactly the spellings of the values it wants,
behind any white space, and stops where they end. `Reads` says this in one
equivalence. Its two halves are what is usually called soundness and
completeness, and since a reader is a function, they also give that a spelling
cannot be read in two ways.

What a reader wants is given by a shape, a relation between what it returns and
the value that was spelled. The statements here pass `Reads` from the reader of
one item to the reader of a list.

The loops look for the next item before they read it. `item_first_iff` and
`item_later_iff` treat both steps as one, for the first item of a list and for
one behind a comma; everything about lists and records written as lists is
built from these two.

## Main definitions

* `Reads`: A reader takes exactly the spellings of a shape.
* `IsString`, `IsListOf`: The shapes of strings and lists.

## Theorems

* `skipBlank_eq_cons_iff`: What stands behind white space.
* `item_first_iff`, `item_later_iff`: One item of a list.
* `readString_reads`, `readList_reads`: Strings and lists.
-/

namespace StoragePolicy

namespace Json

open Text

variable {α σ : Type}

/-- A reader takes exactly the spellings of its shape, behind white space. It stops
    where the spelling ends, so readers can be put one behind the other. -/
def Reads (read : Octets → Step α) (shape : α → Value → Prop) : Prop :=
  ∀ (s rest : Octets) (a : α), read s = .ok (a, rest) ↔
    ∃ x w v, shape a x ∧ Blank w ∧ x.Spelled v ∧ s = w ++ (v ++ rest)

/-- The shape of a string. -/
def IsString (t : String) (x : Value) : Prop := x = .string t

/-- The shape of a list, given that of its items. -/
def IsListOf (shape : α → Value → Prop) (as : List α) (x : Value) : Prop :=
  ∃ xs, List.Forall₂ shape as xs ∧ x = .list xs

theorem isSpace_iff {b : UInt8} : isSpace b = true ↔ BlankOctet b := by
  simp only [isSpace, BlankOctet, Bool.or_eq_true, beq_iff_eq, or_assoc]

theorem skipBlank_append {w : Octets} (hw : Blank w) (r : Octets) :
    skipBlank (w ++ r) = skipBlank r :=
  List.dropWhile_append_of_pos fun b hb => isSpace_iff.mpr (hw b hb)

theorem skipBlank_cons {b : UInt8} (hb : ¬ BlankOctet b) (r : Octets) :
    skipBlank (b :: r) = b :: r :=
  List.dropWhile_cons_of_neg fun h => hb (isSpace_iff.mp h)

/-- A visible octet is what is met behind white space. All white space is skipped,
    so the octet that a reader decides by is never blank itself. -/
theorem skipBlank_eq_cons_iff {b : UInt8} {s r : Octets} :
    skipBlank s = b :: r ↔ ¬ BlankOctet b ∧ ∃ w, Blank w ∧ s = w ++ b :: r := by
  constructor
  · intro h
    refine ⟨?_, s.takeWhile isSpace, fun c hc => isSpace_iff.mp (List.mem_takeWhile_imp hc), ?_⟩
    · -- What is left begins with the first octet that was not dropped.
      have hne : s.dropWhile isSpace ≠ [] := by
        rw [show s.dropWhile isSpace = b :: r from h]
        exact List.cons_ne_nil b r
      have hhead := List.head_dropWhile_not isSpace hne
      simp only [show s.dropWhile isSpace = b :: r from h, List.head_cons] at hhead
      rw [← isSpace_iff, hhead]
      exact Bool.false_ne_true
    · rw [← h, skipBlank, List.takeWhile_append_dropWhile]
  · rintro ⟨hb, w, hw, rfl⟩
    rw [skipBlank_append hw, skipBlank_cons hb]

/-- Most octets that are looked for are visible, which leaves the white space in
    front of them. -/
theorem skipBlank_eq_visible_iff {b : UInt8} (hb : ¬ BlankOctet b) {s r : Octets} :
    skipBlank s = b :: r ↔ ∃ w, Blank w ∧ s = w ++ b :: r := by
  rw [skipBlank_eq_cons_iff]
  exact and_iff_right hb

theorem skipBlank_eq_nil_iff {s : Octets} : skipBlank s = [] ↔ Blank s := by
  rw [skipBlank, List.dropWhile_eq_nil_iff]
  exact forall_congr' fun b => imp_congr_right fun _ => isSpace_iff

theorem skipBlank_spelled {x : Value} {v : Octets} (h : x.Spelled v) (r : Octets) :
    skipBlank (v ++ r) = v ++ r := by
  rcases h.opens with ⟨b, t, rfl, hb⟩
  exact skipBlank_cons hb.visible.1 _

/-! ## Strings -/

theorem readString_reads : Reads readString IsString := by
  intro s rest t
  rw [readString_eq_ok_iff]
  constructor
  · rintro ⟨r, hskip, htext⟩
    rcases (skipBlank_eq_visible_iff (by decide)).mp hskip with ⟨w, hw, rfl⟩
    rcases text_eq_ok_iff.mp htext with ⟨body, hbody, rfl⟩
    refine ⟨.string t, w, 0x22 :: body ++ [0x22], rfl, hw, ⟨body, hbody, rfl⟩, ?_⟩
    rw [List.append_assoc]
    rfl
  · rintro ⟨x, w, v, rfl, hw, ⟨body, hbody, rfl⟩, rfl⟩
    refine ⟨body ++ 0x22 :: rest, ?_, text_eq_ok_iff.mpr ⟨body, hbody, rfl⟩⟩
    rw [skipBlank_append hw, List.append_assoc, List.cons_append, skipBlank_cons (by decide)]
    rfl

/-! ## Items of a list -/

theorem nextItem_eq_done_iff {first : Bool} {s rest : Octets} :
    nextItem first s = .ok (.done rest) ↔ ∃ w, Blank w ∧ s = w ++ 0x5D :: rest := by
  rw [nextItem_eq_ok_iff, ← skipBlank_eq_visible_iff (by decide)]
  constructor
  · rintro ⟨hskip⟩
    exact hskip
  · exact .done

theorem nextItem_true_sound {s r : Octets} (h : nextItem true s = .ok (.more r)) :
    ∃ w, Blank w ∧ s = w ++ r := by
  cases nextItem_eq_ok_iff.mp h with
  | opened hskip hb =>
      rcases skipBlank_eq_cons_iff.mp hskip with ⟨-, w, hw, rfl⟩
      exact ⟨w, hw, rfl⟩

theorem nextItem_false_sound {s r : Octets} (h : nextItem false s = .ok (.more r)) :
    ∃ w u, Blank w ∧ Blank u ∧ s = w ++ 0x2C :: (u ++ r) := by
  cases nextItem_eq_ok_iff.mp h with
  | behind hcomma hskip hb =>
      rcases skipBlank_eq_cons_iff.mp hcomma with ⟨-, w, hw, rfl⟩
      rcases skipBlank_eq_cons_iff.mp hskip with ⟨-, u, hu, rfl⟩
      exact ⟨w, u, hw, hu, rfl⟩

/-- Looking for the first item of a list and reading it are one step. The search does
    not take anything that belongs to the item. -/
theorem item_first_iff {read : Octets → Step α} {shape : α → Value → Prop}
    (hread : Reads read shape) {s rest : Octets} {a : α} :
    (∃ r, nextItem true s = .ok (.more r) ∧ read r = .ok (a, rest)) ↔
      ∃ x l v, shape a x ∧ Blank l ∧ x.Spelled v ∧ s = l ++ (v ++ rest) := by
  constructor
  · rintro ⟨r, hnext, h⟩
    rcases nextItem_true_sound hnext with ⟨w, hw, rfl⟩
    rcases (hread _ _ _).mp h with ⟨x, u, v, hx, hu, hv, rfl⟩
    -- The reader may skip white space of its own.
    exact ⟨x, w ++ u, v, hx, hw.append hu, hv, by rw [List.append_assoc]⟩
  · rintro ⟨x, l, v, hx, hl, hv, rfl⟩
    refine ⟨v ++ rest, ?_, (hread _ _ _).mpr ⟨x, [], v, hx, Blank.nil, hv, rfl⟩⟩
    have hskip : skipBlank (l ++ (v ++ rest)) = v ++ rest := by
      rw [skipBlank_append hl, skipBlank_spelled hv]
    -- A value is not taken for the end of the list.
    rcases hv.opens with ⟨b, t, rfl, hb⟩
    exact nextItem_eq_ok_iff.mpr (.opened hskip hb.visible.2.2.1)

/-- Looking for an item behind a comma and reading it are one step too, with
    white space on both sides of the comma. -/
theorem item_later_iff {read : Octets → Step α} {shape : α → Value → Prop}
    (hread : Reads read shape) {s rest : Octets} {a : α} :
    (∃ r, nextItem false s = .ok (.more r) ∧ read r = .ok (a, rest)) ↔
      ∃ x w l v, shape a x ∧ Blank w ∧ Blank l ∧ x.Spelled v ∧
        s = w ++ 0x2C :: (l ++ (v ++ rest)) := by
  constructor
  · rintro ⟨r, hnext, h⟩
    rcases nextItem_false_sound hnext with ⟨w, u, hw, hu, rfl⟩
    rcases (hread _ _ _).mp h with ⟨x, u', v, hx, hu', hv, rfl⟩
    exact ⟨x, w, u ++ u', v, hx, hw, hu.append hu', hv, by rw [List.append_assoc]⟩
  · rintro ⟨x, w, l, v, hx, hw, hl, hv, rfl⟩
    refine ⟨v ++ rest, ?_, (hread _ _ _).mpr ⟨x, [], v, hx, Blank.nil, hv, rfl⟩⟩
    have hcomma := (skipBlank_eq_visible_iff (by decide)).mpr
      ⟨w, hw, show w ++ 0x2C :: (l ++ (v ++ rest)) = _ from rfl⟩
    have hskip : skipBlank (l ++ (v ++ rest)) = v ++ rest := by
      rw [skipBlank_append hl, skipBlank_spelled hv]
    rcases hv.opens with ⟨b, t, rfl, hb⟩
    exact nextItem_eq_ok_iff.mpr (.behind hcomma hskip hb.visible.2.2.1)

/-- The items of a list behind the first one. -/
theorem elements_later_iff {item : Reader α} {shape : α → Value → Prop}
    (hitem : Reads item.read shape) {s rest : Octets} {as : List α} :
    elements item false s = .ok (as, rest) ↔
      ∃ xs w t, List.Forall₂ shape as xs ∧ Blank w ∧ Further (xs.map Value.Spelled) t ∧
        s = w ++ (t ++ 0x5D :: rest) := by
  -- On what was read, since every turn of the loop reads one item.
  induction as generalizing s with
  | nil =>
      rw [elements_eq_ok_iff, nextItem_eq_done_iff]
      constructor
      · rintro (⟨-, w, hw, rfl⟩ | ⟨a, bs, r, hnil, -⟩)
        · exact ⟨[], w, [], List.Forall₂.nil, hw, Further.nil, rfl⟩
        · exact absurd hnil (List.cons_ne_nil a bs).symm
      · rintro ⟨xs, w, t, hxs, hw, ht, rfl⟩
        cases hxs
        rw [List.map_nil, further_nil_iff] at ht
        exact Or.inl ⟨rfl, w, hw, by rw [ht, List.nil_append]⟩
  | cons a as ih =>
      rw [elements_eq_ok_iff]
      constructor
      · rintro (⟨hnil, -⟩ | ⟨a', bs, r, has, hstep, hmore⟩)
        · exact absurd hnil (List.cons_ne_nil a as)
        · injection has with ha has
          subst ha has
          rcases (item_later_iff hitem).mp hstep with ⟨x, w, l, v, hx, hw, hl, hv, rfl⟩
          rcases ih.mp hmore with ⟨xs, u, t, hxs, hu, ht, rfl⟩
          refine ⟨x :: xs, w, 0x2C :: (l ++ (v ++ (u ++ t))), List.Forall₂.cons hx hxs, hw,
            further_cons_iff.mpr ⟨l, v, u, t, hl, hv, hu, ht, rfl⟩, ?_⟩
          simp only [List.cons_append, List.append_assoc]
      -- The comma belongs to the next item, so the induction goes on in front of one.
      · rintro ⟨_, w, _, hxs, hw, ht, rfl⟩
        rcases List.forall₂_cons_left_iff.mp hxs with ⟨x, xs, hx, htail, rfl⟩
        rcases further_cons_iff.mp ht with ⟨l, v, u, t, hl, hv, hu, hmore, rfl⟩
        refine Or.inr ⟨a, as, u ++ (t ++ 0x5D :: rest), rfl, ?_, ?_⟩
        · refine (item_later_iff hitem).mpr ⟨x, w, l, v, hx, hw, hl, hv, ?_⟩
          simp only [List.cons_append, List.append_assoc]
        · exact ih.mpr ⟨xs, u, t, htail, hu, hmore, rfl⟩

/-- The items of a list behind its opening bracket. -/
theorem elements_first_iff {item : Reader α} {shape : α → Value → Prop}
    (hitem : Reads item.read shape) {s rest : Octets} {as : List α} :
    elements item true s = .ok (as, rest) ↔
      ∃ xs t, List.Forall₂ shape as xs ∧ Separated (xs.map Value.Spelled) t ∧
        s = t ++ 0x5D :: rest := by
  rw [elements_eq_ok_iff, nextItem_eq_done_iff]
  constructor
  · rintro (⟨rfl, w, hw, rfl⟩ | ⟨a, bs, r, rfl, hstep, hmore⟩)
    · exact ⟨[], w, List.Forall₂.nil, Separated.none hw, rfl⟩
    · -- The first item has no comma in front of it; the loop goes on behind it.
      rcases (item_first_iff hitem).mp hstep with ⟨x, l, v, hx, hl, hv, rfl⟩
      rcases (elements_later_iff hitem).mp hmore with ⟨xs, u, t, hxs, hu, ht, rfl⟩
      refine ⟨x :: xs, l ++ (v ++ (u ++ t)), List.Forall₂.cons hx hxs,
        separated_cons_iff.mpr ⟨l, v, u, t, hl, hv, hu, ht, rfl⟩, ?_⟩
      simp only [List.append_assoc]
  · rintro ⟨xs, t, hxs, ht, rfl⟩
    cases hxs with
    | nil => exact Or.inl ⟨rfl, t, separated_nil_iff.mp ht, rfl⟩
    | @cons a x as xs hx hxs =>
        rcases separated_cons_iff.mp ht with ⟨l, v, u, t, hl, hv, hu, hmore, rfl⟩
        refine Or.inr ⟨a, as, u ++ (t ++ 0x5D :: rest), rfl, ?_, ?_⟩
        · refine (item_first_iff hitem).mpr ⟨x, l, v, hx, hl, hv, ?_⟩
          simp only [List.append_assoc]
        · exact (elements_later_iff hitem).mpr ⟨xs, u, t, hxs, hu, hmore, rfl⟩

/-- The list reader is right if the reader of its items is, for items of any kind.
    Lists of statements and lists of tags are two cases of it. -/
theorem readList_reads {item : Reader α} {shape : α → Value → Prop}
    (hitem : Reads item.read shape) : Reads (readList item) (IsListOf shape) := by
  intro s rest as
  rw [readList_eq_ok_iff]
  constructor
  · rintro ⟨r, hskip, hitems⟩
    rcases (skipBlank_eq_visible_iff (by decide)).mp hskip with ⟨w, hw, rfl⟩
    rcases (elements_first_iff hitem).mp hitems with ⟨xs, t, hxs, ht, rfl⟩
    refine ⟨.list xs, w, 0x5B :: t ++ [0x5D], ⟨xs, hxs, rfl⟩, hw, ?_, ?_⟩
    · rw [Value.spelled_list]
      exact ⟨t, ht, rfl⟩
    · rw [List.append_assoc]
      rfl
  · rintro ⟨x, w, v, ⟨xs, hxs, rfl⟩, hw, hv, rfl⟩
    rw [Value.spelled_list] at hv
    rcases hv with ⟨t, ht, rfl⟩
    refine ⟨t ++ 0x5D :: rest, ?_, (elements_first_iff hitem).mpr ⟨xs, t, hxs, ht, rfl⟩⟩
    rw [skipBlank_append hw, List.append_assoc, List.cons_append, skipBlank_cons (by decide)]
    rfl

end Json

end StoragePolicy
