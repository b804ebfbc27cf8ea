import StoragePolicy.Proofs.FirstFault

/-!
# Item by Item

A request about a list is often nothing but one request for each of its items,
of which the results are put together. `Itemwise` says what such a request comes
to without saying how it is carried out: it is granted if all items are, with
their results in the same order, and otherwise it is refused for the first item
that is refused alone, whatever the later ones would say.

The first item of a kind is named by what stands before it where a list is only
looked through. Where items are replaced, as in a draft, it is better named by
its place, and `FirstAt` says the same with a place.

## Main definitions

* `Failing`: An item that a request fails on.
* `Itemwise`: What requests about single items come to together.
* `FirstAt`: The first item of a kind, and its place.

## Theorems

* `itemwise_mapM`: A loop that collects results goes item by item.
* `Itemwise.exists_ok_iff`: All is granted exactly if each item is.
* `mapM_check`: A loop that checks items and collects what they become.
* `firstAt_iff_firstWith`: The place of an item is the number of those before it.
* `Itemwise.refused_at`: A refusal names a place.
-/

namespace StoragePolicy

variable {ε α β γ : Type}

/-- The request about the item fails. -/
def Failing (one : α → Except ε β) (a : α) : Prop := ∃ e, one a = .error e

theorem not_failing_iff {one : α → Except ε β} {a : α} :
    ¬ Failing one a ↔ ∃ b, one a = .ok b := by
  unfold Failing
  cases one a with
  | ok b => simp only [reduceCtorEq, exists_false, not_false_eq_true, Except.ok.injEq, exists_eq']
  | error e => simp only [Except.error.injEq, exists_eq', not_true, reduceCtorEq, exists_false]

/-- A result is what requests about the items of a list come to together. Both ways
    of ending are fixed by it, so a result with this property is the only one. -/
structure Itemwise (one : α → Except ε β) (together : List β → γ) (as : List α)
    (result : Except ε γ) : Prop where
  /-- It is granted exactly if each item is, with the results in order. -/
  granted : ∀ c, result = .ok c ↔
    ∃ bs, List.Forall₂ (fun a b => one a = .ok b) as bs ∧ c = together bs
  /-- Otherwise it is refused as the first item that fails is refused alone. -/
  refused : ∀ e, result = .error e ↔
    ∃ before a, FirstWith (Failing one) as before a ∧ one a = .error e

/-- The fault that a search through the items finds is that of the first item
    that fails. -/
theorem findSome?_faultOf?_iff {one : α → Except ε β} {as : List α} {e : ε} :
    (as.findSome? fun a => faultOf? (one a)) = some e ↔
      ∃ before a, FirstWith (Failing one) as before a ∧ one a = .error e := by
  rw [List.findSome?_eq_some_iff]
  constructor
  · rintro ⟨before, a, after, hsplit, ha, hbefore⟩
    have hfault : one a = .error e := faultOf?_eq_some_iff.mp ha
    refine ⟨before, a, ⟨fun b hb => ?_, ⟨e, hfault⟩, after, hsplit⟩, hfault⟩
    rw [not_failing_iff]
    exact faultOf?_eq_none_iff.mp (hbefore b hb)
  · rintro ⟨before, a, ⟨hpassed, -, after, hsplit⟩, hfault⟩
    refine ⟨before, a, after, hsplit, faultOf?_eq_some_iff.mpr hfault, fun b hb => ?_⟩
    exact faultOf?_eq_none_iff.mpr (not_failing_iff.mp (hpassed b hb))

/-- A loop that collects results goes item by item. It is the only way in which lists
    of requests are carried out here. -/
theorem itemwise_mapM (one : α → Except ε β) (together : List β → γ) (as : List α) :
    Itemwise one together as (as.mapM one >>= fun bs => .ok (together bs)) where
  granted c := by
    rw [bind_eq_ok_iff]
    simp only [mapM_eq_ok_iff, Except.ok.injEq, eq_comm (b := c)]
  refused e := by
    rw [← faultOf?_eq_some_iff, faultOf?_bind_ok, faultOf?_mapM, findSome?_faultOf?_iff]

/-- A request about a list is granted if and only if every request about an
    item is. -/
theorem Itemwise.exists_ok_iff {one : α → Except ε β} {together : List β → γ} {as : List α}
    {result : Except ε γ} (h : Itemwise one together as result) :
    (∃ c, result = .ok c) ↔ ∀ a ∈ as, ∃ b, one a = .ok b := by
  constructor
  · rintro ⟨c, hc⟩ a ha
    by_contra hb
    -- Where something fails, something fails first, and that is reported.
    have hfailing : Failing one a := by
      rw [← not_failing_iff, not_not] at hb
      exact hb
    rcases exists_firstWith ⟨a, ha, hfailing⟩ with ⟨before, a', hfirst⟩
    rcases hfirst.holds with ⟨e, he⟩
    rw [(h.refused e).mpr ⟨before, a', hfirst, he⟩] at hc
    injection hc
  · intro hall
    cases hresult : result with
    | ok c => exact ⟨c, rfl⟩
    | error e =>
        rcases (h.refused e).mp hresult with ⟨before, a, hfirst, -⟩
        exact absurd hfirst.holds (not_failing_iff.mpr (hall a hfirst.mem))

/-- A loop that checks each item before it makes something of it might as well
    check all of them first. -/
theorem mapM_check (check : α → Except ε Unit) (make : α → β) (as : List α) :
    (as.mapM fun a => check a >>= fun _ => .ok (make a)) =
      (as.forM check >>= fun _ => .ok (as.map make)) := by
  induction as with
  | nil => rfl
  | cons a as ih =>
      rw [List.mapM_cons, ih]
      change _ = ((check a >>= fun _ => as.forM check) >>= fun _ => _)
      cases check a with
      | error e => rfl
      | ok _ =>
          -- What fails from here on fails with the same fault on both sides.
          cases as.forM check with
          | error e => rfl
          | ok _ => rfl

/-! ## Places -/

/-- The first item of a list that has a property stands at the place. Places say more
    than what stands before, since they outlast a change of the items. -/
structure FirstAt (P : α → Prop) (as : List α) (i : Nat) (a : α) : Prop where
  /-- It stands there. -/
  place : as[i]? = some a
  /-- It has the property. -/
  holds : P a
  /-- No item at an earlier place has. -/
  passed : ∀ j b, j < i → as[j]? = some b → ¬ P b

/-- The place of the first item is the number of those before it. A place can be
    told to a caller who does not have the list. -/
theorem firstAt_iff_firstWith {P : α → Prop} {as : List α} {i : Nat} {a : α} :
    FirstAt P as i a ↔ ∃ before, FirstWith P as before a ∧ before.length = i := by
  constructor
  · rintro ⟨hplace, hholds, hpassed⟩
    rcases List.getElem?_eq_some_iff.mp hplace with ⟨hi, rfl⟩
    -- What stands before the place are the items that were passed over.
    refine ⟨as.take i, ⟨fun b hb => ?_, hholds, as.drop (i + 1), ?_⟩, ?_⟩
    · rcases List.mem_take_iff_getElem.mp hb with ⟨j, hj, rfl⟩
      exact hpassed j _ (by omega) (List.getElem?_eq_getElem (by omega))
    · rw [List.getElem_cons_drop, List.take_append_drop]
    · rw [List.length_take]
      omega
  · rintro ⟨before, ⟨hpassed, hholds, after, rfl⟩, rfl⟩
    refine ⟨?_, hholds, fun j b hj hb => ?_⟩
    · rw [List.getElem?_append_right (Nat.le_refl _), Nat.sub_self, List.getElem?_cons_zero]
    · rw [List.getElem?_append_left hj] at hb
      exact hpassed b (List.mem_of_getElem? hb)

/-- The refusal of a request about a list, with the place that is to blame. This
    is how a caller sees it who wants to repair the item. -/
theorem Itemwise.refused_at {one : α → Except ε β} {together : List β → γ} {as : List α}
    {result : Except ε γ} (h : Itemwise one together as result) (e : ε) :
    result = .error e ↔ ∃ i a, FirstAt (Failing one) as i a ∧ one a = .error e := by
  rw [h.refused e]
  constructor
  · rintro ⟨before, a, hfirst, he⟩
    exact ⟨before.length, a, firstAt_iff_firstWith.mpr ⟨before, hfirst, rfl⟩, he⟩
  · rintro ⟨i, a, hfirst, he⟩
    rcases firstAt_iff_firstWith.mp hfirst with ⟨before, hfirst, -⟩
    exact ⟨before, a, hfirst, he⟩

end StoragePolicy
