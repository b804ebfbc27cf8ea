/-!
# Parts of a Written Name

Names with several parts are taken apart at markers and separators. A part ends
at the first place where its separator stands, so the part behind it may hold
the separator again.

## Main definitions

* `after?`: What follows a marker at the front.
* `splitAtFirst?`: What stands before and after a separator's first place.

## Theorems

* `after?_eq_some_iff`: A marker is found exactly where it stands.
* `append_of_splitAtFirst?`: Splitting loses nothing.
* `splitAtFirst?_append`: Parts are found again where they were joined.
-/

namespace StoragePolicy

namespace Text

/-- What follows a marker that stands at the front. -/
def after? : List Char → List Char → Option (List Char)
  | [], s => some s
  | _ :: _, [] => none
  | m :: marker, c :: s => if m = c then after? marker s else none

/-- What stands before and after the first place of a separator. -/
def splitAtFirst? (separator : List Char) : List Char → Option (List Char × List Char)
  | [] => if separator.isEmpty then some ([], []) else none
  | c :: s =>
    match after? separator (c :: s) with
    | some rest => some ([], rest)
    | none => (splitAtFirst? separator s).map fun (before, rest) => (c :: before, rest)

theorem after?_eq_some_iff {marker s rest : List Char} :
    after? marker s = some rest ↔ s = marker ++ rest := by
  induction marker generalizing s with
  | nil => rw [after?, Option.some.injEq, List.nil_append]
  | cons m marker ih =>
      cases s with
      | nil => simp only [after?, List.cons_append, reduceCtorEq]
      | cons c s =>
          by_cases hm : m = c
          · simp only [after?, hm, if_true, ih, List.cons_append, List.cons.injEq, true_and]
          · simp only [after?, hm, Ne.symm hm, if_false, List.cons_append, List.cons.injEq,
              false_and, reduceCtorEq]

/-- Nothing is lost in a split: the text is its two parts around the separator. -/
theorem append_of_splitAtFirst? {separator s before rest : List Char}
    (h : splitAtFirst? separator s = some (before, rest)) : s = before ++ separator ++ rest := by
  induction s generalizing before with
  | nil =>
      cases separator with
      | nil =>
          simp only [splitAtFirst?, List.isEmpty_nil, if_true, Option.some.injEq,
            Prod.mk.injEq] at h
          rcases h with ⟨rfl, rfl⟩
          rfl
      | cons c separator =>
          simp only [splitAtFirst?, List.isEmpty_cons, Bool.false_eq_true, if_false,
            reduceCtorEq] at h
  | cons c s ih =>
      -- The part before the separator grows only while the separator is not here.
      cases hafter : after? separator (c :: s) with
      | some behind =>
          simp only [splitAtFirst?, hafter, Option.some.injEq, Prod.mk.injEq] at h
          rcases h with ⟨rfl, rfl⟩
          exact after?_eq_some_iff.mp hafter
      | none =>
          simp only [splitAtFirst?, hafter, Option.map_eq_some_iff, Prod.exists,
            Prod.mk.injEq] at h
          rcases h with ⟨before, r, hs, rfl, rfl⟩
          rw [List.cons_append, List.cons_append, ← ih hs]

/-- Parts that were joined by a separator are found again, if its first
    character does not stand in the part before it. -/
theorem splitAtFirst?_append {c : Char} {separator before : List Char} (rest : List Char)
    (h : c ∉ before) :
    splitAtFirst? (c :: separator) (before ++ (c :: separator ++ rest)) = some (before, rest) := by
  induction before with
  | nil =>
    have hafter : after? (c :: separator) (c :: (separator ++ rest)) = some rest :=
      after?_eq_some_iff.mpr rfl
    simp only [List.nil_append, List.cons_append, splitAtFirst?, hafter]
  | cons d before ih =>
    have hne : c ≠ d := fun heq => h (heq ▸ List.mem_cons_self)
    have hafter : after? (c :: separator) (d :: (before ++ (c :: separator ++ rest))) = none := by
      rw [after?, if_neg hne]
    simp only [List.cons_append, splitAtFirst?] at hafter ih ⊢
    rw [hafter, ih fun hmem => h (List.mem_cons_of_mem _ hmem)]
    rfl

end Text

end StoragePolicy
