import Mathlib.Data.List.Forall2

/-!
# Stopping at the First Fault

Requests are checked piece by piece, and the first piece that fails decides the
fault. These are the two facts that every such check is opened with: when all
of it succeeds, and which fault it ends in otherwise. A loop over a list fails
with the fault of its first failing item, whatever the later ones would say.

A request whose stages are known is best written as `granting`: the faults that
there might be, in the order in which they are looked for, and the value that
it comes to without any. Stages in a row are then faults in a row.

A search says which item it stops at and hides what it passed over. `FirstWith`
says both, and says them without a search, so that a statement about the first
item of a kind can be read without knowing how it is looked for.

## Main definitions

* `FirstWith`: The first item of a kind, and what stands before it.
* `faultOf?`: The fault of a step, if it fails.
* `firstFault`: The first fault that there is.
* `granting`: A value, unless there is a fault.

## Theorems

* `exists_firstWith`: There is a first item of a kind if there is one at all.
* `find?_eq_some_iff_firstWith`: It is what a search finds.
* `bind_eq_ok_iff`, `bind_eq_error_iff`: One step after another.
* `check_bind_eq_ok_iff`: A value behind a check.
* `mapError_eq_ok_iff`, `mapError_eq_error_iff`: A fault in other words.
* `mapM_eq_ok_iff`, `faultOf?_mapM`: A loop that collects results.
* `forM_eq_ok_iff`, `faultOf?_forM`: A loop that only checks.
* `granting_bind`: One stage after another.
* `granting_eq_ok_iff`, `granting_eq_error_iff`: What a request comes to.
-/

namespace StoragePolicy

variable {ε α β : Type}

/-! ## The first item of a kind -/

/-- The first item of a list that has a property, and what stands before it. Much of
    what is said about faults is which one comes first, and this is how it is said. -/
structure FirstWith (P : α → Prop) (as before : List α) (a : α) : Prop where
  /-- No item before it has the property. -/
  passed : ∀ b ∈ before, ¬ P b
  /-- It has the property itself. -/
  holds : P a
  /-- It stands where what came before ends. -/
  split : ∃ after, as = before ++ a :: after

theorem FirstWith.mem {P : α → Prop} {as before : List α} {a : α}
    (h : FirstWith P as before a) : a ∈ as := by
  rcases h.split with ⟨after, rfl⟩
  exact List.mem_append_right before List.mem_cons_self

/-- Of a list in which something has the property, something is the first. A
    refusal that names the item to blame always has one to name. -/
theorem exists_firstWith {P : α → Prop} {as : List α} (h : ∃ a ∈ as, P a) :
    ∃ before a, FirstWith P as before a := by
  induction as with
  | nil =>
      rcases h with ⟨a, ha, -⟩
      exact absurd ha List.not_mem_nil
  | cons a as ih =>
      by_cases ha : P a
      · exact ⟨[], a, List.forall_mem_nil _, ha, as, rfl⟩
      · -- Not the head, so it stands in the rest, behind one item more.
        have hrest : ∃ b ∈ as, P b := by
          rcases h with ⟨b, hb, hP⟩
          rcases List.mem_cons.mp hb with rfl | hmem
          · exact absurd hP ha
          · exact ⟨b, hmem, hP⟩
        rcases ih hrest with ⟨before, b, hpassed, hholds, after, rfl⟩
        exact ⟨a :: before, b, List.forall_mem_cons.mpr ⟨ha, hpassed⟩, hholds, after, rfl⟩

/-- A search finds the first item of the kind that it looks for, and what the
    items before it have in common is that they are not of the kind. -/
theorem find?_eq_some_iff_firstWith {p : α → Bool} {P : α → Prop} {as : List α} {a : α}
    (hp : ∀ b, p b = true ↔ P b) :
    as.find? p = some a ↔ ∃ before, FirstWith P as before a := by
  have hnot : ∀ b, (!p b) = true ↔ ¬ P b := by
    intro b
    rw [← hp b, Bool.not_eq_true', Bool.not_eq_true]
  rw [List.find?_eq_some_iff_append, hp]
  constructor
  · rintro ⟨ha, before, after, hsplit, hbefore⟩
    exact ⟨before, fun b hb => (hnot b).mp (hbefore b hb), ha, after, hsplit⟩
  · rintro ⟨before, hpassed, ha, after, hsplit⟩
    exact ⟨ha, before, after, hsplit, fun b hb => (hnot b).mpr (hpassed b hb)⟩

/-- Looking for a fault that an item has unless it passes a test is looking for
    an item that does not pass. -/
theorem findSome?_unless (p : α → Bool) (fault : α → ε) (as : List α) :
    (as.findSome? fun a => if p a then none else some (fault a)) =
      (as.find? fun a => !p a).map fault := by
  induction as with
  | nil => rfl
  | cons a as ih =>
      rw [List.findSome?_cons, List.find?_cons]
      -- Both searches go on behind an item that passes, and both stop at one that does not.
      cases p a with
      | true => exact ih
      | false => rfl

/-! ## Steps and loops -/

/-- The fault of a step, if it fails. -/
def faultOf? : Except ε α → Option ε
  | .ok _ => none
  | .error e => some e

theorem faultOf?_eq_some_iff {x : Except ε α} {e : ε} : faultOf? x = some e ↔ x = .error e := by
  cases x with
  | ok a =>
      constructor <;>
      · intro h
        injection h
  | error e' => rw [faultOf?, Option.some.injEq, Except.error.injEq]

theorem faultOf?_eq_none_iff {x : Except ε α} : faultOf? x = none ↔ ∃ a, x = .ok a := by
  cases x with
  | ok a => exact ⟨fun _ => ⟨a, rfl⟩, fun _ => rfl⟩
  | error e => simp only [faultOf?, reduceCtorEq, exists_false]

/-- Two steps succeed exactly if the second succeeds on what the first came to. Runs
    of several steps are taken apart with this, one step at a time. -/
theorem bind_eq_ok_iff {x : Except ε α} {f : α → Except ε β} {b : β} :
    (x >>= f) = .ok b ↔ ∃ a, x = .ok a ∧ f a = .ok b := by
  cases x with
  | ok a =>
      constructor
      · intro h
        exact ⟨a, rfl, h⟩
      · rintro ⟨a', ha, h⟩
        injection ha with ha
        rw [← ha] at h
        exact h
  | error e =>
      constructor
      · intro h
        injection h
      · rintro ⟨a', ha, -⟩
        injection ha

/-- Two steps fail with the fault of the first, or of the second behind a first
    that succeeds. -/
theorem bind_eq_error_iff {x : Except ε α} {f : α → Except ε β} {e : ε} :
    (x >>= f) = .error e ↔ x = .error e ∨ ∃ a, x = .ok a ∧ f a = .error e := by
  cases x with
  | ok a =>
      constructor
      · intro h
        exact Or.inr ⟨a, rfl, h⟩
      · rintro (h | ⟨a', ha, h⟩)
        · injection h
        · injection ha with ha
          rw [← ha] at h
          exact h
  | error e' =>
      constructor
      · intro h
        injection h with h
        exact Or.inl (congrArg Except.error h)
      · rintro (h | ⟨a', ha, -⟩)
        · injection h with h
          exact congrArg Except.error h
        · injection ha

/-- What stands behind a check is had exactly if the check is passed. The check
    itself adds nothing to it. -/
theorem check_bind_eq_ok_iff {x : Except ε Unit} {b c : β} :
    (x >>= fun _ => .ok b) = .ok c ↔ x = .ok () ∧ c = b := by
  rw [bind_eq_ok_iff]
  constructor
  · rintro ⟨_, hx, hb⟩
    injection hb with hb
    exact ⟨hx, hb.symm⟩
  · rintro ⟨hx, rfl⟩
    exact ⟨(), hx, rfl⟩

/-- A fault in other words is a fault in the same place, so the successes of both
    wordings are the same. -/
theorem mapError_eq_ok_iff {δ : Type} {x : Except ε α} {f : ε → δ} {a : α} :
    x.mapError f = .ok a ↔ x = .ok a := by
  cases x with
  | ok b => simp only [Except.mapError, Except.ok.injEq]
  | error e => simp only [Except.mapError, reduceCtorEq]

theorem mapError_eq_error_iff {δ : Type} {x : Except ε α} {f : ε → δ} {d : δ} :
    x.mapError f = .error d ↔ ∃ e, x = .error e ∧ d = f e := by
  cases x with
  | ok b => simp only [Except.mapError, reduceCtorEq, false_and, exists_false]
  | error e => simp only [Except.mapError, Except.error.injEq, exists_eq_left', eq_comm (b := d)]

/-- A loop collects a result for each item, in the order of the items. This takes
    the loop apart, so that what is known of an item can be used at its place. -/
theorem mapM_eq_ok_iff {f : α → Except ε β} {as : List α} {bs : List β} :
    as.mapM f = .ok bs ↔ List.Forall₂ (fun a b => f a = .ok b) as bs := by
  -- On the items, with the results still open.
  induction as generalizing bs with
  | nil =>
      rw [List.mapM_nil, List.forall₂_nil_left_iff]
      constructor
      · intro h
        injection h with h
        exact h.symm
      · rintro rfl
        rfl
  | cons a as ih =>
      rw [List.mapM_cons, bind_eq_ok_iff, List.forall₂_cons_left_iff]
      constructor
      · rintro ⟨b, hb, h⟩
        rcases bind_eq_ok_iff.mp h with ⟨bs', hbs, h⟩
        injection h with h
        exact ⟨b, bs', hb, ih.mp hbs, h.symm⟩
      · rintro ⟨b, bs', hb, hbs, rfl⟩
        exact ⟨b, hb, bind_eq_ok_iff.mpr ⟨bs', ih.mpr hbs, rfl⟩⟩

/-- A loop depends only on what its step does to the items of its list. -/
theorem mapM_congr {f g : α → Except ε β} {as : List α} (h : ∀ a ∈ as, f a = g a) :
    as.mapM f = as.mapM g := by
  induction as with
  | nil => rfl
  | cons a as ih =>
      rcases List.forall_mem_cons.mp h with ⟨ha, has⟩
      rw [List.mapM_cons, List.mapM_cons, ha, ih has]

/-- What is done with a result without a fault of its own adds none. -/
theorem faultOf?_bind_ok (x : Except ε α) (f : α → β) :
    faultOf? (x >>= fun a => .ok (f a)) = faultOf? x := by
  cases x with
  | ok a => rfl
  | error e => rfl

/-- A loop that collects results fails as its first failing item does, whatever the
    items behind that one would have done. -/
theorem faultOf?_mapM (f : α → Except ε β) (as : List α) :
    faultOf? (as.mapM f) = as.findSome? fun a => faultOf? (f a) := by
  induction as with
  | nil => rfl
  | cons a as ih =>
      rw [List.mapM_cons, List.findSome?_cons]
      cases f a with
      | error e => rfl
      | ok b =>
          -- Collecting one more result cannot fail where the others did not.
          change faultOf? (as.mapM f >>= fun bs => .ok (b :: bs)) = _
          rw [faultOf?_bind_ok, ih]
          rfl

/-- A loop that only checks is passed exactly if every item passes, in whatever
    order the items stand. -/
theorem forM_eq_ok_iff {f : α → Except ε Unit} {as : List α} :
    as.forM f = .ok () ↔ ∀ a ∈ as, f a = .ok () := by
  induction as with
  | nil => exact ⟨fun _ a ha => absurd ha List.not_mem_nil, fun _ => rfl⟩
  | cons a as ih =>
      -- The loop over one more item is the check of it, and then the loop.
      change (f a >>= fun _ => as.forM f) = .ok () ↔ _
      rw [bind_eq_ok_iff, List.forall_mem_cons, ← ih]
      constructor
      · rintro ⟨_, ha, h⟩
        exact ⟨ha, h⟩
      · rintro ⟨ha, h⟩
        exact ⟨(), ha, h⟩

/-- A loop that only checks fails as its first failing item does. Unlike success,
    the fault depends on the order of the items. -/
theorem faultOf?_forM (f : α → Except ε Unit) (as : List α) :
    faultOf? (as.forM f) = as.findSome? fun a => faultOf? (f a) := by
  induction as with
  | nil => rfl
  | cons a as ih =>
      change faultOf? (f a >>= fun _ => as.forM f) = _
      rw [List.findSome?_cons]
      cases f a with
      | error e => rfl
      | ok _ => exact ih

/-! ## Faults in a row -/

/-- The first fault that there is, of those that are looked for in this order. -/
def firstFault (faults : List (Option ε)) : Option ε := faults.findSome? id

theorem firstFault_singleton (f : Option ε) : firstFault [f] = f := by
  cases f with
  | none => rfl
  | some e => rfl

theorem firstFault_append (es fs : List (Option ε)) :
    firstFault (es ++ fs) = (firstFault es).or (firstFault fs) := List.findSome?_append

theorem firstFault_concat (es : List (Option ε)) (f : Option ε) :
    firstFault (es ++ [f]) = (firstFault es).or f := by
  rw [firstFault_append, firstFault_singleton]

theorem firstFault_eq_none_iff {faults : List (Option ε)} :
    firstFault faults = none ↔ ∀ f ∈ faults, f = none := List.findSome?_eq_none_iff

theorem mem_of_firstFault {faults : List (Option ε)} {e : ε} (h : firstFault faults = some e) :
    some e ∈ faults := by
  rcases List.exists_of_findSome?_eq_some h with ⟨f, hmem, rfl⟩
  exact hmem

/-- A value, unless there is a fault. With a list of possible faults this is how most
    requests can be written down. -/
def granting (faults : List (Option ε)) (a : α) : Except ε α :=
  match firstFault faults with
  | some e => .error e
  | none => .ok a

@[simp] theorem granting_nil (a : α) : granting ([] : List (Option ε)) a = .ok a := rfl

@[simp] theorem granting_none (faults : List (Option ε)) (a : α) :
    granting (none :: faults) a = granting faults a := rfl

@[simp] theorem granting_some (e : ε) (faults : List (Option ε)) (a : α) :
    granting (some e :: faults) a = .error e := rfl

theorem granting_of_none {faults : List (Option ε)} (h : firstFault faults = none) (a : α) :
    granting faults a = .ok a := by
  rw [granting, h]

theorem granting_of_some {faults : List (Option ε)} {e : ε} (h : firstFault faults = some e)
    (a : α) : granting faults a = .error e := by
  rw [granting, h]

theorem faultOf?_granting (faults : List (Option ε)) (a : α) :
    faultOf? (granting faults a) = firstFault faults := by
  unfold granting
  cases firstFault faults with
  | none => rfl
  | some e => rfl

theorem granting_eq_ok_iff {faults : List (Option ε)} {a b : α} :
    granting faults a = .ok b ↔ firstFault faults = none ∧ a = b := by
  unfold granting
  cases firstFault faults with
  | none => simp only [Except.ok.injEq, true_and]
  | some e => simp only [reduceCtorEq, false_and]

theorem granting_eq_error_iff {faults : List (Option ε)} {a : α} {e : ε} :
    granting faults a = .error e ↔ firstFault faults = some e := by
  rw [← faultOf?_eq_some_iff, faultOf?_granting]

/-- The faults of a later stage count only where the earlier ones have none. The
    stage may even need their absence to come to anything, which is what makes
    this more than laying two rows end to end. -/
theorem granting_bind (es fs : List (Option ε)) (a : α) (b : β) (f : α → Except ε β)
    (h : firstFault es = none → f a = granting fs b) :
    (granting es a >>= f) = granting (es ++ fs) b := by
  cases he : firstFault es with
  | none =>
      -- Nothing in the first row, so the second decides.
      rw [granting_of_none he, granting, firstFault_append, he]
      exact h he
  | some e =>
      rw [granting_of_some he, granting, firstFault_append, he]
      rfl

/-- A loop that only checks, or any other check, is its own fault. -/
theorem eq_granting_of_faultOf? {x : Except ε Unit} {f : Option ε} (h : faultOf? x = f) :
    x = granting [f] () := by
  subst h
  cases x with
  | ok a => rfl
  | error e => rfl

/-- A loop that collects what its items come to has one fault, that of the
    first item with one. -/
theorem mapM_granting (fault : α → Option ε) (value : α → β) (as : List α) :
    (as.mapM fun a => granting [fault a] (value a)) =
      granting [as.findSome? fault] (as.map value) := by
  induction as with
  | nil => rfl
  | cons a as ih =>
      rw [List.mapM_cons, ih, List.findSome?_cons]
      cases fault a with
      | some e => rfl
      -- The item is collected, and its value goes in front of the others.
      | none =>
          rw [granting_none, granting_nil]
          exact granting_bind _ [] _ _ _ fun _ => rfl

end StoragePolicy
