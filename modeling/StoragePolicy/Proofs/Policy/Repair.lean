import StoragePolicy.Proofs.Policy.Drafting

/-!
# Repairing Drafts in Place

A policy draft that cannot be built says which statement is to blame, and that
statement can be replaced where it stands. Doing so until there is nothing left
to blame always ends, and it ends with a policy: every replacement moves the
first failing position on, and there are only so many positions.

The measure is not the number of failing statements. That number would do, but
the first failing position says more: everything before it is right and stays
right, because a replacement touches one position only. `CleanBefore` is that
fact, it is the invariant of a run of repairs, and the bound, the order of the
positions and the frame all follow from it.

Which statements are put in is up to whoever repairs, as long as they can be
built. A run is therefore a relation, `Repairs`, and that a run can be brought
to its end is stated for every choice of statements.

## Main definitions

* `FailsAt`: The first position whose statement cannot be built.
* `CleanBefore`: All statements before a position can be built.
* `Replaced`: One position is replaced and all others are kept.
* `Repairs`: A run of replacements, each at the first failing position.
* `Repaired`: What a run of repairs leaves behind.
* `Repairable`: What can be done with a policy draft.

## Theorems

* `built_or_failsAt`: A policy draft can be built, or some position fails first.
* `cleanBefore_of_replace`: A repair moves the first failing position on.
* `Repairs.length_le`: There are at most as many repairs as positions.
* `Repairs.repaired`: Only repaired positions change.
* `exists_repairs`: A run of repairs can always be brought to its end.
* `repaired_in_place`: Policy drafts can be repaired in place.
-/

namespace StoragePolicy

namespace PolicyDraft

variable {p q r : PolicyDraft} {i j b : Nat} {d : StatementDraft}
  {steps : List (Nat × StatementDraft)}

/-- The position is the first one whose statement cannot be built. -/
def FailsAt (p : PolicyDraft) (i : Nat) : Prop :=
  ∃ d, FirstAt (Failing StatementDraft.build) p.statements i d

/-- The statements at all positions before this one can be built. This is what a run
    of repairs keeps and makes more of. -/
def CleanBefore (p : PolicyDraft) (b : Nat) : Prop :=
  ∀ j d, j < b → p.statements[j]? = some d → ¬ Failing StatementDraft.build d

/-- One draft is another one with a statement replaced: the frame of a replacement,
    which is all that a run of repairs needs to know of one. -/
structure Replaced (p : PolicyDraft) (i : Nat) (d : StatementDraft) (q : PolicyDraft) : Prop where
  /-- No position is added or lost. -/
  size : q.size = p.size
  /-- The statement stands where it was put. -/
  placed : q.statements[i]? = some d
  /-- All other positions are kept. -/
  kept : ∀ j, j ≠ i → q.statements[j]? = p.statements[j]?

/-- Statements that can be built are put, one after another, where the draft
    fails first at that time. -/
inductive Repairs : PolicyDraft → List (Nat × StatementDraft) → PolicyDraft → Prop where
  | done (p : PolicyDraft) : Repairs p [] p
  | step {p q r : PolicyDraft} {i : Nat} {d : StatementDraft}
      {steps : List (Nat × StatementDraft)} (hfails : p.FailsAt i)
      (hd : ∃ s, d.build = .ok s) (hq : p.replace i d = .ok q) (hr : Repairs q steps r) :
      Repairs p ((i, d) :: steps) r

/-! ## One replacement -/

/-- A replacement replaces. -/
theorem replaced_of_replace (h : p.replace i d = .ok q) : Replaced p i d q := by
  rcases replace_eq_ok_iff.mp h with ⟨hi, rfl⟩
  refine ⟨List.length_set, List.getElem?_set_self hi, fun j hj => ?_⟩
  exact List.getElem?_set_ne hj.symm

theorem FailsAt.lt_size (h : p.FailsAt i) : i < p.size := by
  rcases h with ⟨d, hd⟩
  exact (List.getElem?_eq_some_iff.mp hd.place).1

theorem FailsAt.cleanBefore (h : p.FailsAt i) : p.CleanBefore i := by
  rcases h with ⟨d, hd⟩
  exact hd.passed

/-- Before the first position there is nothing to be clean, so a run can begin with
    any draft. -/
theorem cleanBefore_zero (p : PolicyDraft) : p.CleanBefore 0 := fun _ _ hj =>
  absurd hj (Nat.not_lt_zero _)

/-- What fails first does not stand where all is clean. -/
theorem CleanBefore.le (h : p.CleanBefore b) (hi : p.FailsAt i) : b ≤ i := by
  rcases hi with ⟨d, hd⟩
  by_contra hlt
  exact h i d (by omega) hd.place hd.holds

/-- A draft is built, or there is a first position to blame. Which of the two it is
    does not depend on how the draft came about. -/
theorem built_or_failsAt (p : PolicyDraft) :
    (∃ policy, p.build = .ok policy) ∨ ∃ i, p.FailsAt i := by
  cases hbuild : p.build with
  | ok policy => exact Or.inl ⟨policy, rfl⟩
  | error f =>
      rcases (p.itemwise_build.refused_at f).mp hbuild with ⟨i, d, hfirst, -⟩
      exact Or.inr ⟨i, d, hfirst⟩

/-- A position of a policy is what the draft there came to. -/
theorem built_at {policy : Policy} (h : p.build = .ok policy) (hd : p.statements[j]? = some d) :
    ∃ s, d.build = .ok s ∧ policy.statements[j]? = some s := by
  rcases (p.itemwise_build.granted policy).mp h with ⟨ss, hss, rfl⟩
  rcases List.getElem?_eq_some_iff.mp hd with ⟨hj, rfl⟩
  have hj' : j < ss.length := by
    rw [← hss.length_eq]
    exact hj
  exact ⟨ss[j], hss.get hj hj', List.getElem?_eq_getElem hj'⟩

/-- A draft that is clean throughout is built. -/
theorem CleanBefore.exists_build (h : p.CleanBefore b) (hb : p.size ≤ b) :
    ∃ policy, p.build = .ok policy := by
  rcases p.built_or_failsAt with hbuilt | ⟨i, hi⟩
  · exact hbuilt
  · have hle := h.le hi
    have hlt := hi.lt_size
    omega

/-- A repair of the first failing position moves it on: what was clean before
    stays clean, and the position itself is clean now. -/
theorem cleanBefore_of_replace (hfails : p.FailsAt i) (hd : ∃ s, d.build = .ok s)
    (h : p.replace i d = .ok q) : q.CleanBefore (i + 1) := by
  have hreplaced := replaced_of_replace h
  intro j e hj he
  by_cases hji : j = i
  · subst hji
    rw [hreplaced.placed] at he
    injection he with he
    rw [← he, not_failing_iff]
    exact hd
  -- Any other position up to this one lies before it, and was clean.
  · rw [hreplaced.kept j hji] at he
    exact hfails.cleanBefore j e (by omega) he

/-! ## Runs of repairs -/

/-- Only positions that were not yet clean are repaired. -/
theorem Repairs.le_of_mem (h : Repairs p steps r) :
    ∀ {b}, p.CleanBefore b → ∀ step ∈ steps, b ≤ step.1 := by
  induction h with
  | done p => exact fun _ step hstep => absurd hstep List.not_mem_nil
  | step hfails hd hq _ ih =>
      intro b hb step hstep
      have hfirst := hb.le hfails
      rcases List.mem_cons.mp hstep with rfl | hrest
      · exact hfirst
      · -- The rest of the run stays behind the position that was just repaired.
        have hlater := ih (cleanBefore_of_replace hfails hd hq) step hrest
        omega

/-- Every repair uses up a position that was not yet clean. -/
theorem Repairs.add_length_le (h : Repairs p steps r) :
    ∀ {b}, p.CleanBefore b → b ≤ p.size → b + steps.length ≤ p.size := by
  induction h with
  | done p =>
      intro b _ hb
      rw [List.length_nil]
      exact hb
  | step hfails hd hq _ ih =>
      intro b hb _
      -- The repaired position is `b` or a later one, and the rest of the run stays behind it.
      have hfirst := hb.le hfails
      have hlt := hfails.lt_size
      have hsize := (replaced_of_replace hq).size
      have hrest := ih (cleanBefore_of_replace hfails hd hq) (by omega)
      rw [List.length_cons]
      omega

/-- There are at most as many repairs as positions, because every repair moves the
    first failing position further back. -/
theorem Repairs.length_le (h : Repairs p steps r) : steps.length ≤ p.size := by
  have := h.add_length_le p.cleanBefore_zero (Nat.zero_le _)
  omega

/-- What a run of repairs leaves behind. -/
structure Repaired (p : PolicyDraft) (steps : List (Nat × StatementDraft)) (r : PolicyDraft) :
    Prop where
  /-- No position is added or lost. -/
  size : r.size = p.size
  /-- At each position that was repaired stands what was put there. -/
  placed : ∀ step ∈ steps, r.statements[step.1]? = some step.2
  /-- All other positions are as before. -/
  kept : ∀ j, (∀ step ∈ steps, step.1 ≠ j) → r.statements[j]? = p.statements[j]?
  /-- They also come to what they would have come to before. -/
  built : ∀ policy j d, r.build = .ok policy → (∀ step ∈ steps, step.1 ≠ j) →
    p.statements[j]? = some d → ∃ s, d.build = .ok s ∧ policy.statements[j]? = some s

theorem Repairs.kept (h : Repairs p steps r) (hj : ∀ step ∈ steps, step.1 ≠ j) :
    r.statements[j]? = p.statements[j]? := by
  induction h with
  | done p => rfl
  | step hfails hd hq _ ih =>
      rcases List.forall_mem_cons.mp hj with ⟨hi, hrest⟩
      rw [ih hrest, (replaced_of_replace hq).kept j hi.symm]

theorem Repairs.placed (h : Repairs p steps r) :
    ∀ step ∈ steps, r.statements[step.1]? = some step.2 := by
  induction h with
  | done p => exact List.forall_mem_nil _
  | step hfails hd hq hr ih =>
      refine List.forall_mem_cons.mpr ⟨?_, ih⟩
      -- Later repairs are further on, so none of them undoes this one.
      have hlater := hr.le_of_mem (cleanBefore_of_replace hfails hd hq)
      rw [hr.kept fun step hstep => ?_]
      · exact (replaced_of_replace hq).placed
      · have hnext := hlater step hstep
        omega

theorem Repairs.size_eq (h : Repairs p steps r) : r.size = p.size := by
  induction h with
  | done p => rfl
  | step _ _ hq _ ih => rw [ih, (replaced_of_replace hq).size]

/-- Only repaired positions change, and what was put there is still there in
    the end. -/
theorem Repairs.repaired (h : Repairs p steps r) : Repaired p steps r where
  size := h.size_eq
  placed := h.placed
  kept _ := h.kept
  built _ _ _ hbuild hj hd := built_at hbuild ((h.kept hj).trans hd)

/-- A run of repairs with one repair more. -/
theorem Repairs.concat (h : Repairs p steps r) (hfails : r.FailsAt i)
    (hd : ∃ s, d.build = .ok s) (hq : r.replace i d = .ok q) :
    Repairs p (steps ++ [(i, d)]) q := by
  induction h with
  | done p => exact .step hfails hd hq (.done q)
  | step hfails' hd' hq' _ ih => exact .step hfails' hd' hq' (ih hfails hq)

/-- Whatever statements are at hand for the positions, a run of repairs with
    them can be brought to its end. -/
theorem exists_repairs {fix : Nat → StatementDraft} (hfix : ∀ i, ∃ s, (fix i).build = .ok s)
    (n : Nat) (p : PolicyDraft) (hn : p.size ≤ b + n) (hb : p.CleanBefore b) :
    ∃ steps r, Repairs p steps r ∧ (∀ step ∈ steps, step.2 = fix step.1) ∧
      ∃ policy, r.build = .ok policy := by
  -- On how many positions may still fail.
  induction n generalizing p b with
  | zero => exact ⟨[], p, .done p, List.forall_mem_nil _, hb.exists_build hn⟩
  | succ n ih =>
      rcases p.built_or_failsAt with hbuilt | ⟨i, hi⟩
      · exact ⟨[], p, .done p, List.forall_mem_nil _, hbuilt⟩
      · -- One repair, after which one position more is clean.
        have hfirst := hb.le hi
        have hq := replace_ok hi.lt_size (fix i)
        have hsize := (replaced_of_replace hq).size
        rcases ih _ (by omega) (cleanBefore_of_replace hi (hfix i) hq) with
          ⟨steps, r, hr, hsteps, hbuilt⟩
        exact ⟨(i, fix i) :: steps, r, .step hi (hfix i) hq hr,
          List.forall_mem_cons.mpr ⟨rfl, hsteps⟩, hbuilt⟩

/-! ## What can be done with a draft -/

/-- What can be done with a policy draft, given the calls that made the draft at
    each of its positions. -/
structure Repairable (histories : List (List StatementDraft.Call)) (p : PolicyDraft) : Prop where
  /-- At each position stands what the calls for it made. -/
  collected : p.statements = histories.map StatementDraft.made
  /-- The draft is built exactly if the calls for every position were sound. -/
  sound : (∃ policy, p.build = .ok policy) ↔ ∀ calls ∈ histories, StatementDraft.Sound calls
  /-- The policy has what the positions come to, in their order. -/
  granted : ∀ policy, p.build = .ok policy ↔
    List.Forall₂ (fun d s => d.build = .ok s) p.statements policy.statements
  /-- Otherwise the first position that fails is to blame. -/
  refused : ∀ f, p.build = .error f ↔
    ∃ i d, FirstAt (Failing StatementDraft.build) p.statements i d ∧ d.build = .error f
  /-- Nothing can be put where there is no position. -/
  outside : ∀ i d, p.size ≤ i →
    p.replace i d = .error (.noStatement i) ∧ (Fault.noStatement i).code = .malformedInput
  /-- Everywhere else anything can be put, without touching other positions. -/
  inside : ∀ i d, i < p.size → ∃ q, p.replace i d = .ok q ∧ Replaced p i d q
  /-- What can be built and is put where the draft fails first moves that on. -/
  advances : ∀ i d q, p.FailsAt i → (∃ s, d.build = .ok s) → p.replace i d = .ok q →
    (∃ policy, q.build = .ok policy) ∨ ∃ j, i < j ∧ q.FailsAt j
  /-- A run of repairs is no longer than the draft and touches only what it
      repairs. -/
  bounded : ∀ steps r, Repairs p steps r → steps.length ≤ p.size ∧ Repaired p steps r
  /-- It has come to a policy or goes on, with any statement that can be built. -/
  continued : ∀ steps r, Repairs p steps r → (∃ policy, r.build = .ok policy) ∨
    ∃ i, r.FailsAt i ∧ ∀ d, (∃ s, d.build = .ok s) → ∃ q, Repairs p (steps ++ [(i, d)]) q
  /-- It can be brought to its end with any such statements for the positions. -/
  finished : ∀ fix : Nat → StatementDraft, (∀ i, ∃ s, (fix i).build = .ok s) →
    ∃ steps r, Repairs p steps r ∧ (∀ step ∈ steps, step.2 = fix step.1) ∧
      ∃ policy, r.build = .ok policy

/-- Whatever calls a policy draft came about by, it can be repaired. -/
theorem Reached.repairable {histories : List (List StatementDraft.Call)}
    (h : Reached histories p) : Repairable histories p where
  collected := h.statements_eq
  sound := by
    rw [p.itemwise_build.exists_ok_iff, h.statements_eq, List.forall_mem_map]
    -- Position by position, a draft is built exactly if its calls were sound.
    exact forall₂_congr fun _ _ => StatementDraft.exists_build_made_iff
  granted policy := by
    rw [p.itemwise_build.granted policy]
    constructor
    · rintro ⟨ss, hss, rfl⟩
      exact hss
    · intro hss
      exact ⟨policy.statements, hss, rfl⟩
  refused := p.itemwise_build.refused_at
  outside i d hi := ⟨if_neg (Nat.not_lt.mpr hi), rfl⟩
  inside i d hi := ⟨_, replace_ok hi d, replaced_of_replace (replace_ok hi d)⟩
  advances i d q hi hd hq := by
    rcases q.built_or_failsAt with hbuilt | ⟨j, hj⟩
    · exact Or.inl hbuilt
    · exact Or.inr ⟨j, (cleanBefore_of_replace hi hd hq).le hj, hj⟩
  bounded steps r hr := ⟨hr.length_le, hr.repaired⟩
  continued steps r hr := by
    rcases r.built_or_failsAt with hbuilt | ⟨i, hi⟩
    · exact Or.inl hbuilt
    · exact Or.inr ⟨i, hi, fun d hd => ⟨_, hr.concat hi hd (replace_ok hi.lt_size d)⟩⟩
  finished fix hfix := exists_repairs hfix p.size p (Nat.le_add_left _ _) p.cleanBefore_zero

/-- Statement drafts are judged by what is left of their calls, and policy drafts
    can be repaired in place. The position that fails first can be told, a draft
    that is put there decides again, and all other positions keep theirs. A row of
    such repairs comes to an end, and the end is a policy. -/
theorem repaired_in_place :
    (∀ calls, Judged Statement.raw Statement.Registered (StatementDraft.words calls)
        (StatementDraft.words calls).refusal? (StatementDraft.made calls).build ∧
      ((∃ s, (StatementDraft.made calls).build = .ok s) ↔ StatementDraft.Sound calls)) ∧
    ∀ histories p, Reached histories p → Repairable histories p :=
  ⟨fun calls => ⟨StatementDraft.judged_made calls, StatementDraft.exists_build_made_iff⟩,
    fun _ _ h => h.repairable⟩

/-- Of three statements, the first is given its effect twice, the second not at
    all, and the third an unknown tag. -/
theorem repaired_in_place_three :
    let first : List StatementDraft.Call := [.effect "Maybe", .action "get-object", .allow]
    let second : List StatementDraft.Call := [.actions ["list-object"]]
    let third : List StatementDraft.Call := [.deny, .action "fly"]
    let p : PolicyDraft := ⟨[.made first, .made second, .made third]⟩
    let d : StatementDraft := .made [.deny]
    Reached [first, second, third] p ∧ p.build = .error (.unknownEffect "") ∧
      p.replace 3 d = .error (.noStatement 3) ∧
      ∃ steps r policy, Repairs p steps r ∧ steps.length ≤ 3 ∧ r.build = .ok policy ∧
        policy.statements[0]? = some ⟨.allow, ["get-object"]⟩ := by
  intro first second third p d
  have hp : Reached [first, second, third] p := .push third (.push second (.push first .empty))
  have h := repaired_in_place.2 _ _ hp
  have hd : ∃ s, d.build = .ok s := ⟨⟨.deny, []⟩, rfl⟩
  have hfirst : (StatementDraft.made first).build = .ok ⟨.allow, ["get-object"]⟩ := by
    decide +kernel +zetaReduce
  have hsecond : FirstAt (Failing StatementDraft.build) p.statements 1 (.made second) := by
    refine ⟨rfl, ⟨.unknownEffect "", rfl⟩, fun j b hj hb => ?_⟩
    have hj : j = 0 := by omega
    subst hj
    injection hb with hb
    rw [← hb, not_failing_iff]
    exact ⟨_, hfirst⟩
  rcases h.finished (fun _ => d) fun _ => hd with ⟨steps, r, hr, -, policy, hbuild⟩
  rcases h.bounded steps r hr with ⟨hlength, hrepaired⟩
  refine ⟨hp, (h.refused _).mpr ⟨1, _, hsecond, rfl⟩, (h.outside 3 d (Nat.le_refl 3)).1, steps, r,
    policy, hr, hlength, hbuild, ?_⟩
  -- What stands before the first failing position is never repaired.
  have hlater := hr.le_of_mem (FailsAt.cleanBefore ⟨_, hsecond⟩)
  have hkept : ∀ step ∈ steps, step.1 ≠ 0 := by
    intro step hstep
    have hle := hlater step hstep
    omega
  rcases hrepaired.built policy 0 _ hbuild hkept rfl with ⟨s, hs, hplace⟩
  rw [hfirst] at hs
  injection hs with hs
  rw [hplace, ← hs]

end PolicyDraft

end StoragePolicy
