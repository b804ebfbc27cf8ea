import StoragePolicy.Proofs.FirstFault
import StoragePolicy.Proofs.Transcript

/-!
# Requests in Another Order

Requests often concern one part of a state each: a key of a table, an account of
a ledger. What such a request is answered depends on its own part only, and it
changes no other. Then a part does not notice what is asked about the others. It
goes through a whole run exactly as it would go through the requests about
itself, asked alone.

So two runs that ask the same about every part, each part's requests in the same
order, cannot be told apart at any part: the parts end up the same and every
request fares the same. How requests about different parts were mixed is lost.

What a request fares is not all of its answer. An answer may well depend on
everything that came before, such as a running number does, and then only what
is left of it by a verdict is compared.

## Main definitions

* `about`: The items with a key.
* `Reordered`: The same items, those with one key in the same order.
* `Keyed`: Every request concerns the part under its key.
* `Transcript.verdicts`: How the requests with a key fared.

## Theorems

* `Reordered.swap`: Neighbours with different keys may change places.
* `perm_of_about`: Items are determined by those with each key, up to order.
* `Keyed.alone`: A part goes through a run as if asked alone.
* `Keyed.agree`, `Keyed.granted_perm`: Two orders cannot be told apart.
-/

namespace StoragePolicy

section About

variable {α κ : Type} [DecidableEq κ]

/-- The items with a key, in their order. -/
def about (key : α → κ) (k : κ) (items : List α) : List α := items.filter fun a => key a = k

/-- The same items in another order, in which those with one key stand among
    themselves as they stood. -/
structure Reordered (key : α → κ) (first second : List α) : Prop where
  perm : first.Perm second
  order : ∀ k, about key k first = about key k second

theorem about_concat (key : α → κ) (k : κ) (items : List α) (a : α) :
    about key k (items ++ [a]) = about key k items ++ if key a = k then [a] else [] := by
  rw [about, List.filter_append, about]
  by_cases h : key a = k
  · rw [List.filter_cons_of_pos (by rwa [decide_eq_true_eq]), List.filter_nil, if_pos h]
  · rw [List.filter_cons_of_neg (by rwa [decide_eq_true_eq]), List.filter_nil, if_neg h]

theorem about_map {β : Type} (key : α → κ) (k : κ) (f : β → α) (items : List β) :
    about key k (items.map f) = (about (fun b => key (f b)) k items).map f := by
  rw [about, List.filter_map, about]
  rfl

/-- Neighbours with different keys may change places, as the order of items with one
    key does not notice it. -/
theorem Reordered.swap {key : α → κ} (before : List α) {a b : α} (later : List α)
    (hne : key a ≠ key b) :
    Reordered key (before ++ a :: b :: later) (before ++ b :: a :: later) := by
  refine ⟨(List.Perm.swap b a later).append_left before, fun k => ?_⟩
  simp only [about, List.filter_append]
  refine congrArg _ ?_
  -- At most one of the two has the key, and where it stands alone no order shows.
  by_cases ha : key a = k
  · have hb : ¬ key b = k := fun hb => hne (ha.trans hb.symm)
    simp only [List.filter_cons, ha, hb, decide_true, decide_false, if_true, reduceCtorEq,
      if_false]
  · simp only [List.filter_cons, ha, decide_false, reduceCtorEq, if_false]

theorem Reordered.trans {key : α → κ} {first second third : List α}
    (h : Reordered key first second) (h' : Reordered key second third) :
    Reordered key first third :=
  ⟨h.perm.trans h'.perm, fun k => (h.order k).trans (h'.order k)⟩

/-- Items are determined by those with each key, up to order. The counts of an item
    are the same, since it is counted among those with its key. -/
theorem perm_of_about [DecidableEq α] {key : α → κ} {first second : List α}
    (h : ∀ k, about key k first = about key k second) : first.Perm second := by
  rw [List.perm_iff_count]
  intro a
  -- Items that are the same have the same key, so they are counted where it is looked for.
  have hcount : ∀ items : List α, List.count a items = List.count a (about key (key a) items) :=
    fun items => (List.count_filter (by rw [decide_eq_true_eq])).symm
  rw [hcount first, hcount second, h]

end About

variable {ι ο σ ε α κ ν φ : Type} [DecidableEq κ]

/-- Every request concerns the part of the state under its key: from equal parts
    it fares the same and leaves equal parts, and all other parts stay. -/
structure Keyed (serve : ι → σ → ο × σ) (key : ι → κ) (view : κ → σ → ν) (verdict : ο → φ) :
    Prop where
  own : ∀ request s t, view (key request) s = view (key request) t →
    verdict (serve request s).1 = verdict (serve request t).1 ∧
      view (key request) (serve request s).2 = view (key request) (serve request t).2
  other : ∀ request s k, key request ≠ k → view k (serve request s).2 = view k s

namespace Transcript

/-- How the requests with a key fared, in their order. -/
def verdicts (verdict : ο → φ) (key : ι → κ) (k : κ) (t : Transcript ι ο σ) : List (ι × φ) :=
  (about (fun exchange => key exchange.1) k t.exchanges).map fun exchange =>
    (exchange.1, verdict exchange.2)

theorem mem_verdicts {verdict : ο → φ} {key : ι → κ} {k : κ} {t : Transcript ι ο σ} {request : ι}
    {v : φ} :
    (request, v) ∈ t.verdicts verdict key k ↔
      ∃ answer, (request, answer) ∈ t.exchanges ∧ key request = k ∧ verdict answer = v := by
  simp only [verdicts, about, List.mem_map, List.mem_filter, decide_eq_true_eq, Prod.mk.injEq,
    Prod.exists]
  constructor
  · rintro ⟨_, answer, ⟨hmem, hkey⟩, rfl, hverdict⟩
    exact ⟨answer, hmem, hkey, hverdict⟩
  · rintro ⟨answer, hmem, hkey, hverdict⟩
    exact ⟨request, answer, ⟨hmem, hkey⟩, rfl, hverdict⟩

theorem verdicts_ask (serve : ι → σ → ο × σ) (verdict : ο → φ) (key : ι → κ) (k : κ)
    (t : Transcript ι ο σ) (request : ι) :
    (t.ask serve request).verdicts verdict key k = t.verdicts verdict key k ++
      if key request = k then [(request, verdict (serve request t.state).1)] else [] := by
  rw [verdicts, ask, about_concat, List.map_append, verdicts]
  by_cases h : key request = k
  · rw [if_pos h, if_pos h, List.map_singleton]
  · rw [if_neg h, if_neg h, List.map_nil]

/-- The granted requests with a key are read off how those with the key fared. -/
theorem about_granted (key : ι → κ) (k : κ) (t : Transcript ι (Except ε α) σ) :
    about key k t.granted = (t.verdicts faultOf? key k).filterMap fun
      | (request, none) => some request
      | (_, some _) => none := by
  rcases t with ⟨exchanges, state⟩
  simp only [granted, verdicts, about, List.filterMap_map]
  induction exchanges with
  | nil => rfl
  | cons exchange rest ih =>
      rcases exchange with ⟨request, answer⟩
      by_cases h : key request = k
      · -- Either side keeps the request if it was granted and drops it otherwise.
        cases answer with
        | ok _ => simp [h, faultOf?, ih]
        | error _ => simp [h, faultOf?, ih]
      · cases answer with
        | ok _ => simp [h, ih]
        | error _ => simp [h, ih]

end Transcript

namespace Keyed

variable {serve : ι → σ → ο × σ} {key : ι → κ} {view : κ → σ → ν} {verdict : ο → φ}

/-- A part goes through a run as if only the requests about it were asked. The others
    are answered beside it and leave no trace there. -/
theorem alone (h : Keyed serve key view verdict) (start : σ) (requests : List ι) (k : κ) :
    view k (Transcript.of serve start requests).state =
        view k (Transcript.of serve start (about key k requests)).state ∧
      (Transcript.of serve start requests).verdicts verdict key k =
        (Transcript.of serve start (about key k requests)).verdicts verdict key k := by
  induction requests using List.reverseRecOn with
  | nil => exact ⟨rfl, rfl⟩
  | append_singleton requests request ih =>
      rcases ih with ⟨hview, hverdicts⟩
      rw [about_concat, Transcript.of_concat, Transcript.verdicts_ask]
      -- A request about the part is asked in both runs and finds the same there; one
      -- about another part is asked in the first only, where it is not noticed.
      by_cases hkey : key request = k
      · subst hkey
        rcases h.own request _ _ hview with ⟨hverdict, hafter⟩
        rw [if_pos rfl, if_pos rfl, Transcript.of_concat, Transcript.verdicts_ask, if_pos rfl]
        exact ⟨hafter, by rw [hverdicts, hverdict]⟩
      · rw [if_neg hkey, if_neg hkey, List.append_nil, List.append_nil]
        exact ⟨(h.other request _ k hkey).trans hview, hverdicts⟩

/-- Two orders that agree on a key cannot be told apart there: the part is the same,
    and so is how each request about it fared. -/
theorem agree (h : Keyed serve key view verdict) (start : σ) {first second : List ι} {k : κ}
    (horder : about key k first = about key k second) :
    view k (Transcript.of serve start first).state =
        view k (Transcript.of serve start second).state ∧
      (Transcript.of serve start first).verdicts verdict key k =
        (Transcript.of serve start second).verdicts verdict key k := by
  rcases h.alone start first k with ⟨hview₁, hverdicts₁⟩
  rcases h.alone start second k with ⟨hview₂, hverdicts₂⟩
  rw [hview₁, hview₂, hverdicts₁, hverdicts₂, horder]
  exact ⟨rfl, rfl⟩

/-- Two orders that agree on every key grant the same requests, if a request
    notices no more of the state than what is kept under its key. How often a
    request is granted is the same as well, so the granted ones are a permutation
    of each other. -/
theorem granted_perm [DecidableEq ι] {serve : ι → σ → Except ε α × σ} {key : ι → κ}
    {view : κ → σ → ν} (h : Keyed serve key view faultOf?) (start : σ) {first second : List ι}
    (horder : ∀ k, about key k first = about key k second) :
    (Transcript.of serve start first).granted.Perm
      (Transcript.of serve start second).granted := by
  have hgranted : ∀ k, about key k (Transcript.of serve start first).granted =
      about key k (Transcript.of serve start second).granted := by
    intro k
    rw [Transcript.about_granted, Transcript.about_granted, (h.agree start (horder k)).2]
  exact perm_of_about hgranted

end Keyed

end StoragePolicy
