import StoragePolicy.Fault

/-!
# Effects

Whether a statement grants its actions or refuses them. The set is closed: a
written effect is one of two words, letter for letter, and each has its code on
chain, where `0` stands for no effect and is never produced.

## Main definitions

* `Effect`: The two effects.
* `Effect.text`, `Effect.parse`: Their written form and its reading.
* `Effect.code`: Their chain code.

## Theorems

* `Effect.parse_text`: A written effect is read back.
* `Effect.parse_eq_ok_iff`: Nothing else is read.
* `Effect.code_injective`: Different effects have different codes.
-/

namespace StoragePolicy

/-- Whether a statement grants or refuses its actions. -/
inductive Effect where
  | allow
  | deny
  deriving DecidableEq

namespace Effect

/-- The written form. -/
def text : Effect → String
  | .allow => "Allow"
  | .deny => "Deny"

/-- Reads a written effect. -/
def parse (s : String) : Except Fault Effect :=
  if s = "Allow" then .ok .allow
  else if s = "Deny" then .ok .deny
  else .error (.unknownEffect s)

/-- The code on chain. -/
def code : Effect → Int32
  | .allow => 1
  | .deny => 2

@[simp] theorem parse_text (e : Effect) : parse e.text = .ok e := by
  cases e <;> rfl

theorem parse_eq_ok_iff {s : String} {e : Effect} : parse s = .ok e ↔ s = e.text := by
  constructor
  · intro h
    by_cases hallow : s = "Allow"
    · rw [parse, if_pos hallow] at h
      injection h with h
      rw [← h]
      exact hallow
    · by_cases hdeny : s = "Deny"
      · rw [parse, if_neg hallow, if_pos hdeny] at h
        injection h with h
        rw [← h]
        exact hdeny
      · rw [parse, if_neg hallow, if_neg hdeny] at h
        injection h
  · rintro rfl
    exact parse_text e

theorem code_injective {a b : Effect} (h : a.code = b.code) : a = b := by
  cases a <;> cases b <;> first | rfl | exact absurd h (by decide)

end Effect

end StoragePolicy
