import Mathlib.Logic.Function.Basic

/-! Two partial functions that are inverses of each other: who is whose partner, seen
from either side. Partners are joined while both are free, and parted together. -/

namespace FixProxy

def Matched (left : α → Option β) (right : β → Option α) : Prop := ∀ a b, left a = some b ↔ right b = some a

namespace Matched
variable {left : α → Option β} {right : β → Option α} [DecidableEq α] [DecidableEq β] {a : α} {b : β}

omit [DecidableEq α] [DecidableEq β] in
/-- Nobody has two partners. -/
theorem unique (matched : Matched left right) {other : α} (first : left a = some b) (second : left other = some b) :
    a = other :=
  Option.some.inj (((matched a b).mp first).symm.trans ((matched other b).mp second))

theorem join (matched : Matched left right) (freeLeft : left a = none) (freeRight : right b = none) :
    Matched (Function.update left a (some b)) (Function.update right b (some a)) := by
  intro x y
  by_cases hx : x = a
  · subst x
    by_cases hy : y = b
    · subst y
      simp
    · have single : right y ≠ some a := by
        intro taken
        rw [(matched a y).mpr taken] at freeLeft
        cases freeLeft
      simp [hy, single, Ne.symm hy]
  · by_cases hy : y = b
    · subst y
      have single : left x ≠ some b := by
        intro taken
        rw [(matched x b).mp taken] at freeRight
        cases freeRight
      simp [hx, single, Ne.symm hx]
    · simpa [hx, hy] using matched x y

theorem part (matched : Matched left right) (joined : left a = some b) :
    Matched (Function.update left a none) (Function.update right b none) := by
  intro x y
  by_cases hx : x = a
  · subst x
    by_cases hy : y = b
    · simp [hy]
    · have other : right y ≠ some a := by
        intro taken
        rw [(matched a y).mpr taken] at joined
        exact hy (Option.some.inj joined)
      simp [hy, other]
  · by_cases hy : y = b
    · subst y
      have other : left x ≠ some b := fun taken => hx (matched.unique taken joined)
      simp [hx, other]
    · simpa [hx, hy] using matched x y

end Matched
end FixProxy
