import FixProxy.Lib.Outcome
import Mathlib.Data.List.Perm.Basic

/-! Loops over a container that promises no order. What can be seen of the state is changed by
each iteration as a function of what can be seen before it; where these functions commute, the
order of the iterations cannot be seen either. -/

namespace FixProxy
namespace Outcome
variable {σ : Type u} {ι : Type v} {α : Type w} {body : ι → σ → Outcome σ} {sight : σ → α} {kept : α → Prop}
  {act : α → ι → α} {items order : List ι} {state : σ}

/-- Each iteration returns, and to the eye it is an action. -/
def Acts (body : ι → σ → Outcome σ) (sight : σ → α) (kept : α → Prop) (act : α → ι → α) : Prop :=
  ∀ item state, kept (sight state) →
    ∃ after, body item state = .done after ∧ sight after = act (sight state) item ∧ kept (sight after)

private theorem forEach_sight (acts : Acts body sight kept act) (start : kept (sight state)) (items : List ι) :
    ∃ last, forEach items body state = .done last ∧ sight last = items.foldl act (sight state) ∧ kept (sight last) := by
  induction items generalizing state with
  | nil => exact ⟨state, rfl, rfl, start⟩
  | cons item rest ih =>
    obtain ⟨middle, done, seen, still⟩ := acts item state start
    obtain ⟨last, loop, folded, final⟩ := ih still
    refine ⟨last, ?_, ?_, final⟩
    · rw [forEach, done, andThen_done]
      exact loop
    · rw [folded, seen, List.foldl_cons]

/-- Two orders of the same iterations come to the same. -/
theorem forEach_permuted [RightCommutative act] (acts : Acts body sight kept act) (start : kept (sight state))
    (permuted : order.Perm items) : ∃ last last', forEach order body state = .done last ∧
      forEach items body state = .done last' ∧ sight last = sight last' ∧ kept (sight last) := by
  obtain ⟨last, loop, folded, still⟩ := forEach_sight acts start order
  obtain ⟨last', loop', folded', -⟩ := forEach_sight acts start items
  refine ⟨last, last', loop, loop', ?_, still⟩
  rw [folded, folded']
  exact permuted.foldl_eq (sight state)

end Outcome
end FixProxy
