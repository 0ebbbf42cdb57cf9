import FixProxy.Lib.Run
import Mathlib.Order.Lattice

/-! A metronome inside any transition relation. It beats at the first tick that is not before its
deadline, and the beat sets the next one. Its beats are told by the ticks alone: they keep the
distance, and no tick finds the last one too long ago. -/

namespace FixProxy
namespace Metronome
variable {τ : Type w} [LinearOrder τ] {renew : τ → τ} {deadline : τ} {ticks : List τ}

def beats (renew : τ → τ) (deadline : τ) : List τ → List τ
  | [] => []
  | now :: rest => if deadline ≤ now then now :: beats renew (renew now) rest else beats renew deadline rest

@[simp] theorem beats_cons_of_due {now : τ} (due : deadline ≤ now) (rest : List τ) :
    beats renew deadline (now :: rest) = now :: beats renew (renew now) rest := if_pos due

@[simp] theorem beats_cons_of_early {now : τ} (early : ¬ deadline ≤ now) (rest : List τ) :
    beats renew deadline (now :: rest) = beats renew deadline rest := if_neg early

private theorem deadline_le_of_mem (later : ∀ time, time ≤ renew time) {beat : τ}
    (member : beat ∈ beats renew deadline ticks) : deadline ≤ beat := by
  induction ticks generalizing deadline with
  | nil => cases member
  | cons now rest ih =>
    by_cases due : deadline ≤ now
    · rw [beats_cons_of_due due] at member
      rcases List.mem_cons.mp member with rfl | after
      · exact due
      · exact due.trans ((later now).trans (ih after))
    · rw [beats_cons_of_early due] at member
      exact ih member

/-- Any two beats keep the distance. -/
theorem spaced (later : ∀ time, time ≤ renew time) :
    (beats renew deadline ticks).Pairwise fun beat next => renew beat ≤ next := by
  induction ticks generalizing deadline with
  | nil => exact .nil
  | cons now rest ih =>
    by_cases due : deadline ≤ now
    · rw [beats_cons_of_due due]
      exact .cons (fun next member => deadline_le_of_mem later member) ih
    · rw [beats_cons_of_early due]
      exact ih

/-- At every tick from the first deadline on, the last beat is not too long ago. -/
theorem recent (forward : ticks.Pairwise (· ≤ ·)) (later : ∀ time, time < renew time) {now : τ} (tick : now ∈ ticks)
    (due : deadline ≤ now) : ∃ beat ∈ beats renew deadline ticks, beat ≤ now ∧ now < renew beat := by
  induction ticks generalizing deadline with
  | nil => cases tick
  | cons first rest ih =>
    obtain ⟨ahead, forward⟩ := List.pairwise_cons.mp forward
    by_cases beat : deadline ≤ first
    · rw [beats_cons_of_due beat]
      rcases List.mem_cons.mp tick with rfl | after
      · exact ⟨now, List.mem_cons_self, le_rfl, later now⟩
      · by_cases again : renew first ≤ now
        · obtain ⟨other, member, bounds⟩ := ih forward after again
          exact ⟨other, List.mem_cons_of_mem _ member, bounds⟩
        · exact ⟨first, List.mem_cons_self, ahead now after, not_le.mp again⟩
    · rw [beats_cons_of_early beat]
      rcases List.mem_cons.mp tick with rfl | after
      · exact absurd due beat
      · exact ih forward after due

/-- A system that beats when a tick is due, and else leaves its deadline alone, is a metronome. -/
theorem of_run {σ : Type u} {ε : Type v} {β : Type t} {step : σ → ε → σ → Prop} {time : σ → τ} {beaten : σ → List β}
    {tick : ε → Option τ} {beat : τ → β}
    (idle : ∀ {before event after}, step before event after → (∀ now, tick event = some now → ¬ time before ≤ now) →
      time after = time before ∧ beaten after = beaten before)
    (due : ∀ {before event after now}, step before event after → tick event = some now → time before ≤ now →
      time after = renew now ∧ beaten after = beaten before ++ [beat now])
    {first last : σ} {events : List ε} (run : Run step first events last) :
    beaten last = beaten first ++ (beats renew (time first) (events.filterMap tick)).map beat := by
  induction run with
  | nil => simp [beats]
  | @cons first middle last event rest head run ih =>
    rw [ih]
    cases heard : tick event with
    | none =>
      obtain ⟨same, quiet⟩ := idle head (by simp [heard])
      rw [List.filterMap_cons_none heard, same, quiet]
    | some now =>
      rw [List.filterMap_cons_some heard]
      by_cases past : time first ≤ now
      · obtain ⟨renewed, beaten⟩ := due head heard past
        rw [beats_cons_of_due past, renewed, beaten, List.append_assoc, List.map_cons, List.singleton_append]
      · obtain ⟨same, quiet⟩ := idle head fun other same => by
          rw [heard] at same
          cases same
          exact past
        rw [beats_cons_of_early past, same, quiet]

end Metronome
end FixProxy
