import Mathlib.Data.List.Induction

/-! Finite runs of a labelled transition relation, with the two induction rules
used everywhere else: an invariant of every step is an invariant of every run,
and a run over a concatenation passes through the state in between. -/

namespace FixProxy

inductive Run {σ : Type u} {ε : Type v} (step : σ → ε → σ → Prop) : σ → List ε → σ → Prop where
  | nil (state : σ) : Run step state [] state
  | cons {first middle last : σ} {event : ε} {events : List ε}
      (head : step first event middle) (rest : Run step middle events last) :
      Run step first (event :: events) last

namespace Run
variable {σ : Type u} {ε : Type v} {step : σ → ε → σ → Prop}

theorem single {before after : σ} {event : ε} (performed : step before event after) :
    Run step before [event] after :=
  .cons performed (.nil _)

theorem of_foldlM {next : σ → ε → Option σ} (sound : ∀ {before event after}, next before event = some after → step before event after)
    {events : List ε} {first last : σ} (computed : events.foldlM next first = some last) : Run step first events last := by
  induction events generalizing first with
  | nil =>
    cases computed
    exact .nil _
  | cons event rest ih =>
    obtain ⟨middle, performed, continued⟩ := Option.bind_eq_some_iff.mp computed
    exact .cons (sound performed) (ih continued)

theorem append {first middle last : σ} {events later : List ε}
    (run : Run step first events middle) (rest : Run step middle later last) :
    Run step first (events ++ later) last := by
  induction run with
  | nil => exact rest
  | cons head _ ih => exact .cons head (ih rest)

theorem snoc {first middle last : σ} {events : List ε} {event : ε}
    (run : Run step first events middle) (performed : step middle event last) :
    Run step first (events ++ [event]) last :=
  run.append (single performed)

theorem split {first last : σ} {events later : List ε}
    (run : Run step first (events ++ later) last) :
    ∃ middle, Run step first events middle ∧ Run step middle later last := by
  induction events generalizing first with
  | nil => exact ⟨first, .nil _, run⟩
  | cons event events ih =>
    cases run with
    | cons head rest =>
      obtain ⟨middle, before, after⟩ := ih rest
      exact ⟨middle, .cons head before, after⟩

/-- The run rule: what every step keeps, every run keeps. -/
theorem preserves (invariant : σ → Prop)
    (kept : ∀ {before event after}, step before event after → invariant before → invariant after)
    {first last : σ} {events : List ε} (run : Run step first events last) (holds : invariant first) :
    invariant last := by
  induction run with
  | nil => exact holds
  | cons head _ ih => exact ih (kept head holds)

/-- A run seen from its end, for what is said about the past. -/
theorem history {first last : σ} {events : List ε} (motive : List ε → σ → Prop) (nil : motive [] first)
    (snoc : ∀ {events event middle last}, Run step first events middle → step middle event last →
      motive events middle → motive (events ++ [event]) last)
    (run : Run step first events last) : motive events last := by
  induction events using List.reverseRecOn generalizing last with
  | nil =>
    cases run
    exact nil
  | append_singleton events event ih =>
    obtain ⟨middle, before, after⟩ := run.split
    cases after with
    | cons performed rest =>
      cases rest
      exact snoc before performed (ih before)

/-- What every step keeps from being regained, and what holds at the end, held all along. -/
theorem back (invariant held : σ → Prop)
    (kept : ∀ {before event after}, step before event after → invariant before → invariant after)
    (backward : ∀ {before event after}, step before event after → invariant before → held after → held before)
    {first last : σ} {events : List ε} (run : Run step first events last) (start : invariant first) (final : held last) :
    held first ∧ Run (fun before event after => step before event after ∧ held after) first events last := by
  induction run with
  | nil => exact ⟨final, .nil _⟩
  | cons head _ ih =>
    obtain ⟨middle, rest⟩ := ih (kept head start) final
    exact ⟨backward head start middle, .cons ⟨head, middle⟩ rest⟩

theorem mono {other : σ → ε → σ → Prop}
    (weaker : ∀ {before event after}, step before event after → other before event after)
    {first last : σ} {events : List ε} (run : Run step first events last) : Run other first events last := by
  induction run with
  | nil => exact .nil _
  | cons head _ ih => exact .cons (weaker head) ih

/-- The steps of a run, seen as steps of another relation where an invariant holds. -/
theorem mono_of {other : σ → ε → σ → Prop} (invariant : σ → Prop)
    (kept : ∀ {before event after}, step before event after → invariant before → invariant after)
    (weaker : ∀ {before event after}, step before event after → invariant before → other before event after)
    {first last : σ} {events : List ε} (run : Run step first events last) (holds : invariant first) :
    Run other first events last := by
  induction run with
  | nil => exact .nil _
  | cons head _ ih => exact .cons (weaker head holds) (ih (kept head holds))

/-- Two runs over the same labels are one, where a step has only one outcome. -/
theorem inter {other : σ → ε → σ → Prop}
    (unique : ∀ {before event left right}, step before event left → other before event right → left = right)
    {first last last' : σ} {events : List ε} (run : Run step first events last) (run' : Run other first events last') :
    Run (fun before event after => step before event after ∧ other before event after) first events last := by
  induction run with
  | nil => exact .nil _
  | cons head _ ih =>
    cases run' with
    | cons head' rest' =>
      obtain rfl := unique head head'
      exact .cons ⟨head, head'⟩ (ih rest')

theorem unique (deterministic : ∀ before event left right, step before event left → step before event right → left = right)
    {first last last' : σ} {events : List ε} (run : Run step first events last) (run' : Run step first events last') :
    last = last' := by
  induction run with
  | nil =>
    cases run'
    rfl
  | cons head _ ih =>
    cases run' with
    | cons head' rest' =>
      obtain rfl := deterministic _ _ _ _ head head'
      exact ih rest'

/-- A step with some property was taken on the way. -/
def Took (step property : σ → ε → σ → Prop) (first : σ) (events : List ε) (last : σ) : Prop :=
  ∃ earlier event later before after, events = earlier ++ event :: later ∧ Run step first earlier before ∧
    step before event after ∧ property before event after ∧ Run step after later last

theorem not_took_nil {property : σ → ε → σ → Prop} (first last : σ) : ¬ Took step property first [] last := by
  rintro ⟨earlier, event, later, before, after, split, -⟩
  simp at split

/-- What was taken before a step was taken on the way to its end, and so was the step itself. -/
theorem took_snoc (deterministic : ∀ before event left right, step before event left → step before event right → left = right)
    {property : σ → ε → σ → Prop} {first middle last : σ} {events : List ε} {event : ε}
    (run : Run step first events middle) (performed : step middle event last) :
    Took step property first (events ++ [event]) last ↔
      Took step property first events middle ∨ property middle event last := by
  constructor
  · rintro ⟨earlier, past, later, before, after, split, head, taken, holds, rest⟩
    rcases List.eq_nil_or_concat later with rfl | ⟨between, final, rfl⟩
    · obtain ⟨rfl, same⟩ := List.append_inj' split rfl
      cases same
      cases rest
      obtain rfl := unique deterministic head run
      exact Or.inr holds
    · rw [List.concat_eq_append, ← List.cons_append, ← List.append_assoc] at split
      obtain ⟨rfl, -⟩ := List.append_inj' split rfl
      rw [List.concat_eq_append] at rest
      obtain ⟨here, until_, -⟩ := rest.split
      obtain rfl := unique deterministic (head.append (.cons taken until_)) run
      exact Or.inl ⟨earlier, past, between, before, after, rfl, head, taken, holds, until_⟩
  · rintro (⟨earlier, past, later, before, after, rfl, head, taken, holds, rest⟩ | holds)
    · exact ⟨earlier, past, later ++ [event], before, after, by simp, head, taken, holds, rest.snoc performed⟩
    · exact ⟨events, event, [], middle, last, rfl, run, performed, holds, .nil _⟩

/-- What every step adds to a record that only grows, a run adds in the order of its events. -/
theorem collects {α : Type w} (record : σ → List α) (brings : ε → List α)
    (grows : ∀ {before event after}, step before event after → record after = record before ++ brings event)
    {first last : σ} {events : List ε} (run : Run step first events last) :
    record last = record first ++ events.flatMap brings := by
  induction run with
  | nil => simp
  | cons head _ ih => rw [ih, grows head, List.flatMap_cons, List.append_assoc]

/-- A condition on the labels of a run restricts the steps the run rule has to consider. -/
theorem preserves_of {allowed : ε → Prop} (invariant : σ → Prop)
    (kept : ∀ {before event after}, allowed event → step before event after → invariant before → invariant after)
    {first last : σ} {events : List ε} (run : Run step first events last)
    (restricted : ∀ event ∈ events, allowed event) (holds : invariant first) : invariant last := by
  induction run with
  | nil => exact holds
  | cons head _ ih =>
    exact ih (fun event member => restricted event (by simp [member]))
      (kept (restricted _ (by simp)) head holds)

end Run
end FixProxy
