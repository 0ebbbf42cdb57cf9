import FixProxy.Proofs.SessionEnd

/-! Sequences of router steps, with a restriction on the actions they consist of.
A handler that returns leaves behind the router that such a sequence leads to. -/

namespace FixProxy

namespace Router

def Moves (allowed : Router → Action → Prop) (before after : Router) : Prop :=
  ∃ actions, Run (fun router action next => allowed router action ∧ Step router action next) before actions after

namespace Moves
variable {allowed other : Router → Action → Prop} {first middle last : Router}

theorem refl (router : Router) : Moves allowed router router := ⟨[], .nil _⟩

theorem of_eq (same : last = first) : Moves allowed first last := by
  subst same
  exact refl _

theorem single (action : Action) (permitted : allowed first action) (step : Step first action last) :
    Moves allowed first last :=
  ⟨[action], .single ⟨permitted, step⟩⟩

theorem trans (head : Moves allowed first middle) (rest : Moves allowed middle last) : Moves allowed first last := by
  obtain ⟨actions, run⟩ := head
  obtain ⟨later, continued⟩ := rest
  exact ⟨actions ++ later, run.append continued⟩

theorem mono (weaker : ∀ router action, allowed router action → other router action)
    (moves : Moves allowed first last) : Moves other first last := by
  obtain ⟨actions, run⟩ := moves
  exact ⟨actions, run.mono fun performed => ⟨weaker _ _ performed.1, performed.2⟩⟩

/-- What every allowed step keeps, a sequence of them keeps. -/
theorem preserves (invariant : Router → Prop)
    (kept : ∀ before action after, allowed before action → Step before action after → invariant before → invariant after)
    (moves : Moves allowed first last) (holds : invariant first) : invariant last := by
  obtain ⟨actions, run⟩ := moves
  exact run.preserves invariant (fun performed => kept _ _ _ performed.1 performed.2) holds

/-- More is known of the steps of a sequence where an invariant of them holds. -/
theorem refine (invariant : Router → Prop)
    (kept : ∀ before action after, allowed before action → Step before action after → invariant before → invariant after)
    (stronger : ∀ before action after, allowed before action → Step before action after → invariant before →
      other before action)
    (moves : Moves allowed first last) (holds : invariant first) : Moves other first last := by
  obtain ⟨actions, run⟩ := moves
  refine ⟨actions, run.mono_of invariant (fun performed => kept _ _ _ performed.1 performed.2) ?_ holds⟩
  intro before action after performed holds
  exact ⟨stronger _ _ _ performed.1 performed.2 holds, performed.2⟩

theorem sound (moves : Moves allowed first last) (sound : first.Sound) : last.Sound :=
  moves.preserves Sound (fun _ _ _ _ step => sound_step step) sound

end Moves

/-- The end of one session and nothing else. -/
def Closes (session : Nat) (action : Action) : Prop := action = .drop session ∨ action.Ends session

theorem moves_of_ended {session : Nat} {before after : Router} (ended : Client.Ended session before after) :
    Moves (fun _ => Closes session) before after := by
  unfold Client.Ended at ended
  split at ended
  · exact .of_eq ended
  · exact .of_eq ended
  · next party arriving =>
    subst ended
    exact .single _ (Or.inl rfl) (.drop arriving)
  · obtain ⟨action, ends, step⟩ := ended
    exact .single _ (Or.inr ends) step

end Router

namespace Outcome
variable {σ : Type u}

/-- What is known of the state that a call leaves behind, by how it ends; the process
is not aborted. -/
def Leaves (returned thrown : σ → Prop) : Outcome σ → Prop
  | .done state => returned state
  | .thrown _ state => thrown state
  | .fatal _ => False

theorem Leaves.mono {returned thrown returned' thrown' : σ → Prop} {outcome : Outcome σ}
    (weaker : ∀ state, returned state → returned' state) (weaker' : ∀ state, thrown state → thrown' state)
    (leaves : outcome.Leaves returned thrown) : outcome.Leaves returned' thrown' := by
  cases outcome with
  | done state => exact weaker state leaves
  | thrown what state => exact weaker' state leaves
  | fatal what => exact leaves.elim

theorem Leaves.andThen {middle returned thrown : σ → Prop} {outcome : Outcome σ} {next : σ → Outcome σ}
    (leaves : outcome.Leaves middle thrown)
    (continues : ∀ state, outcome = .done state → middle state → (next state).Leaves returned thrown) :
    (outcome.andThen next).Leaves returned thrown := by
  cases outcome with
  | done state => exact continues state rfl leaves
  | thrown what state => exact leaves
  | fatal what => exact leaves.elim

theorem Leaves.recover {middle returned thrown : σ → Prop} {outcome : Outcome σ} {handler : String → σ → Outcome σ}
    (leaves : outcome.Leaves returned middle)
    (handles : ∀ what state, middle state → (handler what state).Leaves returned thrown) :
    (outcome.recover handler).Leaves returned thrown := by
  cases outcome with
  | done state => exact leaves
  | thrown what state => exact handles what state leaves
  | fatal what => exact leaves.elim

theorem Leaves.forEach {items : List ι} {body : ι → σ → Outcome σ} {invariant thrown : σ → Prop} {state : σ}
    (kept : ∀ item ∈ items, ∀ state, invariant state → (body item state).Leaves invariant thrown)
    (holds : invariant state) : (Outcome.forEach items body state).Leaves invariant thrown := by
  induction items generalizing state with
  | nil => exact holds
  | cons item rest ih =>
    exact (kept item (by simp) state holds).andThen fun _ _ holds =>
      ih (fun other member => kept other (by simp [member])) holds

/-- What is known of the state that a call leaves behind if it returns; no exception leaves it. -/
def Gives (returned : σ → Prop) : Outcome σ → Prop
  | .done state => returned state
  | .thrown _ _ => False
  | .fatal _ => True

theorem Gives.mono {returned returned' : σ → Prop} {outcome : Outcome σ}
    (weaker : ∀ state, returned state → returned' state) (gives : outcome.Gives returned) : outcome.Gives returned' := by
  cases outcome with
  | done state => exact weaker state gives
  | thrown what state => exact gives.elim
  | fatal what => trivial

theorem Gives.andThen {middle returned : σ → Prop} {outcome : Outcome σ} {next : σ → Outcome σ}
    (gives : outcome.Gives middle) (continues : ∀ state, middle state → (next state).Gives returned) :
    (outcome.andThen next).Gives returned := by
  cases outcome with
  | done state => exact continues state gives
  | thrown what state => exact gives.elim
  | fatal what => trivial

theorem Gives.recover {returned : σ → Prop} {outcome : Outcome σ} (handler : String → σ → Outcome σ)
    (gives : outcome.Gives returned) : (outcome.recover handler).Gives returned := by
  cases outcome with
  | done state => exact gives
  | thrown what state => exact gives.elim
  | fatal what => trivial

theorem Gives.and {first second : σ → Prop} {outcome : Outcome σ} (left : outcome.Gives first)
    (right : outcome.Gives second) : outcome.Gives fun state => first state ∧ second state := by
  cases outcome with
  | done state => exact ⟨left, right⟩
  | thrown what state => exact left
  | fatal what => trivial

theorem Gives.of_leaves {returned : σ → Prop} {outcome : Outcome σ}
    (leaves : outcome.Leaves returned fun _ => False) : outcome.Gives returned := by
  cases outcome with
  | done state => exact leaves
  | thrown what state => exact leaves.elim
  | fatal what => trivial

end Outcome
end FixProxy
