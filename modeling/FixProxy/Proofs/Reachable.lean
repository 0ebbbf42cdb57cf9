import FixProxy.Proofs.Simulation

/-! What holds of every state that the process can reach: the routes are inverses of
each other, user requests are accounted for, and the indexes are in order. -/

namespace FixProxy
open Codec
open Router (Moves Closes)

namespace Router

theorem Moves.consistent {allowed : Router → Action → Prop} {before after : Router} (moves : Moves allowed before after)
    (consistent : before.Consistent) : after.Consistent :=
  moves.preserves Consistent (fun _ _ _ _ step => consistent_step step) consistent

theorem Moves.preserves_consistent {allowed : Router → Action → Prop} {before after : Router} (invariant : Router → Prop)
    (kept : ∀ before action after, allowed before action → Step before action after → before.Consistent →
      invariant before → invariant after)
    (moves : Moves allowed before after) (consistent : before.Consistent) (holds : invariant before) :
    invariant after := by
  have both := moves.preserves (fun router => router.Consistent ∧ invariant router)
    (fun before action after allowed step ⟨consistent, holds⟩ =>
      ⟨consistent_step step consistent, kept before action after allowed step consistent holds⟩) ⟨consistent, holds⟩
  exact both.2

end Router

namespace World
variable {env : Env} {users : Map String (String × Nat)} {realtime : Nat} {inputs : List Input} {before after world : World}
  {input : Input}

/-- The process is deterministic. -/
theorem Step.unique {before left right : World} {input : Input} (step : Step env before input left) (step' : Step env before input right) :
    left = right := by
  cases left
  cases right
  obtain ⟨-, performed, answered⟩ := step
  obtain ⟨-, performed', answered'⟩ := step'
  simp only at performed performed' answered answered'
  obtain rfl := Outcome.done.inj (performed.symm.trans performed')
  rw [answered, answered']

theorem view_session {session : Nat} {client : Client.Session} (held : world.session session = some client) :
    world.view.session session = some (client.state, client.partyId) := by
  have found : world.controller.sessions.find session = some client := held
  simp [view, Controller.view, found, Client.Session.shape]

theorem ready_iff {session : Nat} : (∃ client, world.session session = some client ∧ client.state = .ready) ↔
    ∃ party, world.view.session session = some (.ready, party) := by
  constructor
  · rintro ⟨client, held, ready⟩
    exact ⟨client.partyId, ready ▸ view_session held⟩
  · rintro ⟨party, ready⟩
    obtain ⟨client, held, shape⟩ := Option.map_eq_some_iff.mp ready
    exact ⟨client, held, congrArg Prod.fst shape⟩

theorem view_session_none {session : Nat} : world.view.session session = none ↔ world.session session = none := by
  simp [view, Controller.view, World.session]

theorem not_dead_iff {session : Nat} : ¬ Client.Dead world.view session ↔ world.Alive session := by
  unfold Client.Dead Alive
  cases held : world.session session with
  | none => simp [view_session_none.mpr held]
  | some client => simp [view_session held]

theorem consistent_create (users : Map String (String × Nat)) (realtime : Nat) :
    (create users realtime).view.Consistent := by
  have closed session : (create users realtime).view.session session = none := rfl
  have unowned session : (create users realtime).view.owner session = none := rfl
  have idle id : (create users realtime).view.pending id = none := rfl
  have waits session : (create users realtime).view.waiting session = none := rfl
  have entry name id : ((create users realtime).view.index name).entry id = none := rfl
  have key name session reqId : ((create users realtime).view.index name).key session reqId = none := rfl
  have absent name session : ¬ ((create users realtime).view.index name).present session := Bool.false_ne_true
  have asked : (create users realtime).view.asked = [] := rfl
  have doomed : (create users realtime).view.doomed = [] := rfl
  constructor
  · exact ⟨by simp [closed], by simp [closed], fun ready => (nomatch ready), by simp [doomed]⟩
  · exact fun username session => ⟨fun route => (nomatch route), fun owner => (nomatch owner)⟩
  · constructor <;> simp [asked, idle, waits, closed, unowned]
  · constructor <;> simp [entry, key, absent, closed, Index.Held, Index.Registered, Index.Backed]

/-- The step of the process as moves of its router. -/
theorem Step.moves {before after : World} {input : Input} (step : Step env before input after)
    (consistent : before.view.Consistent) : Moves (Caused before input after) before.view after.view := by
  have leaves := step_leaves env input step.permitted consistent fun response answer aborts => by
    obtain ⟨what, aborted⟩ := step_aborts env answer aborts
    rw [step.performed] at aborted
    cases aborted
  rw [step.performed] at leaves
  have same : (⟨after.controller, before.answered ++ (input.answer.map (·.userRequestId)).toList⟩ : World) = after := by
    rw [← step.answered]
  rw [← same]
  exact leaves

theorem Step.consistent {before after : World} {input : Input} (step : Step env before input after)
    (consistent : before.view.Consistent) : after.view.Consistent :=
  (step.moves consistent).consistent consistent

theorem consistent_of_reachable (reachable : Reachable env world) : world.view.Consistent := by
  obtain ⟨users, realtime, inputs, run⟩ := reachable
  exact run.preserves (fun world => world.view.Consistent) (fun step => step.consistent)
    (consistent_create users realtime)

theorem Reachable.step (reachable : Reachable env before) (step : Step env before input after) : Reachable env after := by
  obtain ⟨users, realtime, inputs, run⟩ := reachable
  exact ⟨users, realtime, inputs ++ [input], run.snoc step⟩

theorem runs_of_runsUnder {condition : World → Input → Prop}
    (runs : RunsUnder condition env users realtime inputs world) : Runs env users realtime inputs world :=
  runs.mono fun performed => performed.2

theorem reachable_of_runsUnder {condition : World → Input → Prop}
    (runs : RunsUnder condition env users realtime inputs world) : Reachable env world :=
  ⟨users, realtime, inputs, runs_of_runsUnder runs⟩

/-- The rule for runs whose steps meet a condition: an invariant of the actions that
such a step can cause holds in every state reached. -/
theorem invariant_of_runsUnder {condition : World → Input → Prop} (invariant : Router → Prop)
    (start : invariant (create users realtime).view)
    (kept : ∀ before input after, condition before input → before.view.Consistent → invariant before.view →
      ∀ router action next, Caused before input after router action → Router.Step router action next →
      router.Consistent → invariant router → invariant next)
    (runs : RunsUnder condition env users realtime inputs world) : invariant world.view := by
  have both := runs.preserves (fun world => world.view.Consistent ∧ invariant world.view)
    (fun performed ⟨consistent, holds⟩ => ⟨performed.2.consistent consistent,
      (performed.2.moves consistent).preserves_consistent invariant
        (fun _ _ _ caused step => kept _ _ _ performed.1 consistent holds _ _ _ caused step) consistent holds⟩)
    ⟨consistent_create users realtime, start⟩
  exact both.2

end World
end FixProxy
