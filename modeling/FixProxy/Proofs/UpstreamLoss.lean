import FixProxy.Deployment
import FixProxy.Proofs.Reachable

/-! What the loss of the upstream connection leaves behind. The reset is only indirect:
each session that is alive clears what it owns, and nothing clears the rest. -/

namespace FixProxy
open Codec
open Router (Moves Closes)

namespace Map

def Empty {κ : Type u} {ν : Type v} [DecidableEq κ] (map : Map κ ν) : Prop := ∀ key, map.find key = none

end Map

namespace Router

/-- Closing sessions while the controller is not ready leaves the pending requests, the
orders and the counter alone, and keeps exactly the routes of sessions that do not end. -/
structure Leftover (before router : Router) : Prop where
  ready : router.ready = false
  pending : router.pending = before.pending
  waiting : router.waiting = before.waiting
  orders : router.orders = before.orders
  reports : router.reports = before.reports
  dead : ∀ session, Client.Dead before session → router.session session = before.session session
  kept : ∀ username session, before.route username = some session → Client.Dead before session →
    router.route username = some session
  spared : ∀ username session, router.route username = some session →
    before.route username = some session ∧ router.session session = before.session session
  older : ∀ name id entry, (router.index name).entry id = some entry → (before.index name).entry id = some entry
  unnamed : ∀ id session keepAlive, (before.index .ordStatusReqId).entry id = some (session, "", keepAlive) →
    (router.index .ordStatusReqId).entry id = some (session, "", keepAlive)

/-- An order status entry without a name has no key that leads to it. -/
private theorem unnamed_unkeyed {router : Router} (indexed : router.Indexed) {id : String} {session : Nat} {keepAlive : Bool}
    (entry : (router.index .ordStatusReqId).entry id = some (session, "", keepAlive)) (owner : Nat) (clientId : String) :
    (router.index .ordStatusReqId).key owner clientId ≠ some id := by
  intro key
  have stamped : ¬ MappingName.ordStatusReqId.Fresh := fun fresh => fresh
  obtain ⟨state, party, -, -, plain, made⟩ := key_stamped indexed stamped key
  obtain ⟨other, plainOther, same⟩ := indexed.stampedEntry .ordStatusReqId stamped id session "" keepAlive entry
  obtain ⟨-, unnamed⟩ := createRequestId_inj plainOther plain (same.symm.trans made)
  rw [← unnamed, indexed.unkeyed owner] at key
  cases key

private theorem leftover_step {before router next : Router} {action : Action} {closed : Nat} (closes : Closes closed action)
    (step : Step router action next) (consistent : router.Consistent) (leftover : Leftover before router) :
    Leftover before next := by
  obtain ⟨ready, pending, waiting, orders, reports, dead, kept, spared, older, unnamed⟩ := leftover
  obtain rfl | ends := closes
  · cases step with
    | @drop _ party arriving =>
      have alive : ¬ Client.Dead before closed := by
        intro finished
        rw [Client.Dead, ← dead closed finished] at finished
        simp [arriving] at finished
      refine ⟨ready, pending, waiting, orders, reports, ?_, kept, ?_, older, unnamed⟩
      · intro session finished
        have different : session ≠ closed := fun same => alive (same ▸ finished)
        rw [← dead session finished]
        exact Function.update_of_ne different ..
      · intro username session route
        obtain ⟨earlier, same⟩ := spared username session route
        have different : session ≠ closed := by
          rintro rfl
          have owned := (consistent.inverse username session).mp route
          rw [consistent.accounted.unrouted session party (Or.inl arriving)] at owned
          cases owned
        exact ⟨earlier, (Function.update_of_ne different ..).trans same⟩
  · cases step with
    | @retire _ state party held active silent =>
      cases ends
      have alive : ¬ Client.Dead before closed := by
        intro finished
        rw [Client.Dead, ← dead closed finished, held] at finished
        obtain gone | ⟨party, zombie⟩ := finished
        · cases gone
        · cases zombie
          exact active
      refine ⟨ready, pending, waiting, orders, reports, ?_, ?_, ?_, ?_, ?_⟩
      · intro session finished
        have different : session ≠ closed := fun same => alive (same ▸ finished)
        rw [← dead session finished]
        exact Function.update_of_ne different ..
      · intro username session earlier finished
        have route := kept username session earlier finished
        have unowned : router.owner closed ≠ some username := by
          intro owned
          have same := route.symm.trans ((consistent.inverse username closed).mpr owned)
          exact alive (Option.some.inj same ▸ finished)
        simpa [unowned] using route
      · intro username session route
        have unowned : router.owner closed ≠ some username := by
          intro owned
          simp [owned] at route
        have before : router.route username = some session := by simpa [unowned] using route
        obtain ⟨earlier, same⟩ := spared username session before
        have different : session ≠ closed := by
          rintro rfl
          exact unowned ((consistent.inverse username session).mp before)
        exact ⟨earlier, (Function.update_of_ne different ..).trans same⟩
      · rintro name id ⟨session, clientId, keepAlive⟩ entry
        exact older name id _ (Index.entry_of_clear entry).1
      · intro id session keepAlive earlier
        have entry := unnamed id session keepAlive earlier
        simp [Index.clear, unnamed_unkeyed consistent.indexed entry, entry]
    | retireAsking held active owned readied =>
      rw [ready] at readied
      cases readied
    | _ => exact ends.elim

end Router

/-- Nothing of the routing state is left. -/
structure Controller.Reset (controller : Controller) : Prop where
  mappings : ∀ name, (controller.mapping name).serverToClient.Empty ∧ (controller.mapping name).clientToServer.Empty
  routes : controller.subscriptions.user.clientToSession.Empty ∧ controller.subscriptions.user.sessionToClient.Empty
  requests : controller.subscriptions.user.serverToClient.Empty ∧ controller.subscriptions.user.clientToServer.Empty
  orders : controller.clOrdId.Empty
  reports : controller.totalNumPosReports = 0

namespace World
variable {env : Env} {world after : World}

/-- The states in which the loss of the upstream connection leaves nothing behind: no
user request is pending, no order is recorded and no report is counted, every route
leads to a session that is alive, and no order status request without an id is open. -/
structure Settled (world : World) : Prop where
  requests : world.controller.subscriptions.user.serverToClient.Empty ∧
    world.controller.subscriptions.user.clientToServer.Empty
  orders : world.controller.clOrdId.Empty
  reports : world.controller.totalNumPosReports = 0
  routes : ∀ username session, world.controller.subscriptions.user.clientToSession.find username = some session →
    world.Alive session
  named : ∀ id session keepAlive,
    (world.controller.mapping .ordStatusReqId).serverToClient.find id ≠ some (session, "", keepAlive)

/-- What is left of a reachable state when the upstream connection is lost. -/
private theorem leftover (reachable : Reachable env world) (step : Step env world .serverDisconnected after) :
    Router.Leftover { world.view with ready := false } after.view ∧ ∀ session, Client.Dead after.view session := by
  have consistent := consistent_of_reachable reachable
  obtain ⟨closed, call, moves, dead⟩ := Server.disconnected_closes env consistent.sound
  have same : after.controller = { closed with serverSession := {} } := by
    have performed := step.performed
    rw [FixProxy.step, call, Outcome.done.injEq] at performed
    exact performed.symm
  have refusing : ({ world.view with ready := false } : Router).Consistent :=
    Router.consistent_step .unready consistent
  have left := moves.preserves_consistent (Router.Leftover { world.view with ready := false })
    (fun before action after closing step consistent left => by
      obtain ⟨session, closes⟩ := closing
      exact Router.leftover_step closes step consistent left) refusing
    ⟨rfl, rfl, rfl, rfl, rfl, fun _ _ => rfl, fun _ _ route _ => route, fun _ _ route => ⟨route, rfl⟩,
      fun _ _ _ entry => entry, fun _ _ _ entry => entry⟩
  have view : after.view =
      { closed.view world.answered with upstream := .disconnected, answered := after.answered } := by
    rw [World.view, same]
    rfl
  rw [view]
  exact ⟨⟨left.ready, left.pending, left.waiting, left.orders, left.reports, left.dead, left.kept, left.spared,
    left.older, left.unnamed⟩, dead⟩

/-- The loss of the upstream connection resets the routing state exactly when nothing was
there that only an answer, a report or a session that is already dead could remove. -/
theorem reset_iff (reachable : Reachable env world) (step : Step env world .serverDisconnected after) :
    after.controller.Reset ↔ world.Settled := by
  have consistent := (step.consistent (consistent_of_reachable reachable))
  obtain ⟨left, dead⟩ := leftover reachable step
  have idle session : ¬ after.view.Serving session := by
    unfold Router.Serving
    obtain gone | ⟨party, zombie⟩ := dead session
    · simp [gone]
    · simp [zombie]
  constructor
  · intro reset
    refine ⟨?_, ?_, ?_, ?_, ?_⟩
    · exact ⟨fun id => (congrFun left.pending id).symm.trans (reset.requests.1 id),
        fun session => (congrFun left.waiting session).symm.trans (reset.requests.2 session)⟩
    · exact fun id => (congrFun left.orders id).symm.trans (reset.orders id)
    · exact left.reports.symm.trans reset.reports
    · intro username session route
      refine not_dead_iff.mp fun finished => ?_
      have kept := left.kept username session route finished
      rw [show after.view.route username = none from reset.routes.1 username] at kept
      cases kept
    · intro id session keepAlive entry
      have kept := left.unnamed id session keepAlive entry
      rw [show (after.view.index .ordStatusReqId).entry id = none from (reset.mappings .ordStatusReqId).1 id] at kept
      cases kept
  · intro settled
    have unrouted username : after.view.route username = none := by
      cases route : after.view.route username with
      | none => rfl
      | some session =>
        obtain ⟨earlier, same⟩ := left.spared username session route
        refine absurd ?_ (not_dead_iff.mpr (settled.routes username session earlier))
        have finished := dead session
        rwa [Client.Dead, same] at finished
    refine ⟨fun name => ⟨fun id => ?_, fun session => ?_⟩, ⟨unrouted, fun session => ?_⟩, ?_, ?_, ?_⟩
    · cases entry : (after.controller.mapping name).serverToClient.find id with
      | none => rfl
      | some held =>
        obtain ⟨session, clientId, keepAlive⟩ := held
        have indexed : (after.view.index name).entry id = some (session, clientId, keepAlive) := entry
        by_cases named : Router.Named name clientId
        · have key := consistent.indexed.registered name id session clientId keepAlive indexed named
          exact absurd (consistent.indexed.serving name session (consistent.indexed.held name session clientId id key))
            (idle session)
        · obtain ⟨rfl, unnamed⟩ := Classical.not_imp.mp named
          cases Classical.not_not.mp unnamed
          exact absurd (left.older .ordStatusReqId id _ indexed) (settled.named id session keepAlive)
    · cases table : (after.controller.mapping name).clientToServer.find session with
      | none => rfl
      | some held =>
        have present : (after.view.index name).present session := Option.isSome_iff_exists.mpr ⟨held, table⟩
        exact absurd (consistent.indexed.serving name session present) (idle session)
    · cases owned : after.controller.subscriptions.user.sessionToClient.find session with
      | none => rfl
      | some username =>
        have route := (consistent.inverse username session).mpr owned
        rw [unrouted username] at route
        cases route
    · exact ⟨fun id => (congrFun left.pending id).trans (settled.requests.1 id),
        fun session => (congrFun left.waiting session).trans (settled.requests.2 session)⟩
    · exact fun id => (congrFun left.orders id).trans (settled.orders id)
    · exact left.reports.trans settled.reports

theorem reset_iff_loggedOn : ∃ world after, RunsUnder Regular Deployment.env Deployment.users 0 Deployment.loggedOn world ∧
    Step Deployment.env world .serverDisconnected after ∧ after.controller.Reset := by
  obtain ⟨world, after, runs, -, step, checked⟩ := exists_step_of_replay Regular Deployment.env Deployment.users 0
    Deployment.loggedOn .serverDisconnected
    (fun world _ => world.controller.subscriptions.user.serverToClient.toList.isEmpty &&
      world.controller.subscriptions.user.clientToServer.toList.isEmpty &&
      world.controller.clOrdId.toList.isEmpty && world.controller.totalNumPosReports == 0 &&
      (world.controller.subscriptions.user.clientToSession.toList.all fun (_, session) =>
        (world.session session).any fun client => client.state != .zombie) &&
      (world.controller.mapping .ordStatusReqId).serverToClient.toList.isEmpty) (by decide +kernel)
  simp only [Bool.and_eq_true, Map.isEmpty_toList, beq_iff_eq, List.all_eq_true, Option.any_eq_true, bne_iff_ne] at checked
  obtain ⟨⟨⟨⟨⟨asking, waiting⟩, orders⟩, reports⟩, routes⟩, statuses⟩ := checked
  refine ⟨world, after, runs, step, (reset_iff (reachable_of_runsUnder runs) step).mpr
    ⟨⟨asking, waiting⟩, orders, reports, fun username session route => ?_, fun id session keepAlive entry => ?_⟩⟩
  · exact routes (username, session) (Map.mem_toList.mpr route)
  · rw [statuses id] at entry
    cases entry

/-- The order and the pending logon of the old upstream session are still there. -/
theorem loss_leaves : ∃ world after, RunsUnder Regular Deployment.env Deployment.users 0 Deployment.ordered world ∧
    Step Deployment.env world .serverDisconnected after ∧ ¬ after.controller.Reset ∧
    after.controller.clOrdId.find "proxy-1:AAAA" = some .pendingNew ∧
    after.controller.subscriptions.user.serverToClient.find "proxy-2" = some 2 := by
  obtain ⟨world, after, runs, -, step, checked⟩ := exists_step_of_replay Regular Deployment.env Deployment.users 0
    Deployment.ordered .serverDisconnected
    (fun _ after => after.controller.clOrdId.find "proxy-1:AAAA" == some .pendingNew &&
      after.controller.subscriptions.user.serverToClient.find "proxy-2" == some 2) (by decide +kernel)
  simp only [Bool.and_eq_true, beq_iff_eq] at checked
  obtain ⟨recorded, pending⟩ := checked
  refine ⟨world, after, runs, step, fun reset => ?_, recorded, pending⟩
  rw [reset.orders "proxy-1:AAAA"] at recorded
  cases recorded

end World
end FixProxy
