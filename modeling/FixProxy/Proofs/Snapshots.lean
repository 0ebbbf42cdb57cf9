import FixProxy.Proofs.Subscriptions
import FixProxy.Proofs.Trades

/-! Market data snapshots. The first message of an answer releases the id of its request,
however many symbols the request names. -/

namespace FixProxy
open Codec

private theorem Router.unused_step {before after : Router} {action : Action} (step : Step before action after)
    {name : MappingName} (fresh : name.Fresh) {id : String} (issued : Issued before.lastRequest id)
    (unused : (before.index name).entry id = none) : (after.index name).entry id = none := by
  cases found : (after.index name).entry id with
  | none => rfl
  | some entry =>
    obtain ⟨session, clientId, keepAlive⟩ := entry
    obtain ⟨keepAlive, older⟩ | makes := made_step step found
    · rw [unused] at older
      cases older
    · cases step with
      | openFresh =>
        obtain ⟨-, -, -, rfl⟩ := makes
        exact absurd issued (not_issued_next _)
      | openStamped ready stamped =>
        obtain ⟨rfl, -⟩ := makes
        exact absurd fresh stamped
      | enter =>
        obtain ⟨rfl, -⟩ := makes
        exact fresh.elim
      | _ => exact makes.elim

namespace World
variable {env : Env} {before after first last : World} {session : Nat} {clientId serverId : String} {input : Input}
  {inputs : List Input} {messages : List Response}

theorem Step.unused (step : Step env before input after) (consistent : before.view.Consistent) {name : MappingName}
    (fresh : name.Fresh) (issued : Issued before.view.lastRequest serverId)
    (unused : before.controller.findReqId name serverId = none) :
    Issued after.view.lastRequest serverId ∧ after.controller.findReqId name serverId = none := by
  refine (step.moves consistent).preserves
    (fun router => Issued router.lastRequest serverId ∧ (router.index name).entry serverId = none) ?_ ⟨issued, unused⟩
  intro router action next _ moved known
  exact ⟨Router.issued_step moved known.1, Router.unused_step moved fresh known.1 known.2⟩

/-- What arrives under a server id is passed on to the session under its own id. -/
def PassesOn (session : Nat) (clientId serverId : String) (before : World) (input : Input) (after : World) : Prop :=
  ∀ value, input.concerning .mdReqId serverId = some value → ∃ msgSeqNum,
    after.controller.log =
      before.controller.log ++ [.toClient session msgSeqNum (.response (value.addressed .mdReqId clientId))]

private theorem unsubscribes_marketData {request : Request} (type : request.subscriptionType = some .unsubscribe)
    (named : request.key.1 = .mdReqId) : request.unsubscribes = some (.mdReqId, request.key.2) := by
  cases request with
  | marketDataRequest value =>
    have type : value.subscriptionRequestType = .unsubscribe := by simpa [Request.subscriptionType] using type
    simp [Request.unsubscribes, Request.key, type]
  | _ => cases named

private theorem snapshot_keeps (step : Step env before input after) (consistent : before.view.Consistent)
    (held : before.controller.findReqId .mdReqId serverId = some (session, clientId, false))
    (quiet : input.concerning .mdReqId serverId = none) (alive : after.Alive session) :
    after.controller.findReqId .mdReqId serverId = some (session, clientId, false) := by
  by_cases unsubscribes : before.Unsubscribes .mdReqId serverId input
  · cases input with
    | read reader clock header message =>
      cases message with
      | request request =>
        obtain ⟨client, found, ready⟩ := ready_iff.mpr unsubscribes.ready
        obtain ⟨-, same, -⟩ := step.unsubscribes consistent found ready
          (unsubscribes_marketData unsubscribes.type unsubscribes.named) unsubscribes.key
        exact same.trans held
      | _ => exact unsubscribes.elim
    | _ => exact unsubscribes.elim
  · refine entry_survives step consistent held ?_ unsubscribes fun other own key => ?_
    · intro drops
      cases input with
      | serverRead msgSeqNum message =>
        cases message with
        | response value =>
          obtain ⟨id, entry, found, dropped⟩ := drops
          have mapped := Response.mapping_of_drops (by decide) dropped
          have concerns : (Input.serverRead msgSeqNum (.response value)).concerning .mdReqId serverId = some value :=
            if_pos ⟨mapped, id.symm⟩
          rw [quiet] at concerns
          cases concerns
        | _ => exact drops
      | _ => exact drops
    · obtain ⟨keepAlive, entry⟩ := consistent.indexed.backed .mdReqId trivial other own serverId key
      have same := held.symm.trans entry
      simp only [Option.some.injEq, Prod.mk.injEq] at same
      exact same.1 ▸ alive

private theorem not_passedOn {value : Response} (step : Step env before input after)
    (concerns : input.concerning .mdReqId serverId = some value)
    (unused : before.controller.findReqId .mdReqId serverId = none) :
    ¬ PassesOn session clientId serverId before input after := by
  intro passes
  obtain ⟨number, log⟩ := passes value concerns
  obtain ⟨⟨msgSeqNum, rfl⟩, mapped, rfl⟩ := concerning_eq_some concerns
  obtain ⟨response, -, delivered⟩ := Controller.response_delivered env mapped { before.controller with
    serverSession := { before.controller.serverSession with inboundMsgSeqNum := msgSeqNum } }
  rw [← step.response] at delivered
  obtain silent | ⟨owner, own, keepAlive, client, sent, found, -⟩ := delivered
  · rw [log] at silent
    simp at silent
  · have missing : before.controller.findReqId .mdReqId (value.id .mdReqId) = some (owner, own, keepAlive) := found
    rw [unused] at missing
    cases missing

/-- Once the id is released nothing is passed on, however long the run. -/
private theorem nothing_passedOn
    (run : Run (fun before input after => Step env before input after ∧ PassesOn session clientId serverId before input after)
      first inputs last)
    (consistent : first.view.Consistent) (issued : Issued first.view.lastRequest serverId)
    (unused : first.controller.findReqId .mdReqId serverId = none) :
    inputs.filterMap (Input.concerning .mdReqId serverId) = [] := by
  induction run with
  | nil => rfl
  | @cons first middle last input rest head _ ih =>
    obtain ⟨step, passes⟩ := head
    cases concerns : input.concerning .mdReqId serverId with
    | some value => exact absurd passes (not_passedOn step concerns unused)
    | none =>
      rw [List.filterMap_cons_none concerns]
      obtain ⟨issued, unused⟩ := @Step.unused _ _ _ _ _ step consistent .mdReqId trivial issued unused
      exact ih (step.consistent consistent) issued unused

private theorem passedOn_quiet (run : Run (Step env) first inputs last)
    (quiet : inputs.filterMap (Input.concerning .mdReqId serverId) = []) :
    Run (fun before input after => Step env before input after ∧ PassesOn session clientId serverId before input after)
      first inputs last := by
  induction run with
  | nil => exact .nil _
  | @cons first middle last input rest step _ ih =>
    cases concerns : input.concerning .mdReqId serverId with
    | none =>
      rw [List.filterMap_cons_none concerns] at quiet
      exact .cons ⟨step, fun value same => by simp [concerns] at same⟩ (ih quiet)
    | some value =>
      rw [List.filterMap_cons_some concerns] at quiet
      cases quiet

/-- The first message of an answer is passed on and releases the id, so that all of it is
passed on exactly if it has no other message. -/
private theorem passedOn_iff
    (run : Run (fun before input after => Step env before input after ∧
      ∃ client, after.session session = some client ∧ client.state = .ready) first inputs last)
    (consistent : first.view.Consistent) (ready : ∃ client, first.session session = some client ∧ client.state = .ready)
    (held : first.controller.findReqId .mdReqId serverId = some (session, clientId, false))
    {value : MarketDataSnapshotFullRefresh}
    (answered : inputs.filterMap (Input.concerning .mdReqId serverId) = .marketDataSnapshotFullRefresh value :: messages) :
    Run (fun before input after => Step env before input after ∧ PassesOn session clientId serverId before input after)
      first inputs last ↔ messages = [] := by
  induction run with
  | nil => cases answered
  | @cons first middle last input rest head tail ih =>
    obtain ⟨step, still⟩ := head
    cases concerns : input.concerning .mdReqId serverId with
    | none =>
      rw [List.filterMap_cons_none concerns] at answered
      obtain ⟨client, found, state⟩ := still
      have alive : middle.Alive session := ⟨client, found, by rw [state]; decide⟩
      have rest_iff := ih (step.consistent consistent) ⟨client, found, state⟩
        (snapshot_keeps step consistent held concerns alive) answered
      rw [← rest_iff]
      constructor
      · intro passed
        cases passed with
        | cons head others =>
          obtain rfl := step.unique head.1
          exact others
      · intro passed
        exact .cons ⟨step, fun other same => by simp [concerns] at same⟩ passed
    | some other =>
      rw [List.filterMap_cons_some concerns] at answered
      obtain ⟨rfl, rest_messages⟩ := List.cons.inj answered
      obtain ⟨⟨msgSeqNum, rfl⟩, mapped, id⟩ := concerning_eq_some concerns
      obtain ⟨client, found, state⟩ := ready
      have delivered := step.delivers mapped (id ▸ held) found state
      have frees := step.frees (id ▸ entry_nonempty consistent held) (id ▸ held) (by simp [Response.drops])
      have issued := consistent.indexed.issuedEntry .mdReqId trivial serverId _ held
      have issuedAfter : Issued middle.view.lastRequest serverId :=
        (step.moves consistent).preserves (fun router => Issued router.lastRequest serverId)
          (fun _ _ _ _ moved => Router.issued_step moved) issued
      have unused : middle.controller.findReqId .mdReqId serverId = none := id ▸ frees.2
      subst rest_messages
      constructor
      · intro passed
        cases passed with
        | cons head others =>
          obtain rfl := step.unique head.1
          exact nothing_passedOn others (step.consistent consistent) issuedAfter unused
      · intro none
        refine .cons ⟨step, fun other same => ?_⟩ ?_
        · obtain rfl := Option.some.inj (concerns.symm.trans same)
          exact ⟨_, delivered⟩
        · exact passedOn_quiet (tail.mono fun performed => performed.1) none

/-- The messages that answer a snapshot request, one for each of its symbols, all reach the
session under its own id exactly if the request names a single symbol. -/
theorem snapshots_delivered_iff {client : Client.Session} {clock : Clock} {header : Header} {value : MarketDataRequest}
    (reachable : Reachable env before) (held : before.session session = some client) (ready : client.state = .ready)
    (typed : value.subscriptionRequestType = .snapshot) (named : value.noRelatedSym ≠ [])
    (asked : Step env before (.read session clock header (.request (.marketDataRequest value))) first)
    (forwarded : Forwarded (.marketDataRequest value) .mdReqId clientId serverId before.controller.log first.controller.log)
    {answer : List MarketDataSnapshotFullRefresh} (complete : answer.length = value.noRelatedSym.length)
    (interleaved : inputs.filterMap (Input.concerning .mdReqId serverId) = answer.map .marketDataSnapshotFullRefresh)
    (run : Run (fun before input after => Step env before input after ∧
      ∃ client, after.session session = some client ∧ client.state = .ready) first inputs last) :
    Run (fun before input after => Step env before input after ∧ PassesOn session clientId serverId before input after)
      first inputs last ↔ value.noRelatedSym.length = 1 := by
  have consistent := consistent_of_reachable reachable
  have single : (Request.marketDataRequest value).subscriptionType = some .snapshot := by
    simp [Request.subscriptionType, typed]
  have opens := asked.opens consistent held ready forwarded (by rw [single]; decide)
  have entry : first.controller.findReqId .mdReqId serverId = some (session, clientId, false) := by
    have entered := opens.entry
    rw [opens.fresh trivial, Request.keepAlive, single] at entered
    exact entered
  have still : ∃ client, first.session session = some client ∧ client.state = .ready := by
    obtain ⟨party, state⟩ := ready_iff.mp ⟨client, held, ready⟩
    exact ready_iff.mpr ⟨party, by rw [opens.sessions]; exact state⟩
  cases answer with
  | nil =>
    rw [List.length_nil, eq_comm, List.length_eq_zero_iff] at complete
    exact absurd complete named
  | cons message others =>
    rw [passedOn_iff run (asked.consistent consistent) still entry interleaved, ← complete]
    simp

def asksSnapshots (symbols : List String) : Input := Deployment.asks 1 (.marketDataRequest
  { mdReqId := "AAAA", subscriptionRequestType := .snapshot, noRelatedSym := symbols, isValid := true })

def snapshot (symbol : String) : Input :=
  Deployment.replies (.marketDataSnapshotFullRefresh { mdReqId := "proxy-2", symbol })

theorem snapshots_delivered_iff_loggedOn : ∃ world first last,
    RunsUnder Regular Deployment.env Deployment.users 0 Deployment.loggedOn world ∧
      Step Deployment.env world (asksSnapshots ["BTC-PERPETUAL"]) first ∧
      Step Deployment.env first (snapshot "BTC-PERPETUAL") last ∧
      PassesOn 1 "AAAA" "proxy-2" first (snapshot "BTC-PERPETUAL") last := by
  obtain ⟨world, first, last, runs, asked, run, checked⟩ := exists_runs_of_replay Regular Deployment.env Deployment.users
    0 Deployment.loggedOn (asksSnapshots ["BTC-PERPETUAL"]) [snapshot "BTC-PERPETUAL"]
    (fun world first last => ((world.session 1).any fun client => client.state == .ready) &&
      first.controller.log == world.controller.log ++ [.toServer 3 (.request (.marketDataRequest
        { mdReqId := "proxy-2", subscriptionRequestType := .snapshot, noRelatedSym := ["BTC-PERPETUAL"], isValid := true }))] &&
      (last.session 1).any fun client => client.state == .ready) (by decide +kernel)
  simp only [Bool.and_eq_true, beq_iff_eq, Option.any_eq_true] at checked
  obtain ⟨⟨⟨client, held, ready⟩, log⟩, still, heldStill, readyStill⟩ := checked
  cases run with
  | cons head rest =>
    cases rest
    have passed := (@snapshots_delivered_iff _ _ _ _ 1 "AAAA" "proxy-2" _ _ _ _ _ (reachable_of_runsUnder runs) held ready
      rfl (by simp) asked ⟨rfl, 3, _, rfl, log⟩ [{ mdReqId := "proxy-2", symbol := "BTC-PERPETUAL" }] rfl rfl
      (.single ⟨head.2, still, heldStill, readyStill⟩)).mpr rfl
    cases passed with
    | cons passes rest =>
      cases rest
      exact ⟨world, first, last, runs, asked, passes⟩

/-- The snapshot of the second symbol is dropped, although the client is ready. -/
theorem second_snapshot_dropped : ∃ world first last,
    RunsUnder Regular Deployment.env Deployment.users 0
      (Deployment.loggedOn ++ [asksSnapshots ["BTC-PERPETUAL", "ETH-PERPETUAL"]]) world ∧
      world.controller.findReqId .mdReqId "proxy-2" = some (1, "AAAA", false) ∧
      Step Deployment.env world (snapshot "BTC-PERPETUAL") first ∧
      first.controller.log = world.controller.log ++
        [.toClient 1 2 (.response (.marketDataSnapshotFullRefresh { mdReqId := "AAAA", symbol := "BTC-PERPETUAL" }))] ∧
      Step Deployment.env first (snapshot "ETH-PERPETUAL") last ∧ last.controller.log = first.controller.log ∧
      ∃ client, last.session 1 = some client ∧ client.state = .ready := by
  obtain ⟨world, first, last, runs, answered, run, checked⟩ := exists_runs_of_replay Regular Deployment.env
    Deployment.users 0 (Deployment.loggedOn ++ [asksSnapshots ["BTC-PERPETUAL", "ETH-PERPETUAL"]])
    (snapshot "BTC-PERPETUAL") [snapshot "ETH-PERPETUAL"]
    (fun world first last => world.controller.findReqId .mdReqId "proxy-2" == some (1, "AAAA", false) &&
      first.controller.log == world.controller.log ++
        [.toClient 1 2 (.response (.marketDataSnapshotFullRefresh { mdReqId := "AAAA", symbol := "BTC-PERPETUAL" }))] &&
      last.controller.log == first.controller.log && (last.session 1).any fun client => client.state == .ready)
    (by decide +kernel)
  simp only [Bool.and_eq_true, beq_iff_eq, Option.any_eq_true] at checked
  obtain ⟨⟨⟨entry, log⟩, silent⟩, client, held, ready⟩ := checked
  cases run with
  | cons head rest =>
    cases rest
    exact ⟨world, first, last, runs, entry, answered, log, head.2, silent, client, held, ready⟩

end World
end FixProxy
