import FixProxy.Deployment
import FixProxy.Proofs.Persistence

/-! What an explicit unsubscribe does. The handlers of the security and market data
requests draw a new id for every request they forward, an unsubscribe included, and
release that id afterwards. -/

namespace FixProxy
open Codec

/-- The subscription that a request asks to end, where the handlers draw a new id. -/
def Codec.Request.unsubscribes : Request → Option (MappingName × String)
  | .securityListRequest value =>
    if value.subscriptionRequestType = .unsubscribe then some (.securityReqId, value.securityReqId) else none
  | .securityDefinitionRequest value =>
    if value.subscriptionRequestType = .unsubscribe then some (.securityReqId, value.securityReqId) else none
  | .securityStatusRequest value =>
    if value.subscriptionRequestType = .unsubscribe then some (.securityStatusReqId, value.securityStatusReqId)
    else none
  | .marketDataRequest value =>
    if value.subscriptionRequestType = .unsubscribe then some (.mdReqId, value.mdReqId) else none
  | _ => none

namespace Controller
variable {controller : Controller} {name : MappingName} {session : Nat} {reqId serverId : String}

theorem findClient_touch (name : MappingName) (session owner : Nat) (reqId : String) (controller : Controller) :
    (controller.touch name session).findClient name owner reqId = controller.findClient name owner reqId := by
  rw [findClient_eq [], index_touch]
  rfl

private theorem findReqId_touch (name : MappingName) (session : Nat) (reqId : String) (controller : Controller) :
    (controller.touch name session).findReqId name reqId = controller.findReqId name reqId := by
  rw [findReqId_eq [], index_touch]
  rfl

private theorem subscription_unsubscribe {isValid : Bool} {invalid unknown duplicate missing : Controller → Controller}
    {sent : String → Request} (outstanding : controller.findClient name session reqId = some serverId)
    (unused : controller.findReqId name controller.createRequestId.1 = none) :
    subscription name session reqId isValid .unsubscribe invalid unknown duplicate missing
        (dispatchSubscription name session reqId sent) controller = .done (invalid controller) ∨
      subscription name session reqId isValid .unsubscribe invalid unknown duplicate missing
          (dispatchSubscription name session reqId sent) controller =
        (controller.touch name session).createRequestId.2.dispatchToServer
          (.request (sent controller.createRequestId.1)) := by
  unfold subscription
  cases isValid with
  | false => exact Or.inl rfl
  | true =>
    refine Or.inr ?_
    have found : (controller.touch name session).findClient name session reqId = some serverId := by
      rw [findClient_touch, outstanding]
    have id : (controller.touch name session).createRequestId.1 = controller.createRequestId.1 := rfl
    simp only [Bool.not_true, Bool.false_eq_true, if_false, found, Option.isSome_some, if_true, dispatchSubscription, id]
    unfold dispatchToServer
    split
    · rw [Outcome.andThen_done, removeReqId_of_none]
      have same : (((controller.touch name session).createRequestId.2).sendToServer
          (.request (sent controller.createRequestId.1))).findReqId name controller.createRequestId.1 =
          (controller.touch name session).findReqId name controller.createRequestId.1 := rfl
      rw [same, findReqId_touch, unused]
    · rfl

/-- The four kinds of request share this: they are answered at once, or sent under the id drawn for them. -/
private theorem request_unsubscribe {request : Request} (unsubscribes : request.unsubscribes = some (name, reqId))
    (outstanding : controller.findClient name session reqId = some serverId)
    (unused : controller.findReqId name controller.createRequestId.1 = none) :
    (∃ after, Controller.request request session controller = .done after ∧
        Router.Replied controller.log after.log ∧ (after.view []).index = (controller.view []).index) ∨
      ∃ sent : Request, sent.key = (name, controller.createRequestId.1) ∧
        Controller.request request session controller =
          (controller.touch name session).createRequestId.2.dispatchToServer (.request sent) := by
  cases request with
  | securityListRequest value =>
    unfold Request.unsubscribes at unsubscribes
    simp only [Option.ite_none_right_eq_some, Option.some.injEq, Prod.mk.injEq] at unsubscribes
    obtain ⟨type, rfl, rfl⟩ := unsubscribes
    unfold Controller.request securityListRequest
    simp only [type, getSubscriptionRequestType]
    obtain refused | sent := subscription_unsubscribe outstanding unused
    · exact Or.inl ⟨_, refused, dispatchToClient_replied .., by simp [rejectSecurityListRequest]⟩
    · exact Or.inr ⟨_, rfl, sent⟩
  | securityDefinitionRequest value =>
    unfold Request.unsubscribes at unsubscribes
    simp only [Option.ite_none_right_eq_some, Option.some.injEq, Prod.mk.injEq] at unsubscribes
    obtain ⟨type, rfl, rfl⟩ := unsubscribes
    unfold Controller.request securityDefinitionRequest
    simp only [type, getSubscriptionRequestType]
    obtain refused | sent := subscription_unsubscribe outstanding unused
    · exact Or.inl ⟨_, refused, dispatchToClient_replied .., by simp [rejectSecurityDefinitionRequest]⟩
    · exact Or.inr ⟨_, rfl, sent⟩
  | securityStatusRequest value =>
    unfold Request.unsubscribes at unsubscribes
    simp only [Option.ite_none_right_eq_some, Option.some.injEq, Prod.mk.injEq] at unsubscribes
    obtain ⟨type, rfl, rfl⟩ := unsubscribes
    unfold Controller.request securityStatusRequest
    simp only [type, getSubscriptionRequestType]
    obtain refused | sent := subscription_unsubscribe outstanding unused
    · exact Or.inl ⟨_, refused, dispatchToClient_replied ..,
      congrArg Router.index (view_dispatchToClient ..)⟩
    · exact Or.inr ⟨_, rfl, sent⟩
  | marketDataRequest value =>
    unfold Request.unsubscribes at unsubscribes
    simp only [Option.ite_none_right_eq_some, Option.some.injEq, Prod.mk.injEq] at unsubscribes
    obtain ⟨type, rfl, rfl⟩ := unsubscribes
    unfold Controller.request marketDataRequest
    simp only [type]
    obtain refused | sent := subscription_unsubscribe outstanding unused
    · exact Or.inl ⟨_, refused, dispatchToClient_replied ..,
      congrArg Router.index (view_dispatchToClient ..)⟩
    · exact Or.inr ⟨_, rfl, sent⟩
  | _ => cases unsubscribes

end Controller

namespace World
variable {env : Env} {world after : World} {session : Nat} {client : Client.Session} {request : Request}
  {name : MappingName} {clientId serverId : String} {clock : Clock} {header : Header}

private theorem fresh_of_unsubscribes (unsubscribes : request.unsubscribes = some (name, clientId)) : name.Fresh := by
  unfold Request.unsubscribes at unsubscribes
  split at unsubscribes
  · obtain ⟨-, same⟩ := Option.ite_none_right_eq_some.mp unsubscribes
    cases same
    trivial
  · obtain ⟨-, same⟩ := Option.ite_none_right_eq_some.mp unsubscribes
    cases same
    trivial
  · obtain ⟨-, same⟩ := Option.ite_none_right_eq_some.mp unsubscribes
    cases same
    trivial
  · obtain ⟨-, same⟩ := Option.ite_none_right_eq_some.mp unsubscribes
    cases same
    trivial
  · cases unsubscribes

private theorem stamped_of_unsubscribes (unsubscribes : request.unsubscribes = some (name, clientId))
    (noPartyIds : List Party) :
    request.stamped noPartyIds = request := by
  cases request <;> first | rfl | cases unsubscribes

/-- What becomes of an explicit unsubscribe: it is answered, or it goes upstream under the
next id. Either way the client's id and the server id that it stands for stay. -/
theorem Step.unsubscribes (step : Step env world (.read session clock header (.request request)) after)
    (consistent : world.view.Consistent) (held : world.session session = some client) (ready : client.state = .ready)
    (unsubscribes : request.unsubscribes = some (name, clientId))
    (outstanding : world.controller.findClient name session clientId = some serverId) :
    after.controller.findClient name session clientId = some serverId ∧
      after.controller.findReqId name serverId = world.controller.findReqId name serverId ∧
      (Router.Replied world.controller.log after.controller.log ∨ ∃ msgSeqNum sent,
        after.controller.log = world.controller.log ++ [.toServer msgSeqNum (.request sent)] ∧
          sent.key = (name, world.view.nextId)) := by
  have fresh := fresh_of_unsubscribes unsubscribes
  have unused : world.controller.findReqId name world.view.nextId = none := by
    cases taken : world.controller.findReqId name world.view.nextId with
    | none => rfl
    | some entry => exact absurd (consistent.indexed.issuedEntry name fresh _ entry taken) (not_issued_next _)
  have upstream : world.controller.serverSession.state = .ready :=
    consistent.sound.connected session .ready client.partyId (ready ▸ view_session held) trivial
  -- what a handler leaves whose controller has the same entries and the same keys
  have stays {controller : Controller} (same : (after.controller.view []).index = (controller.view []).index)
      (key : controller.findClient name session clientId = world.controller.findClient name session clientId)
      (entry : controller.findReqId name serverId = world.controller.findReqId name serverId) :
      after.controller.findClient name session clientId = some serverId ∧
        after.controller.findReqId name serverId = world.controller.findReqId name serverId := by
    rw [Controller.findClient_eq [], Controller.findReqId_eq [], same, ← Controller.findClient_eq,
      ← Controller.findReqId_eq, key, entry]
    exact ⟨outstanding, rfl⟩
  have performed := step.performed
  have run : FixProxy.step env (.read session clock header (.request request)) world.controller =
      (Client.request env request header session (Client.received header session world.controller)).recover fun _ =>
        Client.close env session := Client.read_ready request held ready
  obtain ⟨seen, foundSeen, state, -⟩ : ∃ seen,
      (Client.received header session world.controller).sessions.find session = some seen ∧ seen.state = client.state ∧
        seen.partyId = client.partyId := Client.received_find held
  rw [run] at performed
  obtain ⟨msgType, refId, reason, text, refused⟩ | ⟨-, passed⟩ :
      Client.Refused session header _ (Client.request env request header session
        (Client.received header session world.controller)) ∨ _ :=
    Client.request_ready request foundSeen (state.trans ready)
  · rw [refused, Outcome.recover_done, Outcome.done.injEq] at performed
    obtain ⟨key, entry⟩ := @stays (Client.received header session world.controller)
      (performed ▸ congrArg Router.index (Controller.view_sendToClient ..)) rfl rfl
    exact ⟨key, entry, Or.inl (performed ▸ Controller.sendToClient_replied ..)⟩
  · rw [passed, stamped_of_unsubscribes unsubscribes] at performed
    obtain ⟨answered, refused, replied, same⟩ | ⟨drawn, key, dispatched⟩ :=
      @Controller.request_unsubscribe (Client.received header session world.controller) name session clientId serverId
        request unsubscribes outstanding unused
    · rw [refused, Outcome.recover_done, Outcome.done.injEq] at performed
      subst performed
      obtain ⟨key, entry⟩ := @stays (Client.received header session world.controller) same rfl rfl
      exact ⟨key, entry, Or.inl replied⟩
    · have accepts : ((Client.received header session world.controller).touch name
          session).createRequestId.2.serverSession.state = .ready := upstream
      rw [dispatched, Controller.dispatchToServer, if_pos accepts, Outcome.recover_done, Outcome.done.injEq]
        at performed
      obtain ⟨same, entry⟩ := @stays ((Client.received header session world.controller).touch name session)
        (performed ▸ rfl) (Controller.findClient_touch ..) (Controller.findReqId_touch ..)
      exact ⟨same, entry, Or.inr ⟨_, drawn, congrArg Controller.log performed.symm, key⟩⟩

/-- An explicit unsubscribe that is forwarded names a subscription that upstream does not
know, and the one it was meant for stays open on both sides. -/
theorem unsubscribe_stays (reachable : Reachable env world) (held : world.session session = some client)
    (ready : client.state = .ready) (unsubscribes : request.unsubscribes = some (name, clientId))
    (outstanding : world.controller.findClient name session clientId = some serverId)
    (step : Step env world (.read session clock header (.request request)) after) {msgSeqNum : Nat} {sent : Request}
    (forwarded : after.controller.log = world.controller.log ++ [.toServer msgSeqNum (.request sent)]) :
    sent.key ≠ (name, serverId) ∧ after.controller.findClient name session clientId = some serverId ∧
      ∃ keepAlive, after.controller.findReqId name serverId = some (session, clientId, keepAlive) := by
  have consistent := consistent_of_reachable reachable
  have fresh := fresh_of_unsubscribes unsubscribes
  obtain ⟨keepAlive, entry⟩ := consistent.indexed.backed name fresh session clientId serverId outstanding
  have older := consistent.indexed.issuedKey name fresh session clientId serverId outstanding
  obtain ⟨key, same, replied | ⟨number, drawn, log, drawnKey⟩⟩ :=
    step.unsubscribes consistent held ready unsubscribes outstanding
  · exact absurd replied (Router.not_replied forwarded)
  · refine ⟨fun found => ?_, key, keepAlive, same.trans entry⟩
    obtain ⟨-, rfl⟩ : msgSeqNum = number ∧ sent = drawn := by
      simpa using List.append_cancel_left (forwarded.symm.trans log)
    have reused : serverId = world.view.nextId := (congrArg Prod.snd (drawnKey.symm.trans found)).symm
    exact not_issued_next _ (reused ▸ older)

def unsubscribes : Input := Deployment.sends 1 (.request (Deployment.marketData "AAAA" .unsubscribe))

theorem unsubscribe_stays_subscribed : ∃ world after,
    RunsUnder Regular Deployment.env Deployment.users 0 Deployment.subscribed world ∧
      Step Deployment.env world unsubscribes after ∧
      after.controller.findClient .mdReqId 1 "AAAA" = some "proxy-2" := by
  obtain ⟨world, after, runs, -, step, checked⟩ := exists_step_of_replay Regular Deployment.env Deployment.users 0
    Deployment.subscribed unsubscribes
    (fun world after => ((world.session 1).any fun client => client.state == .ready) &&
      world.controller.findClient .mdReqId 1 "AAAA" == some "proxy-2" &&
      after.controller.log == world.controller.log ++
        [.toServer 4 (.request (Deployment.marketData "proxy-3" .unsubscribe))]) (by decide +kernel)
  simp only [Bool.and_eq_true, beq_iff_eq, Option.any_eq_true] at checked
  obtain ⟨⟨⟨client, held, ready⟩, outstanding⟩, forwarded⟩ := checked
  exact ⟨world, after, runs, step,
    (unsubscribe_stays (reachable_of_runsUnder runs) held ready rfl outstanding step forwarded).2.1⟩

/-- What goes upstream is an id that was never opened, and another subscription under the
client's id is refused as a duplicate. -/
theorem unsubscribe_missed : ∃ world after,
    RunsUnder Regular Deployment.env Deployment.users 0 Deployment.subscribed world ∧
      Step Deployment.env world unsubscribes after ∧
      world.controller.findClient .mdReqId 1 "AAAA" = some "proxy-2" ∧
      after.controller.log = world.controller.log ++
        [.toServer 4 (.request (Deployment.marketData "proxy-3" .unsubscribe))] ∧
      after.controller.findClient .mdReqId 1 "AAAA" = some "proxy-2" ∧
      after.controller.findReqId .mdReqId "proxy-2" = some (1, "AAAA", true) := by
  obtain ⟨world, after, runs, -, step, checked⟩ := exists_step_of_replay Regular Deployment.env Deployment.users 0
    Deployment.subscribed unsubscribes
    (fun world after => world.controller.findClient .mdReqId 1 "AAAA" == some "proxy-2" &&
      after.controller.log == world.controller.log ++
        [.toServer 4 (.request (Deployment.marketData "proxy-3" .unsubscribe))] &&
      after.controller.findClient .mdReqId 1 "AAAA" == some "proxy-2" &&
      after.controller.findReqId .mdReqId "proxy-2" == some (1, "AAAA", true)) (by decide +kernel)
  simp only [Bool.and_eq_true, beq_iff_eq] at checked
  obtain ⟨⟨⟨outstanding, forwarded⟩, client⟩, server⟩ := checked
  exact ⟨world, after, runs, step, outstanding, forwarded, client, server⟩

end World
end FixProxy
